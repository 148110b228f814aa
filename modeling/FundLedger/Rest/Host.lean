import FundLedger.DomainName.Basic
import FundLedger.Text.Percent
/-!
# Hosts

The host in an address is a domain name, an address of four bytes, or one of eight groups in brackets.  A name whose
last part is a number has to be an address of four bytes.  Where the scheme of the address is not a usual one, a host
that is not in brackets is any text.

* `hostOf?`, `opaqueHostOf?`: the normal form of a host, if it is one.
-/

namespace FundLedger

/-! ## Addresses of four bytes -/

/-- A part of a four-byte address: decimal, octal after a zero, or hexadecimal after `0x`. -/
def hostNumber? (cs : List Char) : Option Nat :=
  match cs with
  | '0' :: 'x' :: ds | '0' :: 'X' :: ds => if ds.isEmpty then some 0 else natOfHex? ds
  | '0' :: ds =>
    if ds.isEmpty then some 0 else natOfBase? 8 (fun c => (digitValue? c).filter (· < 8)) ds
  | ds => natOfDigits? ds

/-- Whether a name has to be a four-byte address. -/
def endsInNumber (parts : List (List Char)) : Bool :=
  match parts.getLast? with
  | none => false
  | some last => (!last.isEmpty && last.all Char.isDigit) || (last.take 2 == ['0', 'x'] && (hostNumber? last).isSome)

/-- The number of a four-byte address, whose last part may fill several bytes. -/
def ipv4Value? (parts : List (List Char)) : Option Nat := do
  let numbers ← parts.mapM hostNumber?
  let last ← numbers.getLast?
  let front := numbers.dropLast
  if front.length ≤ 3 ∧ front.all (· ≤ 255) ∧ last < Nat.pow 256 (4 - front.length) then
    some (front.foldl (fun n part => n * 256 + part) 0 * Nat.pow 256 (4 - front.length) + last)
  else none

/-- A four-byte address with its bytes in decimal digits. -/
def ipv4Text (n : Nat) : List Char :=
  (".".intercalate ([n / 16777216, n / 65536 % 256, n / 256 % 256, n % 256].map toString)).toList

/-! ## Addresses of eight groups -/

/-- The number of a group of an eight-group address. -/
def group? (cs : List Char) : Option Nat := if cs.length ≤ 4 then natOfHex? cs else none

/-- A byte in decimal digits without a zero in front. -/
def decimalByte? (cs : List Char) : Option Nat :=
  if 1 < cs.length ∧ cs.head? = some '0' then none else (natOfDigits? cs).filter (· ≤ 255)

/-- The groups that some parts are; the last of them may be a four-byte address. -/
def groups? (parts : List (List Char)) : Option (List Nat) :=
  match parts with
  | [] => some []
  | [last] =>
    match group? last, (splitAtChar '.' last).mapM decimalByte? with
    | some n, _ => some [n]
    | none, some [a, b, c, d] => some [a * 256 + b, c * 256 + d]
    | none, _ => none
  | part :: rest => do return (← group? part) :: (← groups? rest)

/-- What stands in front of the first `::`, and behind it. -/
def splitDoubleColon? : List Char → Option (List Char × List Char)
  | ':' :: ':' :: rest => some ([], rest)
  | c :: rest => (splitDoubleColon? rest).map fun (front, back) => (c :: front, back)
  | [] => none

/-- The parts of one side of an eight-group address. -/
def groupParts (cs : List Char) : List (List Char) := if cs.isEmpty then [] else splitAtChar ':' cs

/-- The groups of an eight-group address; `::` stands for groups of zeros. -/
def ipv6Groups? (cs : List Char) : Option (List Nat) :=
  match splitDoubleColon? cs with
  | none => (groups? (groupParts cs)).filter (·.length = 8)
  | some (front, back) => do
    let before ← (groupParts front).mapM group?
    let behind ← groups? (groupParts back)
    if before.length + behind.length ≤ 7 then
      some (before ++ List.replicate (8 - before.length - behind.length) 0 ++ behind)
    else none

/-- Where the longest run of zeros starts, the first one of several, and its length. -/
def longestZeros (groups : List Nat) : Nat × Nat :=
  (List.range groups.length).foldl (fun best start =>
    let length := ((groups.drop start).takeWhile (· == 0)).length
    if best.2 < length then (start, length) else best) (0, 0)

/-- Some groups in hexadecimal digits, with colons between them. -/
def groupsText (groups : List Nat) : List Char := ":".toList.intercalate (groups.map (Nat.toDigits 16))

/-- An eight-group address in brackets; its longest run of several zeros is left out. -/
def ipv6Text (groups : List Nat) : List Char :=
  let (start, length) := longestZeros groups
  if length < 2 then '[' :: groupsText groups ++ [']']
  else '[' :: groupsText (groups.take start) ++ ':' :: ':' :: groupsText (groups.drop (start + length)) ++ [']']

/-- The normal form of a host that starts with a bracket. -/
def bracketed? (cs : List Char) : Option (List Char) :=
  if cs.getLast? = some ']' then (ipv6Groups? (cs.drop 1).dropLast).map ipv6Text else none

/-! ## Hosts -/

/-- The normal form of a host. -/
def hostOf? (cs : List Char) : Option (List Char) :=
  if cs.head? = some '[' then bracketed? cs
  else do
    let name ← DomainName.ascii? (← percentDecoded? cs)
    let parts := splitAtChar '.' name
    let parts := if parts.length > 1 ∧ parts.getLast? = some [] then parts.dropLast else parts
    if name.isEmpty then none
    else if endsInNumber parts then (ipv4Value? parts).map ipv4Text
    else some name

/-- Whether a character may not stand in a host that is any text. -/
def isForbiddenInText (c : Char) : Bool := "\x00\t\n\r #/:<>?@[\\]^|".toList.contains c

/-- Whether a character stands for itself in a host that is any text. -/
def isPrintable (c : Char) : Bool := 0x20 ≤ c.toNat && c.toNat < 0x7F

/-- The normal form of a host under a scheme that is not a usual one. -/
def opaqueHostOf? (cs : List Char) : Option (List Char) :=
  if cs.head? = some '[' then bracketed? cs
  else if cs.any isForbiddenInText then none
  else some (percentEncoded isPrintable cs)

end FundLedger

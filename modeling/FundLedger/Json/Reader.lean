import FundLedger.Json.Basic
import FundLedger.Text.Digits
/-!
# Reading JSON text

The grammar of the JSON standard, with at most 127 arrays and objects inside each other.  An integer of 64 bits is
kept as such; any other number is a double, and so is `-0`.  Of the digits of a double those count that fit 64 bits;
they are scaled by a power of ten.  A number beyond the doubles, half a surrogate pair and a control character in a
string are refused.

* `Json.parse?`: the value of a text.

The readers take the characters that are left and return what they leave.
-/

namespace FundLedger

namespace Json

/-- Drops spaces, tabs and line ends. -/
def skipBlank : List Char → List Char
  | [] => []
  | c :: cs => if c = ' ' ∨ c = '\t' ∨ c = '\n' ∨ c = '\r' then skipBlank cs else c :: cs

/-- The character of a one-letter escape. -/
def escaped? : Char → Option Char
  | '"' => some '"'
  | '\\' => some '\\'
  | '/' => some '/'
  | 'b' => some '\x08'
  | 'f' => some '\x0c'
  | 'n' => some '\n'
  | 'r' => some '\r'
  | 't' => some '\t'
  | _ => none

/-- Reads a string up to its closing quote; `done` holds the characters read, the last one first. -/
def stringRest (done : List Char) : List Char → Option (String × List Char)
  | [] => none
  | '"' :: cs => some (String.ofList done.reverse, cs)
  | '\\' :: 'u' :: a :: b :: c :: d :: '\\' :: 'u' :: e :: f :: g :: h :: cs => do
    let n ← natOfHex? [a, b, c, d]
    if 0xD800 ≤ n ∧ n < 0xDC00 then
      let m ← natOfHex? [e, f, g, h]
      if 0xDC00 ≤ m ∧ m < 0xE000 then
        stringRest (Char.ofNat (0x10000 + (n - 0xD800) * 0x400 + (m - 0xDC00)) :: done) cs
      else none
    else if 0xDC00 ≤ n ∧ n < 0xE000 then none
    else stringRest (Char.ofNat n :: done) ('\\' :: 'u' :: e :: f :: g :: h :: cs)
  | '\\' :: 'u' :: a :: b :: c :: d :: cs => do
    let n ← natOfHex? [a, b, c, d]
    if 0xD800 ≤ n ∧ n < 0xE000 then none else stringRest (Char.ofNat n :: done) cs
  | '\\' :: c :: cs => do stringRest ((← escaped? c) :: done) cs
  | c :: cs => if c.toNat < 32 ∨ c = '\\' then none else stringRest (c :: done) cs

/-- The digits of a number that count, and the power of ten that they are multiplied by. -/
structure Digits where
  significand : Nat
  power : Int

/-- Appends digits to those of a number as long as there are 64 bits for them.  A digit in front of the point that has
no room still multiplies by ten. -/
def Digits.append (number : Digits) (inFraction : Bool) : List Char → Digits
  | [] => number
  | c :: cs =>
    let significand := number.significand * 10 + ((digitValue? c).getD 0)
    if significand < UInt64.size then
      Digits.append ⟨significand, if inFraction then number.power - 1 else number.power⟩ inFraction cs
    else if inFraction then number
    else ⟨number.significand, number.power + (c :: cs).length⟩

/-- A run of digits, which may not be empty, and what follows. -/
def digitRun? (cs : List Char) : Option (List Char × List Char) :=
  let ds := cs.takeWhile Char.isDigit
  if ds.isEmpty then none else some (ds, cs.dropWhile Char.isDigit)

/-- The digits of a fraction behind a point; none without a point. -/
def fractionPart? : List Char → Option (List Char × List Char)
  | '.' :: cs => digitRun? cs
  | cs => some ([], cs)

/-- The digits of an exponent behind an `e`, and whether it is negative; none without an `e`. -/
def exponentPart? (cs : List Char) : Option (Bool × List Char × List Char) :=
  match cs with
  | c :: rest =>
    if c = 'e' ∨ c = 'E' then
      match rest with
      | '-' :: rest => (digitRun? rest).map fun (ds, rest) => (true, ds, rest)
      | '+' :: rest => (digitRun? rest).map fun (ds, rest) => (false, ds, rest)
      | rest => (digitRun? rest).map fun (ds, rest) => (false, ds, rest)
    else some (false, [], cs)
  | [] => some (false, [], [])

/-- The double that digits and an exponent stand for.  An exponent beyond 32 bits makes the number zero, or is too large
for any number but zero. -/
def doubleOf? (negative : Bool) (digits : Digits) (belowOne : Bool) (exponent : Nat) : Option Binary64 :=
  if exponent < 2147483648 then
    Binary64.scaled? negative digits.significand (digits.power + (if belowOne then -(exponent : Int) else exponent))
  else if belowOne ∨ digits.significand = 0 then Binary64.ofNat? negative 0
  else none

/-- Reads a number without its sign. -/
def unsigned? (negative : Bool) (cs : List Char) : Option (Json × List Char) := do
  let (whole, afterWhole) ← digitRun? cs
  if 1 < whole.length ∧ cs.head? = some '0' then none
  let (fraction, afterFraction) ← fractionPart? afterWhole
  let (belowOne, exponent, rest) ← exponentPart? afterFraction
  let n := (natOfDigits? whole).getD 0
  let isInteger := fraction.isEmpty ∧ exponent.isEmpty
  if isInteger ∧ !negative ∧ n < UInt64.size then return (.int n, rest)
  if isInteger ∧ negative ∧ 0 < n ∧ n ≤ 9223372036854775808 then return (.int (-(n : Int)), rest)
  let digits := ((Digits.mk 0 0).append false whole).append true fraction
  let x ← doubleOf? negative digits belowOne ((natOfDigits? exponent).getD 0)
  return (.number (.double x), rest)

/-- Reads a number. -/
def number? : List Char → Option (Json × List Char)
  | '-' :: cs => unsigned? true cs
  | cs => unsigned? false cs

mutual

/-- Reads a value with at most `depth` arrays and objects inside each other. -/
def value? (fuel depth : Nat) (text : List Char) : Option (Json × List Char) :=
  match fuel with
  | 0 => none
  | fuel + 1 =>
    match skipBlank text with
    | '"' :: cs => (stringRest [] cs).map fun (s, rest) => (.string s, rest)
    | '[' :: cs =>
      if depth = 0 then none
      else
        match skipBlank cs with
        | ']' :: rest => some (.array [], rest)
        | cs => (itemsRest? fuel (depth - 1) cs).map fun (items, rest) => (.array items, rest)
    | '\x7b' :: cs =>
      if depth = 0 then none
      else
        match skipBlank cs with
        | '\x7d' :: rest => some (.object [], rest)
        | cs => (membersRest? fuel (depth - 1) cs).map fun (members, rest) => (ofMembers members, rest)
    | 't' :: 'r' :: 'u' :: 'e' :: rest => some (.bool true, rest)
    | 'f' :: 'a' :: 'l' :: 's' :: 'e' :: rest => some (.bool false, rest)
    | 'n' :: 'u' :: 'l' :: 'l' :: rest => some (.null, rest)
    | cs => number? cs

/-- Reads the items of an array up to the closing bracket. -/
def itemsRest? (fuel depth : Nat) (text : List Char) : Option (List Json × List Char) :=
  match fuel with
  | 0 => none
  | fuel + 1 => do
    let (item, cs) ← value? fuel depth text
    match skipBlank cs with
    | ',' :: cs =>
      let (items, rest) ← itemsRest? fuel depth cs
      some (item :: items, rest)
    | ']' :: rest => some ([item], rest)
    | _ => none

/-- Reads the members of an object up to the closing brace. -/
def membersRest? (fuel depth : Nat) (text : List Char) : Option (List (String × Json) × List Char) :=
  match fuel with
  | 0 => none
  | fuel + 1 =>
    match skipBlank text with
    | '"' :: cs => do
      let (name, cs) ← stringRest [] cs
      match skipBlank cs with
      | ':' :: cs =>
        let (value, cs) ← value? fuel depth cs
        match skipBlank cs with
        | ',' :: cs =>
          let (members, rest) ← membersRest? fuel depth cs
          some ((name, value) :: members, rest)
        | '\x7d' :: rest => some ([(name, value)], rest)
        | _ => none
      | _ => none
    | _ => none

end

/-- The JSON value that a text stands for. -/
def parse? (text : String) : Option Json := do
  let cs := text.toList
  let (value, rest) ← value? (2 * cs.length + 2) 127 cs
  if (skipBlank rest).isEmpty then some value else none

end Json

end FundLedger

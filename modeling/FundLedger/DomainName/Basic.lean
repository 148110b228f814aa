import FundLedger.DomainName.Label
import FundLedger.DomainName.MappingTable
import FundLedger.DomainName.Punycode
/-!
# Domain names

A domain name may have any letters.  For the network it is written in ASCII: its characters are mapped to those that
they stand for, and a label that is not ASCII then is written in Punycode behind `xn--`.

* `DomainName.mapped?`: what a character is written as.
* `DomainName.ascii?`: a domain name in ASCII, if it is one.
-/

namespace FundLedger

namespace DomainName

/-- What a character is written as in a domain name, if it may stand there. -/
def mapped? (c : Char) : Option (List Char) :=
  if c.toNat < 128 then some [c.toLower]
  else if ignoredTable.contains c then some []
  else if disallowedTable.contains c then none
  else
    match mappedTable.find? c with
    | none => some [c]
    | some run =>
      match run.values with
      | [value] => some [Char.ofNat (value + (c.toNat - run.first))]
      | values => some (values.map Char.ofNat)

/-- Whether a character is written as itself. -/
def standsForItself (c : Char) : Bool := mapped? c == some [c]

/-- The ASCII characters that may not stand in a domain name. -/
def isForbidden (c : Char) : Bool := c.toNat ≤ 0x20 || c.toNat == 0x7F || "#/:<>?@[\\]^|%".toList.contains c

/-- What stands in front of a label in Punycode. -/
def punycodeMark : List Char := "xn--".toList

/-- How long a label in Punycode may be behind its mark. -/
abbrev longestPunycode : Nat := 2000

/-- How long a label with other than ASCII characters may be. -/
abbrev longestLabel : Nat := 1000

/-- Whether all characters are ASCII. -/
def isAscii (cs : List Char) : Bool := cs.all (·.toNat < 128)

/-- The characters that a label is meant to have. -/
def labelText? (label : List Char) : Option (List Char) :=
  if punycodeMark.isPrefixOf label then
    let digits := label.drop punycodeMark.length
    if isAscii digits ∧ label.getLast? ≠ some '-' ∧ digits.length ≤ longestPunycode then do
      let text ← Punycode.decode? digits
      if text.all (fun c => standsForItself c && !isForbidden c && c != '.') ∧ composed text = text then some text
      else none
    else none
  else if label.any isForbidden then none
  else some label

/-- Whether the characters of a label may stand together. -/
def isLabel (text : List Char) : Bool :=
  !text.head?.any isMark && joinersFit [] text && (isAscii text || text.length ≤ longestLabel)

/-- A label in ASCII. -/
def labelAscii (label : List Char) : List Char :=
  if isAscii label then label else punycodeMark ++ Punycode.encode label

/-- A domain name in ASCII. -/
def ascii? (cs : List Char) : Option (List Char) := do
  let labels := splitAtChar '.' (composed (← cs.mapM mapped?).flatten)
  let texts ← labels.mapM labelText?
  if texts.all isLabel && (!texts.flatten.any isRightToLeft || texts.all directionFits) then
    some (".".toList.intercalate (labels.map labelAscii))
  else none

end DomainName

end FundLedger

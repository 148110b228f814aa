/-!
# Upper case in ASCII

The upper case of the characters whose upper case is written in ASCII letters: the ASCII letters, the dotless `ı`,
the long `ſ`, the sharp `ß` and the ligatures.  Other characters stay as they are, so that the result is the same
ASCII text as under the full case mapping of Unicode, or both are no ASCII text.
-/

namespace FundLedger

/-- The upper case of one character. -/
def upperCased (c : Char) : List Char :=
  match c.toNat with
  | 0xDF => ['S', 'S']
  | 0x131 => ['I']
  | 0x17F => ['S']
  | 0xFB00 => ['F', 'F']
  | 0xFB01 => ['F', 'I']
  | 0xFB02 => ['F', 'L']
  | 0xFB03 => ['F', 'F', 'I']
  | 0xFB04 => ['F', 'F', 'L']
  | 0xFB05 => ['S', 'T']
  | 0xFB06 => ['S', 'T']
  | _ => [c.toUpper]

/-- The upper case of a text. -/
def upperCase (s : String) : String := String.ofList (s.toList.flatMap upperCased)

end FundLedger

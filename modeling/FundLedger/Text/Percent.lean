import FundLedger.Text.Digits
/-!
# Percent encoding

Characters that have no place in an address are written as the bytes of their UTF-8 form, each of them as `%` with
two upper-case hexadecimal digits.

* `percentEncoded`: a text with some characters encoded.
* `percentDecoded?`: the text that was encoded.
* `formEncoded`: the encoding of form parameters, in which a blank is a `+`.
-/

namespace FundLedger

/-- An upper-case hexadecimal digit. -/
def upperHexDigit (n : Nat) : Char :=
  if n < 10 then Char.ofNat ('0'.toNat + n) else Char.ofNat ('A'.toNat + n - 10)

/-- A byte as `%` with two digits. -/
def percentByte (b : UInt8) : List Char := ['%', upperHexDigit (b.toNat / 16), upperHexDigit (b.toNat % 16)]

/-- A text in which the characters that are not `kept` are encoded. -/
def percentEncoded (kept : Char → Bool) (cs : List Char) : List Char :=
  cs.flatMap fun c => if kept c then [c] else (String.utf8EncodeChar c).flatMap percentByte

/-- The bytes of a text with encoded parts. -/
def percentBytes : List Char → List UInt8
  | '%' :: a :: b :: rest =>
    match hexValue? a, hexValue? b with
    | some x, some y => UInt8.ofNat (16 * x + y) :: percentBytes rest
    | _, _ => '%'.toUInt8 :: percentBytes (a :: b :: rest)
  | c :: rest => String.utf8EncodeChar c ++ percentBytes rest
  | [] => []

/-- The text that was encoded, if its bytes are a text. -/
def percentDecoded? (cs : List Char) : Option (List Char) :=
  (String.fromUTF8? (percentBytes cs).toByteArray).map String.toList

/-- Whether a character stands for itself in a form parameter. -/
def isFormSafe (c : Char) : Bool := c.isAlphanum || c == '*' || c == '-' || c == '.' || c == '_'

/-- The encoding of the name or value of a form parameter. -/
def formEncoded (s : String) : String :=
  String.ofList ((percentEncoded (fun c => isFormSafe c || c == ' ') s.toList).map fun c => if c = ' ' then '+' else c)

/-- Parameters as they follow the path of an address. -/
def formText (parameters : List (String × String)) : String :=
  "&".intercalate (parameters.map fun p => formEncoded p.1 ++ "=" ++ formEncoded p.2)

end FundLedger

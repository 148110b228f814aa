import FundLedger.DomainName.CompositionTable
/-!
# Composed form

Two texts that look the same may consist of different characters.  In the composed form every character with its marks
is one character where there is one, and the marks that remain are in the order of their combining classes.

* `combiningClass`, `isMark`: marks.
* `composed`: the composed form of a text.
-/

namespace FundLedger

namespace DomainName

/-- The combining class of a mark; zero for other characters. -/
def combiningClass (c : Char) : Nat := if c.toNat < 0x300 then 0 else combiningClassTable.value c

/-- Whether a character is a mark. -/
def isMark (c : Char) : Bool := 0x300 ≤ c.toNat && markTable.contains c

/-! ## Syllables

A Korean syllable is composed of a leading consonant, a vowel and perhaps a trailing consonant, and its code point is
computed from theirs. -/

/-- The code point of the first syllable. -/
abbrev firstSyllable : Nat := 0xAC00

/-- The letters of a syllable. -/
def syllableLetters? (c : Char) : Option (List Char) :=
  let n := c.toNat - firstSyllable
  if firstSyllable ≤ c.toNat ∧ n < 19 * 21 * 28 then
    some ([Char.ofNat (0x1100 + n / 588), Char.ofNat (0x1161 + n % 588 / 28)] ++
      (if n % 28 = 0 then [] else [Char.ofNat (0x11A7 + n % 28)]))
  else none

/-- The syllable of a consonant and a vowel, or of a syllable without a trailing consonant and one. -/
def syllable? (a b : Char) : Option Char :=
  if 0x1100 ≤ a.toNat ∧ a.toNat < 0x1113 ∧ 0x1161 ≤ b.toNat ∧ b.toNat < 0x1176 then
    some (Char.ofNat (firstSyllable + ((a.toNat - 0x1100) * 21 + (b.toNat - 0x1161)) * 28))
  else if (syllableLetters? a).any (·.length = 2) ∧ 0x11A8 ≤ b.toNat ∧ b.toNat < 0x11C3 then
    some (Char.ofNat (a.toNat + (b.toNat - 0x11A7)))
  else none

/-! ## Decomposing and composing -/

/-- The characters that a composed character stands for, down to `depth` levels. -/
def parts (depth : Nat) (c : Char) : List Char :=
  match depth with
  | 0 => [c]
  | depth + 1 =>
    match syllableLetters? c, compositionTable.find? c with
    | some letters, _ => letters
    | none, some run => (run.values.map Char.ofNat).flatMap (parts depth)
    | none, none => [c]

/-- No character is composed of more than so many levels. -/
abbrev compositionDepth : Nat := 4

/-- Marks in the order of their combining classes. -/
def orderedMarks (marks : List Char) : List Char :=
  marks.mergeSort fun a b => decide (combiningClass a ≤ combiningClass b)

/-- Puts the marks behind each character in order; `marks` are those read since the last one. -/
def ordered (marks : List Char) : List Char → List Char
  | [] => orderedMarks marks
  | c :: cs =>
    if combiningClass c = 0 then orderedMarks marks ++ c :: ordered [] cs else ordered (marks ++ [c]) cs

/-- The character that two characters compose to. -/
def pair? (a b : Char) : Option Char :=
  (syllable? a b).or
    ((List.find? (fun r => r.values == [a.toNat, b.toNat]) compositionTable).map fun r => Char.ofNat r.first)

/-- Composes the characters that follow onto a character.  `kept` are the marks between that stay, and `last` is the
combining class of the last of them. -/
def composeOnto (base : Char) (kept : List Char) (last : Nat) : List Char → List Char
  | [] => base :: kept
  | c :: cs =>
    match if kept.isEmpty || last < combiningClass c then pair? base c else none with
    | some both => composeOnto both kept last cs
    | none =>
      if combiningClass c = 0 then base :: kept ++ composeOnto c [] 0 cs
      else composeOnto base (kept ++ [c]) (combiningClass c) cs

/-- The composed form of a text. -/
def composed (cs : List Char) : List Char :=
  let text := ordered [] (cs.flatMap (parts compositionDepth))
  let marks := text.takeWhile fun c => combiningClass c != 0
  match text.drop marks.length with
  | [] => marks
  | c :: rest => marks ++ composeOnto c [] 0 rest

end DomainName

end FundLedger

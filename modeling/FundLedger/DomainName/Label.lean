import FundLedger.DomainName.Composition
import FundLedger.DomainName.DirectionTable
/-!
# Labels of domain names

A label is what stands between the points of a domain name.  It does not start with a mark, has characters that join
others only where they change how the text looks, and does not mix directions in a way that could be misread.

* `joinersFit`: where the two joining characters may stand.
* `isRightToLeft`, `directionFits`: the rule for names with text from right to left.
-/

namespace FundLedger

namespace DomainName

/-! ## Joining -/

/-- How a character joins its neighbours. -/
inductive Joining
  | none
  | both
  | leftOnly
  | rightOnly
  | transparent
deriving DecidableEq

/-- How a character joins its neighbours. -/
def joining (c : Char) : Joining :=
  match joiningTable.value c with
  | 1 => .both
  | 2 => .leftOnly
  | 3 => .rightOnly
  | 4 => .transparent
  | _ => .none

/-- Whether the first character that joining does not look through joins on one side: it does so on both, or only on
`side`. -/
def joins (side : Joining) : List Char → Bool
  | [] => false
  | c :: cs =>
    match joining c with
    | .both => true
    | .transparent => joins side cs
    | found => found == side && found != .none

/-- The character that keeps its neighbours from joining. -/
abbrev nonJoiner : Char := Char.ofNat 0x200C

/-- The character that makes its neighbours join. -/
abbrev joiner : Char := Char.ofNat 0x200D

/-- The combining class of marks that take the vowel from a consonant. -/
abbrev vowelKiller : Nat := 9

/-- Whether the joining characters of a label stand behind a consonant without a vowel, or part two letters that would
join; `before` holds the characters in front, the last one first. -/
def joinersFit (before : List Char) : List Char → Bool
  | [] => true
  | c :: cs =>
    (if c = nonJoiner ∨ c = joiner then
      before.head?.any (combiningClass · == vowelKiller) ||
        (c = nonJoiner && joins .leftOnly before && joins .rightOnly cs)
    else true) && joinersFit (c :: before) cs

/-! ## Direction -/

/-- The direction in which a character is written. -/
inductive Direction
  | leftToRight
  | rightToLeft
  | arabicLetter
  | arabicDigit
  | europeanDigit
  | neutral
  | mark
deriving DecidableEq

/-- The direction in which a character is written. -/
def direction (c : Char) : Direction :=
  if c.isAlpha then .leftToRight
  else if c.isDigit then .europeanDigit
  else if c.toNat < 128 then .neutral
  else
    match directionTable.value c with
    | 1 => .rightToLeft
    | 2 => .arabicLetter
    | 3 => .arabicDigit
    | 4 => .europeanDigit
    | 5 => .neutral
    | 6 => .mark
    | _ => .leftToRight

/-- Whether a character makes the rule on directions apply to the name. -/
def isRightToLeft (c : Char) : Bool := [Direction.rightToLeft, .arabicLetter, .arabicDigit].contains (direction c)

/-- Whether a label keeps to one direction.  From left to right it starts with a letter and ends with a letter or
European digit; from right to left it starts with a letter, ends with a letter or digit and has digits of one kind
only.  Marks at the end do not count. -/
def directionFits (label : List Char) : Bool :=
  let all := label.map direction
  let body := (all.reverse.dropWhile (· == .mark)).reverse
  match all.head?, body.getLast? with
  | none, _ => true
  | some .leftToRight, some last =>
    [Direction.leftToRight, .europeanDigit].contains last &&
      body.all [Direction.leftToRight, .europeanDigit, .neutral, .mark].contains
  | some .rightToLeft, some last | some .arabicLetter, some last =>
    [Direction.rightToLeft, .arabicLetter, .arabicDigit, .europeanDigit].contains last &&
      body.all (· != .leftToRight) && !(body.contains .arabicDigit && body.contains .europeanDigit)
  | _, _ => false

end DomainName

end FundLedger

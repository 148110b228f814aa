/-!
# Parts of a text

* `splitAtChar`: the parts between the places where a character stands.
* `cutAtChar`: what stands in front of the first such place, and behind it.
-/

namespace FundLedger

/-- The parts of a text between the places where a character stands. -/
def splitAtChar (mark : Char) : List Char → List (List Char)
  | [] => [[]]
  | c :: rest =>
    if c = mark then [] :: splitAtChar mark rest
    else
      match splitAtChar mark rest with
      | [] => [[c]]
      | first :: others => (c :: first) :: others

/-- What stands in front of the first place with a character, and behind it; all of the text without such a place. -/
def cutAtChar (mark : Char) (cs : List Char) : List Char × List Char :=
  (cs.takeWhile (· != mark), (cs.dropWhile (· != mark)).drop 1)

end FundLedger

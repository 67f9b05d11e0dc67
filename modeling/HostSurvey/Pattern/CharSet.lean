import HostSurvey.Text.CaseFold
import HostSurvey.Text.Property
import HostSurvey.Text.Script
/-!
# Sets of characters

The sets that a pattern can name, closed under the operations of a bracketed class. Membership is
decided by following the way the set was put together.
-/
namespace HostSurvey.Pattern

/-- A set of characters as a pattern writes it. -/
inductive CharSet where
  | empty
  /-- The characters from `least` to `greatest`. -/
  | range (least greatest : Char)
  /-- Decimal digits of every script. -/
  | digit
  /-- White space of every script. -/
  | space
  /-- Characters of words of every script. -/
  | word
  /-- Alphabetic characters. -/
  | alphabetic
  /-- Characters of the given general categories. -/
  | category (names : List String)
  /-- Characters of a script, given by its four letters. -/
  | script (letters : String)
  /-- Characters of one set or the other. -/
  | union (a b : CharSet)
  /-- Characters of both sets. -/
  | inter (a b : CharSet)
  /-- Characters of the first set only. -/
  | diff (a b : CharSet)
  /-- Characters of exactly one of two sets. -/
  | symmDiff (a b : CharSet)
  /-- Characters outside a set. -/
  | compl (a : CharSet)
  /-- Characters that differ in case only from a member. -/
  | folded (a : CharSet)
  deriving Repr, DecidableEq

namespace CharSet

def mem : CharSet → Char → Bool
  | .empty, _ => false
  | .range least greatest, c => least ≤ c && c ≤ greatest
  | .digit, c => Text.isDecimalDigit c
  | .space, c => Text.isWhiteSpace c
  | .word, c => Text.isWordCharacter c
  | .alphabetic, c => Text.alphabetic.mem c
  | .category names, c => names.contains (Text.category c)
  | .script letters, c => Text.script c == letters
  | .union a b, c => a.mem c || b.mem c
  | .inter a b, c => a.mem c && b.mem c
  | .diff a b, c => a.mem c && !b.mem c
  | .symmDiff a b, c => a.mem c != b.mem c
  | .compl a, c => !a.mem c
  | .folded a, c => (Text.caseVariants c).any a.mem

/-- The set with one member. -/
def single (c : Char) : CharSet := .range c c

/-- The union of ranges. -/
def ofRanges (ranges : List (Char × Char)) : CharSet :=
  ranges.foldl (fun set r => .union set (.range r.1 r.2)) .empty

/-- No member lies outside ASCII. The answer may be wrongly negative for a set that is put together
from large ones. -/
def isAscii : CharSet → Bool
  | .empty => true
  | .range _ greatest => greatest.toNat < 128
  | .union a b => a.isAscii && b.isAscii
  | .inter a b => a.isAscii || b.isAscii
  | .diff a _ => a.isAscii
  | .symmDiff a b => a.isAscii && b.isAscii
  | .folded a => a.isAscii && !(['k', 'K', 's', 'S'].any a.mem)
  | _ => false

/-- What a set adds to the size of a compiled pattern, in bytes. Large sets of characters outside
ASCII need many states; the figures are those of the sets that patterns name in practice. -/
def weight : CharSet → Nat
  | .empty => 8
  | .range _ greatest => if greatest.toNat < 128 then 8 else 160
  | .digit => 2600
  | .space => 500
  | .word => 20000
  | .alphabetic => 19000
  | .category _ => 12000
  | .script _ => 1000
  | .union a b => a.weight + b.weight
  | .inter a b => a.weight + b.weight
  | .diff a b => a.weight + b.weight
  | .symmDiff a b => a.weight + b.weight
  | .compl a => a.weight + 400
  | .folded a => 2 * a.weight + (if a.isAscii then 0 else 100)

end CharSet
end HostSurvey.Pattern

import HostSurvey.Pattern.CharSet
/-!
# Patterns and what they match

A pattern is a regular expression with assertions on the place between two characters.

1. `nullAt` says whether a pattern matches the empty text at a place.
2. `advance` reads one character: it lists the patterns of which one has to match what is left.
3. `isMatch` looks for a match anywhere in a text, with the list of `advance` as its state and a fresh
   start at each place.
-/
namespace HostSurvey.Pattern

/-- The characters around a place in a text. -/
structure Place where
  /-- The character in front, if there is one. -/
  before : Option Char
  /-- The character behind, if there is one. -/
  behind : Option Char
  deriving Repr, DecidableEq

/-- Assertions on a place. -/
inductive Look where
  | textStart
  | textEnd
  /-- A line begins here; with `crlf`, carriage returns end lines too. -/
  | lineStart (crlf : Bool)
  /-- A line ends here. -/
  | lineEnd (crlf : Bool)
  /-- Exactly one neighbour is of a word. -/
  | wordBoundary (members : CharSet)
  /-- Both neighbours are of a word, or none is. -/
  | notWordBoundary (members : CharSet)
  | wordStart (members : CharSet)
  | wordEnd (members : CharSet)
  /-- No word reaches here from the front. -/
  | wordStartHalf (members : CharSet)
  /-- No word goes on from here. -/
  | wordEndHalf (members : CharSet)
  deriving Repr, DecidableEq

/-- An assertion holds at a place. -/
def Look.holds (place : Place) : Look → Bool
  | .textStart => place.before.isNone
  | .textEnd => place.behind.isNone
  | .lineStart crlf =>
    match place.before with
    | none => true
    | some c => c = '\n' || (crlf && c = '\r' && place.behind != some '\n')
  | .lineEnd crlf =>
    match place.behind with
    | none => true
    | some c => if crlf then c = '\r' || (c = '\n' && place.before != some '\r') else c = '\n'
  | .wordBoundary members => place.before.any members.mem != place.behind.any members.mem
  | .notWordBoundary members => place.before.any members.mem == place.behind.any members.mem
  | .wordStart members => !place.before.any members.mem && place.behind.any members.mem
  | .wordEnd members => place.before.any members.mem && !place.behind.any members.mem
  | .wordStartHalf members => !place.before.any members.mem
  | .wordEndHalf members => !place.behind.any members.mem

/-- Regular expressions over characters. -/
inductive Regex where
  | empty
  /-- The empty text at places where an assertion holds. -/
  | look (assertion : Look)
  | set (members : CharSet)
  | cat (first second : Regex)
  | alt (left right : Regex)
  /-- A pattern at least `least` times in a row, and at most `most` times if there is a bound. -/
  | times (inner : Regex) (least : Nat) (most : Option Nat)
  deriving Repr, DecidableEq

namespace Regex

/-- The pattern matches the empty text at a place. -/
def nullAt (place : Place) : Regex → Bool
  | .empty => true
  | .look assertion => assertion.holds place
  | .set _ => false
  | .cat first second => first.nullAt place && second.nullAt place
  | .alt left right => left.nullAt place || right.nullAt place
  | .times inner least _ => least == 0 || inner.nullAt place

/-- The patterns of which one has to match what is left after the character `c` at a place. Rounds of
a repetition that match the empty text here count as done. -/
def advance (place : Place) (c : Char) : Regex → List Regex
  | .empty => []
  | .look _ => []
  | .set members => if members.mem c then [.empty] else []
  | .cat first second =>
    (first.advance place c).map (fun rest => if rest = .empty then second else .cat rest second)
      ++ (if first.nullAt place then second.advance place c else [])
  | .alt left right => left.advance place c ++ right.advance place c
  | .times inner least most =>
    if most = some 0 then [] else
      let left := .times inner (if inner.nullAt place then 0 else least - 1) (most.map (· - 1))
      (inner.advance place c).map fun rest => if rest = .empty then left else .cat rest left

/-- Searches for a match that starts in one of `states` or at any place from here on. -/
def search (start : Regex) (before : Option Char) : List Regex → List Char → Bool
  | states, [] => (start :: states).any (·.nullAt ⟨before, none⟩)
  | states, c :: rest =>
    let place : Place := ⟨before, some c⟩
    let states := start :: states
    states.any (·.nullAt place)
      || search start (some c) (states.flatMap (·.advance place c)).eraseDups rest

/-- The pattern matches somewhere in the text. -/
def isMatch (pattern : Regex) (text : String) : Bool :=
  search pattern none [] text.toList

/-- The size of the pattern as a compiled program, in bytes. -/
def programSize : Regex → Nat
  | .empty => 32
  | .look _ => 32
  | .set members => 64 + members.weight
  | .cat first second => first.programSize + second.programSize
  | .alt left right => left.programSize + right.programSize + 72
  | .times inner least none => (max least 1) * inner.programSize + 72
  | .times inner least (some most) =>
    least * inner.programSize + (most - least) * (inner.programSize + 40) + 32

/-- The greatest size of a compiled program. -/
def programLimit : Nat := 10 * 1024 * 1024

end Regex
end HostSurvey.Pattern

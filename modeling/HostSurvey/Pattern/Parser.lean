import HostSurvey.Pattern.Regex
/-!
# Reading patterns

The usual syntax of regular expressions: groups with and without names, alternation, greedy and lazy
repetition with counts, classes with set operations, classes by property, assertions, and flags that
hold to the end of their group. There are no backreferences and no looking around.

The reader goes through the text once, from left to right. What stands open to its left is kept on a
stack, so every step takes at least one character and the reading ends. A fault anywhere spoils the
whole pattern.
-/
namespace HostSurvey.Pattern

/-- How characters are to be understood from here to the end of the group. -/
structure Flags where
  /-- Case makes no difference. -/
  ignoreCase : Bool := false
  /-- `^` and `$` match at lines. -/
  multiLine : Bool := false
  /-- A dot matches line ends too. -/
  dotAll : Bool := false
  /-- Classes and word assertions know all scripts. -/
  allScripts : Bool := true
  /-- Carriage returns end lines too. -/
  crlf : Bool := false
  /-- Blanks and comments between the parts of a pattern are left out. -/
  verbose : Bool := false
  deriving Repr, DecidableEq

/-- Leaves out blanks and comments where the flags say so. -/
def skipBlanks (flags : Flags) (text : List Char) : List Char :=
  if flags.verbose then go text false else text
where
  go : List Char → Bool → List Char
    | [], _ => []
    | c :: rest, true => go rest (c ≠ '\n')
    | c :: rest, false =>
      if Text.isWhiteSpace c then go rest false
      else if c = '#' then go rest true
      else c :: rest

/-- Characters with a meaning of their own. -/
def isMeta (c : Char) : Bool :=
  "\\.+*?()|[]\x7b\x7d^$#&-~".toList.contains c

/-- Characters that may stand behind a backslash for themselves. -/
def isEscapable (c : Char) : Bool :=
  isMeta c || (c.toNat < 128 && !c.isAlphanum && c ≠ '<' && c ≠ '>')

/-- What one part of a pattern or class says. -/
inductive Primitive where
  | literal (c : Char)
  | set (members : CharSet)
  | look (assertion : Look)
  deriving Repr

/-! ## Sets by name -/

def asciiDigit : CharSet := .range '0' '9'

def asciiSpace : CharSet := .ofRanges [('\t', '\r'), (' ', ' ')]

/-- Characters of words, ASCII. -/
def asciiWord : CharSet := .ofRanges [('0', '9'), ('A', 'Z'), ('_', '_'), ('a', 'z')]

/-- The sets that one letter names. -/
def perlSet (flags : Flags) (letter : Char) : CharSet :=
  match letter.toLower with
  | 'd' => if flags.allScripts then .digit else asciiDigit
  | 's' => if flags.allScripts then .space else asciiSpace
  | _ => if flags.allScripts then .word else asciiWord

/-- The sets of ASCII characters that a name between colons stands for. -/
def asciiSet? (name : List Char) : Option CharSet :=
  match String.ofList name with
  | "alnum" => some (.ofRanges [('0', '9'), ('A', 'Z'), ('a', 'z')])
  | "alpha" => some (.ofRanges [('A', 'Z'), ('a', 'z')])
  | "ascii" => some (.range '\x00' '\x7f')
  | "blank" => some (.ofRanges [('\t', '\t'), (' ', ' ')])
  | "cntrl" => some (.ofRanges [('\x00', '\x1f'), ('\x7f', '\x7f')])
  | "digit" => some asciiDigit
  | "graph" => some (.range '!' '~')
  | "lower" => some (.range 'a' 'z')
  | "print" => some (.range ' ' '~')
  | "punct" => some (.ofRanges [('!', '/'), (':', '@'), ('[', '`'), ('\x7b', '~')])
  | "space" => some asciiSpace
  | "upper" => some (.range 'A' 'Z')
  | "word" => some asciiWord
  | "xdigit" => some (.ofRanges [('0', '9'), ('A', 'F'), ('a', 'f')])
  | _ => none

/-- The general categories, each with its members' names and the names it goes by. -/
def categoryNames : List (List String × List String) := [
  (["l", "letter"], ["Lu", "Ll", "Lt", "Lm", "Lo"]),
  (["lc", "casedletter"], ["Lu", "Ll", "Lt"]),
  (["lu", "uppercaseletter"], ["Lu"]), (["ll", "lowercaseletter"], ["Ll"]),
  (["lt", "titlecaseletter"], ["Lt"]), (["lm", "modifierletter"], ["Lm"]),
  (["lo", "otherletter"], ["Lo"]),
  (["m", "mark", "combiningmark"], ["Mn", "Mc", "Me"]), (["mn", "nonspacingmark"], ["Mn"]),
  (["mc", "spacingmark"], ["Mc"]), (["me", "enclosingmark"], ["Me"]),
  (["n", "number"], ["Nd", "Nl", "No"]), (["nd", "decimalnumber", "digit"], ["Nd"]),
  (["nl", "letternumber"], ["Nl"]), (["no", "othernumber"], ["No"]),
  (["p", "punctuation", "punct"], ["Pc", "Pd", "Ps", "Pe", "Pi", "Pf", "Po"]),
  (["pc", "connectorpunctuation"], ["Pc"]), (["pd", "dashpunctuation"], ["Pd"]),
  (["ps", "openpunctuation"], ["Ps"]), (["pe", "closepunctuation"], ["Pe"]),
  (["pi", "initialpunctuation"], ["Pi"]), (["pf", "finalpunctuation"], ["Pf"]),
  (["po", "otherpunctuation"], ["Po"]),
  (["s", "symbol"], ["Sm", "Sc", "Sk", "So"]), (["sm", "mathsymbol"], ["Sm"]),
  (["sc", "currencysymbol"], ["Sc"]), (["sk", "modifiersymbol"], ["Sk"]),
  (["so", "othersymbol"], ["So"]),
  (["z", "separator"], ["Zs", "Zl", "Zp"]), (["zs", "spaceseparator"], ["Zs"]),
  (["zl", "lineseparator"], ["Zl"]), (["zp", "paragraphseparator"], ["Zp"]),
  (["c", "other"], ["Cc", "Cf", "Cs", "Co", "Cn"]), (["cc", "control", "cntrl"], ["Cc"]),
  (["cf", "format"], ["Cf"]), (["co", "privateuse"], ["Co"]), (["cn", "unassigned"], ["Cn"])]

/-- The set of a general category, or of one of three sets that go with them. -/
def categorySet? (name : String) : Option CharSet :=
  match name with
  | "any" => some (.range '\x00' (Char.ofNat 0x10ffff))
  | "ascii" => some (.range '\x00' '\x7f')
  | "assigned" => some (.compl (.category ["Cn"]))
  | name => (categoryNames.find? (·.1.contains name)).map fun found => .category found.2

/-- The set of a script. -/
def scriptSet? (name : String) : Option CharSet :=
  (Text.scriptNamed? name).map .script

/-- A name without what makes no difference: case, blanks, low lines, hyphens, characters beyond ASCII,
and an "is" in front of anything but a single c. -/
def plainName (name : List Char) : String :=
  let rest := if (name.take 2).map Char.toLower = ['i', 's'] then name.drop 2 else name
  let kept := rest.filter fun c => c.toNat < 128 && c ≠ ' ' && c ≠ '_' && c ≠ '-'
  let plain := String.ofList (kept.map Char.toLower)
  if plain = "c" ∧ rest.length < name.length then "isc" else plain

/-- A text on both sides of the first place where a mark stands. -/
def splitAt? (mark : List Char) : List Char → Option (List Char × List Char)
  | [] => none
  | c :: rest =>
    if mark.isPrefixOf (c :: rest) then some ([], (c :: rest).drop mark.length)
    else (splitAt? mark rest).map fun (before, after) => (c :: before, after)

/-- The set of characters that have a value for a property. -/
def valueSet? (property value : List Char) : Option CharSet :=
  match plainName property with
  | "gc" | "generalcategory" => categorySet? (plainName value)
  | "sc" | "script" => scriptSet? (plainName value)
  | _ => none

/-- Characters between two code points. -/
def between (least greatest : Nat) : CharSet :=
  .range (Char.ofNat least) (Char.ofNat greatest)

/-- Capital letters, and the numerals and enclosed letters that count as such. -/
def capitals : CharSet :=
  [(0x2160, 0x216f), (0x24b6, 0x24cf), (0x1f130, 0x1f149), (0x1f150, 0x1f169),
    (0x1f170, 0x1f189)].foldl (fun set ends => .union set (between ends.1 ends.2)) (.category ["Lu"])

/-- Small letters, and the marks, numerals and enclosed letters that count as such. -/
def smallLetters : CharSet :=
  [(0xaa, 0xaa), (0xba, 0xba), (0x2b0, 0x2b8), (0x2c0, 0x2c1), (0x2e0, 0x2e4), (0x345, 0x345),
    (0x37a, 0x37a), (0x10fc, 0x10fc), (0x1d2c, 0x1d6a), (0x1d78, 0x1d78), (0x1d9b, 0x1dbf),
    (0x2071, 0x2071), (0x207f, 0x207f), (0x2090, 0x209c), (0x2170, 0x217f), (0x24d0, 0x24e9),
    (0x2c7c, 0x2c7d), (0xa69c, 0xa69d), (0xa770, 0xa770), (0xa7f2, 0xa7f4), (0xa7f8, 0xa7f9),
    (0xab5c, 0xab5f), (0xab69, 0xab69), (0x10780, 0x10780), (0x10783, 0x10785),
    (0x10787, 0x107b0), (0x107b2, 0x107ba), (0x1e030, 0x1e06d)].foldl
    (fun set ends => .union set (between ends.1 ends.2)) (.category ["Ll"])

/-- The set of a property, a general category or a script. -/
def namedSet? (name : List Char) : Option CharSet :=
  match plainName name with
  | "alphabetic" | "alpha" => some .alphabetic
  | "whitespace" | "space" | "wspace" => some .space
  | "uppercase" | "upper" => some capitals
  | "lowercase" | "lower" => some smallLetters
  | name => categorySet? name <|> scriptSet? name

/-- What the name of a property stands for, and whether what has it is meant or what has it not. -/
def propertySet? (name : List Char) : Option (Bool × CharSet) :=
  match splitAt? ['!', '='] name with
  | some (property, value) => (valueSet? property value).map (false, ·)
  | none =>
    match splitAt? [':'] name <|> splitAt? ['='] name with
    | some (property, value) => (valueSet? property value).map (true, ·)
    | none => (namedSet? name).map (true, ·)

/-- A set under the flags: case is folded first, then the set may be turned round. Outside ASCII
there is nothing to be had where the flags know ASCII only. -/
def finishSet (flags : Flags) (negated : Bool) (members : CharSet) : Option CharSet :=
  let members := if flags.ignoreCase && flags.allScripts then .folded members
    else if flags.ignoreCase then .inter (.folded members) (.range '\x00' '\x7f') else members
  if negated then (if flags.allScripts then some (.compl members) else none) else some members

/-! ## Parts behind a backslash -/

/-- A character by its number in hexadecimal. -/
def charOfHex? (digits : List Char) : Option Char :=
  if digits.isEmpty || !digits.all (fun c => (Text.hexDigit? c).isSome) || 8 < digits.length then none
  else
    let n := Text.hexValue 0 digits
    if n.isValidChar then some (Char.ofNat n) else none

/-- A character by number: so many digits, or any number of them in braces. -/
def readHex (flags : Flags) (count : Nat) (text : List Char) : Option (Char × List Char) :=
  match skipBlanks flags text with
  | '\x7b' :: rest =>
    let digits := rest.takeWhile (· ≠ '\x7d')
    match rest.drop digits.length with
    | _ :: rest => do some (← charOfHex? (digits.filter fun c => !flags.verbose || c ≠ ' '), rest)
    | [] => none
  | text =>
    if text.length < count then none
    else do some (← charOfHex? (text.take count), text.drop count)

/-- A property in its long or short form. -/
def readProperty (flags : Flags) (negated : Bool) (text : List Char) :
    Option (Primitive × List Char) :=
  if !flags.allScripts then none else
  match skipBlanks flags text with
  | '\x7b' :: rest =>
    let name := rest.takeWhile (· ≠ '\x7d')
    match rest.drop name.length with
    | _ :: rest => do
      let (isMeant, members) ← propertySet? name
      some (.set (← finishSet flags (negated == isMeant) members), rest)
    | [] => none
  | '\\' :: _ => none
  | c :: rest => do some (.set (← finishSet flags negated (← namedSet? [c])), rest)
  | [] => none

/-- The set that word assertions ask about. -/
def wordSet (flags : Flags) : CharSet :=
  if flags.allScripts then .word else asciiWord

/-- A word assertion. A name in braces makes it one-sided; braces that hold no name are left for a
repetition. -/
def readBoundary (flags : Flags) (text : List Char) : Option (Primitive × List Char) :=
  let members := wordSet flags
  match text with
  | '\x7b' :: rest =>
    let isNameChar := fun c : Char => c.isAlpha || c = '-'
    match skipBlanks flags rest with
    | [] => none
    | c :: inner =>
      if !isNameChar c then some (.look (.wordBoundary members), text) else
      let name := (c :: inner).takeWhile isNameChar
      match (c :: inner).drop name.length, String.ofList name with
      | '\x7d' :: rest, "start" => some (.look (.wordStart members), rest)
      | '\x7d' :: rest, "end" => some (.look (.wordEnd members), rest)
      | '\x7d' :: rest, "start-half" => some (.look (.wordStartHalf members), rest)
      | '\x7d' :: rest, "end-half" => some (.look (.wordEndHalf members), rest)
      | _, _ => none
  | text => some (.look (.wordBoundary members), text)

/-- What stands behind a backslash. -/
def readEscape (flags : Flags) : List Char → Option (Primitive × List Char)
  | [] => none
  | 'x' :: rest => do
    let (c, rest) ← readHex flags 2 rest
    if flags.allScripts || c.toNat < 128 then some (.literal c, rest) else none
  | 'u' :: rest => (readHex flags 4 rest).map fun (c, rest) => (.literal c, rest)
  | 'U' :: rest => (readHex flags 8 rest).map fun (c, rest) => (.literal c, rest)
  | 'p' :: rest => readProperty flags false rest
  | 'P' :: rest => readProperty flags true rest
  | 'b' :: rest => readBoundary flags rest
  | c :: rest =>
    if c = 'd' ∨ c = 's' ∨ c = 'w' then some (.set (perlSet flags c), rest)
    else if c = 'D' ∨ c = 'S' ∨ c = 'W' then
      if flags.allScripts then some (.set (.compl (perlSet flags c)), rest) else none
    else if isEscapable c then some (.literal c, rest)
    else match c with
      | 'a' => some (.literal '\x07', rest)
      | 'f' => some (.literal '\x0c', rest)
      | 't' => some (.literal '\t', rest)
      | 'n' => some (.literal '\n', rest)
      | 'r' => some (.literal '\r', rest)
      | 'v' => some (.literal '\x0b', rest)
      | 'A' => some (.look .textStart, rest)
      | 'z' => some (.look .textEnd, rest)
      | 'B' => some (.look (.notWordBoundary (wordSet flags)), rest)
      | '<' => some (.look (.wordStart (wordSet flags)), rest)
      | '>' => some (.look (.wordEnd (wordSet flags)), rest)
      | _ => none

/-! ## Classes in brackets -/

/-- The operations between the parts of a class. They bind alike, from the left. -/
inductive ClassOp where
  /-- Members of both. -/
  | inter
  /-- Members of the first only. -/
  | diff
  /-- Members of exactly one. -/
  | symmDiff
  deriving Repr, DecidableEq

/-- A class of which the closing bracket has not been met. -/
structure OpenClass where
  /-- The class is to be turned round. -/
  negated : Bool
  /-- What stands to the left of the last operation, with that operation. -/
  operand : Option (CharSet × ClassOp)
  /-- What has been listed since. -/
  members : CharSet
  deriving Repr

namespace OpenClass

/-- Applies an operation under the flags. -/
def apply (flags : Flags) (op : ClassOp) (a b : CharSet) : CharSet :=
  let a := if flags.ignoreCase then .folded a else a
  let b := if flags.ignoreCase then .folded b else b
  match op with
  | .inter => .inter a b
  | .diff => .diff a b
  | .symmDiff => .symmDiff a b

/-- The set listed so far, operations done. -/
def value (flags : Flags) (c : OpenClass) : CharSet :=
  match c.operand with
  | none => c.members
  | some (left, op) => apply flags op left c.members

def add (set : CharSet) (c : OpenClass) : OpenClass :=
  { c with members := .union c.members set }

end OpenClass

/-- A class with a name between colons, behind its opening bracket. -/
def readAsciiClass (flags : Flags) (text : List Char) : Option (CharSet × List Char) := do
  let rest ← match text with
    | ':' :: rest => some rest
    | _ => none
  let (negated, rest) := match rest with
    | '^' :: rest => (true, rest)
    | rest => (false, rest)
  let name := rest.takeWhile (· ≠ ':')
  match rest.drop name.length with
  | ':' :: ']' :: rest => do
    some (← finishSet flags negated (← asciiSet? name), rest)
  | _ => none

/-- Opens a class behind its bracket: a mark that turns it round, then hyphens, then a bracket that
stands for itself. -/
def openClass (flags : Flags) (text : List Char) : OpenClass × List Char :=
  let text := skipBlanks flags text
  let (negated, text) := match text with
    | '^' :: rest => (true, skipBlanks flags rest)
    | text => (false, text)
  let hyphens := text.takeWhile (· = '-')
  let text := skipBlanks flags (text.drop hyphens.length)
  if hyphens ≠ [] then (⟨negated, none, .single '-'⟩, text)
  else match text with
    | ']' :: rest => (⟨negated, none, .single ']'⟩, skipBlanks flags rest)
    | text => (⟨negated, none, .empty⟩, text)

/-- One character or set of a class. -/
def readClassPrimitive (flags : Flags) : List Char → Option (Primitive × List Char)
  | [] => none
  | '\\' :: rest => readEscape flags rest
  | c :: rest => some (.literal c, rest)

/-- One character, set or range of a class. -/
def readClassItem (flags : Flags) (text : List Char) : Option (CharSet × List Char) := do
  let (first, rest) ← readClassPrimitive flags text
  let rest := skipBlanks flags rest
  let alone : Option (CharSet × List Char) := match first with
    | .literal c =>
      if flags.allScripts || c.toNat < 128 then some (.single c, rest) else none
    | .set members => some (members, rest)
    | .look _ => none
  match rest with
  | [] => none
  | '-' :: behind =>
    let behind := skipBlanks flags behind
    match behind with
    | ']' :: _ => alone
    | '-' :: _ => alone
    | _ => do
      let (second, rest) ← readClassPrimitive flags behind
      match first, second with
      | .literal a, .literal b =>
        if a ≤ b && (flags.allScripts || b.toNat < 128) then some (.range a b, rest) else none
      | _, _ => none
  | _ => alone

/-- Reads a class from behind its opening bracket; `stack` holds the classes that are open around the
innermost one. -/
def readClass (flags : Flags) (stack : List OpenClass) (top : OpenClass) (text : List Char) :
    Option (CharSet × List Char) :=
  let operation (op : ClassOp) : OpenClass := ⟨top.negated, some (top.value flags, op), .empty⟩
  let listing := fun (_ : Unit) => do
    let (set, rest) ← readClassItem flags text
    if _h : rest.length < text.length then readClass flags stack (top.add set) rest else none
  match skipBlanks flags text with
  | [] => none
  | '[' :: rest =>
    match readAsciiClass flags rest with
    | some (set, rest) =>
      if _h : rest.length < text.length then readClass flags stack (top.add set) rest else none
    | none =>
      let (inner, rest) := openClass flags rest
      if _h : rest.length < text.length then readClass flags (top :: stack) inner rest else none
  | ']' :: rest => do
    let set ← finishSet flags top.negated (top.value flags)
    match stack with
    | [] => some (set, rest)
    | outer :: stack =>
      if _h : rest.length < text.length then readClass flags stack (outer.add set) rest else none
  | '&' :: '&' :: rest =>
    if _h : rest.length < text.length then readClass flags stack (operation .inter) rest else none
  | '-' :: '-' :: rest =>
    if _h : rest.length < text.length then readClass flags stack (operation .diff) rest else none
  | '~' :: '~' :: rest =>
    if _h : rest.length < text.length then readClass flags stack (operation .symmDiff) rest else none
  | _ => listing ()
termination_by text.length

/-! ## Groups, repetitions, the whole pattern -/

/-- A flag by its letter. -/
def Flags.set (flags : Flags) (letter : Char) (on : Bool) : Option Flags :=
  match letter with
  | 'i' => some { flags with ignoreCase := on }
  | 'm' => some { flags with multiLine := on }
  | 's' => some { flags with dotAll := on }
  | 'u' => some { flags with allScripts := on }
  | 'R' => some { flags with crlf := on }
  | 'x' => some { flags with verbose := on }
  | 'U' => some flags
  | _ => none

/-- Flags up to the colon or bracket that ends them. No flag stands twice; the hyphen before the flags
to be cleared stands once and not at the end. -/
def readFlags (seen : List Char) : Flags → List Char → Option (Flags × List Char)
  | _, [] => none
  | flags, c :: rest =>
    if c = ':' ∨ c = ')' then
      if seen.head? = some '-' then none else some (flags, c :: rest)
    else if seen.contains c then none
    else if c = '-' then readFlags (c :: seen) flags rest
    else do readFlags (c :: seen) (← flags.set c (!seen.contains '-')) rest

/-- A part of a sequence: a pattern, or flags, which cannot be repeated. -/
inductive Part where
  | pattern (r : Regex)
  | directive
  deriving Repr

/-- A group of which the closing bracket has not been met. -/
structure OpenGroup where
  /-- The parts of the branch that is being read, last one first. -/
  parts : List Part
  /-- The branches that are complete, last one first. -/
  branches : List Regex
  outer : Flags
  deriving Repr

namespace OpenGroup

/-- The branch that is being read. -/
def branch (g : OpenGroup) : Regex :=
  g.parts.foldl (fun tail part =>
    match part with
    | .directive => tail
    | .pattern r => if tail = .empty then r else .cat r tail) .empty

def value (g : OpenGroup) : Regex :=
  g.branches.foldl (fun right left => .alt left right) g.branch

def push (g : OpenGroup) (part : Part) : OpenGroup :=
  { g with parts := part :: g.parts }

/-- Repeats the last part. -/
def repeatLast (g : OpenGroup) (least : Nat) (most : Option Nat) : Option OpenGroup :=
  match g.parts with
  | .pattern r :: parts => some { g with parts := .pattern (.times r least most) :: parts }
  | _ => none

end OpenGroup

/-- A count in braces, with the blanks around it. -/
def readCount (text : List Char) : Option Nat × List Char :=
  let text := text.dropWhile Text.isWhiteSpace
  let digits := text.takeWhile Char.isDigit
  let value := digits.foldl (fun n c => 10 * n + (c.toNat - 48)) 0
  (if digits = [] ∨ UInt32.size ≤ value then none else some value,
    (text.drop digits.length).dropWhile Text.isWhiteSpace)

/-- The bounds of a repetition behind its opening brace. -/
def readBounds (flags : Flags) (text : List Char) : Option ((Nat × Option Nat) × List Char) :=
  match readCount (skipBlanks flags text) with
  | (some least, '\x7d' :: rest) => some ((least, some least), rest)
  | (some least, ',' :: rest) =>
    match skipBlanks flags rest with
    | '\x7d' :: rest => some ((least, none), rest)
    | rest =>
      match readCount rest with
      | (some most, '\x7d' :: rest) => if least ≤ most then some ((least, some most), rest) else none
      | _ => none
  | _ => none

/-- The name of a group, up to the angle behind it. -/
def readGroupName (text : List Char) : Option (List Char × List Char) :=
  let name := text.takeWhile (· ≠ '>')
  let isFirst := fun c : Char => c = '_' || Text.alphabetic.mem c
  let isNext := fun c : Char => isFirst c || c = '.' || c = '[' || c = ']'
    || ["Nd", "Nl", "No"].contains (Text.category c)
  match name, text.drop name.length with
  | c :: others, _ :: rest =>
    if isFirst c && others.all isNext then some (name, rest) else none
  | _, _ => none

/-- A character under the flags. -/
def literal (flags : Flags) (c : Char) : Option Regex :=
  if flags.ignoreCase then
    if flags.allScripts then some (.set (.folded (.single c)))
    else if c.toNat < 128 then some (.set (.inter (.folded (.single c)) (.range '\x00' '\x7f')))
    else none
  else some (.set (.single c))

/-- A dot under the flags. -/
def dot (flags : Flags) : Option Regex :=
  if !flags.allScripts then none
  else if flags.dotAll then some (.set (.compl .empty))
  else if flags.crlf then some (.set (.compl (.ofRanges [('\n', '\n'), ('\r', '\r')])))
  else some (.set (.compl (.single '\n')))

/-- Reads the rest of a pattern. `stack` holds the groups that are open around the innermost one, and
`names` the group names that have been used. -/
def readPattern (flags : Flags) (names : List (List Char)) (stack : List OpenGroup) (top : OpenGroup)
    (text : List Char) : Option Regex :=
  let next (flags : Flags) (names : List (List Char)) (stack : List OpenGroup) (top : OpenGroup)
      (rest : List Char) : Option Regex :=
    if _h : rest.length < text.length then readPattern flags names stack top rest else none
  let lazy (rest : List Char) : List Char :=
    match skipBlanks flags rest with
    | '?' :: rest => rest
    | rest => rest
  let opening (rest : List Char) (names : List (List Char)) (inner : Flags) : Option Regex :=
    next inner names (top :: stack) ⟨[], [], flags⟩ rest
  let repeated (least : Nat) (most : Option Nat) (rest : List Char) : Option Regex := do
    next flags names stack (← top.repeatLast least most) (lazy rest)
  match skipBlanks flags text with
  | [] => if stack.isEmpty then some top.value else none
  | '(' :: rest =>
    match skipBlanks flags rest with
    | '?' :: 'P' :: '<' :: rest | '?' :: '<' :: rest => do
      let (name, rest) ← readGroupName rest
      if names.contains name then none else opening rest (name :: names) flags
    | '?' :: rest =>
      match readFlags [] flags rest with
      | some (inner, ':' :: rest) => opening rest names inner
      | some (inner, _ :: behind) =>
        if rest.head? = some ')' then none
        else next inner names stack (top.push .directive) behind
      | _ => none
    | rest => opening rest names flags
  | ')' :: rest =>
    match stack with
    | [] => none
    | outer :: stack => next top.outer names stack (outer.push (.pattern top.value)) rest
  | '|' :: rest =>
    next flags names stack { top with parts := [], branches := top.branch :: top.branches } rest
  | '[' :: rest => do
    let (opened, rest) := openClass flags rest
    let (set, rest) ← readClass flags [] opened rest
    next flags names stack (top.push (.pattern (.set set))) rest
  | '?' :: rest => repeated 0 (some 1) rest
  | '*' :: rest => repeated 0 none rest
  | '+' :: rest => repeated 1 none rest
  | '\x7b' :: rest => do
    let ((least, most), rest) ← readBounds flags rest
    repeated least most rest
  | '.' :: rest => do next flags names stack (top.push (.pattern (← dot flags))) rest
  | '^' :: rest =>
    let assertion := if flags.multiLine then .lineStart flags.crlf else .textStart
    next flags names stack (top.push (.pattern (.look assertion))) rest
  | '$' :: rest =>
    let assertion := if flags.multiLine then .lineEnd flags.crlf else .textEnd
    next flags names stack (top.push (.pattern (.look assertion))) rest
  | '\\' :: rest => do
    let (primitive, rest) ← readEscape flags rest
    let pattern ← match primitive with
      | .literal c => literal flags c
      | .set members => some (.set members)
      | .look assertion => some (.look assertion)
    next flags names stack (top.push (.pattern pattern)) rest
  | c :: rest => do next flags names stack (top.push (.pattern (← literal flags c))) rest
termination_by text.length

/-- Reads a pattern. One that has a fault, or that would make too large a program, is refused. -/
def parse? (flags : Flags) (text : String) : Option Regex := do
  let pattern ← readPattern flags [] [] ⟨[], [], flags⟩ text.toList
  if pattern.programSize ≤ Regex.programLimit then some pattern else none

end HostSurvey.Pattern

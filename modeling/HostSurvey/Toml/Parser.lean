import HostSurvey.Text.Property
import HostSurvey.Toml.Value
/-!
# Reading configuration texts

TOML 1.1: lines of `key = value`, headers of tables and of lists of tables, comments. Values in braces
may go over several lines. A text with a fault anywhere is refused as a whole.

Each reader takes the text from its place on and gives back what it read with the text behind it.
-/
namespace HostSurvey.Toml

/-- A reader of part of a text. -/
abbrev Reader (α : Type) := List Char → Option (α × List Char)

/-! ## Blanks, comments, line ends -/

/-- Blanks within a line. -/
def isBlank (c : Char) : Bool := c = ' ' || c = '\t'

def skipBlank (text : List Char) : List Char := text.dropWhile isBlank

/-- A character that may stand in comments and literal texts: no control but the tab. -/
def isPlain (c : Char) : Bool := c = '\t' || (0x20 ≤ c.toNat && c.toNat ≠ 0x7f)

/-- Leaves out a comment, if one stands here. -/
def skipComment : List Char → List Char
  | '#' :: rest => rest.dropWhile isPlain
  | text => text

/-- The text behind a line end, if one stands here. -/
def lineEnd? : List Char → Option (List Char)
  | '\n' :: rest => some rest
  | '\r' :: '\n' :: rest => some rest
  | _ => none

/-- Leaves out blanks, comments and line ends. -/
def skipLines (text : List Char) : List Char :=
  let rest := skipComment (skipBlank text)
  match lineEnd? rest with
  | some rest => if _h : rest.length < text.length then skipLines rest else rest
  | none => rest
termination_by text.length

/-- The end of a line: blanks, perhaps a comment, then a line end or the end of the text. -/
def endLine (text : List Char) : Option (List Char) :=
  match skipComment (skipBlank text) with
  | [] => some []
  | rest => lineEnd? rest

/-! ## Texts -/

/-- A character by its number in so many hexadecimal digits. -/
def readCodePoint (count : Nat) : Reader Char := fun text =>
  let digits := text.take count
  if digits.length = count ∧ digits.all (fun c => (Text.hexDigit? c).isSome) then
    let n := Text.hexValue 0 digits
    if n.isValidChar then some (Char.ofNat n, text.drop count) else none
  else none

/-- What stands behind a backslash. -/
def readEscape : Reader Char
  | 'b' :: rest => some ('\x08', rest)
  | 't' :: rest => some ('\t', rest)
  | 'n' :: rest => some ('\n', rest)
  | 'f' :: rest => some ('\x0c', rest)
  | 'r' :: rest => some ('\r', rest)
  | 'e' :: rest => some ('\x1b', rest)
  | '"' :: rest => some ('"', rest)
  | '\\' :: rest => some ('\\', rest)
  | 'x' :: rest => readCodePoint 2 rest
  | 'u' :: rest => readCodePoint 4 rest
  | 'U' :: rest => readCodePoint 8 rest
  | _ => none

/-- A text in double quotes, behind the opening one; `acc` holds it so far, last character first. -/
def readBasic (acc : List Char) (text : List Char) : Option (String × List Char) :=
  match text with
  | [] => none
  | '"' :: rest => some (String.ofList acc.reverse, rest)
  | '\\' :: inner =>
    match readEscape inner with
    | none => none
    | some (c, rest) => if _h : rest.length ≤ inner.length then readBasic (c :: acc) rest else none
  | c :: rest => if isPlain c then readBasic (c :: acc) rest else none
termination_by text.length

/-- A text in single quotes, behind the opening one. -/
def readLiteral : Reader String := fun text =>
  let inner := text.takeWhile fun c => isPlain c && c ≠ '\''
  match text.drop inner.length with
  | '\'' :: rest => some (String.ofList inner, rest)
  | _ => none

/-- The end of a text between three quotes each: up to two more quotes in front belong to the text. -/
def closeTriple (quote : Char) (text : List Char) : Option (List Char × List Char) :=
  let quotes := text.takeWhile (· = quote)
  if quotes.length < 3 then none
  else
    let inner := min 2 (quotes.length - 3)
    some (List.replicate inner quote, text.drop (inner + 3))

/-- A backslash at the end of a line joins it to the next text, over blanks and empty lines. -/
def joinLines (text : List Char) : Option (List Char) :=
  match lineEnd? (skipBlank text) with
  | some rest =>
    some (rest.dropWhile fun c => isBlank c || c = '\n' || c = '\r')
  | none => none

/-- A text between three double quotes (`escapes`) or three single ones, behind the opening ones. -/
def readTriple (escapes : Bool) (acc : List Char) (text : List Char) : Option (String × List Char) :=
  let quote := if escapes then '"' else '\''
  match closeTriple quote text with
  | some (inner, rest) => some (String.ofList (acc.reverse ++ inner), rest)
  | none =>
    match lineEnd? text with
    | some rest =>
      if _h : rest.length < text.length then readTriple escapes ('\n' :: acc) rest else none
    | none =>
      match text with
      | [] => none
      | c :: inner =>
        if escapes && c = '\\' then
          match joinLines inner with
          | some rest =>
            if _h : rest.length ≤ inner.length then readTriple escapes acc rest else none
          | none =>
            match readEscape inner with
            | none => none
            | some (c, rest) =>
              if _h : rest.length ≤ inner.length then readTriple escapes (c :: acc) rest else none
        else if isPlain c then readTriple escapes (c :: acc) inner
        else none
termination_by text.length

/-- The text behind a line end that stands right behind opening quotes. -/
def dropFirstLineEnd (text : List Char) : List Char :=
  (lineEnd? text).getD text

/-- A text in any of its four forms. -/
def readText : Reader String
  | '"' :: '"' :: '"' :: rest => readTriple true [] (dropFirstLineEnd rest)
  | '\'' :: '\'' :: '\'' :: rest => readTriple false [] (dropFirstLineEnd rest)
  | '"' :: rest => readBasic [] rest
  | '\'' :: rest => readLiteral rest
  | _ => none

/-! ## Keys -/

/-- A character of a key that stands without quotes. -/
def isBare (c : Char) : Bool := c.isAlphanum || c = '_' || c = '-'

/-- One part of a key. -/
def readKeyPart : Reader String
  | '"' :: rest => readBasic [] rest
  | '\'' :: rest => readLiteral rest
  | text =>
    let bare := text.takeWhile isBare
    if bare = [] then none else some (String.ofList bare, text.drop bare.length)

/-- A key: parts with dots between them, blanks around each. -/
def readKey (text : List Char) : Option (List String × List Char) := do
  let (part, rest) ← readKeyPart (skipBlank text)
  match skipBlank rest with
  | '.' :: rest =>
    if _h : rest.length < text.length then do
      let (parts, rest) ← readKey rest
      some (part :: parts, rest)
    else none
  | rest => some ([part], rest)
termination_by text.length

/-! ## Numbers, truth values, moments -/

/-- Digits of a class with single low lines between them. -/
def isDigits (isDigit : Char → Bool) : List Char → Bool
  | [] => false
  | [c] => isDigit c
  | c :: '_' :: rest => isDigit c && isDigits isDigit rest
  | c :: rest => isDigit c && isDigits isDigit rest

/-- The number that digits of a base write. -/
def digitsValue (base : Nat) (digits : List Char) : Nat :=
  digits.foldl (fun n c => if c = '_' then n else base * n + (Text.hexDigit? c).getD 0) 0

/-- Decimal digits without a zero in front of others. -/
def isWhole (digits : List Char) : Bool :=
  isDigits Char.isDigit digits && (digits.length == 1 || digits.head? != some '0')

/-- A fraction or an exponent or both, behind the whole part. -/
def isFractional (text : List Char) : Bool :=
  let isExponent := fun (text : List Char) =>
    match text with
    | '+' :: digits => isDigits Char.isDigit digits
    | '-' :: digits => isDigits Char.isDigit digits
    | digits => isDigits Char.isDigit digits
  match text with
  | '.' :: rest =>
    let digits := rest.takeWhile fun c => c.isDigit || c = '_'
    isDigits Char.isDigit digits &&
      match rest.drop digits.length with
      | [] => true
      | c :: rest => (c = 'e' || c = 'E') && isExponent rest
  | c :: rest => (c = 'e' || c = 'E') && isExponent rest
  | [] => false

/-- The value of a decimal number without its sign. -/
def unsigned? (sign : Int) (text : List Char) : Option Value :=
  if text = "inf".toList ∨ text = "nan".toList then some .float
  else
    let whole := text.takeWhile fun c => c.isDigit || c = '_'
    if !isWhole whole then none
    else match text.drop whole.length with
      | [] => some (.integer (sign * digitsValue 10 whole))
      | rest => if isFractional rest then some .float else none

/-- The value of a number. -/
def number? : List Char → Option Value
  | '+' :: rest => unsigned? 1 rest
  | '-' :: rest => unsigned? (-1) rest
  | '0' :: 'x' :: digits =>
    if isDigits (fun c => (Text.hexDigit? c).isSome) digits then
      some (.integer (digitsValue 16 digits)) else none
  | '0' :: 'o' :: digits =>
    if isDigits (fun c => '0' ≤ c && c ≤ '7') digits then some (.integer (digitsValue 8 digits))
    else none
  | '0' :: 'b' :: digits =>
    if isDigits (fun c => c = '0' || c = '1') digits then some (.integer (digitsValue 2 digits))
    else none
  | text => unsigned? 1 text

/-- Exactly so many decimal digits at the front, as a number. -/
def readFixed (count : Nat) : Reader Nat := fun text =>
  let digits := text.take count
  if digits.length = count ∧ digits.all Char.isDigit then
    some (digitsValue 10 digits, text.drop count)
  else none

/-- The text behind a character of a class. -/
def readMark (isMark : Char → Bool) : List Char → Option (List Char)
  | [] => none
  | c :: rest => if isMark c then some rest else none

/-- A leap year has a 29th of February. -/
def isLeap (year : Nat) : Bool :=
  year % 4 == 0 && (year % 100 != 0 || year % 400 == 0)

/-- The number of days of a month. -/
def monthDays (year month : Nat) : Nat :=
  if month = 2 then (if isLeap year then 29 else 28)
  else if [4, 6, 9, 11].contains month then 30 else 31

/-- The text behind a date. -/
def readDate (text : List Char) : Option (List Char) := do
  let (year, rest) ← readFixed 4 text
  let (month, rest) ← readFixed 2 (← readMark (· = '-') rest)
  let (day, rest) ← readFixed 2 (← readMark (· = '-') rest)
  if 1 ≤ month ∧ month ≤ 12 ∧ 1 ≤ day ∧ day ≤ monthDays year month then some rest else none

/-- The text behind a time of day. -/
def readClock (text : List Char) : Option (List Char) := do
  let (hour, rest) ← readFixed 2 text
  let (minute, rest) ← readFixed 2 (← readMark (· = ':') rest)
  if 23 < hour ∨ 59 < minute then none
  match rest with
  | ':' :: rest =>
    let (second, rest) ← readFixed 2 rest
    if 60 < second then none
    match rest with
    | '.' :: rest =>
      let digits := rest.takeWhile Char.isDigit
      if digits = [] then none else some (rest.drop digits.length)
    | rest => some rest
  | rest => some rest

/-- The offset of a time from the universal one, up to the end of the text. -/
def isOffset : List Char → Bool
  | [] => true
  | ['Z'] => true
  | ['z'] => true
  | c :: rest =>
    (c = '+' || c = '-') &&
      match readFixed 2 rest with
      | some (hour, ':' :: rest) =>
        match readFixed 2 rest with
        | some (minute, []) => hour ≤ 23 && minute ≤ 59
        | _ => false
      | _ => false

/-- The text is a date, a time of day, or both. -/
def isMoment (text : List Char) : Bool :=
  match readDate text with
  | some [] => true
  | some rest =>
    match readMark (fun c => c = 'T' || c = 't' || c = ' ') rest with
    | some rest => (readClock rest).any isOffset
    | none => false
  | none => readClock text == some []

/-- A number, truth value or moment. A date takes in the time behind a single blank. -/
def readScalar : Reader Value := fun text =>
  let isPart := fun c : Char => c.isAlphanum || c = '_' || c = '-' || c = '+' || c = '.' || c = ':'
  let word := text.takeWhile isPart
  let word := match text.drop word.length with
    | ' ' :: c :: rest =>
      if (readDate word) = some [] && c.isDigit then
        word ++ ' ' :: (c :: rest).takeWhile isPart
      else word
    | _ => word
  let value :=
    if word = "true".toList then some (.boolean true)
    else if word = "false".toList then some (.boolean false)
    else if isMoment word then some .moment
    else number? word
  value.map fun value => (value, text.drop word.length)

/-! ## Values -/

mutual

def readValue (text : List Char) : Option (Value × List Char) :=
  match text with
  | '[' :: rest =>
    if _h : rest.length < text.length then do
      let (items, rest) ← readItems rest
      some (.array items, rest)
    else none
  | '\x7b' :: rest =>
    if _h : rest.length < text.length then do
      let (entries, rest) ← readEntries [] rest
      some (.table .braces entries, rest)
    else none
  | '"' :: _ => (readText text).map fun (s, rest) => (.text s, rest)
  | '\'' :: _ => (readText text).map fun (s, rest) => (.text s, rest)
  | _ => readScalar text
termination_by 2 * text.length

/-- The items of a list up to its closing bracket. -/
def readItems (text : List Char) : Option (List Value × List Char) :=
  match skipLines text with
  | ']' :: rest => some ([], rest)
  | inner =>
    if _h : inner.length ≤ text.length then
      match readValue inner with
      | none => none
      | some (item, rest) =>
        match skipLines rest with
        | ']' :: rest => some ([item], rest)
        | ',' :: rest =>
          if _h : rest.length < text.length then do
            let (items, rest) ← readItems rest
            some (item :: items, rest)
          else none
        | _ => none
    else none
termination_by 2 * text.length + 1

/-- The entries of a table in braces up to its end; `entries` holds those in front. -/
def readEntries (entries : Entries) (text : List Char) : Option (Entries × List Char) :=
  match skipLines text with
  | '\x7d' :: rest => some (entries, rest)
  | inner =>
    match readKey inner with
    | none => none
    | some (path, rest) =>
      match rest with
      | '=' :: rest =>
        if _h : (skipBlank rest).length < text.length then
          match readValue (skipBlank rest) with
          | none => none
          | some (value, rest) =>
            match entries.insertDotted value path with
            | none => none
            | some entries =>
              match skipLines rest with
              | '\x7d' :: rest => some (entries, rest)
              | ',' :: rest =>
                if _h : rest.length < text.length then readEntries entries rest else none
              | _ => none
        else none
      | _ => none
termination_by 2 * text.length + 1

end

/-! ## The whole text -/

/-- One line: nothing, an entry of the table at `place`, or the header of another table. -/
def readLine (place : List String) (root : Entries) (text : List Char) :
    Option (List String × Entries × List Char) :=
  match skipBlank text with
  | '[' :: '[' :: rest => do
    let (path, rest) ← readKey rest
    match rest, path.getLast? with
    | ']' :: ']' :: rest, some last =>
      some (path, ← root.changeAt (·.openItem last) path.dropLast, ← endLine rest)
    | _, _ => none
  | '[' :: rest => do
    let (path, rest) ← readKey rest
    match rest, path.getLast? with
    | ']' :: rest, some last =>
      some (path, ← root.changeAt (·.openTable last) path.dropLast, ← endLine rest)
    | _, _ => none
  | inner =>
    match endLine inner with
    | some rest => some (place, root, rest)
    | none => do
      let (path, rest) ← readKey inner
      match rest with
      | '=' :: rest =>
        let (value, rest) ← readValue (skipBlank rest)
        some (place, ← root.changeAt (fun table => Entries.insertDotted table value path) place,
          ← endLine rest)
      | _ => none

def readLines (place : List String) (root : Entries) (text : List Char) : Option Entries :=
  if text = [] then some root
  else
    match readLine place root text with
    | none => none
    | some (place, root, rest) =>
      if _h : rest.length < text.length then readLines place root rest else none
termination_by text.length

/-- The table that a text writes. A mark of byte order may stand in front. -/
def parse? (text : String) : Option Entries :=
  match text.toList with
  | '\ufeff' :: rest => readLines [] [] rest
  | text => readLines [] [] text

end HostSurvey.Toml

import HostSurvey.Dns.International
import HostSurvey.Text.Utf8
/-!
# Names of the name system

A name is a list of labels, the leftmost first. A label is one to 63 bytes, any bytes; a name takes at
most 255 bytes on the wire, where each label has a length byte in front and an empty label ends it.

1. `Name.text` writes the labels with a dot behind each. A byte that is neither letter, digit,
   underscore nor inner hyphen is escaped: printable ones by a backslash, others in octal. What a label that carries
   a code stands for is a parameter (`Name.textBy`).
2. `Name.parse?` reads a name. It tries the labels as international ones, which folds their case, and
   else as plain ones.
-/
namespace HostSurvey.Dns

open HostSurvey.Text

/-- How many bytes labels take on the wire. -/
def encodedLength : List Bytes → Nat
  | [] => 1
  | label :: rest => label.length + 1 + encodedLength rest

/-- Whether labels make up a name. -/
def Fits (labels : List Bytes) : Prop :=
  (∀ label ∈ labels, label ≠ [] ∧ label.length ≤ 63) ∧ encodedLength labels ≤ 255

instance (labels : List Bytes) : Decidable (Fits labels) := by
  unfold Fits; infer_instance

/-- A name: its labels, the leftmost first. -/
structure Name where
  labels : List Bytes
  /-- Each label has between 1 and 63 bytes, the name at most 255. -/
  fits : Fits labels
  deriving DecidableEq

namespace Name

/-- The name without labels. -/
def root : Name := ⟨[], by decide⟩

instance : Inhabited Name := ⟨root⟩

/-- The name with the given labels. -/
def ofLabels? (labels : List Bytes) : Option Name :=
  if h : Fits labels then some ⟨labels, h⟩ else none

/-! ## Writing -/

/-- Whether a byte is written as it is. `first` tells whether it is the first of its label. -/
def isSafe (first : Bool) (b : UInt8) : Bool :=
  let c := Char.ofNat b.toNat
  c.isAlphanum || c = '_' || (c = '-' && !first) || (c = '*' && first)

/-- The three octal digits of a byte. -/
def octal (b : UInt8) : List Char :=
  [Nat.digitChar (b.toNat / 64), Nat.digitChar (b.toNat / 8 % 8), Nat.digitChar (b.toNat % 8)]

/-- The characters that show a byte. -/
def showByte (first : Bool) (b : UInt8) : List Char :=
  if isSafe first b then [Char.ofNat b.toNat]
  else if 0x20 < b ∧ b < 0x7f then ['\\', Char.ofNat b.toNat]
  else '\\' :: octal b

/-- A label with its bytes escaped where needed. -/
def showPlain : Bytes → List Char
  | [] => []
  | b :: rest => showByte true b ++ rest.flatMap (showByte false)

/-- A label as it is shown: one that carries a code for characters beyond ASCII shows what `toUnicode?` reads in it, if
that can be read. -/
def showLabel (toUnicode? : List Char → Option (List Char)) (label : Bytes) : List Char :=
  let plain := showPlain label
  if International.mark.isPrefixOf (label.map fun b => Char.ofNat b.toNat) then
    (toUnicode? (Utf8.decodeLossy label).toList).getD plain
  else plain

/-- The text of a name in which codes are read by `toUnicode?`. -/
def textBy (toUnicode? : List Char → Option (List Char)) (name : Name) : String :=
  if name.labels = [] then "."
  else String.ofList (name.labels.flatMap fun label => showLabel toUnicode? label ++ ['.'])

/-- The text of a name. -/
def text (name : Name) : String := name.textBy International.toUnicode?

/-! ## Reading -/

/-- The value of a numeral in an escape. -/
def octalDigit? (c : Char) : Option Nat :=
  if '0' ≤ c ∧ c ≤ '7' then some (c.toNat - 48) else none

/-- Whether a character is a numeral of any script. -/
def isNumeral (c : Char) : Bool :=
  ["Nd", "Nl", "No"].contains (category c)

/-- Splits a text at its dots and resolves the escapes; `label` holds the characters of the label at
hand, the last one first. An escape that the end cuts off is dropped. -/
def split? (label : List Char) : List Char → Option (List (List Char))
  | [] => some (if label.isEmpty then [] else [label.reverse])
  | '.' :: rest => do some (label.reverse :: (← split? [] rest))
  | ['\\'] => split? label []
  | '\\' :: a :: rest =>
    if isNumeral a then do
      let x ← octalDigit? a
      match rest with
      | [] => split? label []
      | [b] => do
        let _ ← octalDigit? b
        split? label []
      | b :: c :: rest => do
        split? (Char.ofNat (64 * x + 8 * (← octalDigit? b) + (← octalDigit? c)) :: label) rest
    else split? (a :: label) rest
  | c :: rest => if category c = "Cc" || isWhiteSpace c then none else split? (c :: label) rest

/-- Whether a character may stand in a label that is read. -/
def mayStand (first : Bool) (c : Char) : Bool :=
  c.isAlphanum || c = '_' || c = '.' || (c = '-' && !first) || (c = '*' && first)

/-- The bytes of a plain label. -/
def plainLabel? (label : List Char) : Option Bytes :=
  match label with
  | [] => none
  | c :: rest =>
    if mayStand true c && rest.all (mayStand false) then
      some (label.map fun c => UInt8.ofNat c.toNat)
    else none

/-- The bytes of an international label. A label that opens with an underscore names a service, and a
star stands for any label: both are plain. -/
def internationalLabel? (label : List Char) : Option Bytes :=
  if label = ['*'] || label.head? = some '_' then plainLabel? label
  else (International.toAscii? label).bind plainLabel?

/-- The name that a text writes. -/
def parse? (text : String) : Option Name := do
  if text = "." then return root
  let labels ← split? [] text.toList
  ((labels.mapM internationalLabel?).bind ofLabels?) <|> ((labels.mapM plainLabel?).bind ofLabels?)

end Name
end HostSurvey.Dns

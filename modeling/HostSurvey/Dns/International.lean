import HostSurvey.Text.CaseFold
import HostSurvey.Text.Property
import HostSurvey.Text.Punycode
/-!
# Labels beyond ASCII

A label with characters beyond ASCII travels as `xn--` and the bootstring code of its characters.

1. `toAscii?` folds a label to small letters first; the result has letters, digits and hyphens only.
2. `toUnicode?` reads the code back. A code that carries nothing but ASCII, or a character that would
   have been folded, is no code of a label.
-/
namespace HostSurvey.Dns.International

open HostSurvey.Text

/-- The characters in front of a coded label. -/
def mark : List Char := ['x', 'n', '-', '-']

/-- Characters that are left out of a label without a trace: the soft hyphen, joiners and variation
selectors. -/
def isIgnored (c : Char) : Bool :=
  c = '\u00ad' || c = '\u034f' || ('\u200b' ≤ c && c ≤ '\u200d') || c = '\u2060' || c = '\ufeff' ||
    ('\ufe00' ≤ c && c ≤ '\ufe0f')

/-- Whether a character separates labels, or is folded to one that does. -/
def isDot (c : Char) : Bool :=
  c = '.' || c = '\u3002' || c = '\uff0e' || c = '\uff61'

/-- Whether a character is the wide form of a visible character of ASCII. -/
def isWide (c : Char) : Bool :=
  '\uff01' ≤ c && c ≤ '\uff5e'

/-- The characters that one character becomes. -/
def fold (c : Char) : List Char :=
  if isIgnored c then []
  else if isDot c then ['.']
  else if c = 'ß' || c = 'ẞ' then ['s', 's']
  else if isWide c then [foldCase (Char.ofNat (c.toNat - 0xfee0))]
  else [foldCase c]

/-- Whether a character beyond ASCII may stand in a label: it is its own folding and it is neither
blank nor control. -/
def isAllowed (c : Char) : Bool :=
  fold c == [c] && !(["Cc", "Cf", "Cn", "Co", "Cs", "Zs", "Zl", "Zp"].contains (category c))

/-- Whether characters are a label beyond ASCII: each may stand in one, and no mark stands in front. -/
def isLabel (label : List Char) : Bool :=
  label.any (128 ≤ ·.toNat) &&
  label.all (fun c => c.toNat < 128 || isAllowed c) &&
  label.head?.all (fun c => !(["Mn", "Mc", "Me"].contains (category c)))

/-- Whether a character of ASCII may stand in a label on the wire. -/
def isPlain (c : Char) : Bool :=
  c.isAlphanum || c = '-'

/-- A text in pieces at its dots. -/
def pieces (text : List Char) : List (List Char) :=
  match text with
  | [] => [[]]
  | c :: rest =>
    match pieces rest with
    | [] => [[c]]
    | piece :: more => if c = '.' then [] :: piece :: more else (c :: piece) :: more

/-- Pieces with dots between them. -/
def joined : List (List Char) → List Char
  | [] => []
  | [piece] => piece
  | piece :: more => piece ++ '.' :: joined more

/-- The characters of a coded label, if its code is that of a label. -/
def decode? (code : List Char) : Option (List Char) := do
  let label ← Punycode.decode? code
  if isLabel label && Punycode.encode label == code then some label else none

/-- A folded label as it travels. -/
def pieceToAscii? (piece : List Char) : Option (List Char) := do
  let ascii ←
    if mark.isPrefixOf piece then (decode? (piece.drop mark.length)).map fun _ => piece
    else if piece.all (·.toNat < 128) then some piece
    else if isLabel piece then some (mark ++ Punycode.encode piece)
    else none
  if ascii.all isPlain && 0 < ascii.length && ascii.length ≤ 63 then some ascii else none

/-- A label as it travels. A dot in it stays a dot; each piece but an empty last one is between 1 and
63 characters long. -/
def toAscii? (label : List Char) : Option (List Char) := do
  let parts := pieces (label.flatMap fold)
  let (parts, last) := if 1 < parts.length && parts.getLast? == some []
    then (parts.dropLast, [[]]) else (parts, [])
  let parts ← parts.mapM pieceToAscii?
  some (joined (parts ++ last))

/-- A folded label as it is shown. -/
def pieceToUnicode? (piece : List Char) : Option (List Char) :=
  if mark.isPrefixOf piece then decode? (piece.drop mark.length)
  else if piece.all (·.toNat < 128) || isLabel piece then some piece
  else none

/-- A label as it is shown. -/
def toUnicode? (label : List Char) : Option (List Char) := do
  some (joined (← (pieces (label.flatMap fold)).mapM pieceToUnicode?))

end HostSurvey.Dns.International

import HostSurvey.Text.Property
/-!
# Numerals

Decimal numbers of a bounded size, as they stand in command lines and network lengths: an optional
sign, then digits, leading zeros allowed. The characters are taken from left to right, so the first
one that cannot be kept decides the error.
-/
namespace HostSurvey.Text

/-- Why a text is no number. -/
inductive NumeralFault where
  | empty
  /-- A character is no digit, or a sign stands alone. -/
  | invalidDigit
  /-- The number lies above the greatest one. -/
  | tooLarge
  /-- The number lies below the least one. -/
  | tooSmall
  deriving Repr, DecidableEq

/-- The wording of a fault. -/
def NumeralFault.message : NumeralFault → String
  | .empty => "cannot parse integer from empty string"
  | .invalidDigit => "invalid digit found in string"
  | .tooLarge => "number too large to fit in target type"
  | .tooSmall => "number too small to fit in target type"

/-- Appends digits to `n`, refusing the first character that is no digit or passes the bound. -/
def readDigits (greatest : Nat) : Nat → List Char → Except NumeralFault Nat
  | n, [] => .ok n
  | n, c :: rest =>
    if c.isDigit then
      let m := 10 * n + (c.toNat - 48)
      if m ≤ greatest then readDigits greatest m rest else .error .tooLarge
    else .error .invalidDigit

/-- Reads a number from zero to `greatest`. A plus sign may stand in front of the digits. -/
def readNatural (greatest : Nat) (text : List Char) : Except NumeralFault Nat :=
  match text with
  | [] => .error .empty
  | ['+'] => .error .invalidDigit
  | '+' :: rest => readDigits greatest 0 rest
  | text => readDigits greatest 0 text

end HostSurvey.Text

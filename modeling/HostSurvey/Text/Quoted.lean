import HostSurvey.Text.Property
/-!
# Quoted text

A text between double quotes, so that what is written shows on one line. The quote and the backslash
get a backslash; tab, line feed, carriage return and NUL have their letter; characters that do not
show, or that would melt into the one before them, are written by number.
-/
namespace HostSurvey.Text

/-- A number in hexadecimal, without leading zeros. -/
def hexText (n : Nat) : List Char :=
  Nat.toDigits 16 n

/-- One character of a quoted text. -/
def quotedChar (c : Char) : List Char :=
  if c = '"' then ['\\', '"']
  else if c = '\\' then ['\\', '\\']
  else if c = '\n' then ['\\', 'n']
  else if c = '\r' then ['\\', 'r']
  else if c = '\t' then ['\\', 't']
  else if c = '\x00' then ['\\', '0']
  else if isPrintable c && !graphemeExtend.mem c then [c]
  else ['\\', 'u', '\x7b'] ++ hexText c.toNat ++ ['\x7d']

/-- The text in quotes. -/
def quoted (text : String) : String :=
  String.ofList ('"' :: text.toList.flatMap quotedChar ++ ['"'])

end HostSurvey.Text

/-!
# Lines

What ends a line is no part of what it says.
-/
namespace HostSurvey.Text

/-- Whether a character ends lines. -/
def isLineEnd (c : Char) : Bool :=
  c = '\r' || c = '\n'

/-- The list without the elements at its end that are of a kind. -/
def trimRight (kind : α → Bool) (items : List α) : List α :=
  (items.reverse.dropWhile kind).reverse

/-- A text without the line ends at its end. -/
def chomp (text : String) : String :=
  String.ofList (trimRight isLineEnd text.toList)

end HostSurvey.Text

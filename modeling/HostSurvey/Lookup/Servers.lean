import HostSurvey.Net.Address
import HostSurvey.Text.Property
import HostSurvey.Text.Utf8
/-!
# Name servers to ask

The servers that look-ups go to are given as a list with commas, or as a file with one address a line.
What is no address is left out.
-/
namespace HostSurvey.Lookup

open Net Text

/-- A text without the blanks at its ends. -/
def trimmed (text : List Char) : List Char :=
  ((text.dropWhile isWhiteSpace).reverse.dropWhile isWhiteSpace).reverse

/-- A text in pieces at a mark. -/
def pieces (mark : Char) : List Char → List (List Char)
  | [] => [[]]
  | c :: rest =>
    match pieces mark rest with
    | [] => [[c]]
    | piece :: more => if c = mark then [] :: piece :: more else (c :: piece) :: more

/-- The addresses among pieces of text. -/
def addressesOf (pieces : List (List Char)) : List Address :=
  pieces.filterMap fun piece => Address.parse? (String.ofList (trimmed piece))

/-- The addresses in a list (`resolver_ips`). -/
def ofList (list : String) : List Address :=
  addressesOf (pieces ',' list.toList)

/-- The addresses in a file, if it is a text (`read_resolver_from_file`). -/
def ofFile? (content : Bytes) : Option (List Address) :=
  (Utf8.decode? content).map fun text => addressesOf (pieces '\n' text.toList)

/-- A server: look-ups go to the port for them. -/
def server (address : Address) : Endpoint := ⟨address, 53⟩

end HostSurvey.Lookup

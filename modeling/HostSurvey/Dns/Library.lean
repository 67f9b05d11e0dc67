import HostSurvey.Dns.Message
import HostSurvey.Dns.Query
/-!
# The library of the name system

What is not decided here, but by the library that reads and writes the messages of the name system: which bytes are a
message, which texts are a name, and how things are shown. All that goes on with messages and names takes a library
as a parameter. `Library.standard` is the one that the program runs with.
-/
namespace HostSurvey.Dns

/-- Reads and writes messages, and shows what is in them. -/
structure Library where
  /-- The message that bytes carry (`Message::from_vec`). -/
  decode? : Bytes → Option Message
  /-- The bytes of a message that asks one question (`Message::to_vec`). -/
  query : Question → UInt16 → Bytes
  /-- The name that a text writes (`Name::from_str`). -/
  parse? : String → Option Name
  /-- The text of a name. -/
  nameText : Name → String
  /-- The text of a record, on one line. -/
  recordText : Record → String
  /-- The text of a type of record. -/
  typeText : RecordType → String
  /-- The text of a response code. -/
  codeText : ResponseCode → String

/-- Messages as they are read by `Message.decode?`, and names as they are read by `Name.parse?`. Data of a type that
`RecordData` has no case for is taken as it stands, and shown to the base 64. -/
def Library.standard : Library where
  decode? := Message.decode?
  query := Question.query
  parse? := Name.parse?
  nameText := Name.text
  recordText := Record.text
  typeText := RecordType.text
  codeText := ResponseCode.text

end HostSurvey.Dns

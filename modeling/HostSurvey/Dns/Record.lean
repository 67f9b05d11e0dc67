import HostSurvey.Dns.Name
import HostSurvey.Net.Address
import HostSurvey.Text.Base64
/-!
# Records

What the name system says about a name. A record carries its type beside its data, since a record may
have no data at all.

A record is written as its name, time to live, class, type and data, with blanks between them.
-/
namespace HostSurvey.Dns

open HostSurvey.Net HostSurvey.Text

/-! ## Types and classes -/

/-- A type of record, or of question. -/
structure RecordType where
  code : UInt16
  deriving Repr, DecidableEq, Inhabited

namespace RecordType

/-- An address of version 4. -/
def a : RecordType := ⟨1⟩
/-- A name server of a zone. -/
def ns : RecordType := ⟨2⟩
/-- Another name of a host. -/
def cname : RecordType := ⟨5⟩
/-- The start of a zone. -/
def soa : RecordType := ⟨6⟩
/-- Data without structure. -/
def null : RecordType := ⟨10⟩
/-- The host at an address. -/
def ptr : RecordType := ⟨12⟩
/-- A mail exchanger of a domain. -/
def mx : RecordType := ⟨15⟩
/-- Free text. -/
def txt : RecordType := ⟨16⟩
/-- An address of version 6. -/
def aaaa : RecordType := ⟨28⟩
/-- Options of a message. -/
def opt : RecordType := ⟨41⟩
/-- A question for a whole zone. -/
def axfr : RecordType := ⟨252⟩

/-- The names of the known types. -/
def names : List (Nat × String) := [
  (0, "ZERO"), (1, "A"), (2, "NS"), (5, "CNAME"), (6, "SOA"), (10, "NULL"), (12, "PTR"),
  (13, "HINFO"), (15, "MX"), (16, "TXT"), (24, "SIG"), (25, "KEY"), (28, "AAAA"), (33, "SRV"),
  (35, "NAPTR"), (41, "OPT"), (43, "DS"), (44, "SSHFP"), (46, "RRSIG"), (47, "NSEC"),
  (48, "DNSKEY"), (50, "NSEC3"), (51, "NSEC3PARAM"), (52, "TLSA"), (59, "CDS"), (60, "CDNSKEY"),
  (61, "OPENPGPKEY"), (62, "CSYNC"), (64, "SVCB"), (65, "HTTPS"), (250, "TSIG"), (251, "IXFR"),
  (252, "AXFR"), (255, "ANY"), (257, "CAA"), (65305, "ANAME")]

/-- The name of a type. -/
def text (t : RecordType) : String :=
  (names.lookup t.code.toNat).getD "Unknown"

/-- The type with a name. -/
def ofText? (name : String) : Option RecordType :=
  (names.find? (·.2 = name)).map fun entry => ⟨UInt16.ofNat entry.1⟩

end RecordType

/-- A class of names. -/
structure RecordClass where
  code : UInt16
  deriving Repr, DecidableEq, Inhabited

namespace RecordClass

/-- The class of the Internet. -/
def internet : RecordClass := ⟨1⟩

/-- The class that servers answer questions about themselves in. -/
def chaos : RecordClass := ⟨3⟩

/-- The names of the known classes. -/
def names : List (Nat × String) :=
  [(1, "IN"), (3, "CH"), (4, "HS"), (254, "NONE"), (255, "ANY")]

/-- The name of a class. -/
def text (c : RecordClass) : String :=
  (names.lookup c.code.toNat).getD "UNKNOWN"

/-- The class with a name. -/
def ofText? (name : String) : Option RecordClass :=
  (names.find? (·.2 = name)).map fun entry => ⟨UInt16.ofNat entry.1⟩

end RecordClass

/-! ## Data -/

/-- The data of a record. -/
inductive RecordData where
  | address (address : Address)
  /-- A name: of a name server, of a host, of what an alias stands for. -/
  | name (name : Name)
  /-- A mail exchanger and its preference. -/
  | exchanger (preference : UInt16) (name : Name)
  /-- The start of a zone: its first server, its keeper, and serial, refresh, retry, expire and
  minimum. -/
  | start (server keeper : Name) (serial refresh retry expire minimum : UInt32)
  | text (pieces : List Bytes)
  /-- Machine and system. -/
  | machine (machine system : Bytes)
  | service (priority weight port : UInt16) (target : Name)
  /-- How a name is made into another one. -/
  | substitution (order preference : UInt16) (flags services expression : Bytes) (replacement : Name)
  /-- The print of a key: its algorithm, how the print was made, and the print. -/
  | keyPrint (algorithm kind : UInt8) (print : Bytes)
  /-- A certificate: what it is used for, which part of it is given and in what form, and this part. -/
  | certificate (usage selector matching : UInt8) (part : Bytes)
  /-- Anything else. -/
  | other (bytes : Bytes)
  deriving DecidableEq

/-- A number as one of two's complement in 32 bits. -/
def signed (n : UInt32) : Int :=
  if n.toNat < 0x80000000 then n.toNat else (n.toNat : Int) - UInt32.size

/-- The text in a list of pieces: what each one says, one behind the other. -/
def piecesText (pieces : List Bytes) : String :=
  String.join (pieces.map Utf8.decodeLossy)

/-- Bytes as pairs of digits to the base 16. -/
def hexadecimal (bytes : Bytes) : String :=
  String.ofList (bytes.flatMap fun b => [Nat.digitChar (b.toNat / 16), Nat.digitChar (b.toNat % 16)])

/-- A piece of text between quotation marks. -/
def inMarks (piece : Bytes) : String :=
  "\"" ++ Utf8.decodeLossy piece ++ "\""

/-- The text of data. -/
def RecordData.show : RecordData → String
  | .address a => a.text
  | .name n => n.text
  | .exchanger preference n => toString preference.toNat ++ " " ++ n.text
  | .start first keeper serial refresh retry expire least =>
    " ".intercalate [first.text, keeper.text, toString serial.toNat, toString (signed refresh),
      toString (signed retry), toString (signed expire), toString least.toNat]
  | .text pieces => piecesText pieces
  | .machine hardware system => Utf8.decodeLossy hardware ++ " " ++ Utf8.decodeLossy system
  | .service priority weight port target =>
    " ".intercalate [toString priority.toNat, toString weight.toNat, toString port.toNat, target.text]
  | .substitution order preference flags services expression replacement =>
    " ".intercalate [toString order.toNat, toString preference.toNat, inMarks flags,
      inMarks services, inMarks expression, replacement.text]
  | .keyPrint algorithm kind print =>
    " ".intercalate [toString algorithm.toNat, toString kind.toNat, hexadecimal print]
  | .certificate usage selector matching part =>
    " ".intercalate [toString usage.toNat, toString selector.toNat, toString matching.toNat,
      hexadecimal part]
  | .other bytes => String.ofList (Base64.encode bytes)

/-- What a server says about a name. -/
structure Record where
  /-- The name that it is about. -/
  owner : Name
  type : RecordType
  recordClass : RecordClass
  /-- For how many seconds it holds. -/
  ttl : UInt32
  data : Option RecordData
  deriving DecidableEq

/-- The text of a record. -/
def Record.text (r : Record) : String :=
  " ".intercalate ([r.owner.text, toString r.ttl.toNat, r.recordClass.text, r.type.text] ++
    (r.data.map RecordData.show).toList)

end HostSurvey.Dns

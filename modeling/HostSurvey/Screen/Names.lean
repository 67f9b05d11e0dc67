import HostSurvey.Error
import HostSurvey.Pattern.Parser
import HostSurvey.Screen.RuleList
import HostSurvey.Screen.Tests
/-!
# Screening host names

A screen of patterns sorts out names of hosts that are dynamic, not configured or otherwise dull. The
patterns are read without regard to case. One that cannot be read spoils the whole screen.
-/
namespace HostSurvey.Screen

open Pattern

/-- A screen for host names (`NameBlacklist`). -/
abbrev NameScreen := RuleList Regex

/-- The patterns that are used when no others are given (`NAME_PATTERNS`). -/
def dullNames : List String := [
  "\\bdiu?p-?\\d*\\.",
  "(?:versanet|telekom|uni-paderborn|upb)\\.(?:de|net|com|biz|eu)\\.?$",
  "[.]?nothing[.]",
  "[.]example[.](?:org|net|com)[.]?$",
  "[avs]?dsl",
  "\\.in-addr\\.",
  "\\.invalid\\.?",
  "\\b(?:wireless|wlan|wimax|wan|vpn|vlan)",
  "\\b\\d\x7b1,3\x7d.\\d\x7b1,3\x7d.\\d\x7b1,3\x7d.\\d\x7b1,3\x7d\\b",
  "\\bincorrect(?:ly)?\\b",
  "\\bnot.configured\\b",
  "\\bpools?\\b",
  "\\bunn?ass?igned\\b",
  "^(?:client|host)(?:-?\\d+)?",
  "^(?:un|not-)(?:known|ass?igned|alloc(?:ated)?|registered|provisioned|used|defined|delegated)",
  "^[^.]+.$",
  "^\\.$",
  "^\\*",
  "^\\w*eth(?:ernet)[^.]*\\.",
  "^\\w\\d+\\[\\-.]",
  "^customer-",
  "^customer\\.",
  "^dyn\\d+",
  "^generic-?host",
  "^h\\d+s\\d+",
  "^host\\d+\\.",
  "^illegal",
  "^internal-host",
  "^ip(?:-?\\d+|addr)",
  "^mobile",
  "^no(?:-reverse)?-dns",
  "^(?:no-?)?reverse",
  "^no.ptr",
  "^softbank\\d+\\.bbtec",
  "^this.ip",
  "^user-?\\d+\\.",
  "aol\\.com\\.?$",
  "cable",
  "dhcp",
  "dial-?(?:in|up)?",
  "dyn(?:amic)?[-.0-9]",
  "dyn(?:amic)ip",
  "early.registration",
  "(?:edu)?roam",
  "localhost",
  "myvzw\\.com",
  "no-dns(?:-yet)?",
  "non-routed",
  "ppp",
  "rr\\.com\\.?$",
  "umts",
  "wanadoo\\.[a-z]\x7b2,3\x7d\\.?$",
  "^\\w*[.]$",
  "reverse-not-set",
  "uu[.]net[.]?$",
  "(?:ne|ad)[.]jp[.]?$",
  "[.](?:cn|mil)[.]?$",
  "^noname[.]"]

namespace NameScreen

/-- Reads one pattern of a screen. -/
def readPattern (pattern : String) : Except Error Regex :=
  match Pattern.parse? { ignoreCase := true } pattern with
  | some regex => .ok regex
  | none => .error (.pattern pattern)

/-- A screen from its patterns; the first one that cannot be read is reported (`new`). -/
def ofPatterns (patterns : List String) : Except Error NameScreen := do
  return .ofRules (← patterns.mapM readPattern)

/-- Tries a name (`matches`). -/
def check (tests : Tests) (screen : NameScreen) (name : String) : Bool × NameScreen :=
  RuleList.check (tests.fitsName · name) screen

end NameScreen
end HostSurvey.Screen

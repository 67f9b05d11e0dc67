import HostSurvey.Net.Network
import HostSurvey.Pattern.Regex
/-!
# The libraries of patterns and networks

Whether a name fits a pattern and whether an address lies in a network are questions to two libraries. All that
screens names or addresses takes their answers as a parameter. `Tests.standard` is what the program runs with.
-/
namespace HostSurvey.Screen

open Net Pattern

/-- How an input is tried against one rule of a screen. -/
structure Tests where
  /-- Whether a name fits a pattern (`Regex::is_match`). -/
  fitsName : Regex → String → Bool
  /-- Whether an address lies in a network (`IpCidr::contains`). -/
  fitsAddress : Network → Address → Bool

/-- Patterns as they are tried by `Regex.isMatch`, and networks as they are tried by `Network.contains`. -/
def Tests.standard : Tests where
  fitsName := Regex.isMatch
  fitsAddress := Network.contains

end HostSurvey.Screen

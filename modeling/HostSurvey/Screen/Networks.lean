import HostSurvey.Error
import HostSurvey.Screen.RuleList
import HostSurvey.Screen.Tests
/-!
# Screening addresses

A screen of networks sorts out addresses that are not worth asking about: private, reserved, multicast.
A network that cannot be read spoils the whole screen.
-/
namespace HostSurvey.Screen

open Net

/-- A screen for addresses (`AddressBlacklist`). -/
abbrev AddressScreen := RuleList Network

/-- The networks that are used when no others are given (`RESERVED_NETWORKS`). -/
def reservedNetworks : List String := [
  "0.0.0.0/8", "10.0.0.0/8", "127.0.0.0/8", "169.254.0.0/16", "172.16.0.0/12", "192.0.2.0/24",
  "192.88.99.0/24", "192.168.0.0/16", "198.18.0.0/15", "198.51.100.0/24", "203.0.113.0/24",
  "224.0.0.0/4", "240.0.0.0/4", "255.0.0.0/8"]

namespace AddressScreen

/-- Reads one network of a screen. -/
def readNetwork (network : String) : Except Error Network :=
  match Network.parse network with
  | .ok parsed => .ok parsed
  | .error fault => .error (.network network fault.message)

/-- A screen from its networks; the first one that cannot be read is reported (`new`). -/
def ofNetworks (networks : List String) : Except Error AddressScreen := do
  return .ofRules (← networks.mapM readNetwork)

/-- Tries an address (`matches`). -/
def check (tests : Tests) (screen : AddressScreen) (address : Address) : Bool × AddressScreen :=
  RuleList.check (tests.fitsAddress · address) screen

/-- Tries the address that a text writes. A text that writes none is let through (`matches_str`). -/
def checkText (tests : Tests) (screen : AddressScreen) (text : String) : Bool × AddressScreen :=
  match Address.parse? text with
  | some address => screen.check tests address
  | none => (false, screen)

end AddressScreen
end HostSurvey.Screen

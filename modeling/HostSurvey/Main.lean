import HostSurvey.Lookup.Servers
import HostSurvey.Settings.CommandLine
import HostSurvey.Settings.Config
import HostSurvey.Survey.Run
/-!
# The command line

Reads the arguments and the configuration, surveys, and prints its report when the input ends. This
program opens no connections of its own: to it every peer is out of reach, and so is every name server.
-/
namespace HostSurvey

open Net Settings

/-- The name and version of the program. -/
def versionLine : String := "reconscan 0.3.0"

/-- How the program is called. -/
def usageLine : String := "Usage: reconscan [OPTIONS]"

/-- The world of a program without connections, with the usual screens. -/
def closedWorld : Except Error World := do
  return {
    names := ← Screen.NameScreen.ofPatterns Screen.dullNames
    addresses := ← Screen.AddressScreen.ofNetworks Screen.reservedNetworks
    store := .empty
    cache := .empty
    directory := .ofServer fun _ => .error (.stream .unreachable)
    servers := fun _ => .unreachable
    traces := .off
    now := default }

/-- What is in the configuration file of some options, if there is one that is a text. -/
def readConfig (home : String) (options : Options) : IO (Except Error Config) := do
  let path := options.configPath.getD (standardConfigPath home)
  try return Config.ofBytes (← IO.FS.readBinFile path).toList
  catch _ => return Config.parse ""

/-- Waits for the end of the input. -/
def awaitEnd (input : IO.FS.Stream) : Nat → IO Unit
  | 0 => pure ()
  | n + 1 => do if !(← input.getLine).isEmpty then awaitEnd input n

/-- Surveys as options say. -/
def runSurvey (home : String) (options : Options) : IO UInt32 := do
  match ← readConfig home options, closedWorld with
  | .error e, _ | _, .error e =>
    IO.eprintln ("Error: " ++ e.message)
    return 1
  | .ok config, .ok world =>
    let options := options.merge config
    IO.println (Run.greeting options)
    awaitEnd (← IO.getStdin) UInt32.size
    IO.println Report.farewell
    let world := Run.survey home options [] (fun _ => .unreachable) world
    (Report.lines world.store).forM IO.println
    return 0

end HostSurvey

open HostSurvey Settings in
def main (arguments : List String) : IO UInt32 := do
  let home := (← IO.getEnv "HOME").getD ""
  match Options.ofArguments arguments with
  | .ok options => runSurvey home options
  | .error .displayVersion =>
    IO.println versionLine
    return 0
  | .error .displayHelp =>
    IO.println usageLine
    return 0
  | .error _ =>
    IO.eprintln usageLine
    return 2

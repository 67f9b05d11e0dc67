import HostSurvey.Settings.Options
import HostSurvey.Text.Numeral
/-!
# The command line

Arguments are taken from left to right and the first problem decides. An option's value stands in the
same argument or in the next one. In the latter case it is looked at only when another option follows or
the arguments end, so an argument that nobody knows wins over a value in front of it that does not read.
-/
namespace HostSurvey.Settings

/-- Why a command line is not followed. -/
inductive UsageFault where
  | unknownArgument
  /-- A value is missing, or empty where it must not be. -/
  | invalidValue
  | valueValidation
  /-- An option that stands once stands twice. -/
  | argumentConflict
  /-- An option that takes no value has one. -/
  | tooManyValues
  | displayHelp
  | displayVersion
  deriving Repr, DecidableEq

/-- The options by name. -/
inductive OptionKey where
  | seeds | noConfig | configPath | baseDir | resolver
  | generatorWorkers | xfrWorkers | scannerWorkers
  | generatorHeartbeat | xfrHeartbeat | scannerHeartbeat
  | hostQueue | xfrQueue | batchSize
  | timeout | fingerTimeout | httpTimeout | snmpCommunity | snmpTimeout | xfrPort
  | help | version
  deriving Repr, DecidableEq

namespace OptionKey

def all : List OptionKey := [
  seeds, noConfig, configPath, baseDir, resolver, generatorWorkers, xfrWorkers, scannerWorkers,
  generatorHeartbeat, xfrHeartbeat, scannerHeartbeat, hostQueue, xfrQueue, batchSize, timeout,
  fingerTimeout, httpTimeout, snmpCommunity, snmpTimeout, xfrPort, help, version]

/-- The name behind two hyphens. -/
def long : OptionKey → String
  | seeds => "seeds"
  | noConfig => "no-config"
  | configPath => "config-path"
  | baseDir => "base-dir"
  | resolver => "resolver"
  | generatorWorkers => "generator-workers"
  | xfrWorkers => "xfr-workers"
  | scannerWorkers => "scanner-workers"
  | generatorHeartbeat => "generator-heartbeat"
  | xfrHeartbeat => "xfr-heartbeat"
  | scannerHeartbeat => "scanner-heartbeat"
  | hostQueue => "host-queue"
  | xfrQueue => "xfr-queue"
  | batchSize => "batch-size"
  | timeout => "timeout"
  | fingerTimeout => "finger-timeout"
  | httpTimeout => "http-timeout"
  | snmpCommunity => "snmp-community"
  | snmpTimeout => "snmp-timeout"
  | xfrPort => "xfr-port"
  | help => "help"
  | version => "version"

/-- The letter behind one hyphen. -/
def short : OptionKey → Option Char
  | seeds => some 's'
  | noConfig => some 'n'
  | configPath => some 'c'
  | batchSize => some 'b'
  | timeout => some 't'
  | help => some 'h'
  | version => some 'V'
  | _ => none

/-- The option takes a value. -/
def takesValue : OptionKey → Bool
  | noConfig => false
  | help => false
  | version => false
  | _ => true

end OptionKey

/-- The greatest number of 64 bits. -/
def greatestWord : Nat := UInt64.size - 1

/-- A number of 64 bits. -/
def readWord (text : String) : Except UsageFault Nat :=
  match Text.readNatural greatestWord text.toList with
  | .ok n => .ok n
  | .error _ => .error .valueValidation

/-- A port. It is read as a signed number first, so zero may have a minus sign. -/
def readPort (text : String) : Except UsageFault UInt16 :=
  let number : Except Text.NumeralFault Nat := match text.toList with
    | ['-'] => .error .invalidDigit
    | '-' :: digits => Text.readDigits 0 0 digits
    | text => Text.readNatural 65535 text
  match number with
  | .ok n => .ok (UInt16.ofNat n)
  | .error _ => .error .valueValidation

/-- A path, which must not be empty. -/
def readPath (text : String) : Except UsageFault String :=
  if text.isEmpty then .error .invalidValue else .ok text

/-- Follows one option with its value. -/
def Options.follow (o : Options) (key : OptionKey) (value : String) : Except UsageFault Options :=
  match key with
  | .seeds => .ok { o with seeds := o.seeds ++ value.splitOn "," }
  | .noConfig => .ok { o with ignoreConfig := true }
  | .configPath => do return { o with configPath := some (← readPath value) }
  | .baseDir => do return { o with baseDir := some (← readPath value) }
  | .resolver => .ok { o with resolver := some value }
  | .generatorWorkers => do return { o with generatorWorkers := ← readWord value }
  | .xfrWorkers => do return { o with transferWorkers := ← readWord value }
  | .scannerWorkers => do return { o with scannerWorkers := ← readWord value }
  | .generatorHeartbeat => do return { o with generatorHeartbeat := ← readWord value }
  | .xfrHeartbeat => do return { o with transferHeartbeat := ← readWord value }
  | .scannerHeartbeat => do return { o with scannerHeartbeat := ← readWord value }
  | .hostQueue => do return { o with hostQueue := some (← readWord value) }
  | .xfrQueue => do return { o with transferQueue := some (← readWord value) }
  | .batchSize => do return { o with batchSize := some (← readWord value) }
  | .timeout => do return { o with timeout := ← readWord value }
  | .fingerTimeout => do return { o with fingerTimeout := ← readWord value }
  | .httpTimeout => do return { o with webTimeout := ← readWord value }
  | .snmpCommunity => .ok { o with snmpCommunity := value }
  | .snmpTimeout => do return { o with snmpTimeout := ← readWord value }
  | .xfrPort => do return { o with zonePort := ← readPort value }
  | .help => .error .displayHelp
  | .version => .error .displayVersion

/-- How far a command line has been followed. -/
structure Progress where
  /-- The options so far. -/
  options : Options
  /-- The options that have stood, apart from those that may stand more than once. -/
  stood : List OptionKey
  /-- The option whose value stands by itself, with the value once it has been met. -/
  waiting : Option (OptionKey × Option String)
  deriving Repr

namespace Progress

/-- Follows an option, unless it has stood before. -/
def take (p : Progress) (key : OptionKey) (value : String) : Except UsageFault Progress :=
  if p.stood.contains key then .error .argumentConflict
  else do
    let options ← p.options.follow key value
    return { p with options, stood := if key = .seeds then p.stood else key :: p.stood }

/-- Follows the option that waits. -/
def settle (p : Progress) : Except UsageFault Progress :=
  match p.waiting with
  | none => .ok p
  | some (_, none) => .error .invalidValue
  | some (key, some value) => { p with waiting := none }.take key value

/-- An option with the value in its own argument, or without one. -/
def meet (p : Progress) (key : OptionKey) (attached : Option String) : Except UsageFault Progress := do
  let p ← p.settle
  match attached with
  | some value => p.take key value
  | none => if key.takesValue then return { p with waiting := some (key, none) } else p.take key ""

/-- The letters behind one hyphen. -/
def meetLetters (p : Progress) : List Char → Except UsageFault Progress
  | [] => .ok p
  | c :: rest =>
    match OptionKey.all.find? (·.short == some c) with
    | none => .error .unknownArgument
    | some key =>
      if key.takesValue then
        match rest with
        | [] => p.meet key none
        | '=' :: value => p.meet key (some (String.ofList value))
        | value => p.meet key (some (String.ofList value))
      else do (← p.meet key none).meetLetters rest

/-- The name behind two hyphens, perhaps with a value. -/
def meetName (p : Progress) (text : List Char) : Except UsageFault Progress :=
  let name := text.takeWhile (· ≠ '=')
  let attached := match text.drop name.length with
    | _ :: value => some (String.ofList value)
    | [] => none
  match OptionKey.all.find? (·.long == String.ofList name) with
  | none => .error .unknownArgument
  | some key =>
    if attached.isSome && !key.takesValue then .error .tooManyValues else p.meet key attached

def follow (p : Progress) : List String → Except UsageFault Progress
  | [] => p.settle
  | argument :: rest =>
    match argument.toList with
    | ['-', '-'] => if rest.isEmpty then p.settle else .error .unknownArgument
    | '-' :: '-' :: text => do (← p.meetName text).follow rest
    | '-' :: c :: text => do (← p.meetLetters (c :: text)).follow rest
    | _ =>
      match p.waiting with
      | some (key, none) => { p with waiting := some (key, some argument) }.follow rest
      | _ => .error .unknownArgument

end Progress

/-- The options that arguments ask for (`Opts::read`). -/
def Options.ofArguments (arguments : List String) : Except UsageFault Options := do
  let p ← Progress.follow ⟨{ ignoreConfig := false }, [], none⟩ arguments
  return p.options

end HostSurvey.Settings

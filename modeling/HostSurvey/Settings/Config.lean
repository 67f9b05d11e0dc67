import HostSurvey.Error
import HostSurvey.Settings.Options
import HostSurvey.Text.Utf8
import HostSurvey.Toml.Parser
/-!
# The configuration

A configuration may set any option but the two that say where it is and whether it counts. What it sets
replaces what the command line says, unless the command line asks to ignore it. Keys that nobody knows
are left alone.
-/
namespace HostSurvey.Settings

open Toml (Value Entries)

/-- The options that a configuration sets. -/
structure Config where
  seeds : Option (List String) := none
  baseDir : Option String := none
  resolver : Option String := none
  generatorWorkers : Option Nat := none
  transferWorkers : Option Nat := none
  scannerWorkers : Option Nat := none
  generatorHeartbeat : Option Nat := none
  transferHeartbeat : Option Nat := none
  scannerHeartbeat : Option Nat := none
  hostQueue : Option Nat := none
  transferQueue : Option Nat := none
  batchSize : Option Nat := none
  timeout : Option Nat := none
  fingerTimeout : Option Nat := none
  webTimeout : Option Nat := none
  snmpCommunity : Option String := none
  snmpTimeout : Option Nat := none
  zonePort : Option UInt16 := none
  deriving Repr, DecidableEq

namespace Config

def asText : Value → Except Error String
  | .text s => .ok s
  | _ => .error .configuration

/-- A list of texts. -/
def asTexts : Value → Except Error (List String)
  | .array items => items.mapM asText
  | _ => .error .configuration

/-- A number from zero to `greatest`. -/
def asNatural (greatest : Nat) : Value → Except Error Nat
  | .integer n => if 0 ≤ n ∧ n ≤ greatest then .ok n.toNat else .error .configuration
  | _ => .error .configuration

def asPort (value : Value) : Except Error UInt16 :=
  (asNatural 65535 value).map UInt16.ofNat

/-- What a key is set to, if it is set. -/
def setting {α : Type} (read : Value → Except Error α) (entries : Entries) (key : String) :
    Except Error (Option α) :=
  match entries.get? key with
  | none => .ok none
  | some value => (read value).map some

/-- The configuration in the entries of a table. -/
def ofEntries (entries : Entries) : Except Error Config := do
  let number := asNatural (UInt64.size - 1)
  return {
    seeds := ← setting asTexts entries "seeds"
    baseDir := ← setting asText entries "base_dir"
    resolver := ← setting asText entries "resolver"
    generatorWorkers := ← setting number entries "generator_workers"
    transferWorkers := ← setting number entries "xfr_workers"
    scannerWorkers := ← setting number entries "scanner_workers"
    generatorHeartbeat := ← setting number entries "generator_heartbeat"
    transferHeartbeat := ← setting number entries "xfr_heartbeat"
    scannerHeartbeat := ← setting number entries "scanner_heartbeat"
    hostQueue := ← setting number entries "host_queue"
    transferQueue := ← setting number entries "xfr_queue"
    batchSize := ← setting number entries "batch_size"
    timeout := ← setting number entries "timeout"
    fingerTimeout := ← setting number entries "finger_timeout"
    webTimeout := ← setting number entries "http_timeout"
    snmpCommunity := ← setting asText entries "snmp_community"
    snmpTimeout := ← setting number entries "snmp_timeout"
    zonePort := ← setting asPort entries "xfr_port" }

/-- The configuration that a text writes (`Config::parse`). -/
def parse (text : String) : Except Error Config :=
  match Toml.parse? text with
  | some entries => ofEntries entries
  | none => .error .configuration

/-- The configuration in a file (`Config::read`). A file that is no text counts as empty. -/
def ofBytes (bytes : Bytes) : Except Error Config :=
  parse ((Text.Utf8.decode? bytes).getD "")

end Config

/-- The options with what a configuration sets, unless it is to be ignored (`Opts::merge`). -/
def Options.merge (o : Options) (c : Config) : Options :=
  if o.ignoreConfig then o else
  { o with
    seeds := c.seeds.getD o.seeds
    baseDir := c.baseDir <|> o.baseDir
    resolver := c.resolver <|> o.resolver
    generatorWorkers := c.generatorWorkers.getD o.generatorWorkers
    transferWorkers := c.transferWorkers.getD o.transferWorkers
    scannerWorkers := c.scannerWorkers.getD o.scannerWorkers
    generatorHeartbeat := c.generatorHeartbeat.getD o.generatorHeartbeat
    transferHeartbeat := c.transferHeartbeat.getD o.transferHeartbeat
    scannerHeartbeat := c.scannerHeartbeat.getD o.scannerHeartbeat
    hostQueue := c.hostQueue <|> o.hostQueue
    transferQueue := c.transferQueue <|> o.transferQueue
    batchSize := c.batchSize <|> o.batchSize
    timeout := c.timeout.getD o.timeout
    fingerTimeout := c.fingerTimeout.getD o.fingerTimeout
    webTimeout := c.webTimeout.getD o.webTimeout
    snmpCommunity := c.snmpCommunity.getD o.snmpCommunity
    snmpTimeout := c.snmpTimeout.getD o.snmpTimeout
    zonePort := c.zonePort.getD o.zonePort }

end HostSurvey.Settings

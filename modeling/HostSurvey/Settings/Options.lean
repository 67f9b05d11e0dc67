import HostSurvey.Text.Elapsed
/-!
# Options

What a run can be told, with the values that hold when it is told nothing, and the settings of each part
of the engine that follow from them. No queue and no batch is ever empty: its size is at least one.
-/
namespace HostSurvey.Settings

/-- The options of a run (`Opts`). Spans of time are in milliseconds. -/
structure Options where
  /-- Hosts whose zones are asked for first. -/
  seeds : List String := []
  /-- The configuration is not to be used. -/
  ignoreConfig : Bool := true
  configPath : Option String := none
  /-- Where traces of zone transfers go. -/
  baseDir : Option String := none
  /-- The resolvers to ask: a list, or a file with one per line. -/
  resolver : Option String := none
  generatorWorkers : Nat := 4
  transferWorkers : Nat := 2
  scannerWorkers : Nat := 8
  /-- The heartbeat of the drawing workers. -/
  generatorHeartbeat : Nat := 2000
  /-- The heartbeat of the transferring workers. -/
  transferHeartbeat : Nat := 2000
  /-- The heartbeat of the scanning workers. -/
  scannerHeartbeat : Nat := 2000
  /-- How many drawn hosts may wait. -/
  hostQueue : Option Nat := none
  /-- How many transfer requests may wait. -/
  transferQueue : Option Nat := none
  /-- How many hosts are fed to the scanner at a time. -/
  batchSize : Option Nat := none
  /-- How long a peer may stay silent. -/
  timeout : Nat := 10000
  fingerTimeout : Nat := 5000
  webTimeout : Nat := 15000
  /-- The community that agents are asked with. -/
  snmpCommunity : String := "public"
  /-- How long an agent may stay silent. -/
  snmpTimeout : Nat := 5000
  /-- The port on which zones are asked for. -/
  zonePort : UInt16 := 53
  deriving Repr, DecidableEq

/-- Settings of the drawing workers (`GeneratorConfig`). -/
structure GeneratorSettings where
  heartbeat : Elapsed
  queueSize : Nat
  deriving Repr, DecidableEq

/-- Settings of the transferring workers (`XfrConfig`). -/
structure TransferSettings where
  heartbeat : Elapsed
  queueSize : Nat
  port : UInt16
  /-- How long a server may stay silent. -/
  timeout : Elapsed
  /-- Where traces go, if they are kept. -/
  traceDir : Option String
  deriving Repr, DecidableEq

/-- Settings of the probes (`ProbeConfig`). -/
structure ProbeSettings where
  /-- How long a peer may stay silent. -/
  timeout : Elapsed
  fingerTimeout : Elapsed
  webTimeout : Elapsed
  /-- The community that agents are asked with. -/
  snmpCommunity : String
  /-- How long an agent may stay silent. -/
  snmpTimeout : Elapsed
  deriving Repr, DecidableEq

/-- Settings of the scanner (`ScannerConfig`). -/
structure ScannerSettings where
  heartbeat : Elapsed
  /-- How many hosts are fed at a time. -/
  batchSize : Nat
  queueSize : Nat
  probes : ProbeSettings
  deriving Repr, DecidableEq

/-- Settings of the drawing workers where nothing is said. -/
def GeneratorSettings.standard : GeneratorSettings := ⟨.ofMillis 2000, 8⟩

/-- Settings of the transferring workers where nothing is said. -/
def TransferSettings.standard : TransferSettings := ⟨.ofMillis 2000, 2, 53, .ofMillis 30000, none⟩

/-- Settings of the probes where nothing is said. -/
def ProbeSettings.standard : ProbeSettings :=
  ⟨.ofMillis 10000, .ofMillis 5000, .ofMillis 15000, "public", .ofMillis 5000⟩

/-- Settings of the scanner where nothing is said. -/
def ScannerSettings.standard : ScannerSettings := ⟨.ofMillis 2000, 80, 16, .standard⟩

/-- A file or directory inside a directory. -/
def inDirectory (directory name : String) : String :=
  if directory.isEmpty || directory.endsWith "/" then directory ++ name else directory ++ "/" ++ name

/-- Where traces go when nothing is said, from the user's home (`default_base_dir`). -/
def standardBaseDir (home : String) : String := inDirectory home "reconscan.d"

/-- Where the configuration is when nothing is said, from the user's home (`default_config_path`). -/
def standardConfigPath (home : String) : String := inDirectory home ".reconscan.toml"

/-- A multiple of a count. Counts have 64 bits, and what goes beyond them is lost. -/
def multiple (factor count : Nat) : Nat :=
  factor * count % UInt64.size

namespace Options

def traceBase (home : String) (o : Options) : String :=
  o.baseDir.getD (standardBaseDir home)

/-- Settings of the drawing workers (`generator_config`). -/
def generator (o : Options) : GeneratorSettings where
  heartbeat := .ofMillis o.generatorHeartbeat
  queueSize := max (o.hostQueue.getD (multiple 2 o.generatorWorkers)) 1

/-- Settings of the transferring workers (`xfr_config`). -/
def transfer (home : String) (o : Options) : TransferSettings where
  heartbeat := .ofMillis o.transferHeartbeat
  queueSize := max (o.transferQueue.getD o.transferWorkers) 1
  port := o.zonePort
  timeout := .ofMillis o.timeout
  traceDir := some (inDirectory (o.traceBase home) "xfr")

/-- Settings of the probes (`probe_config`). -/
def probes (o : Options) : ProbeSettings where
  timeout := .ofMillis o.timeout
  fingerTimeout := .ofMillis o.fingerTimeout
  webTimeout := .ofMillis o.webTimeout
  snmpCommunity := o.snmpCommunity
  snmpTimeout := .ofMillis o.snmpTimeout

/-- Settings of the scanner (`scanner_config`). -/
def scanner (o : Options) : ScannerSettings where
  heartbeat := .ofMillis o.scannerHeartbeat
  batchSize := max (o.batchSize.getD (multiple 10 o.scannerWorkers)) 1
  queueSize := max (multiple 2 o.scannerWorkers) 1
  probes := o.probes

end Options
end HostSurvey.Settings

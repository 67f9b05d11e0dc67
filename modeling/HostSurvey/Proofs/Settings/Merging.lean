import HostSurvey.Settings.Config
/-!
# Merging a configuration

A configuration and the options have eighteen settings in common. `Field` names them, so that a law about all of them
is stated once.

1. A configuration is what it says about each field (`get?_ofFields`, `Config.ext_get?`), and so are the options, but
   for the two that say where the configuration is and whether it counts (`Options.ext_get?`). So no setting is left
   out.
2. Merging asks for each field first the configuration and then the options (`get?_merge`). That settles how merges
   combine (`merge_merge`) and when their order matters (`a_configuration_overrides_field_by_field`).
3. Each key of a file sets its own field (`ofEntries_get?`).
-/
namespace HostSurvey.Settings

open Toml (Entries)

/-! ## Fields -/

/-- The options that a configuration can set. -/
inductive Field where
  | seeds | baseDir | resolver
  | generatorWorkers | transferWorkers | scannerWorkers
  | generatorHeartbeat | transferHeartbeat | scannerHeartbeat
  | hostQueue | transferQueue | batchSize
  | timeout | fingerTimeout | webTimeout | snmpCommunity | snmpTimeout | zonePort
  deriving Repr, DecidableEq

/-- What a field can be set to. -/
abbrev Field.Value : Field → Type
  | .seeds => List String
  | .baseDir | .resolver | .snmpCommunity => String
  | .zonePort => UInt16
  | _ => Nat

namespace Config

/-- What a configuration sets a field to. -/
def get? (c : Config) : (f : Field) → Option f.Value
  | .seeds => c.seeds
  | .baseDir => c.baseDir
  | .resolver => c.resolver
  | .generatorWorkers => c.generatorWorkers
  | .transferWorkers => c.transferWorkers
  | .scannerWorkers => c.scannerWorkers
  | .generatorHeartbeat => c.generatorHeartbeat
  | .transferHeartbeat => c.transferHeartbeat
  | .scannerHeartbeat => c.scannerHeartbeat
  | .hostQueue => c.hostQueue
  | .transferQueue => c.transferQueue
  | .batchSize => c.batchSize
  | .timeout => c.timeout
  | .fingerTimeout => c.fingerTimeout
  | .webTimeout => c.webTimeout
  | .snmpCommunity => c.snmpCommunity
  | .snmpTimeout => c.snmpTimeout
  | .zonePort => c.zonePort

/-- The configuration that sets the fields so. -/
def ofFields (said : (f : Field) → Option f.Value) : Config where
  seeds := said .seeds
  baseDir := said .baseDir
  resolver := said .resolver
  generatorWorkers := said .generatorWorkers
  transferWorkers := said .transferWorkers
  scannerWorkers := said .scannerWorkers
  generatorHeartbeat := said .generatorHeartbeat
  transferHeartbeat := said .transferHeartbeat
  scannerHeartbeat := said .scannerHeartbeat
  hostQueue := said .hostQueue
  transferQueue := said .transferQueue
  batchSize := said .batchSize
  timeout := said .timeout
  fingerTimeout := said .fingerTimeout
  webTimeout := said .webTimeout
  snmpCommunity := said .snmpCommunity
  snmpTimeout := said .snmpTimeout
  zonePort := said .zonePort

@[simp] theorem get?_ofFields (said : (f : Field) → Option f.Value) (f : Field) : (ofFields said).get? f = said f := by
  cases f <;> rfl

@[simp] theorem get?_empty (f : Field) : get? {} f = none := by
  cases f <;> rfl

/-- A configuration says nothing but what it says about the fields. -/
theorem ofFields_get? (c : Config) : ofFields c.get? = c := rfl

theorem ext_get? {c d : Config} (same : ∀ f, c.get? f = d.get? f) : c = d :=
  (ofFields_get? c).symm.trans ((congrArg ofFields (funext same)).trans (ofFields_get? d))

/-- Each field as the later configuration sets it, or else the earlier one. -/
def atop (later earlier : Config) : Config :=
  ofFields fun f => (later.get? f).or (earlier.get? f)

@[simp] theorem get?_atop (later earlier : Config) (f : Field) :
    (later.atop earlier).get? f = (later.get? f).or (earlier.get? f) :=
  get?_ofFields _ f

end Config

namespace Options

/-- What the options say about a field. About some fields they may say nothing. -/
def get? (o : Options) : (f : Field) → Option f.Value
  | .seeds => some o.seeds
  | .baseDir => o.baseDir
  | .resolver => o.resolver
  | .generatorWorkers => some o.generatorWorkers
  | .transferWorkers => some o.transferWorkers
  | .scannerWorkers => some o.scannerWorkers
  | .generatorHeartbeat => some o.generatorHeartbeat
  | .transferHeartbeat => some o.transferHeartbeat
  | .scannerHeartbeat => some o.scannerHeartbeat
  | .hostQueue => o.hostQueue
  | .transferQueue => o.transferQueue
  | .batchSize => o.batchSize
  | .timeout => some o.timeout
  | .fingerTimeout => some o.fingerTimeout
  | .webTimeout => some o.webTimeout
  | .snmpCommunity => some o.snmpCommunity
  | .snmpTimeout => some o.snmpTimeout
  | .zonePort => some o.zonePort

/-- The options say nothing but what they say about the fields, whether a configuration counts, and where it is. -/
theorem ext_get? {o p : Options} (flag : o.ignoreConfig = p.ignoreConfig) (path : o.configPath = p.configPath)
    (same : ∀ f, o.get? f = p.get? f) : o = p := by
  cases o
  cases p
  simp only [Options.mk.injEq]
  exact ⟨Option.some.inj (same .seeds), flag, path, same .baseDir, same .resolver,
    Option.some.inj (same .generatorWorkers), Option.some.inj (same .transferWorkers),
    Option.some.inj (same .scannerWorkers), Option.some.inj (same .generatorHeartbeat),
    Option.some.inj (same .transferHeartbeat), Option.some.inj (same .scannerHeartbeat), same .hostQueue,
    same .transferQueue, same .batchSize, Option.some.inj (same .timeout), Option.some.inj (same .fingerTimeout),
    Option.some.inj (same .webTimeout), Option.some.inj (same .snmpCommunity), Option.some.inj (same .snmpTimeout),
    Option.some.inj (same .zonePort)⟩

/-! ## Merging -/

section Merge
variable {o : Options} {c d : Config}

@[simp] theorem merge_ignored (ignored : o.ignoreConfig = true) (c : Config) : o.merge c = o :=
  if_pos ignored

@[simp] theorem merge_ignoreConfig (o : Options) (c : Config) : (o.merge c).ignoreConfig = o.ignoreConfig := by
  unfold merge
  split <;> rfl

@[simp] theorem merge_configPath (o : Options) (c : Config) : (o.merge c).configPath = o.configPath := by
  unfold merge
  split <;> rfl

/-- What is merged says about each field what the configuration says, and else what the options say. -/
theorem get?_merge (heeded : o.ignoreConfig = false) (c : Config) (f : Field) :
    (o.merge c).get? f = (c.get? f).or (o.get? f) := by
  rw [merge, if_neg (by simp [heeded])]
  cases f with
  | baseDir | resolver | hostQueue | transferQueue | batchSize => exact Option.orElse_eq_or
  | _ => exact Option.or_some.symm

/-- Two configurations one after the other are merged as one that takes each field from the second, if it is set
there. -/
theorem merge_merge (o : Options) (c d : Config) : (o.merge c).merge d = o.merge (d.atop c) := by
  cases ignores : o.ignoreConfig with
  | true => simp [ignores]
  | false =>
    refine ext_get? (by simp) (by simp) fun f => ?_
    have heeded : (o.merge c).ignoreConfig = false := by simp [ignores]
    rw [get?_merge heeded, get?_merge ignores, get?_merge ignores, Config.get?_atop, Option.or_assoc]

/-- A configuration that says nothing changes nothing. -/
theorem merge_empty (o : Options) : o.merge {} = o := by
  cases ignores : o.ignoreConfig with
  | true => exact merge_ignored ignores _
  | false => exact ext_get? (by simp) (by simp) fun f => by simp [get?_merge ignores]

theorem merge_again (o : Options) (c : Config) : (o.merge c).merge c = o.merge c := by
  have same : c.atop c = c := Config.ext_get? fun f => by simp
  rw [merge_merge, same]

/-- The order of two configurations does not matter if they do not set the same field. -/
theorem merge_swap (apart : ∀ f, c.get? f = none ∨ d.get? f = none) (o : Options) :
    (o.merge c).merge d = (o.merge d).merge c := by
  have same : d.atop c = c.atop d := by
    refine Config.ext_get? fun f => ?_
    rcases apart f with unset | unset <;> simp [unset]
  rw [merge_merge, merge_merge, same]

end Merge
end Options

/-! ## Files -/

/-- The key of a field in a file. -/
def Field.key : Field → String
  | .seeds => "seeds"
  | .baseDir => "base_dir"
  | .resolver => "resolver"
  | .generatorWorkers => "generator_workers"
  | .transferWorkers => "xfr_workers"
  | .scannerWorkers => "scanner_workers"
  | .generatorHeartbeat => "generator_heartbeat"
  | .transferHeartbeat => "xfr_heartbeat"
  | .scannerHeartbeat => "scanner_heartbeat"
  | .hostQueue => "host_queue"
  | .transferQueue => "xfr_queue"
  | .batchSize => "batch_size"
  | .timeout => "timeout"
  | .fingerTimeout => "finger_timeout"
  | .webTimeout => "http_timeout"
  | .snmpCommunity => "snmp_community"
  | .snmpTimeout => "snmp_timeout"
  | .zonePort => "xfr_port"

/-- How a field is read. -/
def Field.read : (f : Field) → Toml.Value → Except Error f.Value
  | .seeds => Config.asTexts
  | .baseDir => Config.asText
  | .resolver => Config.asText
  | .generatorWorkers => Config.asNatural (UInt64.size - 1)
  | .transferWorkers => Config.asNatural (UInt64.size - 1)
  | .scannerWorkers => Config.asNatural (UInt64.size - 1)
  | .generatorHeartbeat => Config.asNatural (UInt64.size - 1)
  | .transferHeartbeat => Config.asNatural (UInt64.size - 1)
  | .scannerHeartbeat => Config.asNatural (UInt64.size - 1)
  | .hostQueue => Config.asNatural (UInt64.size - 1)
  | .transferQueue => Config.asNatural (UInt64.size - 1)
  | .batchSize => Config.asNatural (UInt64.size - 1)
  | .timeout => Config.asNatural (UInt64.size - 1)
  | .fingerTimeout => Config.asNatural (UInt64.size - 1)
  | .webTimeout => Config.asNatural (UInt64.size - 1)
  | .snmpCommunity => Config.asText
  | .snmpTimeout => Config.asNatural (UInt64.size - 1)
  | .zonePort => Config.asPort

theorem bind_eq_ok {ε α β : Type} {first : Except ε α} {next : α → Except ε β} {b : β} :
    first >>= next = .ok b ↔ ∃ a, first = .ok a ∧ next a = .ok b := by
  cases first with
  | error e => exact ⟨fun failed => (nomatch failed), fun ⟨_, failed, _⟩ => (nomatch failed)⟩
  | ok a => exact ⟨fun ended => ⟨a, rfl, ended⟩, fun ⟨_, same, ended⟩ => Except.ok.inj same ▸ ended⟩

/-- Each field is read from the value of its own key, and says nothing if there is none. -/
theorem ofEntries_get? {entries : Entries} {c : Config} (read : Config.ofEntries entries = .ok c) (f : Field) :
    Config.setting f.read entries f.key = .ok (c.get? f) := by
  simp only [Config.ofEntries, bind_eq_ok] at read
  obtain ⟨_, seeds, _, baseDir, _, resolver, _, generatorWorkers, _, transferWorkers, _, scannerWorkers,
    _, generatorHeartbeat, _, transferHeartbeat, _, scannerHeartbeat, _, hostQueue, _, transferQueue, _, batchSize,
    _, timeout, _, fingerTimeout, _, webTimeout, _, snmpCommunity, _, snmpTimeout, _, zonePort, whole⟩ := read
  cases whole
  cases f <;> assumption

/-! ## The main theorem -/

/-- What merging a configuration comes to. -/
structure Overrides (o : Options) (c : Config) : Prop where
  /-- A configuration that is to be ignored changes nothing. -/
  ignored : o.ignoreConfig = true → o.merge c = o
  /-- Any other one replaces the fields that it sets. -/
  set : o.ignoreConfig = false → ∀ f value, c.get? f = some value → (o.merge c).get? f = some value
  kept : ∀ f, c.get? f = none → (o.merge c).get? f = o.get? f
  /-- It cannot say whether it counts, nor where it is. -/
  flag : (o.merge c).ignoreConfig = o.ignoreConfig
  path : (o.merge c).configPath = o.configPath
  empty : o.merge {} = o
  again : (o.merge c).merge c = o.merge c
  /-- A later configuration wins over an earlier one, field by field. -/
  later : ∀ d, (o.merge c).merge d = o.merge (d.atop c)
  /-- If no field is set by both, the order does not matter. -/
  swap : ∀ d, (∀ f, c.get? f = none ∨ d.get? f = none) → (o.merge c).merge d = (o.merge d).merge c

/-- **A configuration overrides field by field.** Whatever the options are and whatever a configuration sets, it
replaces just what it sets, unless it is to be ignored. -/
theorem a_configuration_overrides_field_by_field (o : Options) (c : Config) : Overrides o c := by
  constructor
  case ignored => exact fun ignored => Options.merge_ignored ignored c
  case set =>
    intro heeded f value said
    rw [Options.get?_merge heeded, said, Option.some_or]
  case kept =>
    intro f unset
    cases ignores : o.ignoreConfig with
    | true => rw [Options.merge_ignored ignores]
    | false => rw [Options.get?_merge ignores, unset, Option.none_or]
  case flag => exact Options.merge_ignoreConfig o c
  case path => exact Options.merge_configPath o c
  case empty => exact Options.merge_empty o
  case again => exact Options.merge_again o c
  case later => exact fun d => Options.merge_merge o c d
  case swap => exact fun d apart => Options.merge_swap apart o

/-- The second configuration wins where both set a field. -/
example : ((Options.merge { ignoreConfig := false, timeout := 1 } { timeout := some 2, hostQueue := some 3 }).merge
    { timeout := some 4 }) = { ignoreConfig := false, timeout := 4, hostQueue := some 3 } := by
  decide

end HostSurvey.Settings

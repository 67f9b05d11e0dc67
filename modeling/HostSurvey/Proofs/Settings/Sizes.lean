import HostSurvey.Proofs.Settings.Merging
import HostSurvey.Settings.CommandLine
import Mathlib
/-!
# Sizes and heartbeats

Counts and times have 64 bits, wherever they come from, and what follows from them is computed with as many.

1. Whoever reads command lines and configurations reads no more (`Readers`), and merging makes nothing longer
   (`merge_fits`). So all options of a run fit (`accepted_fits`). The program's own readers refuse what is longer
   (`ofArguments_fits`, `parse_fits`).
2. A size that is not said is a multiple of a count. It is never zero, and it is the multiple if that fits. Else its
   upper bits are lost (`isSize_multiple`).
3. A heartbeat of zero is read as any other one and passed on. So the settings that follow from options that fit are
   what they are meant to be if and only if no multiple is too long and no heartbeat is zero (`settles_of_fits`), and
   those of a run are among them (`settings_are_usable_within_bounds`).
-/
namespace HostSurvey.Settings

/-! ## Fields of 64 bits -/

/-- A number in a field has no more than 64 bits. -/
def Field.Fits : (f : Field) → f.Value → Prop
  | .seeds, _ => True
  | .baseDir, _ => True
  | .resolver, _ => True
  | .generatorWorkers, n => n < 2 ^ 64
  | .transferWorkers, n => n < 2 ^ 64
  | .scannerWorkers, n => n < 2 ^ 64
  | .generatorHeartbeat, n => n < 2 ^ 64
  | .transferHeartbeat, n => n < 2 ^ 64
  | .scannerHeartbeat, n => n < 2 ^ 64
  | .hostQueue, n => n < 2 ^ 64
  | .transferQueue, n => n < 2 ^ 64
  | .batchSize, n => n < 2 ^ 64
  | .timeout, n => n < 2 ^ 64
  | .fingerTimeout, n => n < 2 ^ 64
  | .webTimeout, n => n < 2 ^ 64
  | .snmpCommunity, _ => True
  | .snmpTimeout, n => n < 2 ^ 64
  | .zonePort, _ => True

/-- All that options say fits. -/
def Options.Fits (o : Options) : Prop := ∀ f value, o.get? f = some value → f.Fits value

/-- All that a configuration sets fits. -/
def Config.Fits (c : Config) : Prop := ∀ f value, c.get? f = some value → f.Fits value

theorem standard_fits : Options.Fits {} := by
  intro f value said
  cases f <;> cases said <;> simp [Field.Fits]

namespace Options

/-- The options with one field said otherwise. -/
def set (o : Options) : (f : Field) → f.Value → Options
  | .seeds, value => { o with seeds := value }
  | .baseDir, value => { o with baseDir := some value }
  | .resolver, value => { o with resolver := some value }
  | .generatorWorkers, value => { o with generatorWorkers := value }
  | .transferWorkers, value => { o with transferWorkers := value }
  | .scannerWorkers, value => { o with scannerWorkers := value }
  | .generatorHeartbeat, value => { o with generatorHeartbeat := value }
  | .transferHeartbeat, value => { o with transferHeartbeat := value }
  | .scannerHeartbeat, value => { o with scannerHeartbeat := value }
  | .hostQueue, value => { o with hostQueue := some value }
  | .transferQueue, value => { o with transferQueue := some value }
  | .batchSize, value => { o with batchSize := some value }
  | .timeout, value => { o with timeout := value }
  | .fingerTimeout, value => { o with fingerTimeout := value }
  | .webTimeout, value => { o with webTimeout := value }
  | .snmpCommunity, value => { o with snmpCommunity := value }
  | .snmpTimeout, value => { o with snmpTimeout := value }
  | .zonePort, value => { o with zonePort := value }

section Set
variable {o p : Options} {f g : Field} {c : Config}

theorem get?_set_self (o : Options) (f : Field) (value : f.Value) : (o.set f value).get? f = some value := by
  cases f <;> rfl

theorem get?_set_other (other : g ≠ f) (o : Options) (value : f.Value) : (o.set f value).get? g = o.get? g := by
  cases f <;> cases g <;> first | rfl | exact absurd rfl other

theorem set_fits (fits : o.Fits) {value : f.Value} (own : f.Fits value) : (o.set f value).Fits := by
  intro g found said
  by_cases same : g = f
  · subst same
    rw [get?_set_self] at said
    exact Option.some.inj said ▸ own
  · rw [get?_set_other same] at said
    exact fits g found said

theorem merge_fits (fits : o.Fits) (also : c.Fits) : (o.merge c).Fits := by
  cases ignores : o.ignoreConfig with
  | true => rwa [merge_ignored ignores]
  | false =>
    intro f value said
    rw [get?_merge ignores, Option.or_eq_some_iff] at said
    rcases said with set | ⟨_, kept⟩
    · exact also f value set
    · exact fits f value kept

end Set
end Options

/-! ## The command line -/

theorem readDigits_le {greatest front n : Nat} {digits : List Char} (small : front ≤ greatest)
    (read : Text.readDigits greatest front digits = .ok n) : n ≤ greatest := by
  induction digits generalizing front with
  | nil =>
    cases read
    exact small
  | cons c rest ih =>
    simp only [Text.readDigits] at read
    split at read
    · split at read
      · rename_i fits
        exact ih fits read
      · cases read
    · cases read

theorem readNatural_le {greatest n : Nat} {text : List Char} (read : Text.readNatural greatest text = .ok n) :
    n ≤ greatest := by
  unfold Text.readNatural at read
  split at read
  · cases read
  · cases read
  · exact readDigits_le (Nat.zero_le _) read
  · exact readDigits_le (Nat.zero_le _) read

theorem readWord_lt {text : String} {n : Nat} (read : readWord text = .ok n) : n < 2 ^ 64 := by
  unfold readWord at read
  split at read
  · rename_i found
    cases read
    exact Nat.lt_succ_of_le (readNatural_le found)
  · cases read

/-- The options come from others by setting a field to something that fits. -/
def SetsField (o p : Options) : Prop := ∃ (f : Field) (value : f.Value), f.Fits value ∧ p = o.set f value

section Follow
variable {o p : Options}

theorem word_sets {text : String} (f : Field) (told : Nat → f.Value) (fits : ∀ n, n < 2 ^ 64 → f.Fits (told n))
    (followed : (do return o.set f (told (← readWord text))) = Except.ok p) : SetsField o p := by
  obtain ⟨n, read, same⟩ := bind_eq_ok.mp followed
  cases same
  exact ⟨f, told n, fits n (readWord_lt read), rfl⟩

/-- An option on the command line sets a field, or none. -/
theorem follow_cases {key : OptionKey} {text : String} (followed : o.follow key text = .ok p) :
    SetsField o p ∨ ∀ f, p.get? f = o.get? f := by
  cases key with
  | seeds =>
    cases followed
    exact .inl ⟨.seeds, _, trivial, rfl⟩
  | noConfig =>
    cases followed
    exact .inr fun f => by cases f <;> rfl
  | configPath =>
    obtain ⟨path, _, same⟩ := bind_eq_ok.mp followed
    cases same
    exact .inr fun f => by cases f <;> rfl
  | baseDir =>
    obtain ⟨path, _, same⟩ := bind_eq_ok.mp followed
    cases same
    exact .inl ⟨.baseDir, path, trivial, rfl⟩
  | resolver =>
    cases followed
    exact .inl ⟨.resolver, text, trivial, rfl⟩
  | snmpCommunity =>
    cases followed
    exact .inl ⟨.snmpCommunity, text, trivial, rfl⟩
  | xfrPort =>
    obtain ⟨port, _, same⟩ := bind_eq_ok.mp followed
    cases same
    exact .inl ⟨.zonePort, port, trivial, rfl⟩
  | generatorWorkers => exact .inl (word_sets .generatorWorkers id (fun _ small => small) followed)
  | xfrWorkers => exact .inl (word_sets .transferWorkers id (fun _ small => small) followed)
  | scannerWorkers => exact .inl (word_sets .scannerWorkers id (fun _ small => small) followed)
  | generatorHeartbeat => exact .inl (word_sets .generatorHeartbeat id (fun _ small => small) followed)
  | xfrHeartbeat => exact .inl (word_sets .transferHeartbeat id (fun _ small => small) followed)
  | scannerHeartbeat => exact .inl (word_sets .scannerHeartbeat id (fun _ small => small) followed)
  | hostQueue => exact .inl (word_sets .hostQueue id (fun _ small => small) followed)
  | xfrQueue => exact .inl (word_sets .transferQueue id (fun _ small => small) followed)
  | batchSize => exact .inl (word_sets .batchSize id (fun _ small => small) followed)
  | timeout => exact .inl (word_sets .timeout id (fun _ small => small) followed)
  | fingerTimeout => exact .inl (word_sets .fingerTimeout id (fun _ small => small) followed)
  | httpTimeout => exact .inl (word_sets .webTimeout id (fun _ small => small) followed)
  | snmpTimeout => exact .inl (word_sets .snmpTimeout id (fun _ small => small) followed)
  | help | version => cases followed

theorem follow_fits (fits : o.Fits) {key : OptionKey} {text : String} (followed : o.follow key text = .ok p) :
    p.Fits := by
  rcases follow_cases followed with ⟨f, value, own, rfl⟩ | same
  · exact Options.set_fits fits own
  · exact fun f value said => fits f value (same f ▸ said)

end Follow

namespace Progress

variable {p q : Progress} {key : OptionKey}

theorem take_fits (fits : p.options.Fits) {text : String} (taken : p.take key text = .ok q) : q.options.Fits := by
  unfold take at taken
  split at taken
  · cases taken
  · obtain ⟨options, followed, same⟩ := bind_eq_ok.mp taken
    cases same
    exact follow_fits fits followed

theorem settle_fits (fits : p.options.Fits) (settled : p.settle = .ok q) : q.options.Fits := by
  unfold settle at settled
  split at settled
  · cases settled
    exact fits
  · cases settled
  · refine take_fits ?_ settled
    exact fits

theorem meet_fits (fits : p.options.Fits) {attached : Option String} (met : p.meet key attached = .ok q) :
    q.options.Fits := by
  unfold meet at met
  obtain ⟨between, settled, rest⟩ := bind_eq_ok.mp met
  have before := settle_fits fits settled
  split at rest
  · exact take_fits before rest
  · split at rest
    · cases rest
      exact before
    · exact take_fits before rest

theorem meetLetters_fits (fits : p.options.Fits) {letters : List Char} (met : p.meetLetters letters = .ok q) :
    q.options.Fits := by
  induction letters generalizing p with
  | nil =>
    cases met
    exact fits
  | cons c rest ih =>
    unfold meetLetters at met
    split at met
    · cases met
    · split at met
      · split at met
        · exact meet_fits fits met
        · exact meet_fits fits met
        · exact meet_fits fits met
      · obtain ⟨between, first, later⟩ := bind_eq_ok.mp met
        exact ih (meet_fits fits first) later

theorem meetName_fits (fits : p.options.Fits) {text : List Char} (met : p.meetName text = .ok q) :
    q.options.Fits := by
  unfold meetName at met
  extract_lets name attached at met
  split at met
  · cases met
  · split at met
    · cases met
    · exact meet_fits fits met

theorem follow_fits (fits : p.options.Fits) {arguments : List String} (followed : p.follow arguments = .ok q) :
    q.options.Fits := by
  induction arguments generalizing p with
  | nil => exact settle_fits fits followed
  | cons argument rest ih =>
    unfold follow at followed
    split at followed
    · split at followed
      · exact settle_fits fits followed
      · cases followed
    · obtain ⟨between, first, later⟩ := bind_eq_ok.mp followed
      exact ih (meetName_fits fits first) later
    · obtain ⟨between, first, later⟩ := bind_eq_ok.mp followed
      exact ih (meetLetters_fits fits first) later
    · split at followed
      · refine ih ?_ followed
        exact fits
      · cases followed

end Progress

/-- What the command line says fits. -/
theorem ofArguments_fits {arguments : List String} {o : Options} (read : Options.ofArguments arguments = .ok o) :
    o.Fits := by
  obtain ⟨p, followed, same⟩ := bind_eq_ok.mp read
  cases same
  exact Progress.follow_fits (fun f value said => standard_fits f value (by cases f <;> exact said)) followed

/-! ## The configuration -/

theorem asNatural_le {greatest n : Nat} {value : Toml.Value} (read : Config.asNatural greatest value = .ok n) :
    n ≤ greatest := by
  unfold Config.asNatural at read
  split at read
  · split at read
    · rename_i within
      cases read
      exact Int.toNat_le.mpr within.2
    · cases read
  · cases read

theorem Field.read_fits {f : Field} {value : Toml.Value} {told : f.Value} (read : f.read value = .ok told) :
    f.Fits told := by
  cases f with
  | seeds | baseDir | resolver | snmpCommunity | zonePort => trivial
  | _ => exact Nat.lt_succ_of_le (asNatural_le read)

/-- What a configuration sets fits. -/
theorem parse_fits {text : String} {c : Config} (read : Config.parse text = .ok c) : c.Fits := by
  unfold Config.parse at read
  split at read
  · rename_i entries _
    intro f told set
    have own := ofEntries_get? read f
    rw [set, Config.setting] at own
    split at own
    · cases own
    · rename_i value _
      cases found : f.read value with
      | error e => simp [found, Except.map] at own
      | ok other =>
        rw [found] at own
        cases own
        exact Field.read_fits found
  · cases read

/-! ## Accepted options -/

/-- Readers of command lines and of configurations. Which of them they accept, and what they find there, is for each
library to say; counts and times are read as numbers of 64 bits. -/
structure Readers where
  /-- The options that a command line asks for (`Opts::parse`). -/
  arguments : List String → Except UsageFault Options
  /-- The configuration that a text writes (`toml::from_str`). -/
  configuration : String → Except Error Config
  argumentsFit : ∀ {told o}, arguments told = .ok o → o.Fits
  configurationFits : ∀ {text c}, configuration text = .ok c → c.Fits

/-- The readers that the program runs with. -/
def Readers.standard : Readers where
  arguments := Options.ofArguments
  configuration := Config.parse
  argumentsFit := ofArguments_fits
  configurationFits := parse_fits

/-- The options that command lines and configurations come to. -/
inductive Accepted (readers : Readers) : Options → Prop where
  | standard : Accepted readers {}
  | told {arguments : List String} {o : Options} (read : readers.arguments arguments = .ok o) : Accepted readers o
  | merged {o : Options} {text : String} {c : Config} (before : Accepted readers o)
      (read : readers.configuration text = .ok c) : Accepted readers (o.merge c)

theorem accepted_fits {readers : Readers} {o : Options} (accepted : Accepted readers o) : o.Fits := by
  induction accepted with
  | standard => exact standard_fits
  | told read => exact readers.argumentsFit read
  | merged _ read before => exact Options.merge_fits before (readers.configurationFits read)

/-! ## Sizes -/

/-- The size that is meant: what is said or else what is usual, and at least one. -/
def meant (said : Option Nat) (usual : Nat) : Nat := max (said.getD usual) 1

/-- What is true of a size that was computed with 64 bits. -/
structure IsSize (said : Option Nat) (usual size : Nat) : Prop where
  positive : 1 ≤ size
  fits : size < 2 ^ 64
  /-- It is what is meant if it is said, or if what is usual fits. -/
  exact : size = meant said usual ↔ said ≠ none ∨ usual < 2 ^ 64
  /-- If it is not said, the upper bits of what is usual are lost. -/
  lost : said = none → size = max (usual % 2 ^ 64) 1

theorem multiple_eq_iff {factor count : Nat} : multiple factor count = factor * count ↔ factor * count < 2 ^ 64 := by
  show factor * count % 2 ^ 64 = factor * count ↔ _
  omega

theorem isSize_multiple {said : Option Nat} (fits : ∀ n, said = some n → n < 2 ^ 64) (factor count : Nat) :
    IsSize said (factor * count) (max (said.getD (multiple factor count)) 1) := by
  have short : multiple factor count = factor * count % 2 ^ 64 := rfl
  cases said with
  | none =>
    rw [Option.getD_none, short]
    refine ⟨?_, ?_, ?_, fun _ => rfl⟩
    · omega
    · omega
    · simp only [meant, Option.getD_none, ne_eq, not_true_eq_false, false_or]
      omega
  | some n =>
    have small := fits n rfl
    refine ⟨Nat.le_max_right _ _, ?_, ?_, nofun⟩
    · rw [Option.getD_some]
      omega
    · simp [meant]

theorem ofMillis_pos {n : Nat} : 0 < (Elapsed.ofMillis n).nanos ↔ 0 < n := by
  show 0 < n * 1000000 ↔ _
  omega

/-! ## Settings -/

/-- The settings of the facilities are as they are meant: no multiple is cut, no size differs from what is said or
usual, and a clock can be set to each heartbeat. -/
structure IsUsable (home : String) (o : Options) : Prop where
  multiples : multiple 2 o.generatorWorkers = 2 * o.generatorWorkers ∧
    multiple 2 o.scannerWorkers = 2 * o.scannerWorkers ∧ multiple 10 o.scannerWorkers = 10 * o.scannerWorkers
  hosts : o.generator.queueSize = meant o.hostQueue (2 * o.generatorWorkers)
  transfers : (o.transfer home).queueSize = meant o.transferQueue o.transferWorkers
  batch : o.scanner.batchSize = meant o.batchSize (10 * o.scannerWorkers)
  requests : o.scanner.queueSize = meant none (2 * o.scannerWorkers)
  heartbeats : 0 < o.generator.heartbeat.nanos ∧ 0 < (o.transfer home).heartbeat.nanos ∧
    0 < o.scanner.heartbeat.nanos

/-- What the settings that follow from options come to. -/
structure Settles (home : String) (o : Options) : Prop where
  /-- They are as they are meant just within these bounds. -/
  usable : IsUsable home o ↔ 2 * o.generatorWorkers < 2 ^ 64 ∧ 10 * o.scannerWorkers < 2 ^ 64 ∧
    0 < o.generatorHeartbeat ∧ 0 < o.transferHeartbeat ∧ 0 < o.scannerHeartbeat
  /-- No size is ever zero, or longer than it can be. -/
  hosts : IsSize o.hostQueue (2 * o.generatorWorkers) o.generator.queueSize
  transfers : IsSize o.transferQueue o.transferWorkers (o.transfer home).queueSize
  batch : IsSize o.batchSize (10 * o.scannerWorkers) o.scanner.batchSize
  requests : IsSize none (2 * o.scannerWorkers) o.scanner.queueSize
  /-- The queue of transfers is always as it is meant. -/
  counted : (o.transfer home).queueSize = meant o.transferQueue o.transferWorkers

/-- All sizes are at least one. They are what is said or usual, and all heartbeats are longer than nothing, if and only
if the multiples of the counts have no more than 64 bits and no heartbeat is zero. -/
theorem settles_of_fits {o : Options} (fits : o.Fits) (home : String) : Settles home o := by
  have workers : o.transferWorkers < 2 ^ 64 := fits .transferWorkers _ rfl
  have hosts : IsSize o.hostQueue (2 * o.generatorWorkers) o.generator.queueSize :=
    isSize_multiple (fits .hostQueue) 2 _
  have batch : IsSize o.batchSize (10 * o.scannerWorkers) o.scanner.batchSize :=
    isSize_multiple (fits .batchSize) 10 _
  have requests : IsSize none (2 * o.scannerWorkers) o.scanner.queueSize := isSize_multiple (by simp) 2 _
  have transfers : IsSize o.transferQueue o.transferWorkers (o.transfer home).queueSize := by
    have sized := isSize_multiple (fits .transferQueue) 1 o.transferWorkers
    rwa [multiple_eq_iff.mpr (by omega), Nat.one_mul] at sized
  have counted : (o.transfer home).queueSize = meant o.transferQueue o.transferWorkers :=
    transfers.exact.mpr (.inr workers)
  refine ⟨⟨?_, ?_⟩, hosts, transfers, batch, requests, counted⟩
  · intro usable
    obtain ⟨drawn, _, fed⟩ := usable.multiples
    obtain ⟨generator, transfer, scanner⟩ := usable.heartbeats
    exact ⟨multiple_eq_iff.mp drawn, multiple_eq_iff.mp fed, ofMillis_pos.mp generator, ofMillis_pos.mp transfer,
      ofMillis_pos.mp scanner⟩
  · rintro ⟨drawn, fed, generator, transfer, scanner⟩
    have waiting : 2 * o.scannerWorkers < 2 ^ 64 := by omega
    constructor
    case multiples => exact ⟨multiple_eq_iff.mpr drawn, multiple_eq_iff.mpr waiting, multiple_eq_iff.mpr fed⟩
    case hosts => exact hosts.exact.mpr (.inr drawn)
    case transfers => exact counted
    case batch => exact batch.exact.mpr (.inr fed)
    case requests => exact requests.exact.mpr (.inr waiting)
    case heartbeats => exact ⟨ofMillis_pos.mpr generator, ofMillis_pos.mpr transfer, ofMillis_pos.mpr scanner⟩

/-! ## The main theorem -/

/-- **Settings are usable within bounds.** Whatever reads them, and whatever command line and configurations the options
come from: no size of the settings is zero, and the settings are as they are meant if and only if the multiples of the
counts have no more than 64 bits and no heartbeat was set to zero. -/
theorem settings_are_usable_within_bounds {readers : Readers} {o : Options} (accepted : Accepted readers o)
    (home : String) : Settles home o :=
  settles_of_fits (accepted_fits accepted) home

/-- Options of a command line, and a configuration over them. -/
private def usual : Options :=
  Options.merge { ignoreConfig := false, generatorWorkers := 3, scannerWorkers := 5 } { hostQueue := some 0 }

private theorem usual_accepted : Accepted .standard usual := by
  have told : Options.ofArguments ["--generator-workers=3", "--scanner-workers", "5"] =
      .ok { ignoreConfig := false, generatorWorkers := 3, scannerWorkers := 5 } := by cbv
  have read : Config.parse "host_queue=0" = .ok { hostQueue := some 0 } := by cbv
  exact .merged (.told told) read

/-- A size of zero is raised, and a size that is not said follows from the count. -/
theorem sizes_of_three_drawers_and_five_probers : Accepted .standard usual ∧ Settles "/home" usual ∧
    IsUsable "/home" usual ∧ usual.generator.queueSize = 1 ∧ usual.scanner.batchSize = 50 ∧
    usual.scanner.queueSize = 10 := by
  have settled := settings_are_usable_within_bounds usual_accepted "/home"
  refine ⟨usual_accepted, settled, settled.usable.mpr ?_, ?_⟩
  · decide
  · decide

/-- As many drawing workers as half of all counts, and a heartbeat of zero. -/
private def crowded : Options :=
  { ignoreConfig := false, generatorWorkers := 9223372036854775808, scannerHeartbeat := 0 }

/-- Twice the workers are one more than the greatest count, so that the queue has room for one host. The heartbeat is
passed on as it is. -/
theorem a_product_wraps_and_a_heartbeat_is_zero :
    Options.ofArguments ["--generator-workers", "9223372036854775808", "--scanner-heartbeat", "0"] = .ok crowded ∧
    Accepted .standard crowded ∧ crowded.generator.queueSize = 1 ∧
    meant crowded.hostQueue (2 * crowded.generatorWorkers) = 18446744073709551616 ∧
    crowded.scanner.heartbeat.nanos = 0 ∧ ¬ IsUsable "/home" crowded := by
  have told : Options.ofArguments ["--generator-workers", "9223372036854775808", "--scanner-heartbeat", "0"] =
      .ok crowded := by cbv
  have size : crowded.generator.queueSize = 1 := by decide
  have whole : meant crowded.hostQueue (2 * crowded.generatorWorkers) = 18446744073709551616 := by decide
  refine ⟨told, .told told, size, whole, rfl, fun usable => ?_⟩
  have same := usable.hosts
  rw [size, whole] at same
  exact absurd same (by decide)

end HostSurvey.Settings

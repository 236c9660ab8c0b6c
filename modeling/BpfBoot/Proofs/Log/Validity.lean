import BpfBoot.Proofs.Log.Routing
import BpfBoot.Proofs.Text.Trimming

/-!
# Entries of the configuration that make no channel

The checks of an entry run in a fixed order, and the first one that fails names what is wrong with the entry.
They are stated here on the fields of the entry. Only an enabled entry is checked: as long as the files of the
logs can be opened, logging fails to begin for the first fault of an enabled entry and for nothing else.
-/

namespace BpfBoot

open Log (ConfigError)

/-- The text is the name of a rotation, in letters of any case and with white space around it. -/
def NamesRotation (s : String) : Prop :=
  ∃ name ∈ ["hourly", "daily", "never"], Text.Spells s name

namespace LogEntry

/-- The targets that need nothing besides their name. -/
def plainTargets : List String := ["stderr", "stdout", "kmsg"]

/-- The entry describes a channel. -/
inductive IsValid (e : LogEntry) : Prop where
  | plain (h : e.target ∈ plainTargets) : IsValid e
  | file {directory fileName : String} (htarget : e.target = "file") (hdirectory : e.directory = some directory)
      (hname : e.fileName = some fileName) (hrotation : ∀ r, e.rotation = some r → NamesRotation r) : IsValid e

/-- The first check that the entry fails, named by its error. Each check comes after those that the earlier
errors name. -/
inductive Fails (e : LogEntry) : ConfigError → Prop where
  | target (hplain : e.target ∉ plainTargets) (hfile : e.target ≠ "file") :
      Fails e (.invalid "Invalid log target" e.target)
  | directory (htarget : e.target = "file") (h : e.directory = none) : Fails e (.missing "directory")
  | fileName {directory : String} (htarget : e.target = "file") (hdirectory : e.directory = some directory)
      (h : e.fileName = none) : Fails e (.missing "prefix")
  | rotation {directory fileName r : String} (htarget : e.target = "file")
      (hdirectory : e.directory = some directory) (hname : e.fileName = some fileName)
      (hrotation : e.rotation = some r) (h : ¬ NamesRotation r) : Fails e (.invalid "Invalid log rotation" r)

theorem isValid_or_fails (e : LogEntry) : e.IsValid ∨ ∃ error, e.Fails error := by
  -- One case for each check, in their order; an entry that gets through all of them is valid.
  by_cases hplain : e.target ∈ plainTargets
  · exact .inl (.plain hplain)
  by_cases htarget : e.target = "file"
  case neg => exact .inr ⟨_, .target hplain htarget⟩
  cases hdirectory : e.directory with
  | none => exact .inr ⟨_, .directory htarget hdirectory⟩
  | some directory =>
    cases hname : e.fileName with
    | none => exact .inr ⟨_, .fileName htarget hdirectory hname⟩
    | some fileName =>
      by_cases hrotation : ∃ r, e.rotation = some r ∧ ¬ NamesRotation r
      · obtain ⟨r, hr, hnot⟩ := hrotation
        exact .inr ⟨_, .rotation htarget hdirectory hname hr hnot⟩
      · exact .inl (.file htarget hdirectory hname fun r hr =>
          Classical.not_not.mp fun hnot => hrotation ⟨r, hr, hnot⟩)

/-- The entry but for its format. -/
def unformatted (e : LogEntry) : LogEntry := { e with format := none }

end LogEntry

/-- The configuration but for the formats. -/
def LogsConfig.unformatted (config : LogsConfig) : LogsConfig :=
  ⟨config.default.unformatted, config.errors.map LogEntry.unformatted⟩

namespace Log

open LogEntry (plainTargets)

/-! ## One entry -/

theorem normalWord_eq_iff {word : String} (hword : word.toList.any Text.isSpace = false) (s : String) :
    normalWord s = word ↔ Text.Spells s word :=
  Text.asciiLower_trim_eq_iff hword s

theorem Rotation.parse?_eq_none_iff (s : String) : Rotation.parse? s = none ↔ ¬ NamesRotation s := by
  have hnames : NamesRotation s
      ↔ normalWord s = "hourly" ∨ normalWord s = "daily" ∨ normalWord s = "never" := by
    simp only [NamesRotation, List.mem_cons, List.not_mem_nil, or_false, exists_eq_or_imp, exists_eq_left]
    rw [normalWord_eq_iff (by decide), normalWord_eq_iff (by decide), normalWord_eq_iff (by decide)]
  rw [hnames, Rotation.parse?]
  split <;> simp_all

theorem Channel.ofEntry_of_file {e : LogEntry} (htarget : e.target = "file") :
    Channel.ofEntry e
      = (LogFile.ofEntry e).map fun f => ⟨.file f, Format.parse (e.format.getD "full")⟩ := by
  simp only [Channel.ofEntry, Target.ofEntry, htarget]
  cases LogFile.ofEntry e <;> rfl

theorem Channel.ofEntry_of_plain {e : LogEntry} (h : e.target ∈ plainTargets) :
    ∃ c, Channel.ofEntry e = .ok c := by
  simp only [plainTargets, List.mem_cons, List.not_mem_nil, or_false] at h
  rcases h with h | h | h <;> exact ⟨_, by simp only [Channel.ofEntry, Target.ofEntry, h]; rfl⟩

theorem Channel.ofEntry_of_fails {e : LogEntry} {error : ConfigError} (h : e.Fails error) :
    Channel.ofEntry e = .error error := by
  cases h with
  | target hplain hfile =>
    simp only [plainTargets, List.mem_cons, List.not_mem_nil, or_false, not_or] at hplain
    obtain ⟨hstderr, hstdout, hkmsg⟩ := hplain
    simp only [Channel.ofEntry, Target.ofEntry]
    rfl
  | directory htarget h =>
    rw [ofEntry_of_file htarget, LogFile.ofEntry, h]
    rfl
  | fileName htarget hdirectory h =>
    rw [ofEntry_of_file htarget, LogFile.ofEntry, hdirectory, h]
    rfl
  | rotation htarget hdirectory hname hrotation h =>
    rw [ofEntry_of_file htarget, LogFile.ofEntry, hdirectory, hname, hrotation, Option.getD_some]
    simp only [(Rotation.parse?_eq_none_iff _).mpr h]
    rfl

theorem LogFile.exists_ofEntry {e : LogEntry} {directory fileName : String}
    (hdirectory : e.directory = some directory) (hname : e.fileName = some fileName)
    (hrotation : ∀ r, e.rotation = some r → NamesRotation r) : ∃ f, LogFile.ofEntry e = .ok f := by
  have hparse : ∃ rotation, Rotation.parse? (e.rotation.getD "never") = some rotation := by
    cases hr : e.rotation with
    | none => exact ⟨.never, by decide +kernel⟩
    | some r =>
      refine Option.ne_none_iff_exists'.mp fun hnone => ?_
      exact (Rotation.parse?_eq_none_iff r).mp hnone (hrotation r hr)
  obtain ⟨rotation, hparse⟩ := hparse
  refine ⟨⟨directory, fileName, rotation, e.maxFiles.getD defaultMaxFiles⟩, ?_⟩
  rw [LogFile.ofEntry, hdirectory, hname]
  simp only [hparse]
  rfl

theorem Channel.ofEntry_of_isValid {e : LogEntry} (h : e.IsValid) : ∃ c, Channel.ofEntry e = .ok c := by
  cases h with
  | plain h => exact ofEntry_of_plain h
  | file htarget hdirectory hname hrotation =>
    obtain ⟨f, hf⟩ := LogFile.exists_ofEntry hdirectory hname hrotation
    exact ⟨_, by rw [ofEntry_of_file htarget, hf]; rfl⟩

theorem Channel.ofEntry_error_iff {e : LogEntry} {error : ConfigError} :
    Channel.ofEntry e = .error error ↔ e.Fails error := by
  refine ⟨fun h => ?_, ofEntry_of_fails⟩
  -- What the entry fails by its fields is what it is refused for, so there is no other error to consider.
  rcases e.isValid_or_fails with hvalid | ⟨error', hfails⟩
  · obtain ⟨c, hc⟩ := ofEntry_of_isValid hvalid
    rw [hc] at h
    cases h
  · rw [ofEntry_of_fails hfails] at h
    cases h
    exact hfails

theorem exists_fails_iff {e : LogEntry} : (∃ error, e.Fails error) ↔ ¬ e.IsValid := by
  refine ⟨fun ⟨error, hfails⟩ hvalid => ?_, e.isValid_or_fails.resolve_left⟩
  obtain ⟨c, hc⟩ := Channel.ofEntry_of_isValid hvalid
  rw [Channel.ofEntry_of_fails hfails] at hc
  cases hc

/-! ## Two entries -/

namespace Destination

/-- The place has an entry that is enabled and fails a check. -/
def Fails (config : LogsConfig) (d : Destination) (error : ConfigError) : Prop :=
  ∃ e, d.entry? config = some e ∧ e.enable = true ∧ e.Fails error

end Destination

/-- The first check that an enabled entry of the configuration fails. The default entry is looked at first. -/
inductive FirstFault (config : LogsConfig) : ConfigError → Prop where
  | default {error : ConfigError} (h : Destination.default.Fails config error) : FirstFault config error
  | errors {error : ConfigError} (hdefault : ∀ error, ¬ Destination.default.Fails config error)
      (h : Destination.errors.Fails config error) : FirstFault config error

/-- If the entry makes a log in files, the files can be opened. -/
def AppenderOpens (entry : Option LogEntry) (clock : Clock) (fs : Files) (console : Console) : Prop :=
  ∀ c f, channelOf? entry = .ok (some c) → c.target = .file f →
    ∃ opened, (f.begin clock fs console).1 = .ok opened

/-- The files of both logs can be opened, those of the second one in the state that the first one leaves. -/
structure AppendersOpen (config : LogsConfig) (clock : Clock) (fs : Files) (console : Console) : Prop where
  default : AppenderOpens (some config.default) clock fs console
  errors : AppenderOpens config.errors clock (openEntry (some config.default) clock fs console).2.1
    (openEntry (some config.default) clock fs console).2.2

theorem appenderOpens_of_file (f : LogFile) (format : Format) {entry : Option LogEntry} {clock : Clock}
    {fs : Files} {console : Console} (hc : channelOf? entry = .ok (some ⟨.file f, format⟩))
    (h : (f.begin clock fs console).1.isOk = true) : AppenderOpens entry clock fs console := by
  intro c f' hc' hf'
  rw [hc] at hc'
  cases hc'
  cases hf'
  cases hbegun : (f.begin clock fs console).1 with
  | ok opened => exact ⟨opened, rfl⟩
  | error error =>
    rw [hbegun] at h
    cases h

theorem openEntry_filter (entry : Option LogEntry) :
    openEntry (entry.filter (·.enable)) = openEntry entry := by
  have hchannel : channelOf? (entry.filter (·.enable)) = channelOf? entry := by
    cases entry with
    | none => rfl
    | some e => cases henable : e.enable <;> simp [channelOf?, Option.filter, henable]
  funext clock fs console
  rw [openEntry, hchannel, openEntry]

theorem channelOf?_eq_error_iff {entry : Option LogEntry} {error : ConfigError} :
    channelOf? entry = .error error ↔ ∃ e, entry = some e ∧ e.enable = true ∧ e.Fails error := by
  cases entry with
  | none => simp [channelOf?]
  | some e =>
    simp only [channelOf?, Option.some.injEq, exists_eq_left', ← Channel.ofEntry_error_iff]
    cases e.enable with
    | false => simp
    | true => cases Channel.ofEntry e <;> simp [bind, Except.bind, pure, Except.pure]

/-- Only the files of a log can keep its channel from being opened. -/
theorem Channel.exists_opened {c : Channel} {clock : Clock} {fs : Files} {console : Console}
    (h : ∀ f, c.target = .file f → ∃ opened, (f.begin clock fs console).1 = .ok opened) :
    ∃ c', (c.opened clock fs console).1 = .ok c' := by
  unfold Channel.opened
  split
  case h_1 | h_2 | h_3 => exact ⟨c, rfl⟩
  case h_4 =>
    split
    · exact ⟨_, rfl⟩
    · exact ⟨_, rfl⟩
  case h_5 f hf =>
    obtain ⟨opened, hopened⟩ := h f hf
    generalize f.begin clock fs console = begun at hopened ⊢
    obtain ⟨result, fs', console'⟩ := begun
    cases hopened
    exact ⟨c, rfl⟩

theorem openEntry_eq_error_iff {entry : Option LogEntry} {clock : Clock} {fs : Files} {console : Console}
    (h : AppenderOpens entry clock fs console) {error : SetupError} :
    (openEntry entry clock fs console).1 = .error error
      ↔ ∃ fault, error = .config fault ∧ ∃ e, entry = some e ∧ e.enable = true ∧ e.Fails fault := by
  simp only [← channelOf?_eq_error_iff]
  rw [openEntry]
  cases hchannel : channelOf? entry with
  | error fault => simp [eq_comm]
  | ok channel =>
    cases channel with
    | none => simp
    | some c =>
      obtain ⟨c', hc'⟩ := Channel.exists_opened (h c · hchannel)
      dsimp only
      generalize c.opened clock fs console = outcome at hc' ⊢
      obtain ⟨result, fs', console'⟩ := outcome
      cases hc'
      simp

theorem exists_firstFault_iff {config : LogsConfig} :
    (∃ fault, FirstFault config fault) ↔ ∃ d fault, Destination.Fails config d fault := by
  constructor
  · rintro ⟨fault, h | ⟨-, h⟩⟩
    · exact ⟨.default, fault, h⟩
    · exact ⟨.errors, fault, h⟩
  · rintro ⟨d, fault, h⟩
    by_cases hdefault : ∃ fault, Destination.default.Fails config fault
    · obtain ⟨fault, hfault⟩ := hdefault
      exact ⟨fault, .default hfault⟩
    · rw [not_exists] at hdefault
      cases d with
      | default => exact absurd h (hdefault fault)
      | errors => exact ⟨fault, .errors hdefault h⟩

theorem exists_destination_fails_iff {config : LogsConfig} :
    (∃ d fault, Destination.Fails config d fault)
      ↔ ∃ d e, Destination.entry? config d = some e ∧ e.enable = true ∧ ¬ e.IsValid := by
  constructor
  · rintro ⟨d, fault, e, he, henable, hfails⟩
    exact ⟨d, e, he, henable, exists_fails_iff.mp ⟨fault, hfails⟩⟩
  · rintro ⟨d, e, he, henable, hinvalid⟩
    obtain ⟨fault, hfails⟩ := exists_fails_iff.mpr hinvalid
    exact ⟨d, fault, e, he, henable, hfails⟩

/-! ## Formats -/

/-- The channel but for its format. -/
def Channel.unformatted (c : Channel) : Channel := { c with format := .full }

theorem channelOf?_unformatted (entry : Option LogEntry) :
    channelOf? (entry.map LogEntry.unformatted)
      = (channelOf? entry).map (Option.map Channel.unformatted) := by
  cases entry with
  | none => rfl
  | some e =>
    have htarget : Target.ofEntry e.unformatted = Target.ofEntry e := rfl
    have hformat : Format.parse "full" = .full := by decide +kernel
    simp only [Option.map_some, channelOf?, Channel.ofEntry, htarget]
    cases henable : e.enable with
    | false => simp [LogEntry.unformatted, henable, Except.map]
    | true => cases Target.ofEntry e <;> simp [LogEntry.unformatted, henable, hformat] <;> rfl

theorem Channel.opened_unformatted (c : Channel) (clock : Clock) (fs : Files) (console : Console) :
    c.unformatted.opened clock fs console
      = ((c.opened clock fs console).1.map Channel.unformatted, (c.opened clock fs console).2) := by
  obtain ⟨target, format⟩ := c
  cases target with
  | stderr | stdout | removed => rfl
  | kernelLog =>
    simp only [unformatted, Channel.opened]
    cases fs.openForWriting (.ofString kernelLogPath) <;> rfl
  | file f =>
    simp only [unformatted, Channel.opened]
    rcases f.begin clock fs console with ⟨_ | opened, fs', console'⟩ <;> rfl

theorem Channel.surplus_unformatted (c : Channel) : c.unformatted.surplus = c.surplus := by
  cases c
  rfl

theorem Channel.without_unformatted (c : Channel) (keys : List Key) (clock : Clock) (fs : Files) :
    c.unformatted.without keys clock fs = (c.without keys clock fs).unformatted := by
  have hpath : c.unformatted.path? clock = c.path? clock := by
    cases c
    rfl
  simp only [without, hpath]
  split
  · split <;> rfl
  · rfl

theorem openEntry_unformatted (entry : Option LogEntry) (clock : Clock) (fs : Files) (console : Console) :
    openEntry (entry.map LogEntry.unformatted) clock fs console
      = ((openEntry entry clock fs console).1.map (Option.map Channel.unformatted),
          (openEntry entry clock fs console).2) := by
  simp only [openEntry, channelOf?_unformatted]
  rcases channelOf? entry with _ | _ | c
  · rfl
  · rfl
  · simp only [Except.map, Option.map_some, Channel.opened_unformatted]
    rcases c.opened clock fs console with ⟨_ | c', fs', console'⟩ <;> rfl

namespace Logs

/-- The logs but for the formats of their channels. -/
def unformatted (logs : Logs) : Logs :=
  { logs with channels :=
      ⟨logs.channels.default.map Channel.unformatted, logs.channels.errors.map Channel.unformatted⟩ }

variable {config : LogsConfig} {clock : Clock} {fs : Files} {console : Console}

theorem setUp_unformatted (config : LogsConfig) (filter : String) (clock : Clock) (fs : Files)
    (console : Console) :
    setUp config.unformatted filter clock fs console
      = ((setUp config filter clock fs console).1.map unformatted,
          (setUp config filter clock fs console).2) := by
  have hdefault := openEntry_unformatted (some config.default) clock fs console
  simp only [Option.map_some] at hdefault
  simp only [setUp, LogsConfig.unformatted, hdefault]
  rcases openEntry (some config.default) clock fs console with ⟨_ | default, fs', console'⟩
  · rfl
  · simp only [Except.map, openEntry_unformatted]
    rcases openEntry config.errors clock fs' console' with ⟨_ | errors, fs'', console''⟩
    · rfl
    · simp [unformatted, Function.comp_def, Channel.surplus_unformatted, Channel.without_unformatted]

/-! ## Beginning to log -/

/-- Logging begins unless an enabled entry fails a check, and nothing else of the configuration counts. -/
structure ChecksEntries (config : LogsConfig) (filter : String) (clock : Clock) (fs : Files)
    (console : Console) : Prop where
  /-- The configuration is in error if and only if an enabled entry describes no channel. -/
  fails_iff : (∃ fault, (setUp config filter clock fs console).1 = .error (.config fault))
    ↔ ∃ d e, Destination.entry? config d = some e ∧ e.enable = true ∧ ¬ e.IsValid
  /-- The error is that of the first check that fails. -/
  fault_iff (fault : ConfigError) :
    (setUp config filter clock fs console).1 = .error (.config fault) ↔ FirstFault config fault
  begins_iff : (∃ logs, (setUp config filter clock fs console).1 = .ok logs)
    ↔ ∀ d e, Destination.entry? config d = some e → e.enable = true → e.IsValid
  /-- The channels are those of the enabled entries. -/
  opened_iff {logs : Logs} (h : (setUp config filter clock fs console).1 = .ok logs) (d : Destination) :
    (d.channel? logs.channels).isSome ↔ d.IsEnabled config
  /-- A place that is not enabled makes no channel, and nothing else either. -/
  disabled {d : Destination} (h : ¬ d.IsEnabled config) (clock : Clock) (fs : Files) (console : Console) :
    openEntry (d.entry? config) clock fs console = (.ok none, fs, console)
  /-- Whatever an entry says that is not enabled, the outcome is the same. -/
  congr_of_disabled (config' : LogsConfig)
    (h : ∀ d, (Destination.entry? config' d).filter (·.enable)
      = (Destination.entry? config d).filter (·.enable)) :
    setUp config' filter clock fs console = setUp config filter clock fs console
  /-- Without an enabled entry the files stay as they are. -/
  files_eq (h : ∀ d, ¬ Destination.IsEnabled config d) : (setUp config filter clock fs console).2.1 = fs
  /-- With any other formats the errors, the files and what is said on the terminal are the same. -/
  congr_of_format (config' : LogsConfig) (h : config'.unformatted = config.unformatted) :
    (∀ error, (setUp config' filter clock fs console).1 = .error error
        ↔ (setUp config filter clock fs console).1 = .error error)
      ∧ (setUp config' filter clock fs console).2 = (setUp config filter clock fs console).2

theorem setUp_eq_error_iff_openEntry {filter : String} {error : SetupError} :
    (setUp config filter clock fs console).1 = .error error
      ↔ (openEntry (some config.default) clock fs console).1 = .error error
        ∨ (∃ channel, (openEntry (some config.default) clock fs console).1 = .ok channel)
          ∧ (openEntry config.errors clock (openEntry (some config.default) clock fs console).2.1
              (openEntry (some config.default) clock fs console).2.2).1 = .error error := by
  rw [setUp]
  rcases openEntry (some config.default) clock fs console with ⟨_ | default, fs', console'⟩
  · simp
  · dsimp only
    rcases openEntry config.errors clock fs' console' with ⟨_ | errors, fs'', console''⟩ <;> simp

theorem setUp_eq_error_iff {filter : String} (hopen : AppendersOpen config clock fs console)
    {error : SetupError} :
    (setUp config filter clock fs console).1 = .error error
      ↔ ∃ fault, error = .config fault ∧ FirstFault config fault := by
  -- The second entry is looked at only once the first one has its channel.
  have hdefault {error : SetupError} : (openEntry (some config.default) clock fs console).1 = .error error
      ↔ ∃ fault, error = .config fault ∧ Destination.default.Fails config fault :=
    openEntry_eq_error_iff hopen.default
  rw [setUp_eq_error_iff_openEntry, openEntry_eq_error_iff hopen.errors, hdefault]
  constructor
  · rintro (⟨fault, rfl, h⟩ | ⟨⟨channel, hchannel⟩, fault, rfl, h⟩)
    · exact ⟨fault, rfl, .default h⟩
    · refine ⟨fault, rfl, .errors (fun fault' hfault' => ?_) h⟩
      have herror := hdefault.mpr ⟨fault', rfl, hfault'⟩
      rw [hchannel] at herror
      cases herror
  · rintro ⟨fault, rfl, h | ⟨hnone, h⟩⟩
    · exact .inl ⟨fault, rfl, h⟩
    · refine .inr ⟨?_, fault, rfl, h⟩
      cases hchannel : (openEntry (some config.default) clock fs console).1 with
      | ok channel => exact ⟨channel, rfl⟩
      | error error =>
        obtain ⟨fault', -, hfault'⟩ := hdefault.mp hchannel
        exact absurd hfault' (hnone fault')

theorem exists_setUp_config_error_iff {filter : String} (hopen : AppendersOpen config clock fs console) :
    (∃ fault, (setUp config filter clock fs console).1 = .error (.config fault))
      ↔ ∃ d e, Destination.entry? config d = some e ∧ e.enable = true ∧ ¬ e.IsValid := by
  rw [← exists_destination_fails_iff, ← exists_firstFault_iff]
  simp [setUp_eq_error_iff hopen]

theorem exists_setUp_ok_iff {filter : String} (hopen : AppendersOpen config clock fs console) :
    (∃ logs, (setUp config filter clock fs console).1 = .ok logs)
      ↔ ∀ d e, Destination.entry? config d = some e → e.enable = true → e.IsValid := by
  have hvalid : (∀ d e, Destination.entry? config d = some e → e.enable = true → e.IsValid)
      ↔ ¬ ∃ fault, FirstFault config fault := by
    rw [exists_firstFault_iff, exists_destination_fails_iff]
    simp
  rw [hvalid]
  constructor
  · rintro ⟨logs, hlogs⟩ ⟨fault, hfault⟩
    rw [(setUp_eq_error_iff hopen).mpr ⟨fault, rfl, hfault⟩] at hlogs
    cases hlogs
  · intro hnone
    cases hbegun : (setUp config filter clock fs console).1 with
    | ok logs => exact ⟨logs, rfl⟩
    | error error =>
      obtain ⟨fault, -, hfault⟩ := (setUp_eq_error_iff hopen).mp hbegun
      exact absurd ⟨fault, hfault⟩ hnone

theorem openEntry_of_not_isEnabled {d : Destination} (h : ¬ d.IsEnabled config) (clock : Clock) (fs : Files)
    (console : Console) : openEntry (d.entry? config) clock fs console = (.ok none, fs, console) := by
  have hnone : (d.entry? config).filter (·.enable) = none := by
    rw [Option.filter_eq_none_iff]
    exact fun e he henable => h ⟨e, he, henable⟩
  rw [← openEntry_filter, hnone]
  rfl

theorem setUp_congr_of_disabled {config' : LogsConfig}
    (h : ∀ d, (Destination.entry? config' d).filter (·.enable)
      = (Destination.entry? config d).filter (·.enable)) (filter : String) :
    setUp config' filter clock fs console = setUp config filter clock fs console := by
  have hdefault : openEntry (some config'.default) = openEntry (some config.default) := by
    rw [← openEntry_filter, ← openEntry_filter (some config.default)]
    exact congrArg openEntry (h .default)
  have herrors : openEntry config'.errors = openEntry config.errors := by
    rw [← openEntry_filter, ← openEntry_filter config.errors]
    exact congrArg openEntry (h .errors)
  rw [setUp, setUp, hdefault, herrors]

theorem files_setUp_of_not_isEnabled (h : ∀ d, ¬ Destination.IsEnabled config d) (filter : String) :
    (setUp config filter clock fs console).2.1 = fs := by
  have hdefault := openEntry_of_not_isEnabled (h .default) clock fs console
  have herrors := openEntry_of_not_isEnabled (h .errors) clock fs console
  simp only [Destination.entry?] at hdefault herrors
  simp only [setUp, hdefault, herrors]

theorem setUp_congr_of_format {config' : LogsConfig} (h : config'.unformatted = config.unformatted)
    (filter : String) :
    (∀ error, (setUp config' filter clock fs console).1 = .error error
        ↔ (setUp config filter clock fs console).1 = .error error)
      ∧ (setUp config' filter clock fs console).2 = (setUp config filter clock fs console).2 := by
  have hsame := setUp_unformatted config' filter clock fs console
  rw [h, setUp_unformatted, Prod.mk.injEq] at hsame
  obtain ⟨hresult, hworld⟩ := hsame
  have herror (result : Except SetupError Logs) (error : SetupError) :
      result.map unformatted = .error error ↔ result = .error error := by
    cases result <;> simp [Except.map]
  refine ⟨fun error => ?_, hworld.symm⟩
  rw [← herror, ← hresult, herror]

/-- As long as the files of the logs can be opened, logging begins unless an enabled entry describes no
channel. -/
theorem checksEntries (config : LogsConfig) (filter : String) {clock : Clock} {fs : Files} {console : Console}
    (hopen : AppendersOpen config clock fs console) : ChecksEntries config filter clock fs console where
  fails_iff := exists_setUp_config_error_iff hopen
  fault_iff fault := by simp [setUp_eq_error_iff hopen]
  begins_iff := exists_setUp_ok_iff hopen
  opened_iff {logs} h d := (begun_of_setUp (Prod.ext h rfl)).isSome_iff d
  disabled := openEntry_of_not_isEnabled
  congr_of_disabled _ h := setUp_congr_of_disabled h filter
  files_eq h := files_setUp_of_not_isEnabled h filter
  congr_of_format _ h := setUp_congr_of_format h filter

/-- Two logs in the root directory that are begun anew every day and every hour. -/
theorem checksEntries_two_files :
    ChecksEntries
      ⟨⟨true, "file", some "/", some "boot", some " Daily\n", none, some "fancy"⟩,
        some ⟨true, "file", some "/", some "errors", some "HOURLY", none, none⟩⟩
      "" ⟨"2024-01-31", "2024-01-31-12", ""⟩ ⟨.empty, [], 0o022⟩ .blank := by
  have hdefault : channelOf? (some ⟨true, "file", some "/", some "boot", some " Daily\n", none, some "fancy"⟩)
      = .ok (some ⟨.file ⟨"/", "boot", .daily, 5⟩, .full⟩) := by decide +kernel
  have herrors : channelOf? (some ⟨true, "file", some "/", some "errors", some "HOURLY", none, none⟩)
      = .ok (some ⟨.file ⟨"/", "errors", .hourly, 5⟩, .full⟩) := by decide +kernel
  have hbootPath : LogFile.IsInRoot (LogFile.pathAt ⟨"/", "boot", .daily, 5⟩ ⟨"2024-01-31", "2024-01-31-12", ""⟩)
      (Text.Utf8.encode "boot.2024-01-31") :=
    ⟨⟨by decide, by decide, by decide⟩, by decide, by decide, by decide, ⟨by decide, by decide, by decide⟩⟩
  have herrorsPath : LogFile.IsInRoot
      (LogFile.pathAt ⟨"/", "errors", .hourly, 5⟩ ⟨"2024-01-31", "2024-01-31-12", ""⟩)
      (Text.Utf8.encode "errors.2024-01-31-12") :=
    ⟨⟨by decide, by decide, by decide⟩, by decide, by decide, by decide, ⟨by decide, by decide, by decide⟩⟩
  have hbootFree : LogFile.surplus ⟨"/", "boot", .daily, 5⟩ ⟨.empty, [], 0o022⟩ = .ok [] :=
    LogFile.surplus_of_no_own rfl rfl (by decide)
  have herrorsFree : LogFile.surplus ⟨"/", "errors", .hourly, 5⟩
      ⟨⟨[([Text.Utf8.encode "boot.2024-01-31"], .file 0o644 [])]⟩, [], 0o022⟩ = .ok [] :=
    LogFile.surplus_of_no_own rfl rfl (by decide +kernel)
  have hboot := LogFile.begin_of_missing hbootPath hbootFree rfl .blank
  have herrorsBegun := LogFile.begin_of_missing herrorsPath herrorsFree rfl .blank
  refine checksEntries _ _ ⟨appenderOpens_of_file _ _ hdefault ?_, ?_⟩
  · exact congrArg (·.1.isOk) hboot
  · rw [openEntry_of_begin hdefault hboot]
    refine appenderOpens_of_file _ _ herrors ?_
    exact congrArg (·.1.isOk) herrorsBegun

end Logs

end Log

end BpfBoot

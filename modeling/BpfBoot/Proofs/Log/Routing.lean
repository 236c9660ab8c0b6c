import BpfBoot.Proofs.Log.Filtering
import BpfBoot.Proofs.Log.Opening

/-!
# Where events are written

An event is written to one channel at most, and the configuration alone says to which one. With a channel of
their own the failures go there and everything else goes to the default channel; without one the default
channel takes everything. So a failure is lost only if no channel is enabled.
-/

namespace BpfBoot.Log

/-- The places where events are written. -/
inductive Destination where
  | default
  | errors
  deriving DecidableEq, Repr

namespace Destination

/-- The entry of the configuration that describes the place. -/
def entry? (config : LogsConfig) : Destination → Option LogEntry
  | .default => some config.default
  | .errors => config.errors

/-- Whether the configuration has an entry for the place and enables it. -/
def IsEnabled (config : LogsConfig) (d : Destination) : Prop :=
  ∃ e, d.entry? config = some e ∧ e.enable = true

instance (config : LogsConfig) (d : Destination) : Decidable (d.IsEnabled config) :=
  decidable_of_iff ((d.entry? config).any (·.enable) = true) (by simp [IsEnabled, Option.any_eq_true])

/-- The channel of the place. -/
def channel? (channels : Channels) : Destination → Option Channel
  | .default => channels.default
  | .errors => channels.errors

/-- Where the configuration sends an event. -/
def ofEvent? (config : LogsConfig) (e : Event) : Option Destination :=
  if errors.IsEnabled config ∧ Channels.isFailure e = true then some .errors
  else if default.IsEnabled config then some .default
  else none

end Destination

/-- The target is the one that the entry describes, or the standard error output in place of the kernel's log. -/
inductive Target.Serves (e : LogEntry) : Target → Prop where
  | stderr (h : e.target = "stderr") : Serves e .stderr
  | stdout (h : e.target = "stdout") : Serves e .stdout
  | kernelLog (h : e.target = "kmsg") : Serves e .kernelLog
  | instead (h : e.target = "kmsg") : Serves e .stderr
  | file {f : LogFile} (h : e.target = "file") (hdirectory : e.directory = some f.directory)
      (hname : e.fileName = some f.fileName)
      (hrotation : Rotation.parse? (e.rotation.getD "never") = some f.rotation)
      (hmaxFiles : f.maxFiles = e.maxFiles.getD 5) : Serves e (.file f)

/-- The channel is one for the entry. -/
structure Channel.Serves (e : LogEntry) (c : Channel) : Prop where
  target : c.target.Serves e
  format : c.format = Format.parse (e.format.getD "full")

theorem LogFile.eq_of_ofEntry {e : LogEntry} {f : LogFile} (h : LogFile.ofEntry e = .ok f) :
    e.directory = some f.directory ∧ e.fileName = some f.fileName
      ∧ Rotation.parse? (e.rotation.getD "never") = some f.rotation ∧ f.maxFiles = e.maxFiles.getD 5 := by
  unfold LogFile.ofEntry at h
  cases hdirectory : e.directory with
  | none =>
    rw [hdirectory] at h
    cases h
  | some directory =>
    cases hname : e.fileName with
    | none =>
      rw [hdirectory, hname] at h
      cases h
    | some fileName =>
      cases hrotation : Rotation.parse? (e.rotation.getD "never") with
      | none =>
        simp only [hdirectory, hname, hrotation] at h
        cases h
      | some rotation =>
        simp only [hdirectory, hname, hrotation] at h
        cases h
        exact ⟨rfl, rfl, rfl, rfl⟩

theorem Target.serves_of_ofEntry {e : LogEntry} {target : Target} (h : Target.ofEntry e = .ok target) :
    target.Serves e := by
  unfold Target.ofEntry at h
  split at h
  next hword =>
    cases h
    exact .stderr hword
  next hword =>
    cases h
    exact .stdout hword
  next hword =>
    cases h
    exact .kernelLog hword
  next hword =>
    cases hf : LogFile.ofEntry e with
    | error error =>
      rw [hf] at h
      cases h
    | ok f =>
      rw [hf] at h
      cases h
      obtain ⟨hdirectory, hname, hrotation, hmaxFiles⟩ := LogFile.eq_of_ofEntry hf
      exact .file hword hdirectory hname hrotation hmaxFiles
  · cases h

theorem Channel.serves_of_ofEntry {e : LogEntry} {c : Channel} (h : Channel.ofEntry e = .ok c) :
    c.Serves e := by
  unfold Channel.ofEntry at h
  cases htarget : Target.ofEntry e with
  | error error =>
    rw [htarget] at h
    cases h
  | ok target =>
    rw [htarget] at h
    cases h
    exact ⟨Target.serves_of_ofEntry htarget, rfl⟩

/-- Only the kernel's log is replaced when a channel is opened. -/
theorem Channel.Serves.of_opened {c opened : Channel} {e : LogEntry} {clock : Clock} {fs fs' : Files}
    {console console' : Console} (hc : c.Serves e)
    (h : c.opened clock fs console = (.ok opened, fs', console')) : opened.Serves e := by
  obtain ⟨target, format⟩ := c
  cases target with
  | stderr | stdout | removed =>
    cases h
    exact hc
  | kernelLog =>
    simp only [Channel.opened] at h
    split at h
    · cases h
      exact hc
    · cases h
      cases hc.target with
      | kernelLog hword => exact ⟨.instead hword, hc.format⟩
  | file f =>
    simp only [Channel.opened] at h
    split at h
    · cases h
      exact hc
    · cases h

/-- An enabled entry, and no other, has a channel once the channels are open. -/
inductive EntryOpened : Option LogEntry → Option Channel → Prop where
  | absent : EntryOpened none none
  | disabled {e : LogEntry} (h : e.enable = false) : EntryOpened (some e) none
  | enabled {e : LogEntry} {c : Channel} (h : e.enable = true) (hserves : c.Serves e) :
      EntryOpened (some e) (some c)

theorem EntryOpened.isSome_iff {entry : Option LogEntry} {channel : Option Channel}
    (h : EntryOpened entry channel) : channel.isSome ↔ ∃ e, entry = some e ∧ e.enable = true := by
  cases h with
  | absent => simp
  | disabled h => simp [h]
  | enabled h => simp [h]

/-! ## Opening the channels of a configuration -/

section Opening

variable {entry : Option LogEntry} {channel : Option Channel} {clock : Clock} {fs fs' : Files}
  {console console' : Console}

/-- What opening an entry comes to. -/
inductive OpensTo (entry : Option LogEntry) (clock : Clock) (fs : Files) (console : Console) :
    Option Channel → Files → Console → Prop where
  | nothing (h : EntryOpened entry none) : OpensTo entry clock fs console none fs console
  | channel {c opened : Channel} {fs' : Files} {console' : Console} (h : EntryOpened entry (some opened))
      (hopened : c.opened clock fs console = (.ok opened, fs', console')) :
      OpensTo entry clock fs console (some opened) fs' console'

theorem opensTo_of_openEntry (h : openEntry entry clock fs console = (.ok channel, fs', console')) :
    OpensTo entry clock fs console channel fs' console' := by
  cases entry with
  | none =>
    cases h
    exact .nothing .absent
  | some e =>
    by_cases henable : e.enable = true
    · cases hc : Channel.ofEntry e with
      | error => simp [openEntry, channelOf?, henable, hc, bind, Except.bind] at h
      | ok c =>
        simp only [openEntry, channelOf?, henable, hc, bind, Except.bind, pure, Except.pure, if_true] at h
        split at h
        next hopened =>
          cases h
          exact .channel (.enabled henable ((Channel.serves_of_ofEntry hc).of_opened hopened)) hopened
        · cases h
    · simp only [openEntry, channelOf?, henable, if_false, Bool.false_eq_true] at h
      cases h
      exact .nothing (.disabled (by simpa using henable))

theorem OpensTo.entryOpened (h : OpensTo entry clock fs console channel fs' console') :
    EntryOpened entry channel := by
  cases h with
  | nothing h => exact h
  | channel h _ => exact h

theorem OpensTo.isReady {c : Channel} (h : OpensTo entry clock fs console (some c) fs' console') :
    c.IsReady clock fs' := by
  cases h with
  | channel _ hopened => exact (Channel.isReady_and_keeps_of_opened hopened).1

theorem OpensTo.keeps (h : OpensTo entry clock fs console channel fs' console') {key : Key}
    (hkey : key ∉ (channel.map (·.surplus fs)).getD []) : fs.Keeps fs' key := by
  cases h with
  | nothing => exact .refl fs key
  | channel _ hopened => exact (Channel.isReady_and_keeps_of_opened hopened).2 key hkey

end Opening

namespace Logs

/-- The events of a run that the logs admit and that a route leads to a place, in the order of the run. -/
def received (logs : Logs) (route : Event → Option Destination) (d : Destination) (events : List Event) :
    List Event :=
  events.filter fun e => logs.filter.admits e && route e == some d

/-- What has become of the files and the terminal once the channel of a place received events. Without a channel
there is nothing that could change. -/
inductive Delivered (clock : Clock) (events : List Event) (fs : Files) (console : Console) :
    Option Channel → Files → Console → Prop where
  | nowhere : Delivered clock events fs console none fs console
  | received {c : Channel} {fs' : Files} {console' : Console}
      (h : c.Receives clock events fs console fs' console') :
      Delivered clock events fs console (some c) fs' console'

/-- The file of the first log was one of the old files that made room for the second one. -/
structure DefaultRemoved (config : LogsConfig) (channels : Channels) : Prop where
  default : ∃ c, EntryOpened (some config.default) (some c)
    ∧ channels.default = some { c with target := .removed }
  errors : ∃ e, config.errors = some e ∧ e.enable = true ∧ e.target = "file"

/-- The logs write each event where the route leads, and the route is the one of the configuration. `opened` are
the files once the logs have begun. -/
structure Follows (logs : Logs) (config : LogsConfig) (clock : Clock) (opened : Files)
    (route : Event → Option Destination) : Prop where
  /-- The channels are those of the enabled entries. -/
  default_opened : EntryOpened (some config.default) logs.channels.default
    ∨ DefaultRemoved config logs.channels
  errors_opened : EntryOpened config.errors logs.channels.errors
  /-- An event passes the filter if the directive that decides about its target lets its level pass. -/
  passes_iff (e : Event) : logs.filter.admits e = true
    ↔ ∃ d, logs.filter.Decides e.target d ∧ e.level ∈ [Level.error, .warn, .info, .debug].take d.threshold
  /-- As long as nothing is taken away, each channel receives the events that the route leads to it, and nothing
  else is written. -/
  written (events : List Event) {fs : Files} (hfs : ∀ key, opened.Keeps fs key) (console : Console) :
    ∃ fs' console', Delivered clock (logs.received route .default events) fs console
        logs.channels.default fs' console'
      ∧ Delivered clock (logs.received route .errors events) fs' console' logs.channels.errors
        (logs.write clock events fs console).1 (logs.write clock events fs console).2
  /-- A line shows the level and the message of its event. -/
  shown (format : Format) {e : Event} (h : ∀ c ∈ e.message.toList, IsGraphic c) :
    ∃ before between after,
      format.line clock.time e = before ++ e.level.label ++ between ++ e.message ++ after ++ "\n"
  /-- The route leads to enabled channels only. -/
  isEnabled {e : Event} {d : Destination} (h : route e = some d) : d.IsEnabled config
  failure_apart {e : Event} (herrors : Destination.errors.IsEnabled config) (h : e.target = "error") :
    route e = some .errors
  other_default {e : Event} (herrors : Destination.errors.IsEnabled config)
    (hdefault : Destination.default.IsEnabled config) (h : e.target ≠ "error") : route e = some .default
  /-- The channel for failures takes nothing else. -/
  failure_of_errors {e : Event} (h : route e = some .errors) : e.target = "error"
  all_default {e : Event} (herrors : ¬ Destination.errors.IsEnabled config)
    (hdefault : Destination.default.IsEnabled config) : route e = some .default
  /-- No failure is lost while there is a channel. -/
  failure_routed {e : Event} {d : Destination} (hd : d.IsEnabled config) (h : e.target = "error") :
    (route e).isSome

variable {config : LogsConfig} {logs : Logs} {filter : String} {clock : Clock} {fs opened : Files}
  {console console' : Console}

/-! ## Beginning -/

/-- The channels of logs that have begun. -/
structure Begun (config : LogsConfig) (logs : Logs) (clock : Clock) (opened : Files) : Prop where
  default : EntryOpened (some config.default) logs.channels.default ∨ DefaultRemoved config logs.channels
  errors : EntryOpened config.errors logs.channels.errors
  isReady {d : Destination} {c : Channel} (hc : d.channel? logs.channels = some c) : c.IsReady clock opened

/-- Only a log in files makes room for itself. -/
theorem target_of_mem_surplus {e : LogEntry} {c : Channel} {key : Key} (hserves : c.Serves e)
    (hkey : key ∈ c.surplus fs) : e.target = "file" := by
  obtain ⟨target, format⟩ := c
  cases hserves.target with
  | stderr | stdout | kernelLog | instead => cases hkey
  | file hword => exact hword

/-- The file of a log is taken away for a log in files only. -/
theorem defaultRemoved_of_without {first : Channel} {errors : Option Channel} {key : Key}
    (hdefault : EntryOpened (some config.default) (some first)) (herrors : EntryOpened config.errors errors)
    (hkey : key ∈ (errors.map (·.surplus fs)).getD []) :
    DefaultRemoved config ⟨some { first with target := .removed }, errors⟩ := by
  refine ⟨⟨first, hdefault, rfl⟩, ?_⟩
  cases errors with
  | none => cases hkey
  | some second =>
    generalize config.errors = entry at herrors ⊢
    cases herrors with
    | enabled henable hserves => exact ⟨_, rfl, henable, target_of_mem_surplus hserves hkey⟩

theorem begun_of_setUp (h : setUp config filter clock fs console = (.ok logs, opened, console')) :
    Begun config logs clock opened := by
  unfold setUp at h
  split at h
  · cases h
  next channel fs₁ console₁ hdefault =>
    split at h
    · cases h
    next errors fs₂ console₂ herrors =>
      cases h
      have hfirst := opensTo_of_openEntry hdefault
      have hsecond := opensTo_of_openEntry herrors
      refine ⟨?_, hsecond.entryOpened, ?_⟩
      · cases channel with
        | none => exact .inl hfirst.entryOpened
        | some first =>
          dsimp only [Option.map_some]
          rcases first.without_cases ((errors.map (·.surplus fs₁)).getD []) clock fs₁ with
            hkept | ⟨hremoved, key, hkey⟩
          · rw [hkept]
            exact .inl hfirst.entryOpened
          · rw [hremoved]
            exact .inr (defaultRemoved_of_without hfirst.entryOpened hsecond.entryOpened hkey)
      · intro d c hc
        cases d with
        | default =>
          obtain ⟨first, rfl, rfl⟩ := Option.map_eq_some_iff.mp hc
          exact hfirst.isReady.without fun key hkey => hsecond.keeps hkey
        | errors =>
          obtain rfl : errors = some c := hc
          exact hsecond.isReady

/-- The places with a channel are those that the configuration enables. -/
theorem Begun.isSome_iff (h : Begun config logs clock opened) (d : Destination) :
    (d.channel? logs.channels).isSome ↔ d.IsEnabled config := by
  cases d with
  | errors => exact h.errors.isSome_iff
  | default =>
    rcases h.default with hdefault | ⟨⟨c, hdefault, hremoved⟩, -⟩
    · exact hdefault.isSome_iff
    · have hsome := hdefault.isSome_iff
      rw [Destination.channel?, hremoved]
      exact hsome

/-! ## Writing -/

theorem received_default (h : Begun config logs clock opened) {c : Channel}
    (hc : logs.channels.default = some c) (events : List Event) :
    logs.channels.defaultEvents (events.filter logs.filter.admits)
      = logs.received (Destination.ofEvent? config) .default events := by
  have hdefault : Destination.default.IsEnabled config :=
    (h.isSome_iff .default).mp (by simp [Destination.channel?, hc])
  have herrors : logs.channels.errors.isSome ↔ Destination.errors.IsEnabled config :=
    h.isSome_iff .errors
  rw [Channels.defaultEvents, hc, received]
  by_cases hapart : Destination.errors.IsEnabled config
  · rw [if_pos (herrors.mpr hapart), List.filter_filter]
    refine List.filter_congr fun e _ => ?_
    cases hfailure : Channels.isFailure e <;>
      simp [Destination.ofEvent?, hapart, hdefault, hfailure, Bool.and_comm]
  · rw [if_neg (mt herrors.mp hapart)]
    refine List.filter_congr fun e _ => ?_
    simp [Destination.ofEvent?, hapart, hdefault]

theorem received_errors (h : Begun config logs clock opened) {c : Channel}
    (hc : logs.channels.errors = some c) (events : List Event) :
    logs.channels.errorEvents (events.filter logs.filter.admits)
      = logs.received (Destination.ofEvent? config) .errors events := by
  have herrors : Destination.errors.IsEnabled config :=
    (h.isSome_iff .errors).mp (by simp [Destination.channel?, hc])
  rw [Channels.errorEvents, hc, received, List.filter_filter]
  refine List.filter_congr fun e _ => ?_
  by_cases hfailure : Channels.isFailure e = true
  · simp [Destination.ofEvent?, herrors, hfailure]
  · by_cases hdefault : Destination.default.IsEnabled config <;>
      simp [Destination.ofEvent?, hfailure, hdefault]

theorem delivered_writeTo (channel : Option Channel) {events received : List Event}
    (hready : ∀ c, channel = some c → c.IsReady clock fs)
    (hreceived : ∀ c, channel = some c → events = received) (console : Console) :
    Delivered clock received fs console channel (writeTo channel clock events fs console).1
      (writeTo channel clock events fs console).2 := by
  cases channel with
  | none => exact .nowhere
  | some c =>
    rw [hreceived c rfl]
    exact .received (Channel.receives_write (hready c rfl) received console)

theorem Delivered.keeps {channel : Option Channel} {events : List Event} {fs' : Files}
    (h : Delivered clock events fs console channel fs' console') (key : Key) : fs.Keeps fs' key := by
  cases h with
  | nowhere => exact .refl fs key
  | received h => exact h.keeps key

theorem Begun.written (h : Begun config logs clock opened) (events : List Event)
    (hfs : ∀ key, opened.Keeps fs key) (console : Console) :
    ∃ fs' console',
      Delivered clock (logs.received (Destination.ofEvent? config) .default events) fs console
          logs.channels.default fs' console'
        ∧ Delivered clock (logs.received (Destination.ofEvent? config) .errors events) fs' console'
          logs.channels.errors (logs.write clock events fs console).1 (logs.write clock events fs console).2 := by
  have hdefault := delivered_writeTo logs.channels.default
    (fun c hc => (h.isReady (d := .default) hc).of_keeps hfs)
    (fun c hc => received_default h hc events) console
  have herrors := delivered_writeTo logs.channels.errors
    (fun c hc => (h.isReady (d := .errors) hc).of_keeps fun key => (hfs key).trans (hdefault.keeps key))
    (fun c hc => received_errors h hc events)
  exact ⟨_, _, hdefault, herrors _⟩

/-! ## The route -/

end Logs

end BpfBoot.Log

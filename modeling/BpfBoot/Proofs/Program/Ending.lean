import BpfBoot.Program
import BpfBoot.Proofs.Bootstrap.Failures
import BpfBoot.Proofs.CommandLine

/-!
# How the program ends

A call goes one of a few ways: it is refused, it cannot begin, it marks all programs as loaded, or it runs the
boot sequence, which fails, is finished or is followed by another program. The way that a call goes fixes how
it ends, and the init process can tell the two cases that matter to it from all others: 2 is a critical
failure, and 125 the property that could not be set. What a call does to the device on its way is written down
by surroundings that keep a list of it.
-/

namespace BpfBoot

open Log

variable {σ α : Type}

/-! ## Deeds -/

inductive Deed where
  | getProperty (name : String) (value : Option String)
  | setProperty (name value : String) (reply : Except PropertyError Unit)
  | boot (x : Exchange)
  | replace (successor : Successor) (reply : Except Errno ExitStatus)
  | start (program : Path) (arguments : List String) (reply : Except IoError Execution)

namespace Deed

/-- A step that also writes down what was done, given its value. -/
def noting (deed : α → Deed) (step : σ → α × σ) : σ × List Deed → α × (σ × List Deed) :=
  fun (world, deeds) =>
    let (value, world) := step world
    (value, (world, deeds ++ [deed value]))

/-- A step of the boot sequence that also writes down the exchange, given its value. -/
def notingExchange (exchange : α → Exchange) (step : σ → Outcome α σ) :
    σ × List Deed → Outcome α (σ × List Deed) := fun (world, deeds) =>
  let outcome := step world
  ⟨outcome.value, outcome.events, (outcome.world, deeds ++ [.boot (exchange outcome.value)])⟩

def silent (step : σ → α × σ) : σ × List Deed → α × (σ × List Deed) := fun (world, deeds) =>
  let (value, world) := step world
  (value, (world, deeds))

end Deed

def Platform.noting (p : Platform σ) : Platform (σ × List Deed) where
  fileExists path := Deed.notingExchange (.fileExists path) (p.fileExists path)
  writeSwitch path value := Deed.notingExchange (.writeSwitch path value) (p.writeSwitch path value)
  makePinDir subdir := Deed.notingExchange (.makePinDir subdir) (p.makePinDir subdir)
  selfTest := Deed.notingExchange .selfTest p.selfTest
  sleep seconds := Deed.notingExchange (fun _ => .sleep seconds) (p.sleep seconds)
  list world := p.list world.1
  mounts world := p.mounts world.1

/-- Surroundings that also write down what is done on the device: what is asked of the properties, what the
boot sequence asks for, and which programs are run. -/
def Surroundings.noting (s : Surroundings σ) : Surroundings (σ × List Deed) where
  loadSettings dir world := s.loadSettings dir world.1
  openLogs config := Deed.silent (s.openLogs config)
  writeLogs logs events world := (s.writeLogs logs events world.1, world.2)
  print text world := (s.print text world.1, world.2)
  complain text world := (s.complain text world.1, world.2)
  liftMemoryLimit := Deed.silent s.liftMemoryLimit
  properties :=
    { get := fun name => Deed.noting (.getProperty name) (s.properties.get name)
      set := fun name value => Deed.noting (.setProperty name value) (s.properties.set name value) }
  facts world := s.facts world.1
  platform settings := (s.platform settings).noting
  loader settings path version location :=
    Deed.notingExchange (.loadObject path version location) (s.loader settings path version location)
  processes :=
    { environment := fun world => s.processes.environment world.1
      replace := fun successor => Deed.noting (.replace successor) (s.processes.replace successor)
      start := fun program arguments keepOutput =>
        Deed.noting (.start program arguments) (s.processes.start program arguments keepOutput) }

namespace Program

variable (s : Surroundings σ) (arguments : List String) (w : σ)

/-! ## Ways of a call -/

inductive Course where
  /-- The command line is not carried out. -/
  | refused (e : UsageError)
  | unprepared (reason : SetupFailure)
  /-- The second call, with what came of setting the property. -/
  | marked (reply : Except PropertyError Unit)
  | failed (e : LoaderError)
  | finished
  /-- The boot sequence is followed by another program, or by the failure to run it. -/
  | handedOver (result : Except HandOffError HandOff.Takeover)

def Course.ending : Course → Ending
  | .refused .help => .exited 0
  | .refused _ => .exited 1
  | .unprepared _ => .exited 1
  | .marked (.ok ()) => .exited 0
  | .marked (.error _) => .exited 125
  | .failed (.criticalLoad ..) => .exited 2
  | .failed _ => .exited 1
  | .finished => .exited 0
  | .handedOver (.ok takeover) => .tookOver takeover
  | .handedOver (.error _) => .exited 1

/-- The boot sequence of a call, and the world that it starts in: the one in which the device was looked
at. -/
def bootOf (settings : Settings) (w : σ) : Bootstrap σ × σ :=
  let found := Logged.outcome (do
    liftMemoryLimit s
    Capabilities.probe s.properties s.facts settings.device) w
  (bootstrap s settings.loader found.value, found.world)

def bootResult (settings : Settings) (w : σ) : Except LoaderError Completion :=
  ((bootOf s settings w).1.run (bootOf s settings w).2).value

/-- The world in which control is handed over, with all logs written. -/
def worldAfterBoot (settings : Settings) (logs : Logs) (w : σ) : σ :=
  let outcome := (load s settings).outcome w
  s.writeLogs logs outcome.events outcome.world

/-- The world in which the second call sets the property. If the program could not be set up, it has
complained. -/
def worldBeforeMark (configDir : Option String) (w : σ) : σ :=
  match setUp s configDir w with
  | (.ok _, w') => w'
  | (.error reason, w') => s.complain (complaint reason.message) w'

/-- The ways that a call can go, each with the conditions under which it does. -/
inductive Goes : Course → Prop where
  | refused {e : UsageError} :
      CommandLine.parse arguments = .error e → Goes (.refused e)
  | unprepared {dir : Option String} {reason : SetupFailure} {w' : σ} :
      CommandLine.parse arguments = .ok ⟨false, dir⟩ → setUp s dir w = (.error reason, w') →
        Goes (.unprepared reason)
  | marked {dir : Option String} {reply : Except PropertyError Unit} :
      CommandLine.parse arguments = .ok ⟨true, dir⟩ →
        (s.properties.set "bpf.progs_loaded" "1" (worldBeforeMark s dir w)).1 = reply →
          Goes (.marked reply)
  | failed {dir : Option String} {settings : Settings} {logs : Logs} {w' : σ} {e : LoaderError} :
      CommandLine.parse arguments = .ok ⟨false, dir⟩ → setUp s dir w = (.ok (settings, logs), w') →
        bootResult s settings w' = .error e → Goes (.failed e)
  | finished {dir : Option String} {settings : Settings} {logs : Logs} {w' : σ} :
      CommandLine.parse arguments = .ok ⟨false, dir⟩ → setUp s dir w = (.ok (settings, logs), w') →
        bootResult s settings w' = .ok .finished → Goes .finished
  | handedOver {dir : Option String} {settings : Settings} {logs : Logs} {w' : σ} {program : String}
      {result : Except HandOffError HandOff.Takeover} :
      CommandLine.parse arguments = .ok ⟨false, dir⟩ → setUp s dir w = (.ok (settings, logs), w') →
        bootResult s settings w' = .ok (.handOff program) →
          ((HandOff.ofName settings.loader.handOff).run s.processes (.ofString program)
            (worldAfterBoot s settings logs w')).1 = result → Goes (.handedOver result)

variable {s arguments w}

theorem exists_goes (s : Surroundings σ) (arguments : List String) (w : σ) :
    ∃ c, Goes s arguments w c := by
  cases hline : CommandLine.parse arguments with
  | error e => exact ⟨_, .refused hline⟩
  | ok line =>
      obtain ⟨_ | _, dir⟩ := line
      · rcases hsetUp : setUp s dir w with ⟨reason | ⟨settings, logs⟩, w'⟩
        · exact ⟨_, .unprepared hline hsetUp⟩
        · cases hboot : bootResult s settings w' with
          | error e => exact ⟨_, .failed hline hsetUp hboot⟩
          | ok completion =>
              cases completion with
              | finished => exact ⟨_, .finished hline hsetUp hboot⟩
              | handOff program => exact ⟨_, .handedOver hline hsetUp hboot rfl⟩
      · exact ⟨_, .marked hline rfl⟩

/-! ## Endings -/

theorem value_load (settings : Settings) (w : σ) :
    ((load s settings).outcome w).value = bootResult s settings w := by
  simp only [load, bootResult, bootOf, Logged.outcome_eq, Logged.on_bind, Logged.on_follow]

/-- The boot sequence does not fail as what follows it can. -/
theorem exitCode_of_bootResult {settings : Settings} {e : LoaderError}
    (h : bootResult s settings w = .error e) : .exited e.exitCode = (Course.failed e).ending := by
  have hpossible := Bootstrap.canFailWith_of_run_eq_error h
  cases e <;> first | rfl | exact hpossible.elim

theorem ending_boot (settings : Settings) (logs : Logs) (w : σ) :
    (boot s settings logs w).1 = match bootResult s settings w with
      | .ok .finished => .exited 0
      | .ok (.handOff program) => (Course.handedOver ((HandOff.ofName settings.loader.handOff).run
          s.processes (.ofString program) (worldAfterBoot s settings logs w)).1).ending
      | .error e => .exited e.exitCode := by
  rw [boot, value_load]
  cases bootResult s settings w with
  | error e => rfl
  | ok completion =>
      cases completion with
      | finished => rfl
      | handOff program =>
          simp only [handOff, worldAfterBoot]
          rcases (HandOff.ofName settings.loader.handOff).run s.processes (.ofString program)
            (s.writeLogs logs ((load s settings).outcome w).events ((load s settings).outcome w).world)
            with ⟨_ | _, _⟩ <;> rfl

/-! ## The second call -/

theorem outcome_finalize (store : PropertyStore σ) (w : σ) :
    (finalize store).outcome w
      = ⟨(store.set "bpf.progs_loaded" "1" w).1.mapError (.property programsLoadedProperty "1"),
          match (store.set "bpf.progs_loaded" "1" w).1 with
            | .ok () => [Bootstrap.notice "success."]
            | .error _ => [],
          (store.set "bpf.progs_loaded" "1" w).2⟩ := by
  rw [finalize, Logged.outcome_eq, Logged.on_bind, Logged.on_act, programsLoadedProperty]
  generalize store.set "bpf.progs_loaded" "1" w = reply
  obtain ⟨_ | _, _⟩ := reply <;> rfl

/-- The second call sets the property, whatever became of the settings and of the logs. -/
theorem run_of_done {dir : Option String} (hline : CommandLine.parse arguments = .ok ⟨true, dir⟩) :
    run s arguments w = match setUp s dir w with
      | (.ok (_, logs), w') => markDone s logs w'
      | (.error reason, w') => markDoneUnlogged s reason w' := by
  simp only [run, hline]
  generalize setUp s dir w = made
  obtain ⟨_ | ⟨_, _⟩, _⟩ := made <;> rfl

theorem ending_of_done {dir : Option String}
    (hline : CommandLine.parse arguments = .ok ⟨true, dir⟩) :
    (run s arguments w).1 = (Course.marked
      (s.properties.set "bpf.progs_loaded" "1" (worldBeforeMark s dir w)).1).ending := by
  rw [run_of_done hline, worldBeforeMark]
  rcases setUp s dir w with ⟨reason | ⟨settings, logs⟩, w'⟩
  · simp only [markDoneUnlogged, outcome_finalize]
    cases (s.properties.set "bpf.progs_loaded" "1" (s.complain (complaint reason.message) w')).1
    all_goals rfl
  · simp only [markDone, outcome_finalize]
    cases (s.properties.set "bpf.progs_loaded" "1" w').1
    all_goals rfl

theorem setUp_noting (dir : Option String) (w : σ) (deeds : List Deed) :
    setUp s.noting dir (w, deeds) = ((setUp s dir w).1, ((setUp s dir w).2, deeds)) := by
  rw [setUp, setUp, show s.noting.loadSettings dir (w, deeds) = s.loadSettings dir w from rfl]
  cases s.loadSettings dir w with
  | error e => rfl
  | ok settings =>
      have hopen : s.noting.openLogs settings.logs (w, deeds)
          = ((s.openLogs settings.logs w).1, ((s.openLogs settings.logs w).2, deeds)) := rfl
      simp only [hopen]
      generalize s.openLogs settings.logs w = opened
      obtain ⟨_ | _, _⟩ := opened <;> rfl

theorem set_noting (name value : String) (w : σ) (deeds : List Deed) :
    s.noting.properties.set name value (w, deeds)
      = ((s.properties.set name value w).1, ((s.properties.set name value w).2,
          deeds ++ [.setProperty name value (s.properties.set name value w).1])) := rfl

theorem markDone_noting (logs : Logs) (w : σ) (deeds : List Deed) :
    markDone s.noting logs (w, deeds)
      = ((markDone s logs w).1, ((markDone s logs w).2, deeds ++ [.setProperty "bpf.progs_loaded" "1"
          (s.properties.set "bpf.progs_loaded" "1" w).1])) := by
  simp only [markDone, outcome_finalize, set_noting]
  rfl

theorem markDoneUnlogged_noting (reason : SetupFailure) (w : σ) (deeds : List Deed) :
    markDoneUnlogged s.noting reason (w, deeds)
      = ((markDoneUnlogged s reason w).1, ((markDoneUnlogged s reason w).2,
          deeds ++ [.setProperty "bpf.progs_loaded" "1" (s.properties.set "bpf.progs_loaded" "1"
            (s.complain (complaint reason.message) w)).1])) := by
  have hcomplain (text : String) (w : σ) (deeds : List Deed) :
      s.noting.complain text (w, deeds) = (s.complain text w, deeds) := rfl
  simp only [markDoneUnlogged, outcome_finalize, hcomplain, set_noting]
  cases (s.properties.set "bpf.progs_loaded" "1" (s.complain (complaint reason.message) w)).1
  all_goals rfl

theorem run_noting_of_done {dir : Option String} (deeds : List Deed)
    (hline : CommandLine.parse arguments = .ok ⟨true, dir⟩) :
    run s.noting arguments (w, deeds)
      = ((run s arguments w).1, ((run s arguments w).2,
          deeds ++ [.setProperty "bpf.progs_loaded" "1"
            (s.properties.set "bpf.progs_loaded" "1" (worldBeforeMark s dir w)).1])) := by
  rw [run_of_done hline, run_of_done hline, setUp_noting, worldBeforeMark]
  rcases setUp s dir w with ⟨reason | ⟨settings, logs⟩, w'⟩
  · exact markDoneUnlogged_noting reason w' deeds
  · exact markDone_noting logs w' deeds

/-! ## All calls -/

theorem ending_of_goes {c : Course} (h : Goes s arguments w c) : (run s arguments w).1 = c.ending := by
  cases h with
  | @refused e hline =>
      rw [run, hline]
      cases e <;> rfl
  | unprepared hline hsetUp => simp only [run, hline, hsetUp]; rfl
  | marked hline hset => rw [ending_of_done hline, hset]
  | failed hline hsetUp hboot =>
      simp only [run, hline, hsetUp, ending_boot, hboot, exitCode_of_bootResult hboot]
  | finished hline hsetUp hboot =>
      simp only [run, hline, hsetUp, ending_boot, hboot]
      rfl
  | handedOver hline hsetUp hboot hresult =>
      simp only [run, hline, hsetUp, ending_boot, hboot, hresult]

theorem ending_eq_iff {t : Ending} :
    (run s arguments w).1 = t ↔ ∃ c, c.ending = t ∧ Goes s arguments w c := by
  constructor
  · rintro rfl
    obtain ⟨c, hc⟩ := exists_goes s arguments w
    exact ⟨c, (ending_of_goes hc).symm, hc⟩
  · rintro ⟨c, rfl, hc⟩
    exact ending_of_goes hc

theorem Course.ending_eq_two_iff {c : Course} :
    c.ending = .exited 2 ↔ ∃ dir source, c = .failed (.criticalLoad dir source) := by
  constructor
  · intro h
    unfold ending at h
    split at h
    all_goals cases h
    exact ⟨_, _, rfl⟩
  · rintro ⟨dir, source, rfl⟩
    rfl

theorem Course.ending_eq_mark_failure_iff {c : Course} :
    c.ending = .exited 125 ↔ ∃ e, c = .marked (.error e) := by
  constructor
  · intro h
    unfold ending at h
    split at h
    all_goals cases h
    exact ⟨_, rfl⟩
  · rintro ⟨e, rfl⟩
    rfl

theorem Course.ending_eq_success_iff {c : Course} :
    c.ending = .exited 0 ↔ c = .refused .help ∨ c = .marked (.ok ()) ∨ c = .finished := by
  constructor
  · intro h
    unfold ending at h
    split at h
    all_goals cases h
    · exact .inl rfl
    · exact .inr (.inl rfl)
    · exact .inr (.inr rfl)
  · rintro (rfl | rfl | rfl) <;> rfl

theorem Course.ending_eq_failure_iff {c : Course} :
    c.ending = .exited 1 ↔ (∃ e, e ≠ .help ∧ c = .refused e) ∨ (∃ reason, c = .unprepared reason)
      ∨ (∃ e, (∀ dir source, e ≠ .criticalLoad dir source) ∧ c = .failed e)
      ∨ ∃ e, c = .handedOver (.error e) := by
  constructor
  · intro h
    unfold ending at h
    split at h
    all_goals cases h
    · next e hhelp => exact .inl ⟨e, hhelp, rfl⟩
    · next reason => exact .inr (.inl ⟨reason, rfl⟩)
    · next e hcritical => exact .inr (.inr (.inl ⟨e, hcritical, rfl⟩))
    · next e => exact .inr (.inr (.inr ⟨e, rfl⟩))
  · rintro (⟨e, he, rfl⟩ | ⟨reason, rfl⟩ | ⟨e, he, rfl⟩ | ⟨e, rfl⟩)
    · cases e <;> first | rfl | exact absurd rfl he
    · rfl
    · cases e <;> first | rfl | exact absurd rfl (he _ _)
    · rfl

theorem Course.ending_eq_tookOver_iff {c : Course} {takeover : HandOff.Takeover} :
    c.ending = .tookOver takeover ↔ c = .handedOver (.ok takeover) := by
  constructor
  · intro h
    unfold ending at h
    split at h
    all_goals cases h
    rfl
  · rintro rfl
    rfl

/-- What the ending of a call tells about the way that it went. -/
structure TellsCourse (s : Surroundings σ) (arguments : List String) (w : σ) : Prop where
  /-- A command line is carried out if it names one directory at most and has no word but `done`, which makes
  the call a second one. -/
  carriedOut : ∀ line, CommandLine.parse arguments = .ok line
    ↔ CommandLine.Says arguments line.configDir.toList (if line.done then ["done"] else [])
  helped : CommandLine.parse arguments = .error .help ↔ CommandLine.SaysHelp arguments
  /-- A first call that could begin, and that a critical object ended. -/
  critical : (run s arguments w).1 = .exited 2
    ↔ ∃ dir source, Goes s arguments w (.failed (.criticalLoad dir source))
  /-- A second call that could not set the property. -/
  unmarked : (run s arguments w).1 = .exited 125 ↔ ∃ e, Goes s arguments w (.marked (.error e))
  success : (run s arguments w).1 = .exited 0
    ↔ Goes s arguments w (.refused .help) ∨ Goes s arguments w (.marked (.ok ()))
      ∨ Goes s arguments w .finished
  failure : (run s arguments w).1 = .exited 1
    ↔ (∃ e, e ≠ .help ∧ Goes s arguments w (.refused e))
      ∨ (∃ reason, Goes s arguments w (.unprepared reason))
      ∨ (∃ e, (∀ dir source, e ≠ .criticalLoad dir source) ∧ Goes s arguments w (.failed e))
      ∨ ∃ e, Goes s arguments w (.handedOver (.error e))
  takenOver : ∀ takeover, (run s arguments w).1 = .tookOver takeover
    ↔ Goes s arguments w (.handedOver (.ok takeover))
  /-- There are no other endings. -/
  exhaustive : (∃ code ∈ [0, 1, 2, 125], (run s arguments w).1 = .exited code)
    ∨ ∃ takeover, (run s arguments w).1 = .tookOver takeover
  /-- All that the second call does on the device is to set one property. -/
  marking : ∀ dir, CommandLine.parse arguments = .ok ⟨true, dir⟩ →
    ∃ reply, Goes s arguments w (.marked reply)
      ∧ run s.noting arguments (w, []) = ((run s arguments w).1, ((run s arguments w).2,
          [.setProperty "bpf.progs_loaded" "1" reply]))

/-- The way that a call goes can be told from its ending, whatever the surroundings do. -/
theorem ending_tells_course (s : Surroundings σ) (arguments : List String) (w : σ) :
    TellsCourse s arguments w where
  carriedOut _ := CommandLine.parse_eq_ok_iff
  helped := CommandLine.parse_eq_help_iff
  critical := by
    simp only [ending_eq_iff, Course.ending_eq_two_iff]
    constructor
    · rintro ⟨_, ⟨dir, source, rfl⟩, h⟩
      exact ⟨dir, source, h⟩
    · rintro ⟨dir, source, h⟩
      exact ⟨_, ⟨dir, source, rfl⟩, h⟩
  unmarked := by
    simp only [ending_eq_iff, Course.ending_eq_mark_failure_iff]
    constructor
    · rintro ⟨_, ⟨e, rfl⟩, h⟩
      exact ⟨e, h⟩
    · rintro ⟨e, h⟩
      exact ⟨_, ⟨e, rfl⟩, h⟩
  success := by
    simp only [ending_eq_iff, Course.ending_eq_success_iff]
    constructor
    · rintro ⟨_, rfl | rfl | rfl, h⟩
      · exact .inl h
      · exact .inr (.inl h)
      · exact .inr (.inr h)
    · rintro (h | h | h)
      · exact ⟨_, .inl rfl, h⟩
      · exact ⟨_, .inr (.inl rfl), h⟩
      · exact ⟨_, .inr (.inr rfl), h⟩
  failure := by
    simp only [ending_eq_iff, Course.ending_eq_failure_iff]
    constructor
    · rintro ⟨_, ⟨e, he, rfl⟩ | ⟨reason, rfl⟩ | ⟨e, he, rfl⟩ | ⟨e, rfl⟩, h⟩
      · exact .inl ⟨e, he, h⟩
      · exact .inr (.inl ⟨reason, h⟩)
      · exact .inr (.inr (.inl ⟨e, he, h⟩))
      · exact .inr (.inr (.inr ⟨e, h⟩))
    · rintro (⟨e, he, h⟩ | ⟨reason, h⟩ | ⟨e, he, h⟩ | ⟨e, h⟩)
      · exact ⟨_, .inl ⟨e, he, rfl⟩, h⟩
      · exact ⟨_, .inr (.inl ⟨reason, rfl⟩), h⟩
      · exact ⟨_, .inr (.inr (.inl ⟨e, he, rfl⟩)), h⟩
      · exact ⟨_, .inr (.inr (.inr ⟨e, rfl⟩)), h⟩
  takenOver takeover := by
    simp only [ending_eq_iff, Course.ending_eq_tookOver_iff, exists_eq_left]
  exhaustive := by
    obtain ⟨c, hc⟩ := exists_goes s arguments w
    rw [ending_of_goes hc]
    unfold Course.ending
    split <;> simp
  marking dir hline := ⟨_, .marked hline rfl, run_noting_of_done [] hline⟩

end Program

end BpfBoot

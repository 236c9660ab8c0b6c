import Mathlib.Data.List.TakeWhile
import BpfBoot.HandOff

/-!
# What a program gets that takes over

The environment is taken apart into names and values and put together again. Splitting an entry and joining the
two parts are inverse to each other, wherever else in the entry equals signs stand, so a program that takes over
gets the entries that give a value to a name, each as it is and in their order. A process that keeps a record of
the programs it was to become shows that it asks once, or not at all if the path of the program holds a NUL.
-/

namespace BpfBoot

namespace Environment

/-! ## Entries -/

theorem cut_at_sign {run : Bytes} (hrun : equalsSign ∉ run) (value : Bytes) :
    (run ++ equalsSign :: value).takeWhile (· != equalsSign) = run
      ∧ (run ++ equalsSign :: value).dropWhile (· != equalsSign) = equalsSign :: value := by
  have hall : ∀ b ∈ run, (b != equalsSign) = true := fun b hb => by
    simpa using fun heq : b = equalsSign => hrun (heq ▸ hb)
  rw [List.takeWhile_append_of_pos hall, List.dropWhile_append_of_pos hall]
  simp

theorem splitEntry?_joinEntry {name value : Bytes} (hname : name ≠ []) (hsign : equalsSign ∉ name.tail) :
    splitEntry? (joinEntry (name, value)) = some (name, value) := by
  obtain ⟨b, rest, rfl⟩ := List.exists_cons_of_ne_nil hname
  obtain ⟨htake, hdrop⟩ := cut_at_sign hsign value
  simp only [List.tail_cons] at htake hdrop
  simp only [joinEntry, List.cons_append, splitEntry?, htake, hdrop]

theorem splitEntry?_eq_none {entry : Bytes} (h : equalsSign ∉ entry.tail) : splitEntry? entry = none := by
  cases entry with
  | nil => rfl
  | cons b rest =>
    have hdrop : rest.dropWhile (· != equalsSign) = [] :=
      List.dropWhile_eq_nil_iff.mpr fun c hc => by
        simpa using fun heq : c = equalsSign => h (heq ▸ hc)
    simp only [hdrop, splitEntry?]

/-- An equals sign behind the first byte cuts an entry into a name and a value. -/
theorem exists_joinEntry {entry : Bytes} (h : equalsSign ∈ entry.tail) :
    ∃ name value, name ≠ [] ∧ equalsSign ∉ name.tail ∧ joinEntry (name, value) = entry := by
  cases entry with
  | nil => cases h
  | cons b rest =>
    obtain ⟨run, value, rfl, hrun⟩ := List.eq_append_cons_of_mem h
    exact ⟨b :: run, value, List.cons_ne_nil b run, hrun, rfl⟩

/-- The name ends before the first equals sign that is not the first byte. -/
theorem splitEntry?_eq_some_iff {entry name value : Bytes} :
    splitEntry? entry = some (name, value)
      ↔ joinEntry (name, value) = entry ∧ name ≠ [] ∧ equalsSign ∉ name.tail := by
  constructor
  · intro h
    by_cases hsign : equalsSign ∈ entry.tail
    · obtain ⟨name', value', hname, htail, rfl⟩ := exists_joinEntry hsign
      rw [splitEntry?_joinEntry hname htail] at h
      cases h
      exact ⟨rfl, hname, htail⟩
    · rw [splitEntry?_eq_none hsign] at h
      cases h
  · rintro ⟨rfl, hname, htail⟩
    exact splitEntry?_joinEntry hname htail

theorem passedOn_eq_filter (env : Environment) :
    env.passedOn = env.filter fun entry => equalsSign ∈ entry.tail := by
  have hentry : (fun entry => splitEntry? entry |>.map joinEntry)
      = Option.guard fun entry => decide (equalsSign ∈ entry.tail) := by
    funext entry
    by_cases hsign : equalsSign ∈ entry.tail
    · obtain ⟨name, value, hname, htail, hjoin⟩ := exists_joinEntry hsign
      have hsplit : splitEntry? entry = some (name, value) := splitEntry?_eq_some_iff.mpr ⟨hjoin, hname, htail⟩
      simp [hsplit, hjoin, Option.guard, hsign]
    · simp [splitEntry?_eq_none hsign, Option.guard, hsign]
  rw [passedOn, bindings, List.map_filterMap, hentry, List.filterMap_eq_filter]

/-- Signs in the value, before the name and at the end are kept; a name without a sign behind it is not. -/
example : passedOn [[0x41, 0x3d, 0x62, 0x3d], [0x3d, 0x43, 0x3d, 0xff], [0x44, 0x3d], [0x3d, 0x45], [0x46]]
    = [[0x41, 0x3d, 0x62, 0x3d], [0x3d, 0x43, 0x3d, 0xff], [0x44, 0x3d]] := by decide

theorem count_passedOn {env : Environment} {entry : Bytes} (h : equalsSign ∈ entry.tail) :
    env.passedOn.count entry = env.count entry := by
  rw [passedOn_eq_filter]
  exact List.count_filter (by simpa using h)

theorem sign_mem_tail {name value : Bytes} (h : name ≠ []) :
    equalsSign ∈ (name ++ equalsSign :: value).tail := by
  rw [List.tail_append_of_ne_nil h]
  exact List.mem_append_right _ List.mem_cons_self

end Environment

/-! ## Taking over -/

/-- Processes that also write down the programs that they were to become. -/
def Processes.recording {σ : Type} (p : Processes σ) : Processes (σ × List Successor) where
  environment world := p.environment world.1
  replace s world :=
    let (reply, next) := p.replace s world.1
    (reply, next, world.2 ++ [s])
  start program arguments keepOutput world :=
    let (reply, next) := p.start program arguments keepOutput world.1
    (reply, next, world.2)

namespace HandOff

variable {σ : Type}

/-- What the kernel gets for a program that takes over in an environment. -/
structure Passes (path : Path) (env : Environment) (s : Successor) : Prop where
  program : s.program = path
  arguments : s.arguments = [path.bytes]
  environment : s.environment = env.filter fun entry => 0x3d ∈ entry.tail
  count_entry : ∀ entry : Bytes, 0x3d ∈ entry.tail → s.environment.count entry = env.count entry
  /-- Names and values are any bytes, equals signs among them, and a value can be empty. -/
  count_binding : ∀ name value : Bytes, name ≠ [] →
    s.environment.count (name ++ 0x3d :: value) = env.count (name ++ 0x3d :: value)
  joined : s.environment = env.bindings.map fun (name, value) => name ++ 0x3d :: value
  cut : ∀ name value, (name, value) ∈ env.bindings → name ≠ [] ∧ 0x3d ∉ name.tail

theorem passes_successor (path : Path) (env : Environment) :
    Passes path env (successor env path) where
  program := rfl
  arguments := rfl
  environment := env.passedOn_eq_filter
  count_entry _ := Environment.count_passedOn
  count_binding _ _ hname := Environment.count_passedOn (Environment.sign_mem_tail hname)
  joined := rfl
  cut _ _ hmem := by
    obtain ⟨entry, -, hsplit⟩ := List.mem_filterMap.mp hmem
    exact (Environment.splitEntry?_eq_some_iff.mp hsplit).2

theorem hasNul_of_program {program : Path} (env : Environment) (h : 0 ∈ program.bytes) :
    hasNul (successor env program) = true := by
  simp [hasNul, successor, Path.hasNul, h]

theorem hasNul_eq_false {program : Path} {env : Environment} (h : 0 ∉ program.bytes)
    (henv : ∀ entry ∈ env, 0 ∉ entry) : hasNul (successor env program) = false := by
  have hpassed : ∀ entry ∈ env.passedOn, 0 ∉ entry := by
    intro entry hentry
    rw [Environment.passedOn_eq_filter] at hentry
    exact henv entry (List.mem_filter.mp hentry).1
  simpa [hasNul, successor, Path.hasNul, h] using hpassed

/-- What the reply to becoming a program means for the one who asked. -/
def takeover (program : Path) : Except Errno ExitStatus → Except HandOffError Takeover
  | .ok status => .ok (.replaced status)
  | .error errno => .error (.exec program errno)

theorem run_replace_of_hasNul {p : Processes σ} {program : Path} {world : σ}
    (h : hasNul (successor (p.environment world) program) = true) :
    replace.run p program world = (.error (.nul program), world) :=
  if_pos h

theorem run_replace_of_not_hasNul {p : Processes σ} {program : Path} {world : σ}
    (h : hasNul (successor (p.environment world) program) = false) :
    replace.run p program world
      = (takeover program (p.replace (successor (p.environment world) program) world).1,
          (p.replace (successor (p.environment world) program) world).2) := by
  simp only [run, h, Bool.false_eq_true, if_false]
  rcases p.replace (successor (p.environment world) program) world with ⟨_ | _, _⟩ <;> rfl

/-- A process becomes a program with its own environment, or does not try to. -/
theorem run_replace (p : Processes σ) (program : Path) (world : σ) (asked : List Successor) :
    (0 ∈ program.bytes →
        replace.run p.recording program (world, asked) = (.error (.nul program), world, asked))
      ∧ (0 ∉ program.bytes → (∀ entry ∈ p.environment world, 0 ∉ entry) →
          ∃ s, Passes program (p.environment world) s
            ∧ replace.run p.recording program (world, asked)
              = (takeover program (p.replace s world).1, (p.replace s world).2, asked ++ [s])) := by
  constructor
  · intro hnul
    exact run_replace_of_hasNul (hasNul_of_program _ hnul)
  · intro hnul henv
    have hclean : hasNul (successor (p.recording.environment (world, asked)) program) = false :=
      hasNul_eq_false hnul henv
    refine ⟨_, passes_successor program (p.environment world), ?_⟩
    rw [run_replace_of_not_hasNul hclean]
    rfl

/-- A process whose environment holds one entry twice and one without a value. -/
def stubbornProcess : Processes Unit where
  environment _ := [[0x3d, 0x43, 0x3d, 0xff], [0x46], [0x3d, 0x43, 0x3d, 0xff]]
  replace _ world := (.error .enoent, world)
  start _ _ _ world := (.ok ⟨.exited 0, []⟩, world)

theorem run_replace_stubbornProcess :
    ((0 : UInt8) ∈ Path.bytes ⟨[0x2f, 0]⟩
        ∧ replace.run stubbornProcess.recording ⟨[0x2f, 0]⟩ ((), [])
          = (.error (.nul ⟨[0x2f, 0]⟩), (), []))
      ∧ ((0 : UInt8) ∉ Path.bytes ⟨[0x2f, 0x61]⟩
        ∧ (∀ entry ∈ stubbornProcess.environment (), 0 ∉ entry)
        ∧ ∃ s, Passes ⟨[0x2f, 0x61]⟩ (stubbornProcess.environment ()) s
          ∧ replace.run stubbornProcess.recording ⟨[0x2f, 0x61]⟩ ((), [])
            = (.error (.exec ⟨[0x2f, 0x61]⟩ .enoent), (), [s])) := by
  have hnul : (0 : UInt8) ∈ Path.bytes ⟨[0x2f, 0]⟩ := by decide
  have hclean : (0 : UInt8) ∉ Path.bytes ⟨[0x2f, 0x61]⟩ := by decide
  have hentries : ∀ entry ∈ stubbornProcess.environment (), 0 ∉ entry := by decide
  exact ⟨⟨hnul, (run_replace stubbornProcess _ () []).1 hnul⟩,
    ⟨hclean, hentries, (run_replace stubbornProcess _ () []).2 hclean hentries⟩⟩

end HandOff

end BpfBoot

import BpfBoot.Object.Loader
import BpfBoot.Proofs.Log.Session
import BpfBoot.Proofs.Text.Utf8

/-!
# Programs that share a pin

A program is pinned under the name of its object and its own name, with an underscore between them. Both may
hold underscores themselves, so the name of a pin does not tell where the one ends and the other begins. Two
objects share a pin just if one of them is named like the other with an underscore and more behind it, and
the names of the programs make up for the difference. Then the program that was pinned first stands for both:
the other one is not loaded, and nothing is reported but that its pin is used again.
-/

namespace BpfBoot

/-! ## Paths below a directory -/

theorem Text.Utf8.encode_inj {s t : String} (h : encode s = encode t) : s = t :=
  String.toList_inj.mp (flatMap_encodeChar_inj h)

theorem Path.ofString_inj {s t : String} (h : Path.ofString s = Path.ofString t) : s = t :=
  Text.Utf8.encode_inj (Path.mk.inj h)

/-- Below a directory, different paths stay different. -/
theorem Path.join_inj {dir q q' : Path} (hq : q.isAbsolute = false) (hq' : q'.isAbsolute = false)
    (h : dir.join q = dir.join q') : q = q' := by
  simp only [Path.join, hq, hq', Bool.false_eq_true, if_false] at h
  obtain ⟨bytes⟩ := q
  obtain ⟨bytes'⟩ := q'
  split at h <;> simpa using h

namespace Object

open Log

/-! ## Names that overlap -/

/-- The longer of two object names is the shorter one with an underscore and more behind it, and the program
of the shorter one is named so that both pairs of names read alike with an underscore between them. -/
def Overlap (object program longer program' : String) : Prop :=
  ∃ middle, longer = object ++ "_" ++ middle ∧ program = middle ++ "_" ++ program'

/-- An underscore does not tell where the first of two texts ends. -/
theorem append_underscore_eq_iff {s t s' t' : List Char} (h : s ≠ s') :
    s ++ '_' :: t = s' ++ '_' :: t'
      ↔ (∃ middle, s' = s ++ '_' :: middle ∧ t = middle ++ '_' :: t')
        ∨ ∃ middle, s = s' ++ '_' :: middle ∧ t' = middle ++ '_' :: t := by
  constructor
  · intro heq
    rcases List.append_eq_append_iff.mp heq with ⟨more, hs', hrest⟩ | ⟨more, hs, hrest⟩
    · cases more with
      | nil => exact absurd (by simpa using hs'.symm) h
      | cons c middle =>
        obtain ⟨rfl, rfl⟩ := List.cons.inj hrest
        exact .inl ⟨middle, hs', rfl⟩
    · cases more with
      | nil => exact absurd (by simpa using hs) h
      | cons c middle =>
        obtain ⟨rfl, rfl⟩ := List.cons.inj hrest
        exact .inr ⟨middle, hs, rfl⟩
  · rintro (⟨middle, rfl, rfl⟩ | ⟨middle, rfl, rfl⟩) <;> simp

theorem overlap_iff {object program longer program' : String} :
    Overlap object program longer program'
      ↔ ∃ middle, longer.toList = object.toList ++ '_' :: middle
          ∧ program.toList = middle ++ '_' :: program'.toList := by
  constructor
  · rintro ⟨middle, rfl, rfl⟩
    exact ⟨middle.toList, by simp, by simp⟩
  · rintro ⟨middle, hlonger, hprogram⟩
    refine ⟨String.ofList middle, ?_, ?_⟩
    · apply String.toList_inj.mp
      simp [hlonger]
    · apply String.toList_inj.mp
      simp [hprogram]

theorem pinName_eq_iff {object program object' program' : String} (h : object ≠ object') :
    pinName object program = pinName object' program'
      ↔ Overlap object program object' program' ∨ Overlap object' program' object program := by
  have hchars : object.toList ≠ object'.toList := mt String.toList_inj.mp h
  rw [overlap_iff, overlap_iff, ← append_underscore_eq_iff hchars, ← String.toList_inj]
  simp [pinName]

theorem isAbsolute_pinName (object program : String) :
    (Path.ofString (pinName object program)).isAbsolute = false := by
  have hfirst : String.utf8EncodeChar 'p' = [0x70] := by decide
  simp [Path.isAbsolute, Path.ofString, pinName, Text.Utf8.encode, hfirst, Path.slash]

/-! ## Pins -/

/-- The path of the pin of a program in the object file `p`. -/
def programPin (pinDir p : Path) (program : String) : Path :=
  pinDir.join (.ofString (pinName (nameOfPath p) program))

theorem programPin_eq_iff {p q : Path} (h : nameOfPath p ≠ nameOfPath q) (pinDir : Path)
    (program program' : String) :
    programPin pinDir p program = programPin pinDir q program'
      ↔ Overlap (nameOfPath p) program (nameOfPath q) program'
        ∨ Overlap (nameOfPath q) program' (nameOfPath p) program := by
  rw [← pinName_eq_iff h]
  constructor
  · intro hpins
    exact Path.ofString_inj (Path.join_inj (isAbsolute_pinName _ _) (isAbsolute_pinName _ _) hpins)
  · intro hnames
    exact congrArg (fun name => pinDir.join (.ofString name)) hnames

/-- The event that reports a program whose pin is used again. -/
def reuseEvent (pin : Path) : Event :=
  ⟨.debug, logTarget, "Reusing pinned program: " ++ pin.display⟩

/-- A pin that is there and can be opened is all that a program needs. -/
theorem addProgram_of_usable {σ : Type} (host : Host σ) (pinDir p : Path) (license : Bytes)
    (linked : LinkedProgram) (s : Session σ)
    (hentry : (host.files s.world).leadsToEntry (programPin pinDir p linked.program.name) = true)
    (husable : ((isUsable host (programPin pinDir p linked.program.name)).on s).1 = true) :
    (addProgram host pinDir (nameOfPath p) license linked).run.on s
      = (.ok (), ⟨((isUsable host (programPin pinDir p linked.program.name)).on s).2.world,
          s.events ++ [reuseEvent (programPin pinDir p linked.program.name)]⟩) := by
  have hpin : pinDir.join (.ofString (pinName (nameOfPath p) linked.program.name))
      = programPin pinDir p linked.program.name := rfl
  unfold addProgram
  rw [hpin]
  generalize programPin pinDir p linked.program.name = pin at hentry husable ⊢
  simp only [surely, Logged.on_run_bind, Logged.on_run_lift, Logged.on_look, hentry, if_true]
  rw [if_pos husable]
  rfl

/-- Two objects with different names share the pin of a program just if the names overlap, and then a usable
pin of the one keeps the program of the other from being loaded. -/
structure PinShared (pinDir p q : Path) (program program' : String) : Prop where
  same_iff : programPin pinDir p program = programPin pinDir q program'
    ↔ Overlap (nameOfPath p) program (nameOfPath q) program'
      ∨ Overlap (nameOfPath q) program' (nameOfPath p) program
  reused : programPin pinDir p program = programPin pinDir q program' →
    ∀ {σ : Type} (host : Host σ) (license : Bytes) (linked : LinkedProgram) (s : Session σ),
      linked.program.name = program →
      (host.files s.world).leadsToEntry (programPin pinDir q program') = true →
      ((isUsable host (programPin pinDir q program')).on s).1 = true →
      (addProgram host pinDir (nameOfPath p) license linked).run.on s
        = (.ok (), ⟨((isUsable host (programPin pinDir q program')).on s).2.world,
            s.events ++ [reuseEvent (programPin pinDir q program')]⟩)

theorem pinShared_of_ne {p q : Path} (h : nameOfPath p ≠ nameOfPath q) (pinDir : Path)
    (program program' : String) : PinShared pinDir p q program program' where
  same_iff := programPin_eq_iff h pinDir program program'
  reused hsame _ host license linked s hname hentry husable := by
    subst hname
    rw [← hsame] at hentry husable ⊢
    exact addProgram_of_usable host pinDir p license linked s hentry husable

/-- The object `a` with the program `b_c`, and the object `a_b` with the program `c`. -/
theorem pinShared_of_ne_underscore :
    nameOfPath (.ofString "/o/a.o") ≠ nameOfPath (.ofString "/o/a_b.o")
      ∧ PinShared (.ofString "/sys/fs/bpf/tethering/") (.ofString "/o/a.o") (.ofString "/o/a_b.o") "b_c" "c" := by
  have h : nameOfPath (.ofString "/o/a.o") ≠ nameOfPath (.ofString "/o/a_b.o") := by
    decide +kernel
  exact ⟨h, pinShared_of_ne h _ _ _⟩

/-- Different names of objects are not enough to keep the pins of their programs apart. -/
theorem not_programPin_ne :
    ¬ ∀ (pinDir p q : Path) (program program' : String), nameOfPath p ≠ nameOfPath q →
      programPin pinDir p program ≠ programPin pinDir q program' := by
  intro h
  exact h (.ofString "/sys/fs/bpf/tethering/") (.ofString "/o/a.o") (.ofString "/o/a_b.o") "b_c" "c"
    (by decide +kernel) (by decide +kernel)

end Object

end BpfBoot

import BpfBoot.Log.Output
import BpfBoot.Proofs.File.Extending

/-!
# What a channel makes of events

An event becomes a line, with its level and its message in it. The lines of the events that a channel receives
come, one after the other, behind what the terminal or the file of the channel held before, and nothing else
changes.
-/

namespace BpfBoot.Log

/-! ## Lines -/

/-- A character that stands for itself in lines of every format. -/
def IsGraphic (c : Char) : Prop :=
  0x20 ≤ c.toNat ∧ c ≠ '"' ∧ c ≠ '\\' ∧ ¬ (0x7f ≤ c.toNat ∧ c.toNat ≤ 0x9f)

instance (c : Char) : Decidable (IsGraphic c) :=
  inferInstanceAs (Decidable (_ ∧ _))

namespace Channel

/-- The bytes of the lines of events, in the order of the events. -/
def lines (c : Channel) (clock : Clock) (events : List Event) : Bytes :=
  events.flatMap fun e => Text.Utf8.encode (c.format.line clock.time e)

theorem encode_join_eq_lines (c : Channel) (clock : Clock) (events : List Event) :
    Text.Utf8.encode (String.join (events.map (c.format.line clock.time))) = c.lines clock events := by
  simp [Text.Utf8.encode, lines, String.toList_join, List.flatMap_assoc, List.flatMap_map]

/-- A channel received events: their lines came behind all that was written there before. -/
inductive Receives (c : Channel) (clock : Clock) (events : List Event) (fs : Files) (console : Console) :
    Files → Console → Prop where
  | stderr (h : c.target = .stderr) :
      Receives c clock events fs console fs { console with err := console.err ++ c.lines clock events }
  | stdout (h : c.target = .stdout) :
      Receives c clock events fs console fs { console with out := console.out ++ c.lines clock events }
  | file {p : Path} {key : Key} {fs' : Files} (hpath : c.path? clock = some p) (hfile : fs.FileAt p key)
      (hadds : fs.Adds fs' key (c.lines clock events)) : Receives c clock events fs console fs' console
  /-- Nothing that can be seen changes where the file was removed. -/
  | removed (h : c.target = .removed) : Receives c clock events fs console fs console

/-- The channel has its file where its path leads, if it writes to a file. -/
def IsReady (c : Channel) (clock : Clock) (fs : Files) : Prop :=
  ∀ p, c.path? clock = some p → ∃ key, fs.FileAt p key

variable {c : Channel} {clock : Clock} {events : List Event} {fs fs' : Files} {console console' : Console}

theorem receives_write (h : c.IsReady clock fs) (events : List Event) (console : Console) :
    c.Receives clock events fs console (c.write clock events fs console).1
      (c.write clock events fs console).2 := by
  have hfile {p : Path} (hpath : c.path? clock = some p) : c.Receives clock events fs console
      ((fs.extend p (c.lines clock events)).toOption.getD fs) console := by
    obtain ⟨key, hkey⟩ := h p hpath
    obtain ⟨fs', hextend, hadds⟩ := Files.extend_of_fileAt hkey (c.lines clock events)
    rw [hextend]
    exact .file hpath hkey hadds
  cases htarget : c.target with
  | stderr =>
    simp only [write, htarget, Console.complain, encode_join_eq_lines]
    exact .stderr htarget
  | stdout =>
    simp only [write, htarget, Console.print, encode_join_eq_lines]
    exact .stdout htarget
  | removed =>
    simp only [write, path?, htarget]
    exact .removed htarget
  | kernelLog =>
    have hpath : c.path? clock = some (.ofString kernelLogPath) := by rw [path?, htarget]
    simp only [write, hpath, htarget, encode_join_eq_lines]
    exact hfile hpath
  | file f =>
    have hpath : c.path? clock = some (f.pathAt clock) := by rw [path?, htarget]
    simp only [write, hpath, htarget, encode_join_eq_lines]
    exact hfile hpath

theorem Receives.keeps (h : c.Receives clock events fs console fs' console') (key : Key) :
    fs.Keeps fs' key := by
  cases h with
  | stderr | stdout | removed => exact .refl fs key
  | file _ _ hadds => exact hadds.keeps key

end Channel

end BpfBoot.Log

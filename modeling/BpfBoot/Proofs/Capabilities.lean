import BpfBoot.Proofs.Bootstrap.Refusal
import BpfBoot.Proofs.Bootstrap.Sequence
import BpfBoot.Proofs.Kernel.Reading
import BpfBoot.Proofs.Text.Trimming

/-!
# What is found out about the device

The level of the interface and the type of the build come from the settings if they are given there, and then no
property is read for them. Otherwise they come from properties. A property stands for a level just if it writes
one, which is said here without the program that reads it: white space, a plus sign perhaps, and a numeral that fits
into 32 bits. All other values count as level zero, and with that level no boot sequence gets past the check of the
release.
-/

namespace BpfBoot

open Log Text

variable {σ τ : Type}

theorem BuildType.parse_cases (raw : String) :
    raw = "eng" ∧ parse raw = .eng ∨ raw = "user" ∧ parse raw = .user
      ∨ raw = "userdebug" ∧ parse raw = .userDebug
      ∨ (raw ≠ "eng" ∧ raw ≠ "user" ∧ raw ≠ "userdebug") ∧ parse raw = .unknown := by
  unfold parse
  split
  · exact .inl ⟨rfl, rfl⟩
  · exact .inr (.inl ⟨rfl, rfl⟩)
  · exact .inr (.inr (.inl ⟨rfl, rfl⟩))
  · next heng huser hdebug => exact .inr (.inr (.inr ⟨⟨heng, huser, hdebug⟩, rfl⟩))

namespace Capabilities

/-! ## Levels -/

/-- The text is a numeral that stands for the number, with an optional plus sign in front and white space around
it, and the number fits into 32 bits. -/
def WritesLevel (text : String) (n : Nat) : Prop :=
  n < 0x100000000 ∧ ∃ before sign run after, text.toList = before ++ (sign ++ run) ++ after
    ∧ IsMargin before ∧ IsMargin after ∧ (sign = [] ∨ sign = ['+'])
    ∧ IsNumeral run ∧ Nat.ofDigitChars 10 run 0 = n

/-- The property of the level is absent, or it writes no level. -/
def TellsNoLevel (store : PropertyStore σ) (w : σ) : Prop :=
  ∀ text n, (store.get "ro.build.version.sdk" w).1 = some text → ¬ WritesLevel text n

theorem parseApiLevel?_eq_some_iff {text : String} {n : Nat} :
    parseApiLevel? text = some n ↔ WritesLevel text n := by
  have hchars : (trim text).toList = trimList text.toList := String.toList_ofList
  rw [parseApiLevel?, hchars, natBelow?_eq_some_iff]
  constructor
  · rintro ⟨hn, sign, run, hs, hsign, hrun, hvalue⟩
    obtain ⟨before, after, hbefore, hafter, htext, -⟩ := exists_trimList_append text.toList
    rw [hs] at htext
    exact ⟨hn, before, sign, run, after, htext, hbefore, hafter, hsign, hrun, hvalue⟩
  · rintro ⟨hn, before, sign, run, after, htext, hbefore, hafter, hsign, hrun, hvalue⟩
    -- Nothing of the sign and the numeral is white space, so trimming leaves both as they are.
    have hcore : ∀ c ∈ sign ++ run, isSpace c = false := by
      intro c hc
      rcases List.mem_append.mp hc with hc | hc
      · rcases hsign with rfl | rfl
        · cases hc
        · rw [List.mem_singleton.mp hc]
          decide
      · exact KernelVersion.isSpace_of_isDigit (hrun.2 c hc)
    refine ⟨hn, sign, run, ?_, hsign, hrun, hvalue⟩
    rw [htext, trimList_append hbefore hafter (isTrimmed_of_forall hcore)]

theorem parseApiLevel?_eq_none_iff {text : String} :
    parseApiLevel? text = none ↔ ∀ n, ¬ WritesLevel text n := by
  simp only [← parseApiLevel?_eq_some_iff, ← Option.eq_none_iff_forall_ne_some]

/-! ## Looking at the device -/

/-- The world after a property was read, which it is only if nothing was given in its place. -/
def worldAfter {α : Type} (given : Option α) (store : PropertyStore σ) (name : String) (w : σ) : σ :=
  match given with
  | some _ => w
  | none => (store.get name w).2

section

variable {α : Type} (given : Option α) (store : PropertyStore σ) (name : String)
  (read : String → Option α) (s : Session σ)

theorem value_givenOr :
    (Logged.on (givenOr given store name read) s).1
      = (given <|> (store.get name s.world).1.bind read) := by
  cases given <;> rfl

theorem world_givenOr :
    (Logged.on (givenOr given store name read) s).2.world = worldAfter given store name s.world := by
  cases given <;> rfl

end

/-- What is left of looking at a device once its properties were read. -/
def summarize (facts : σ → SystemFacts) (apiLevel : Option Nat) (rawBuildType : Option String) :
    Logged σ Capabilities := do
  let facts ← look facts
  let c := ofFacts facts apiLevel rawBuildType
  if c.arch.isUndefined then
    report ⟨.warn, logTarget, "Unsupported architecture: " ++ facts.arch⟩
  report ⟨.debug, logTarget, "probed " ++ c.summary⟩
  return c

theorem value_summarize (facts : σ → SystemFacts) (apiLevel : Option Nat)
    (rawBuildType : Option String) (s : Session σ) :
    (Logged.on (summarize facts apiLevel rawBuildType) s).1
      = ofFacts (facts s.world) apiLevel rawBuildType := by
  rw [summarize, Logged.on_bind, Logged.on_look]
  dsimp only
  split
  · rfl
  · rfl

variable (store : PropertyStore σ) (facts : σ → SystemFacts) (overrides : DeviceOverrides) (w : σ)

theorem probe_eq :
    probe store facts overrides
      = givenOr overrides.apiLevel store "ro.build.version.sdk" parseApiLevel? >>= fun apiLevel =>
          givenOr overrides.buildType store "ro.build.type" some >>= fun rawBuildType =>
            summarize facts apiLevel rawBuildType :=
  rfl

/-- What is found out about the device in a world. -/
def probed : Capabilities :=
  ((probe store facts overrides).outcome w).value

/-- The texts that the level and the type of the build are taken from. -/
theorem exists_probed_eq :
    ∃ system, probed store facts overrides w
      = ofFacts system
          (overrides.apiLevel <|> (store.get "ro.build.version.sdk" w).1.bind parseApiLevel?)
          (overrides.buildType
            <|> (store.get "ro.build.type"
              (worldAfter overrides.apiLevel store "ro.build.version.sdk" w)).1) := by
  have hprobed : probed store facts overrides w
      = (Logged.on (probe store facts overrides) ⟨w, []⟩).1 := by
    rw [probed, Logged.outcome_eq]
  rw [hprobed, probe_eq, Logged.on_bind, Logged.on_bind, value_summarize, value_givenOr,
    value_givenOr, world_givenOr, world_givenOr, Option.bind_fun_some]
  exact ⟨_, rfl⟩

/-! ## What is found out -/

/-- What the device is found to be, apart from what the system itself tells. -/
structure Probes (store : PropertyStore σ) (overrides : DeviceOverrides) (w : σ) (c : Capabilities) :
    Prop where
  level_given : ∀ n, overrides.apiLevel = some n → c.apiLevel = n
  level_written : overrides.apiLevel = none → ∀ text n,
    (store.get "ro.build.version.sdk" w).1 = some text → WritesLevel text n → c.apiLevel = n
  level_zero : overrides.apiLevel = none → TellsNoLevel store w → c.apiLevel = 0
  buildType_given : ∀ raw, overrides.buildType = some raw → c.rawBuildType = raw
  buildType_read : overrides.buildType = none → c.rawBuildType = ((store.get "ro.build.type"
    (worldAfter overrides.apiLevel store "ro.build.version.sdk" w)).1).getD ""
  eng_iff : c.buildType = .eng ↔ c.rawBuildType = "eng"
  user_iff : c.buildType = .user ↔ c.rawBuildType = "user"
  userDebug_iff : c.buildType = .userDebug ↔ c.rawBuildType = "userdebug"
  unknown_iff : c.buildType = .unknown
    ↔ c.rawBuildType ≠ "eng" ∧ c.rawBuildType ≠ "user" ∧ c.rawBuildType ≠ "userdebug"

theorem probes_probed (store : PropertyStore σ) (facts : σ → SystemFacts)
    (overrides : DeviceOverrides) (w : σ) :
    Probes store overrides w (probed store facts overrides w) := by
  obtain ⟨system, hprobed⟩ := exists_probed_eq store facts overrides w
  generalize probed store facts overrides w = c at hprobed ⊢
  have hlevel : c.apiLevel
      = (overrides.apiLevel <|> (store.get "ro.build.version.sdk" w).1.bind parseApiLevel?).getD 0 := by
    rw [hprobed, ofFacts]
  have hraw : c.rawBuildType = (overrides.buildType <|> (store.get "ro.build.type"
      (worldAfter overrides.apiLevel store "ro.build.version.sdk" w)).1).getD "" := by
    rw [hprobed, ofFacts]
  have hbuildType : c.buildType = .parse c.rawBuildType := by
    rw [hprobed, ofFacts]
  have hcases := BuildType.parse_cases c.rawBuildType
  rw [← hbuildType] at hcases
  constructor
  case level_given =>
    intro n hgiven
    rw [hlevel, hgiven]
    rfl
  case level_written =>
    intro hnone text n htext hwrites
    rw [hlevel, hnone, htext, Option.bind_some, parseApiLevel?_eq_some_iff.mpr hwrites]
    rfl
  case level_zero =>
    intro hnone hunwritten
    have hunread : (store.get "ro.build.version.sdk" w).1.bind parseApiLevel? = none :=
      Option.bind_eq_none_iff.mpr fun text htext =>
        parseApiLevel?_eq_none_iff.mpr fun n => hunwritten text n htext
    rw [hlevel, hnone, hunread]
    rfl
  case buildType_given =>
    intro raw hgiven
    rw [hraw, hgiven]
    rfl
  case buildType_read =>
    intro hnone
    rw [hraw, hnone]
    rfl
  case eng_iff => grind
  case user_iff => grind
  case userDebug_iff => grind
  case unknown_iff => grind

/-- Two views of a device agree where the settings say what it is. -/
structure AgreesOn (overrides : DeviceOverrides) (c c' : Capabilities) : Prop where
  level : overrides.apiLevel.isSome → c.apiLevel = c'.apiLevel
  rawBuildType : overrides.buildType.isSome → c.rawBuildType = c'.rawBuildType
  buildType : overrides.buildType.isSome → c.buildType = c'.buildType

theorem Probes.agreesOn {store : PropertyStore σ} {store' : PropertyStore τ} {overrides : DeviceOverrides}
    {w : σ} {v : τ} {c c' : Capabilities} (h : Probes store overrides w c)
    (h' : Probes store' overrides v c') : AgreesOn overrides c c' := by
  have hraw : overrides.buildType.isSome → c.rawBuildType = c'.rawBuildType := by
    intro hgiven
    obtain ⟨raw, hgiven⟩ := Option.isSome_iff_exists.mp hgiven
    rw [h.buildType_given raw hgiven, h'.buildType_given raw hgiven]
  refine ⟨?_, hraw, ?_⟩
  · intro hgiven
    obtain ⟨n, hgiven⟩ := Option.isSome_iff_exists.mp hgiven
    rw [h.level_given n hgiven, h'.level_given n hgiven]
  · intro hgiven
    have hsame := hraw hgiven
    cases hbuild : c'.buildType with
    | eng => exact h.eng_iff.mpr (hsame.trans (h'.eng_iff.mp hbuild))
    | user => exact h.user_iff.mpr (hsame.trans (h'.user_iff.mp hbuild))
    | userDebug => exact h.userDebug_iff.mpr (hsame.trans (h'.userDebug_iff.mp hbuild))
    | unknown => exact h.unknown_iff.mpr (hsame ▸ h'.unknown_iff.mp hbuild)

/-- What is given comes before what is found, and a level that is not told is not made up. -/
theorem probe_finds_level_and_build (store : PropertyStore σ) (facts : σ → SystemFacts)
    (overrides : DeviceOverrides) (w : σ) :
    Probes store overrides w (probed store facts overrides w)
      ∧ (∀ (τ : Type) (store' : PropertyStore τ) (facts' : τ → SystemFacts) (v : τ),
          AgreesOn overrides (probed store facts overrides w) (probed store' facts' overrides v))
      ∧ ∀ (τ : Type) (b : Bootstrap τ) (v : τ) (isFirst : Bool),
          b.caps = probed store facts overrides w → overrides.apiLevel = none → TellsNoLevel store w →
          b.FindsOneScript v isFirst →
            (b.run v).value = .error (.belowT 0)
              ∧ b.transcript v = [.fileExists (.ofString bpfLoaderScript) (.ok isFirst),
                  .fileExists (.ofString netBpfLoadScript) (.ok !isFirst)] := by
  have hprobes := probes_probed store facts overrides w
  refine ⟨hprobes, ?_, ?_⟩
  · intro τ store' facts' v
    exact hprobes.agreesOn (probes_probed store' facts' overrides v)
  · intro τ b v isFirst hcaps hnone htells hscript
    have hzero : b.caps.apiLevel = 0 := by
      rw [hcaps]
      exact hprobes.level_zero hnone htells
    have hends := Bootstrap.run_of_below hscript (hzero ▸ Nat.zero_lt_succ _)
    rwa [hzero] at hends

/-- A level of 33 behind 32 bits, which are not cut off. -/
def wideStore : PropertyStore Unit where
  get name w := (if name = "ro.build.version.sdk" then some " +4294967329\n" else none, w)
  set _ _ w := (.ok (), w)

def wideFacts (_ : Unit) : SystemFacts :=
  ⟨[], "aarch64", true, false, false⟩

def wideBoot : Bootstrap Unit :=
  { Bootstrap.obliging with caps := probed wideStore wideFacts ⟨none, some "user"⟩ () }

theorem probe_finds_level_and_build_wide :
    wideBoot.caps = probed wideStore wideFacts ⟨none, some "user"⟩ ()
      ∧ TellsNoLevel wideStore () ∧ wideBoot.FindsOneScript () false
      ∧ (wideBoot.run ()).value = .error (.belowT 0)
      ∧ wideBoot.transcript () = [.fileExists (.ofString bpfLoaderScript) (.ok false),
          .fileExists (.ofString netBpfLoadScript) (.ok true)] := by
  have htells : TellsNoLevel wideStore () := by
    rintro text n ⟨⟩
    exact parseApiLevel?_eq_none_iff.mp (by decide) n
  have hscript : wideBoot.FindsOneScript () false :=
    ⟨congrArg Except.ok (by decide), congrArg Except.ok (by decide)⟩
  have hcaps : wideBoot.caps = probed wideStore wideFacts ⟨none, some "user"⟩ () := by
    rw [wideBoot]
  exact ⟨hcaps, htells, hscript, (probe_finds_level_and_build wideStore wideFacts ⟨none, some "user"⟩ ()).2.2
    Unit wideBoot () false hcaps rfl htells hscript⟩

end Capabilities

end BpfBoot

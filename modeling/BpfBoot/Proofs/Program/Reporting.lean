import BpfBoot.LoaderError

/-!
# What is reported of a failure

A failure may have another one behind it, which caused it, and that one may have another again. What was being
done when it came up is put around it, layer by layer. The report goes through all of them from the outside to
the inside and tells each in its own words; the exit status looks through the layers for a failure of the
loader and nothing else. Some failures speak with the words of the failure in them and have that one's cause
behind them, so that they are told once and not twice.
-/

namespace BpfBoot

open Object

/-- Everything that can stand in a report. -/
inductive Fault where
  | loader (e : LoaderError)
  | object (e : ObjectError)
  | bpf (e : BpfError)
  | property (e : PropertyError)
  | image (e : ImageError)
  | types (e : TypeError)
  | map (e : MapFailure)
  | pin (e : PinFailure)
  /-- A function that was not linked, in the words that name it. -/
  | unlinked (f : LinkFailure)
  | link (e : LinkError)
  /-- The kernel refused a program. -/
  | refusal (errno : Errno)
  | elf (e : Elf.ElfError)
  | io (e : IoError)
  | text (message : String)
  /-- What was being done when a failure came up. -/
  | within (context : String) (inner : Fault)

namespace Fault

def message : Fault → String
  | .loader e => e.message
  | .object e => e.message
  | .bpf e => e.message
  | .property e => e.message
  | .image e => e.message
  | .types e => e.message
  | .map e => e.message
  | .pin e => e.message
  | .unlinked f => "error relocating `" ++ f.function ++ "`"
  | .link e => e.message
  | .refusal _ => ObjectError.refusalText
  | .elf e => e.message
  | .io e => e.message
  | .text message => message
  | .within context _ => context

/-! ## What stands behind a failure -/

def behindSysctl? : SysctlError → Option Fault
  | .openFailed _ source | .writeFailed _ _ source => some (.io source)
  | .shortWrite .. => none

def behindHandOff? : HandOffError → Option Fault
  | .spawn _ source => some (.io source)
  | .exec .. | .nul _ => none

/-- Failures that speak with the words of another one have behind them what stands behind that one. -/
def behindLoader? : LoaderError → Option Fault
  | .sysctl source => behindSysctl? source
  | .pinDir _ => none
  | .handOff source => behindHandOff? source
  | .criticalLoad _ source => some (.object source)
  | .selfTest source => some (.bpf source)
  | .property _ _ source => some (.property source)
  | .missingInitScripts | .duplicateInitScripts | .access .. | .belowT _ | .kernelTooOld ..
  | .kernel32BitOnX86 | .unsupportedKernel _ | .userspace32Bit | .unknownBuildType _ => none

def behindObject? : ObjectError → Option Fault
  | .io _ source => some (.io source)
  | .elf source => some (.elf source)
  | .image source => some (.image source)
  | .map source => some (.map source)
  | .unlinked source => some (.unlinked source)
  | .programRefused _ errno => some (.refusal errno)
  | .unpinned _ source => some (.pin source)
  | .unsupportedProgram _ | .unusable _ => none

def behindProperty? : PropertyError → Option Fault
  | .notRun _ source => some (.io source)
  | .refused .. | .failed .. => none

def behindImage? : ImageError → Option Fault
  | .unnamedSymbol => some (.text "Unable to get symbol name")
  | .badTypes source => some (.types source)
  | .badSection _ source => some (.text source)
  | _ => none

def behindMap? : MapFailure → Option Fault
  | .unknownType _ => none
  | .refused _ errno | .notFilled errno => some (.io (.os errno))
  | .unpinned _ source => some (.pin source)

def behindPin? : PinFailure → Option Fault
  | .refused errno => some (.io (.os errno))
  | .badPath _ position =>
      some (.text ("nul byte found in provided data at position: " ++ Text.decimal position))

/-- The failure that stands directly behind a failure, if there is one. -/
def behind? : Fault → Option Fault
  | .loader e => behindLoader? e
  | .object e => behindObject? e
  | .property e => behindProperty? e
  | .image e => behindImage? e
  | .map e => behindMap? e
  | .pin e => behindPin? e
  | .unlinked f => some (.link f.cause)
  | .refusal errno => some (.io (.os errno))
  | .within _ inner => some inner
  | .bpf _ | .types _ | .link _ | .elf _ | .io _ | .text _ => none

/-- The words of a failure and of all that stand behind it, one after the other. -/
inductive Tells : Fault → List String → Prop where
  | last {f : Fault} (h : f.behind? = none) : Tells f [f.message]
  | behind {f g : Fault} {texts : List String} (h : f.behind? = some g) (hrest : Tells g texts) :
      Tells f (f.message :: texts)

/-- There is one way to tell a failure. -/
theorem Tells.unique {f : Fault} {texts texts' : List String} (h : Tells f texts) (h' : Tells f texts') :
    texts = texts' := by
  induction h generalizing texts' with
  | last hnone =>
    cases h' with
    | last => rfl
    | behind hsome => simp [hnone] at hsome
  | behind hsome _ ih =>
    cases h' with
    | last hnone => simp [hnone] at hsome
    | behind hsome' hrest' =>
      obtain rfl := Option.some.inj (hsome.symm.trans hsome')
      rw [ih hrest']

/-! ## The causes of each kind of failure -/

theorem tells_io (e : IoError) : Tells (.io e) [e.message] := .last rfl

theorem tells_pin (e : PinFailure) : Tells (.pin e) (e.message :: e.causes) := by
  cases e with
  | refused errno => exact .behind rfl (.last rfl)
  | badPath path position => exact .behind rfl (.last rfl)

theorem tells_map (e : MapFailure) : Tells (.map e) (e.message :: e.causes) := by
  cases e with
  | unknownType mapType => exact .last rfl
  | refused name errno => exact .behind rfl (tells_io _)
  | unpinned name source => exact .behind rfl (tells_pin source)
  | notFilled errno => exact .behind rfl (tells_io _)

theorem tells_image (e : ImageError) : Tells (.image e) (e.message :: e.causes) := by
  cases e with
  | unnamedSymbol => exact .behind rfl (.last rfl)
  | badTypes source => exact .behind rfl (.last rfl)
  | badSection index source => exact .behind rfl (.last rfl)
  | _ => exact .last rfl

theorem tells_object (e : ObjectError) : Tells (.object e) (e.message :: e.causes) := by
  cases e with
  | io path source => exact .behind rfl (tells_io source)
  | elf source => exact .behind rfl (.last rfl)
  | image source => exact .behind rfl (tells_image source)
  | map source => exact .behind rfl (tells_map source)
  | unlinked source => exact .behind rfl (.behind rfl (.last rfl))
  | programRefused name errno => exact .behind rfl (.behind rfl (tells_io _))
  | unsupportedProgram name => exact .last rfl
  | unpinned path source => exact .behind rfl (tells_pin source)
  | unusable path => exact .last rfl

theorem tells_property (e : PropertyError) : Tells (.property e) (e.message :: e.causes) := by
  cases e with
  | refused name value code => exact .last rfl
  | notRun program source => exact .behind rfl (tells_io source)
  | failed program status => exact .last rfl

theorem tells_loader (e : LoaderError) : Tells (.loader e) (e.message :: e.causes) := by
  cases e with
  | sysctl source =>
    cases source with
    | openFailed path source => exact .behind rfl (tells_io source)
    | writeFailed path value source => exact .behind rfl (tells_io source)
    | shortWrite path value length written => exact .last rfl
  | handOff source =>
    cases source with
    | exec path errno => exact .last rfl
    | spawn path source => exact .behind rfl (tells_io source)
    | nul path => exact .last rfl
  | criticalLoad dir source => exact .behind rfl (tells_object source)
  | selfTest source => exact .behind rfl (.last rfl)
  | property name value source => exact .behind rfl (tells_property source)
  | _ => exact .last rfl

/-! ## Failures in their contexts -/

def ofFailure : Failure → Fault
  | .loader e => .loader e
  | .object e => .object e
  | .bpf e => .bpf e
  | .text message => .text message

/-- A failure with contexts around it, the innermost first. -/
def wrap (f : Fault) (contexts : List String) : Fault :=
  contexts.foldl (fun inner context => .within context inner) f

/-- The failure of the loader in a fault, through all contexts around it. -/
def loaderError? : Fault → Option LoaderError
  | .loader e => some e
  | .within _ inner => inner.loaderError?
  | _ => none

theorem tells_failure (f : Failure) : Tells (ofFailure f) (f.message :: f.causes) := by
  cases f with
  | loader e => exact tells_loader e
  | object e => exact tells_object e
  | bpf e => exact .last rfl
  | text message => exact .last rfl

/-- Contexts are told before what they are around, the outermost first. -/
theorem Tells.wrap {f : Fault} {texts : List String} (h : Tells f texts) (contexts : List String) :
    Tells (f.wrap contexts) (contexts.reverse ++ texts) := by
  induction contexts generalizing f texts with
  | nil => exact h
  | cons context contexts ih =>
    rw [List.reverse_cons, List.append_assoc]
    exact ih (.behind rfl h)

theorem loaderError?_wrap (f : Fault) (contexts : List String) :
    (f.wrap contexts).loaderError? = f.loaderError? := by
  induction contexts generalizing f with
  | nil => rfl
  | cons context contexts ih => exact ih (.within context f)

end Fault

namespace FailureReport

open Fault

/-- What is made of a failure in its contexts. -/
structure Reports (failure : Failure) (contexts : List String) : Prop where
  /-- The status is that of the failure of the loader within all contexts, if there is one. -/
  status : (conclude ⟨failure, contexts⟩).2
    = (((ofFailure failure).wrap contexts).loaderError?.map LoaderError.exitCode).getD 1
  status_loader : ∀ e, failure = .loader e → (conclude ⟨failure, contexts⟩).2 = e.exitCode
  status_other : (∀ e, failure ≠ .loader e) → (conclude ⟨failure, contexts⟩).2 = 1
  channel : (conclude ⟨failure, contexts⟩).1.level = .error
    ∧ (conclude ⟨failure, contexts⟩).1.target = Log.errorTarget
  /-- The text tells the contexts from the outside, then the failure and what stands behind it. -/
  text : ∃ causes, Tells (ofFailure failure) (failure.message :: causes)
    ∧ Tells ((ofFailure failure).wrap contexts) (contexts.reverse ++ failure.message :: causes)
    ∧ (conclude ⟨failure, contexts⟩).1.message
      = ": ".intercalate (contexts.reverse ++ failure.message :: causes)
  /-- Nothing else could be told. -/
  text_unique : ∀ texts, Tells ((ofFailure failure).wrap contexts) texts →
    (conclude ⟨failure, contexts⟩).1.message = ": ".intercalate texts

theorem conclude_reports (failure : Failure) (contexts : List String) : Reports failure contexts where
  status := by
    rw [loaderError?_wrap]
    cases failure <;> rfl
  status_loader := by
    rintro e rfl
    rfl
  status_other h := by
    cases failure with
    | loader e => exact absurd rfl (h e)
    | object e => rfl
    | bpf e => rfl
    | text message => rfl
  channel := ⟨rfl, rfl⟩
  text := ⟨failure.causes, tells_failure failure, (tells_failure failure).wrap contexts, rfl⟩
  text_unique texts h := by
    rw [h.unique ((tells_failure failure).wrap contexts)]
    rfl

end FailureReport

end BpfBoot

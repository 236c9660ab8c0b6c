import BpfBoot.Object.Loader
import BpfBoot.Proofs.Log.History

/-!
# Loading an object, from its first event on

Each step of loading an object only adds to what was reported before. So the log of an object that is loaded
begins with the event that says so, and what the loader reports after it is what it reports by itself.
-/

namespace BpfBoot.Object

open Log

variable {σ α : Type} {earlier : List Event}

/-- The step does the same after other events. -/
abbrev FollowsOn (earlier : List Event) (step : Loading σ α) : Prop :=
  AgreeOrFail (Session.FollowsOn earlier) step step

theorem followsOn_note (e : Event) : FollowsOn (σ := σ) earlier (note e) :=
  .lift (Logged.followsOn_report e)

variable (host : Host σ)

theorem followsOn_call (request : Bpf.SystemCall) :
    Agree (Session.FollowsOn earlier) (call host request) (call host request) :=
  Logged.followsOn_act _

theorem followsOn_pin (p : Path) :
    Agree (Session.FollowsOn earlier) (pin host p) (pin host p) := by
  unfold pin
  by_cases hnul : p.hasNul = true
  · rw [if_pos hnul]
    exact .pure _
  · rw [if_neg hnul]
    refine .bind (followsOn_call host _) fun reply => ?_
    cases reply with
    | ok completion => exact .pure _
    | error errno => exact .pure _

/-! ## Maps -/

theorem followsOn_makeMap (name : String) (shape : Bpf.MapShape) :
    FollowsOn earlier (makeMap host name shape) := by
  refine .bind (.lift (followsOn_call host _)) fun reply => ?_
  cases reply with
  | ok completion => exact .pure _
  | error errno => exact .throw _

theorem followsOn_openMap (pinDir : Path) (map : MapDeclaration) :
    FollowsOn earlier (openMap host pinDir map) := by
  refine .bind (.lift (Logged.followsOn_look _)) fun features => ?_
  dsimp only
  refine .ite ?_ (followsOn_makeMap host _ _)
  refine .ite (.throw _) ?_
  refine .bind (.lift (followsOn_call host _)) fun reply => ?_
  cases reply with
  | ok completion => exact .pure _
  | error errno =>
    refine .bind (followsOn_makeMap host _ _) fun descriptor => ?_
    refine .bind (.lift (followsOn_pin host _)) fun pinned => ?_
    cases pinned with
    | ok _ => exact .pure _
    | error source => exact .throw _

theorem followsOn_addMap (pinDir : Path) (declaration : MapDeclaration) :
    FollowsOn earlier (addMap host pinDir declaration) := by
  refine .bind (followsOn_openMap host pinDir declaration) fun descriptor => ?_
  refine .bind (.ite ?_ (.pure _)) fun _ => .pure _
  refine .bind (.lift (followsOn_call host _)) fun reply => ?_
  cases reply with
  | ok completion => exact .pure _
  | error errno => exact .throw _

/-! ## Programs -/

theorem followsOn_carryOut (step : Linking Unit) (code : Bpf.Code) :
    FollowsOn (σ := σ) earlier (carryOut step code) := by
  unfold carryOut
  generalize step.outcome code = outcome
  obtain ⟨result, state⟩ := outcome
  refine .bind (.forM followsOn_note _) fun _ => ?_
  cases result with
  | ok _ => exact .pure _
  | error e => exact .throw _

theorem followsOn_referToMaps (maps : List MadeMap) (image : Image) :
    FollowsOn (σ := σ) earlier (referToMaps maps image) := by
  refine .bind (.mapM (fun f => ?_) _) fun functions => .pure _
  exact .bind (followsOn_carryOut _ _) fun code => .pure _

theorem followsOn_linkPrograms (features : KernelFeatures) (image : Image) :
    FollowsOn (σ := σ) earlier (linkPrograms features image) := by
  refine .bind (.foldlM (fun image program => ?_) image _) fun linked => .pure _
  unfold linkProgram
  cases image.functionOf? program with
  | none => exact .pure _
  | some f => exact .bind (followsOn_carryOut _ _) fun code => .pure _

theorem followsOn_loadProgram (license : Bytes) (linked : LinkedProgram) :
    FollowsOn earlier (loadProgram host license linked) := by
  unfold loadProgram
  dsimp only
  cases linked.program.kind.kernelType? with
  | none => exact .throw _
  | some kernelType =>
    refine .bind (.lift (followsOn_call host _)) fun reply => ?_
    cases reply with
    | ok completion => exact .pure _
    | error errno => exact .throw _

theorem followsOn_isUsable (p : Path) :
    FollowsOn earlier (surely (isUsable host p)) :=
  .lift (Logged.followsOn_act _)

theorem followsOn_addProgram (pinDir : Path) (objectName : String) (license : Bytes)
    (linked : LinkedProgram) : FollowsOn earlier (addProgram host pinDir objectName license linked) := by
  refine .bind (.lift (Logged.followsOn_look _)) fun isPinned => ?_
  dsimp only
  refine .ite (.bind (followsOn_isUsable host _) fun reusable => ?_)
    (.bind (.pure _) fun reusable => ?_)
  -- Both ways to know whether the program can be used again go on alike.
  all_goals
    refine .ite (followsOn_note _) ?_
    refine .bind (followsOn_loadProgram host license linked) fun _ => ?_
    refine .bind (.lift (followsOn_pin host _)) fun pinned => ?_
    cases pinned with
    | error source => exact .throw_bind _ _ _
    | ok _ =>
      refine .bind (followsOn_isUsable host _) fun usable => ?_
      exact .ite (.throw_bind _ _ _) (followsOn_note _)

/-! ## Objects -/

theorem followsOn_addImage (pinDir : Path) (objectName : String) (image : Image) :
    FollowsOn earlier (addImage host pinDir objectName image) := by
  refine .bind (.lift (Logged.followsOn_act _)) fun isNews => ?_
  refine .bind (.lift (Logged.followsOn_look _)) fun features => ?_
  dsimp only
  generalize (image.maps.filter fun map => features.hasGlobalData || !map.origin.isData) = declared
  refine .ite (.bind (followsOn_note _) fun _ => ?_) ?_
  all_goals
    cases declared.find? fun map => decide (mapTypeCount ≤ map.shape.mapType) with
    | some map => exact .throw_bind _ _ _
    | none =>
      refine .bind (.mapM (followsOn_addMap host pinDir) declared) fun maps => ?_
      refine .bind (followsOn_referToMaps maps image) fun image => ?_
      refine .bind (followsOn_linkPrograms features image) fun programs => ?_
      refine .bind (.forM followsOn_note _) fun _ => ?_
      exact .forM (followsOn_addProgram host pinDir objectName image.license) programs

/-- The event that reports an object that is about to be loaded. -/
def loadingEvent (p : Path) (info : ObjectInfo) : Event :=
  ⟨.debug, logTarget, "Loading " ++ p.display ++ " (license: " ++ info.license
    ++ ", critical: " ++ yesNo info.critical ++ ")"⟩

/-- What loading an object comes to after it was reported. -/
def addContents (host : Host σ) (pinDir p : Path) (file : Elf.File) : Loading σ Unit := do
  match Image.ofFile file with
  | .error e => throw (.image e)
  | .ok image =>
      image.remarks.forM fun remark => note ⟨.debug, imageTarget, remark⟩
      addImage host pinDir (nameOfPath p) image

theorem addObject_eq (pinDir p : Path) (file : Elf.File) (info : ObjectInfo) :
    addObject host pinDir p file info
      = (do note (loadingEvent p info); addContents host pinDir p file) := rfl

theorem followsOn_addContents (pinDir p : Path) (file : Elf.File) :
    FollowsOn earlier (addContents host pinDir p file) := by
  unfold addContents
  cases Image.ofFile file with
  | error e => exact .throw _
  | ok image =>
    refine .bind (.forM (fun remark => followsOn_note _) _) fun _ => ?_
    exact followsOn_addImage host pinDir _ image

end BpfBoot.Object

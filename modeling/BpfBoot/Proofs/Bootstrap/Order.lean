import BpfBoot.Proofs.Bootstrap.Sequence

/-!
# What the boot sequence asks for, in order

All requests that a boot sequence can make stand in one fixed list, and a run makes an initial segment of
it. There is one exception: when a critical object fails, the report of that is left on the screen, so the
run ends with a request that is not next in the list. Where a run ends, and with which failure, is what the
agenda says.
-/

namespace BpfBoot.Bootstrap

variable {σ : Type} {b : Bootstrap σ} {contents : Path → Except IoError (List Name)}

namespace Follows

variable {stages rest : List Stage} {xs : List Exchange} {r : Except LoaderError Unit}
  {e : LoaderError}

/-- A run through two agendas, one after the other, taken apart. -/
theorem of_append (h : b.Follows (stages ++ rest) xs r) :
    (∃ e, r = .error e ∧ b.Follows stages xs (.error e))
      ∨ ∃ ys zs, xs = ys ++ zs ∧ b.Follows stages ys (.ok ()) ∧ b.Follows rest zs r := by
  induction stages generalizing xs with
  | nil => exact .inr ⟨[], xs, rfl, nil, h⟩
  | cons stage stages ih =>
      cases h with
      | pass hxs hverdict hrest =>
          rcases ih hrest with ⟨e, rfl, hstages⟩ | ⟨ys, zs, rfl, hstages, hrest⟩
          · exact .inl ⟨e, rfl, pass hxs hverdict hstages⟩
          · exact .inr ⟨_, zs, (List.append_assoc _ _ _).symm, pass hxs hverdict hstages, hrest⟩
      | refused hmade hxs hx => exact .inl ⟨_, rfl, refused hmade hxs hx⟩
      | failed hxs hverdict hys => exact .inl ⟨_, rfl, failed hxs hverdict hys⟩

/-- An agenda that is completed makes all its requests. -/
theorem requests_of_ok (h : b.Follows stages xs (.ok ())) :
    xs.map Exchange.request = stages.flatMap Stage.requests := by
  generalize hr : (Except.ok () : Except LoaderError Unit) = r at h
  induction h with
  | nil => rfl
  | pass hxs _ _ ih => rw [List.map_append, hxs.requests_eq, ih hr, List.flatMap_cons]
  | refused => cases hr
  | failed => cases hr

/-- An agenda without parting requests makes an initial segment of its requests. -/
theorem requests_initial (h : b.Follows stages xs r) (hparting : ∀ stage ∈ stages, stage.parting = []) :
    xs.map Exchange.request <+: stages.flatMap Stage.requests := by
  induction h with
  | nil => exact List.prefix_rfl
  | pass hxs _ _ ih =>
      rw [List.map_append, hxs.requests_eq, List.flatMap_cons, List.prefix_append_right_inj]
      exact ih fun stage hstage => hparting stage (List.mem_cons_of_mem _ hstage)
  | refused hmade hxs _ =>
      rw [List.map_append, hxs.requests_eq, List.flatMap_cons, hmade]
      simp
  | failed hxs _ hys =>
      rw [hparting _ List.mem_cons_self] at hys
      rw [List.map_append, hxs.requests_eq, hys.requests_eq, List.flatMap_cons, List.append_nil]
      exact List.prefix_append _ _

end Follows

/-! ## The requests of a whole run -/

variable (b contents)

/-- What is asked for before objects are loaded. -/
def preparations : List Request :=
  [.fileExists (.ofString bpfLoaderScript), .fileExists (.ofString netBpfLoadScript)]
    ++ (if 35 ≤ b.caps.apiLevel ∧ b.caps.gsi = true ∧ ¬ b.caps.kernel.IsMaintained then
        [.sleep b.settings.gsiWarningDelay] else [])
    ++ (if 35 ≤ b.caps.apiLevel then [.writeSwitch (.ofString unprivilegedBpfDisabled) "0\n"] else [])
    ++ (if 34 ≤ b.caps.apiLevel then
        [.writeSwitch (.ofString bpfJitEnable) "1\n", .writeSwitch (.ofString bpfJitKallsyms) "1\n"]
      else [])
    ++ b.locations.map (fun location => .makePinDir location.pinSubdir)
    ++ [.makePinDir loaderPinSubdir]

/-- All requests of a run that nothing ends. -/
def allRequests : List Request :=
  preparations b ++ b.locations.flatMap (loadRequests b contents) ++ [.selfTest]

/-- The stages before objects are loaded. -/
def preparationStages : List Stage :=
  scriptStage :: (versionStages b ++ bitnessStage b :: buildTypeStage b :: (switchStages b
    ++ pinDirStages b))

variable {b contents}

theorem agenda_eq : agenda b contents
    = preparationStages b ++ (b.locations.map (loadStage b contents) ++ [.demand .selfTest]) := by
  simp [agenda, preparationStages]

theorem requests_supportStages :
    (supportStages b).flatMap Stage.requests
      = if ¬ b.caps.kernel.IsMaintained ∧ b.caps.gsi = true then
          [.sleep b.settings.gsiWarningDelay] else [] := by
  unfold supportStages
  rw [List.flatMap_cons, Stage.requests_gate, List.nil_append]
  split <;> rfl

theorem requests_versionStages :
    (versionStages b).flatMap Stage.requests
      = if 35 ≤ b.caps.apiLevel ∧ b.caps.gsi = true ∧ ¬ b.caps.kernel.IsMaintained then
          [.sleep b.settings.gsiWarningDelay] else [] := by
  have hfloors : (floors.map (floorStage b)).flatMap Stage.requests = [] := rfl
  unfold versionStages
  rw [List.flatMap_cons, List.flatMap_append, hfloors, Stage.requests_gate, List.nil_append,
    List.nil_append]
  simp only [Capabilities.isAtLeastV_iff]
  by_cases hV : 35 ≤ b.caps.apiLevel
  · rw [if_pos hV, List.flatMap_cons, Stage.requests_gate, List.nil_append, requests_supportStages]
    simp only [hV, true_and, and_comm]
  · rw [if_neg hV, if_neg fun h => hV h.1]
    rfl

theorem requests_switchStages :
    (switchStages b).flatMap Stage.requests
      = (if 35 ≤ b.caps.apiLevel then [.writeSwitch (.ofString unprivilegedBpfDisabled) "0\n"]
          else [])
        ++ if 34 ≤ b.caps.apiLevel then
            [.writeSwitch (.ofString bpfJitEnable) "1\n", .writeSwitch (.ofString bpfJitKallsyms) "1\n"]
          else [] := by
  unfold switchStages
  rw [List.flatMap_append]
  simp only [Capabilities.isAtLeastV_iff, Capabilities.isAtLeastU_iff]
  congr 1
  all_goals split <;> rfl

theorem requests_pinDirStages :
    (pinDirStages b).flatMap Stage.requests
      = b.locations.map (fun location => .makePinDir location.pinSubdir)
        ++ [.makePinDir loaderPinSubdir] := by
  unfold pinDirStages pinSubdirs
  simp only [List.flatMap_map, Stage.requests_demand, ← List.map_eq_flatMap]
  rw [List.map_append, List.map_map]
  rfl

theorem requests_preparationStages :
    (preparationStages b).flatMap Stage.requests = preparations b := by
  unfold preparationStages bitnessStage buildTypeStage
  simp only [List.flatMap_cons, List.flatMap_append, requests_versionStages, requests_switchStages,
    requests_pinDirStages, Stage.requests_gate, List.nil_append]
  simp only [preparations, scriptStage, List.append_assoc]

theorem parting_preparationStages : ∀ stage ∈ preparationStages b, stage.parting = [] := by
  have hsupport : ∀ stage ∈ supportStages b, stage.parting = [] := by
    unfold supportStages
    split <;> simp
  have hversion : ∀ stage ∈ versionStages b, stage.parting = [] := by
    unfold versionStages floors floorStage
    split
    · simpa using hsupport
    · simp
  have hswitch : ∀ stage ∈ switchStages b, stage.parting = [] := by
    unfold switchStages
    split <;> split <;> simp
  have hpinDir : ∀ stage ∈ pinDirStages b, stage.parting = [] := by
    simp [pinDirStages]
  unfold preparationStages bitnessStage buildTypeStage
  simp only [List.forall_mem_cons, List.forall_mem_append, Stage.parting_gate, true_and]
  exact ⟨rfl, hversion, hswitch, hpinDir⟩

/-! ## Runs that a location ends -/

variable (b contents) in
/-- A run that a critical object ends. After the requests `start` and the locations `before`, all objects
of `location` are asked for, then the report is left on the screen, and the result is the last critical
failure `e` of the location. -/
structure EndsAt (start : List Request) (before : List Location) (location : Location)
    (earlier own : List Exchange) (e : Object.ObjectError) (xs : List Exchange)
    (r : Except LoaderError Unit) : Prop where
  transcript : xs = earlier ++ own ++ [.sleep b.settings.criticalFailureDelay]
  earlier_requests : earlier.map Exchange.request
    = start ++ before.flatMap (loadRequests b contents)
  own_requests : own.map Exchange.request = loadRequests b contents location
  failure : lastCriticalFailure? own = some e
  result : r = .error (.criticalLoad location.dir e)

theorem EndsAt.append {start more : List Request} {before : List Location} {location : Location}
    {earlier own xs ys : List Exchange} {e : Object.ObjectError} {r : Except LoaderError Unit}
    (h : EndsAt b contents start before location earlier own e xs r)
    (hys : ys.map Exchange.request = more) :
    EndsAt b contents (more ++ start) before location (ys ++ earlier) own e (ys ++ xs) r where
  transcript := by rw [h.transcript]; simp only [List.append_assoc]
  earlier_requests := by rw [List.map_append, hys, h.earlier_requests, List.append_assoc]
  own_requests := h.own_requests
  failure := h.failure
  result := h.result

theorem eq_sleep_of_request {xs : List Exchange} {seconds : Nat}
    (h : xs.map Exchange.request = [.sleep seconds]) : xs = [.sleep seconds] := by
  obtain ⟨x, rfl, hx⟩ := List.map_eq_singleton_iff.mp h
  cases x <;> cases hx
  rfl

/-- The locations are loaded in order and each to its end. -/
theorem prefix_or_endsAt_of_follows {locations : List Location} {xs : List Exchange}
    {r : Except LoaderError Unit} (h : b.Follows (locations.map (loadStage b contents)) xs r) :
    xs.map Exchange.request <+: locations.flatMap (loadRequests b contents)
      ∨ ∃ before location after earlier own e, locations = before ++ location :: after
        ∧ EndsAt b contents [] before location earlier own e xs r := by
  induction locations generalizing xs with
  | nil =>
      cases h
      exact .inl List.prefix_rfl
  | cons location locations ih =>
      rw [List.map_cons] at h
      cases h with
      | @pass _ _ own ys _ hown hverdict hrest =>
          rcases ih hrest with hinitial | ⟨before, location', after, earlier, own', e, rfl, hends⟩
          · left
            rw [List.map_append, hown.requests_eq, List.flatMap_cons]
            exact (List.prefix_append_right_inj _).mpr hinitial
          · right
            refine ⟨location :: before, location', after, own ++ earlier, own', e, rfl, ?_⟩
            have happend := hends.append hown.requests_eq
            refine ⟨happend.transcript, ?_, happend.own_requests, happend.failure, happend.result⟩
            rw [happend.earlier_requests, List.append_nil]
            rfl
      | refused hmade hxs _ =>
          left
          have hrequests : loadRequests b contents location = _ := hmade
          rw [List.map_append, hxs.requests_eq, List.flatMap_cons, hrequests]
          simp
      | @failed _ _ own ys e hown hverdict hparting =>
          right
          obtain ⟨source, hsource, rfl⟩ := Option.map_eq_some_iff.mp hverdict
          refine ⟨[], location, locations, [], own, source, rfl, ?_, rfl, hown.requests_eq, hsource,
            rfl⟩
          rw [eq_sleep_of_request hparting.requests_eq]
          rfl

/-! ## Whole runs -/

variable (b contents) in
/-- A transcript and a result that are in order. -/
structure InOrder (xs : List Exchange) (r : Except LoaderError Unit) : Prop where
  /-- Each check and each fatal reply ends the run with its own failure. -/
  follows : b.Follows (agenda b contents) xs r
  segment : xs.map Exchange.request <+: allRequests b contents
    ∨ ∃ before location after earlier own e, b.locations = before ++ location :: after
      ∧ EndsAt b contents (preparations b) before location earlier own e xs r
  complete : r = .ok () → xs.map Exchange.request = allRequests b contents

theorem requests_agenda :
    (agenda b contents).flatMap Stage.requests = allRequests b contents := by
  rw [agenda_eq, List.flatMap_append, List.flatMap_append, requests_preparationStages,
    List.flatMap_map, allRequests, List.append_assoc]
  rfl

theorem inOrder_of_follows {xs : List Exchange} {r : Except LoaderError Unit}
    (h : b.Follows (agenda b contents) xs r) : InOrder b contents xs r := by
  refine ⟨h, ?segment, ?complete⟩
  case complete =>
    rintro rfl
    rw [h.requests_of_ok, requests_agenda]
  rw [agenda_eq] at h
  rw [allRequests, List.append_assoc]
  -- the run ends before anything is loaded, or while objects are loaded, or with the test of BPF
  rcases h.of_append with ⟨e, rfl, hpreparations⟩ | ⟨xs, ys, rfl, hpreparations, hrest⟩
  · left
    have hinitial := hpreparations.requests_initial parting_preparationStages
    rw [requests_preparationStages] at hinitial
    exact hinitial.trans (List.prefix_append _ _)
  have hxs := hpreparations.requests_of_ok
  rw [requests_preparationStages] at hxs
  rw [List.map_append, hxs, List.prefix_append_right_inj]
  rcases hrest.of_append with ⟨e, rfl, hloads⟩ | ⟨ys, zs, rfl, hloads, hend⟩
  · rcases prefix_or_endsAt_of_follows hloads with
      hinitial | ⟨before, location, after, earlier, own, e, hlocations, hends⟩
    · exact .inl (hinitial.trans (List.prefix_append _ _))
    · right
      have happend := hends.append hxs
      rw [List.append_nil] at happend
      exact ⟨before, location, after, _, own, e, hlocations, happend⟩
  · left
    have hys := hloads.requests_of_ok
    have hzs := hend.requests_initial fun stage hstage => by
      rw [List.mem_singleton.mp hstage]
      rfl
    rw [List.flatMap_map] at hys
    rw [List.map_append, hys]
    exact (List.prefix_append_right_inj _).mpr hzs

/-- Transcribing a run changes nothing in it, and the transcript and the result are in order. -/
theorem run_inOrder (b : Bootstrap σ) (contents : Path → Except IoError (List Name))
    (hlist : ∀ w dir, b.platform.list w dir = contents dir) (w : σ) :
    b.transcribing.run (w, [])
        = ⟨(b.run w).value, (b.run w).events, ((b.run w).world, b.transcript w)⟩
      ∧ (∀ x ∈ b.transcript w, b.Gives x)
      ∧ InOrder b contents (b.transcript w) ((b.run w).value.map fun _ => ()) := by
  obtain ⟨hkept, hgives, hfollows⟩ := transcribing_run hlist w
  exact ⟨hkept, hgives, inOrder_of_follows hfollows⟩

theorem run_inOrder_obliging :
    InOrder obliging (fun _ => .ok [[0x61, 0x2e, 0x6f]]) (obliging.transcript ())
      ((obliging.run ()).value.map fun _ => ()) :=
  (run_inOrder obliging _ (fun _ _ => rfl) ()).2.2

end BpfBoot.Bootstrap

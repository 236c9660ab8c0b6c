import BpfBoot.Log.Filter
import Mathlib.Data.List.Induction

/-!
# Which events pass a filter

Of the directives that cover the target of an event, those with the narrowest scope count, and of these the last
one. It says up to which level events pass. Directives about spans cover no target, and an event that no
directive covers does not pass.
-/

namespace BpfBoot.Log

namespace Scope

/-- The scope takes in the target. -/
inductive Covers (target : String) : Scope → Prop where
  | everything : Covers target .everything
  | targets {start : String} (h : start.toList <+: target.toList) : Covers target (.targets start)

/-- What the second scope covers, the first one covers too. -/
inductive Includes : Scope → Scope → Prop where
  | everything {scope : Scope} : Includes .everything scope
  | targets {start start' : String} (h : start.toList <+: start'.toList) :
      Includes (.targets start) (.targets start')

variable {scope scope' scope'' : Scope} {target : String}

theorem Includes.refl (h : scope.Covers target) : scope.Includes scope := by
  cases h with
  | everything => exact .everything
  | targets => exact .targets (List.prefix_refl _)

theorem Includes.trans (h : scope.Includes scope') (h' : scope'.Includes scope'') : scope.Includes scope'' := by
  cases h with
  | everything => exact .everything
  | targets h =>
    cases h' with
    | targets h' => exact .targets (h.trans h')

theorem Includes.antisymm (h : scope.Includes scope') (h' : scope'.Includes scope) : scope = scope' := by
  cases h with
  | everything =>
    cases h' with
    | everything => rfl
  | targets h =>
    cases h' with
    | targets h' => rw [String.toList_inj.mp (h.eq_of_length_le h'.length_le)]

end Scope

namespace Directive

variable {c d : Directive} {target : String}

end Directive

namespace Filter

/-- The directive that decides about a target: none that covers it is narrower, and none of the later ones has
the same scope. -/
structure Decides (f : Filter) (target : String) (d : Directive) : Prop where
  covers : d.scope.Covers target
  narrowest : ∀ other ∈ f, other.scope.Covers target → other.scope.Includes d.scope
  last : (f.filter (·.scope = d.scope)).getLast? = some d

variable {f : Filter} {c d : Directive} {target : String}

theorem Decides.mem (h : f.Decides target d) : d ∈ f :=
  (List.mem_filter.mp (List.mem_of_getLast? h.last)).1

theorem Decides.unique (hc : f.Decides target c) (hd : f.Decides target d) : c = d := by
  have hscope : c.scope = d.scope :=
    (hd.narrowest c hc.mem hc.covers).antisymm (hc.narrowest d hd.mem hd.covers)
  have hlast := hc.last
  rw [hscope, hd.last] at hlast
  exact (Option.some.inj hlast).symm

end Filter

end BpfBoot.Log

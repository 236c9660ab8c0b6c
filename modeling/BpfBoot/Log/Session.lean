import BpfBoot.Log.Event

/-!
# Sessions

A session is the state of the world together with the events reported so far. A step of the loader
changes the world and adds events; it never takes an event back.
-/

namespace BpfBoot.Log

/-- What a step gives back: a value, the events it reported in order, and the world after it. -/
structure Outcome (α σ : Type) where
  value : α
  events : List Event
  world : σ

/-- The state of the world and the events reported so far, in order. -/
structure Session (σ : Type) where
  world : σ
  events : List Event

/-- Steps in a world that can report events. -/
abbrev Logged (σ : Type) := StateM (Session σ)

variable {σ α : Type}

def report (e : Event) : Logged σ Unit :=
  modify fun s => { s with events := s.events ++ [e] }

/-- Runs a step that changes the world in silence. -/
def act (step : σ → α × σ) : Logged σ α := fun s =>
  let (value, world) := step s.world
  (value, { s with world })

/-- Runs a step that gives back its events. -/
def follow (step : σ → Outcome α σ) : Logged σ α := fun s =>
  let outcome := step s.world
  (outcome.value, ⟨outcome.world, s.events ++ outcome.events⟩)

/-- Looks at the world. -/
def look (f : σ → α) : Logged σ α := fun s => (f s.world, s)

/-- What a step does in a world, as a plain function. -/
def Logged.outcome (step : Logged σ α) (world : σ) : Outcome α σ :=
  let (value, s) := step.run ⟨world, []⟩
  ⟨value, s.events, s.world⟩

end BpfBoot.Log

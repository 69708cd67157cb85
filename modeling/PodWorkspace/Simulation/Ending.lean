import PodWorkspace.Failure

/-! How a simulated program ends: with a value, with a failure, or not at all, when it waits for
something that never comes. -/

namespace PodWorkspace.Simulation

inductive Ending (α : Type) where
  | done (a : α)
  | failed (f : Failure)
  /-- The program waits for something that never comes. -/
  | hung

/-- The time after which a program that still waits counts as hung. -/
def patience : Duration := .ofSeconds 31536000

end PodWorkspace.Simulation

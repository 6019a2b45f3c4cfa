import GatherFusion.Event
import GatherFusion.Graph.Basic

/-!
# Runs

A run is what remains of working on a graph: the graph afterwards, the events along the way in
order, and a result. A run that broke off at a fault keeps the changes and the events up to there.
-/
namespace GatherFusion

/-- The outcome of working on a graph. -/
structure Run (α : Type) where
  /-- The graph afterwards. -/
  graph : Graph
  /-- What happened, in order. -/
  events : List Event
  /-- The result, unless the work broke off. -/
  result : Except Fault α

namespace Run

variable {α β : Type}

/-- Work that is done without a change. -/
def done (graph : Graph) (value : α) : Run α := ⟨graph, [], .ok value⟩

/-- Carry on from where a run ended, unless it broke off. -/
def andThen (run : Run α) (next : Graph → α → Run β) : Run β :=
  match run.result with
  | .error fault => ⟨run.graph, run.events, .error fault⟩
  | .ok value =>
    let later := next run.graph value
    ⟨later.graph, run.events ++ later.events, later.result⟩

/-- A run that broke off has no continuation. -/
theorem andThen_error {run : Run α} {fault : Fault} (broken : run.result = .error fault)
    (next : Graph → α → Run β) :
    run.andThen next = ⟨run.graph, run.events, .error fault⟩ := by
  simp [andThen, broken]

/-- A continuation starts from the graph and the value a run left. -/
theorem andThen_ok {run : Run α} {value : α} (finished : run.result = .ok value)
    (next : Graph → α → Run β) :
    run.andThen next = ⟨(next run.graph value).graph,
      run.events ++ (next run.graph value).events, (next run.graph value).result⟩ := by
  simp [andThen, finished]

end Run

end GatherFusion

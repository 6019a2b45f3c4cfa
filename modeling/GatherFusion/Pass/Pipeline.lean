import GatherFusion.Pass.Cleanup
import GatherFusion.Pass.Fusion
import GatherFusion.Pass.Inspection

/-!
# Pipelines of passes

A pipeline runs its passes in order, again and again, until one round changes nothing or the limit
of rounds is reached. It returns the number of rounds that changed the graph.
-/
namespace GatherFusion

/-- One kind of work on a graph. -/
inductive Pass where
  /-- Fuse lookups in compressed tables. -/
  | fusion (config : FusionConfig)
  /-- Remove dead nodes. -/
  | cleanup
  /-- Look for problems. -/
  | inspection

namespace Pass

/-- The name of a pass. -/
def name : Pass → String
  | fusion _ => "compressed-gather-fusion"
  | cleanup => "dce"
  | inspection => "graph-validation"

/-- Run a pass. The result tells whether it changed the graph. -/
def run : Pass → Graph → Run Bool
  | fusion config, graph =>
    (Fusion.run config graph).andThen fun changed report => .done changed report.changed
  | cleanup, graph => Cleanup.run graph
  | inspection, graph => Inspection.run graph

end Pass

/-- How much optimization is wanted. -/
inductive Level where
  /-- None. -/
  | none
  /-- Fusion and removal of dead nodes. -/
  | standard
  /-- The standard passes and an inspection after each round. -/
  | checked
  deriving DecidableEq, Repr

/-- Passes in the order they run. -/
structure Pipeline where
  /-- The passes. -/
  passes : List Pass

namespace Pipeline

/-- The most rounds a pipeline runs. -/
def maxRounds : Nat := 10

/-- The pipeline without passes. -/
def empty : Pipeline := ⟨[]⟩

/-- The passes of a level. -/
def ofLevel : Level → Pipeline
  | .none => empty
  | .standard => ⟨[.fusion {}, .cleanup]⟩
  | .checked => ⟨[.fusion {}, .cleanup, .inspection]⟩

/-- Add a pass at the end. -/
def add (pipeline : Pipeline) (pass : Pass) : Pipeline := ⟨pipeline.passes ++ [pass]⟩

/-- The names of the passes. -/
def names (pipeline : Pipeline) : List String := pipeline.passes.map Pass.name

/-- The event of a pass that changed the graph. -/
def passEvents (pass : Pass) (changed : Bool) : List Event :=
  if changed then [⟨.debug, s!"pass '{pass.name}' modified the graph"⟩] else []

/-- Run each pass once. The result tells whether any of them changed the graph. -/
def round (graph : Graph) : List Pass → Run Bool
  | [] => .done graph false
  | pass :: rest =>
    (pass.run graph).andThen fun graph changed =>
      Run.andThen ⟨graph, passEvents pass changed, .ok ()⟩ fun graph () =>
        (round graph rest).andThen fun graph later => .done graph (changed || later)

/-- Run at most so many rounds. The result is the number of rounds that changed the graph. -/
def rounds (passes : List Pass) (graph : Graph) : Nat → Run Nat
  | 0 => .done graph 0
  | left + 1 =>
    (round graph passes).andThen fun graph changed =>
      if changed then
        (rounds passes graph left).andThen fun graph count => .done graph (count + 1)
      else .done graph 0

/-- Run a pipeline until nothing changes any more or the limit is reached. -/
def run (pipeline : Pipeline) (graph : Graph) : Run Nat :=
  rounds pipeline.passes graph maxRounds

end Pipeline

/-- Run the standard passes on a graph. -/
def optimize (graph : Graph) : Run Nat := (Pipeline.ofLevel .standard).run graph

end GatherFusion

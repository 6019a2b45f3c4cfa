import GatherFusion.Graph.Port

/-!
# Errors of the graph

Each constructor is one reason for refusing to build, change or accept a graph. The wording of all
of them is in `GraphError.message`.
-/
namespace GatherFusion

/-- Why a graph cannot be built, changed or accepted as asked. -/
inductive GraphError where
  /-- A handle names no live node. -/
  | unknownNode (node : Nat)
  /-- A port lies beyond the outputs of its node. -/
  | badOutputIndex (port : Port) (count : Nat)
  /-- A payload is not as long as its declared type and shape ask. -/
  | constantSize (name : String) (expected found : Nat)
  /-- A constant is declared with a shape that is not fully known. -/
  | dynamicConstant (name : String)
  /-- A node that is still read cannot be removed. -/
  | nodeInUse (name : String) (readers : Nat)
  /-- Readers cannot move to a port that carries a different tensor. -/
  | incompatibleRewire (source target : Port)
  /-- The nodes cannot be ordered, producers first. -/
  | cycle (visited total : Nat)
  /-- A slot reads a port that does not exist. -/
  | danglingInput (slot : Slot) (port : Port)
  /-- The recorded readers of a port are not the slots that read it. -/
  | readersMismatch (port : Port)
  deriving DecidableEq, Repr

namespace GraphError

/-- The wording of an error. -/
def message : GraphError → String
  | unknownNode node => s!"node {Store.handleText node} does not exist"
  | badOutputIndex port count =>
    s!"node {Store.handleText port.node} has {count} output(s), port {port.index} requested"
  | constantSize name expected found =>
    s!"constant '{name}' holds {found} bytes, {expected} expected"
  | dynamicConstant name => s!"constant '{name}' must have a static shape"
  | nodeInUse name readers => s!"node '{name}' still has {readers} consumer(s)"
  | incompatibleRewire source target =>
    s!"cannot redirect {source.record} to {target.record}: output descriptions differ"
  | cycle visited total => s!"graph contains a cycle ({visited} of {total} nodes ordered)"
  | danglingInput slot port => s!"input {slot.record} reads missing port {port.record}"
  | readersMismatch port => s!"consumer set of {port.record} does not mirror its readers"

end GraphError

end GatherFusion

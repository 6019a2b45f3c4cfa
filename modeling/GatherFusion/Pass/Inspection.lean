import GatherFusion.Graph.Audit
import GatherFusion.Graph.Order
import GatherFusion.Pass.Run

/-!
# Inspection of a graph

The inspection looks for edges that do not agree, for cycles, and for nodes with the wrong number of
operands. It changes nothing and tells every problem by an event.
-/
namespace GatherFusion

/-- The least and the greatest number of operands of an operation. Operations that are not
interpreted take any number. -/
def Operation.arity? : Operation → Option (Nat × Nat)
  | .parameter | .constant _ => some (0, 0)
  | .convert | .result => some (1, 1)
  | .subtract | .multiply | .reshape _ => some (2, 2)
  | .gather _ => some (3, 3)
  | .gatherCompressed _ _ => some (4, 5)
  | .custom _ => none

namespace Inspection

/-- Something that is wrong with a graph. -/
inductive Problem where
  /-- The two records of some edge disagree. -/
  | inconsistentEdges (error : GraphError)
  /-- The nodes cannot be ordered. -/
  | notOrdered (error : GraphError)
  /-- A node has too few or too many operands. -/
  | wrongArity (id : Nat) (name typeName : String) (arity least greatest : Nat)
  deriving DecidableEq, Repr

/-- The event of a problem. -/
def Problem.event : Problem → Event
  | inconsistentEdges error => ⟨.warn, s!"graph edges are inconsistent: {error.message}"⟩
  | notOrdered error => ⟨.warn, s!"graph is not a DAG: {error.message}"⟩
  | wrongArity id name typeName arity least greatest =>
    ⟨.warn, s!"node '{name}' ({Store.handleText id}, {typeName}) has {arity} inputs, " ++
      s!"expected {least}..={greatest}"⟩

/-- Edges whose records disagree; the first disagreement is named. -/
def edgeProblems (graph : Graph) : List Problem :=
  match graph.audit with
  | .ok () => []
  | .error error => [.inconsistentEdges error]

/-- A cycle, if the nodes cannot be ordered. -/
def orderProblems (graph : Graph) : Except Fault (List Problem) :=
  match graph.topologicalOrder with
  | .ok _ => .ok []
  | .error (.refusal error) => .ok [.notOrdered error]
  | .error (.fault fault) => .error fault

/-- Whether a node has a number of operands its operation cannot take. -/
def arityProblem? (id : Nat) (node : Node) : Option Problem :=
  match node.operation.arity? with
  | none => none
  | some (least, greatest) =>
    let arity := node.inputs.length
    if least ≤ arity ∧ arity ≤ greatest then none
    else some (.wrongArity id node.name node.operation.typeName arity least greatest)

/-- The nodes with a wrong number of operands, oldest first. -/
def arityProblems (graph : Graph) : List Problem :=
  graph.entries.filterMap fun (id, node) => arityProblem? id node

/-- All problems of a graph. -/
def problems (graph : Graph) : Except Fault (List Problem) := do
  let order ← orderProblems graph
  pure (edgeProblems graph ++ order ++ arityProblems graph)

/-- Inspect a graph. The result tells that nothing was changed. -/
def run (graph : Graph) : Run Bool :=
  match problems graph with
  | .ok found => ⟨graph, found.map Problem.event, .ok false⟩
  | .error fault => ⟨graph, (edgeProblems graph).map Problem.event, .error fault⟩

end Inspection

end GatherFusion

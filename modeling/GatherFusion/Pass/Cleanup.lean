import GatherFusion.Graph.Edit
import GatherFusion.Pass.Run

/-!
# Removal of dead nodes

A node is dead when nothing reads it, unless it is an input or an output of the graph. Removing a
dead node may take the last reader from a node it read, so the producers of a removed node are
looked at again. Every step either removes a node or shortens the list of nodes to look at, which is
why the work ends.
-/
namespace GatherFusion

/-- Whether a node is neither read nor an input or output of the graph. -/
def Node.isDead (node : Node) : Bool :=
  match node.operation with
  | .parameter | .result => false
  | _ => node.isUnused

namespace Cleanup

/-- The live nodes that are dead code, newest first. -/
def deadNodes (graph : Graph) : List Nat :=
  ((graph.entries.filter fun (_, node) => node.isDead).map Prod.fst).reverse

/-- Work off a stack of nodes that may be dead; `removed` counts the removals so far. -/
def sweep (graph : Graph) (removed : Nat) : List Nat → Graph × Nat
  | [] => (graph, removed)
  | id :: rest =>
    if (graph.node? id).any Node.isDead then
      match _step : (Graph.removeNode id).runOn graph with
      | (.ok node, changed) =>
        sweep changed (removed + 1) ((node.inputs.map Port.node).reverse ++ rest)
      | (.error _, _) => sweep graph removed rest
    else sweep graph removed rest
termination_by stack => (graph.nodeCount, stack.length)
decreasing_by
  · have fewer := Graph.nodeCount_removeNode _step
    exact Prod.Lex.left _ _ (by omega)
  · exact Prod.Lex.right _ (by simp)
  · exact Prod.Lex.right _ (by simp)

/-- Remove all dead nodes. The result tells whether there were any. -/
def run (graph : Graph) : Run Bool :=
  let (changed, removed) := sweep graph 0 (deadNodes graph)
  { graph := changed
    events := if 0 < removed then [⟨.debug, s!"dce removed {removed} nodes"⟩] else []
    result := .ok (0 < removed) }

end Cleanup

end GatherFusion

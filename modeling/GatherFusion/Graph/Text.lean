import GatherFusion.Graph.Basic

/-!
# The graph as text

One line for each live node, oldest first: its handle, operation and the ports it reads, then what
its outputs carry, then its name.
-/
namespace GatherFusion

/-- The line of a node. The outputs are left out when there is nothing to write for them. -/
def Node.line (id : Nat) (node : Node) : String :=
  let arguments := ", ".intercalate (node.inputs.map Port.text)
  let results := ", ".intercalate (node.outputs.map fun output => output.info.text)
  let carried := if results.isEmpty then "" else " -> " ++ results
  s!"  %{id} = {node.operation.text}({arguments}){carried}  \"{node.name}\"\n"

/-- The lines of all live nodes. -/
def Graph.text (graph : Graph) : String :=
  String.join (graph.entries.map fun (id, node) => node.line id)

end GatherFusion

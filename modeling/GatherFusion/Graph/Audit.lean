import GatherFusion.Graph.Basic

/-!
# Checking that the edges agree

Every edge is recorded at the slot that reads and at the port that is read. `Graph.audit` runs
through the nodes in order of handle; at each node it first checks that the ports its slots read
list those slots, then that the slots its outputs list read those outputs. The first disagreement is
reported.
-/
namespace GatherFusion.Graph

/-- The port read at a slot exists and lists the slot. -/
def auditInput (graph : Graph) (slot : Slot) (port : Port) : Except GraphError Unit :=
  match graph.output? port with
  | none => .error (.danglingInput slot port)
  | some output =>
    if slot ∈ output.readers then .ok () else .error (.readersMismatch port)

/-- Every slot listed by an output reads that output. -/
def auditOutput (graph : Graph) (port : Port) (output : Output) : Except GraphError Unit :=
  if output.readers.toList.all fun slot => graph.producer? slot == some port then .ok ()
  else .error (.readersMismatch port)

/-- The edges at one node agree. -/
def auditNode (graph : Graph) (id : Nat) (node : Node) : Except GraphError Unit := do
  node.inputs.zipIdx.forM fun (port, index) => graph.auditInput ⟨id, index⟩ port
  node.outputs.zipIdx.forM fun (output, index) => graph.auditOutput ⟨id, index⟩ output

/-- The two records of every edge agree. -/
def audit (graph : Graph) : Except GraphError Unit :=
  graph.entries.forM fun (id, node) => graph.auditNode id node

end GatherFusion.Graph

import GatherFusion.Fault
import GatherFusion.Graph.Error
import GatherFusion.Operation
import GatherFusion.Tensor.Shape

/-!
# The computation graph

A node reads ports and offers outputs. Every edge is recorded twice: the reading node lists the port
it reads at each slot, and the output lists the slots that read it. The readers of a value are
therefore known without looking through the graph. That the two records agree is the business of
`GatherFusion.Graph.Edit`, which keeps them so, and of `GatherFusion.Graph.Audit`, which checks it.
-/
namespace GatherFusion

/-- One output of a node. -/
structure Output where
  /-- The tensor the output carries. -/
  info : TensorInfo
  /-- The slots that read the output. -/
  readers : OrderedSet Slot

/-- A node of the graph. -/
structure Node where
  /-- A name for people; names need not be unique. -/
  name : String
  /-- What the node computes. -/
  operation : Operation
  /-- The ports read, in operand order. -/
  inputs : List Port
  /-- The outputs offered. -/
  outputs : List Output

namespace Node

/-- The port read at a position. -/
def input? (node : Node) (index : Nat) : Option Port := node.inputs[index]?

/-- The tensor carried by an output. -/
def info? (node : Node) (index : Nat) : Option TensorInfo := node.outputs[index]?.map Output.info

/-- How many slots read the node, over all of its outputs. -/
def readerCount (node : Node) : Nat :=
  node.outputs.foldr (fun output count => output.readers.size + count) 0

/-- Whether nothing reads the node. -/
def isUnused (node : Node) : Bool := node.outputs.all fun output => output.readers.isEmpty

end Node

/-- A computation graph. -/
structure Graph where
  /-- The nodes by handle. -/
  nodes : Store Node

namespace Graph

/-- The graph without nodes. -/
def empty : Graph := ⟨.empty⟩

/-- The graph without nodes is the default. -/
instance : Inhabited Graph := ⟨empty⟩

/-- Number of live nodes. -/
def nodeCount (graph : Graph) : Nat := graph.nodes.size

/-- Whether a handle names a live node. -/
def contains (graph : Graph) (id : Nat) : Bool := graph.nodes.contains id

/-- The node a handle names, if it is live. -/
def node? (graph : Graph) (id : Nat) : Option Node := graph.nodes.get? id

/-- The node of a handle that is promised to be live. -/
def node (graph : Graph) (id : Nat) : Except Fault Node := graph.nodes.get id

/-- The live nodes with their handles, oldest first. -/
def entries (graph : Graph) : List (Nat × Node) := graph.nodes.entries

/-- The handles of the live nodes, oldest first. -/
def ids (graph : Graph) : List Nat := graph.entries.map Prod.fst

/-- The output behind a port. -/
def output (graph : Graph) (port : Port) : Except GraphError Output :=
  match graph.node? port.node with
  | none => .error (.unknownNode port.node)
  | some node =>
    match node.outputs[port.index]? with
    | none => .error (.badOutputIndex port node.outputs.length)
    | some output => .ok output

/-- The output behind a port, if there is one. -/
def output? (graph : Graph) (port : Port) : Option Output := (graph.output port).toOption

/-- The tensor a port carries, if the port exists. -/
def info? (graph : Graph) (port : Port) : Option TensorInfo :=
  (graph.output? port).map Output.info

/-- The slots that read a port, in order; none if the port does not exist. -/
def readers (graph : Graph) (port : Port) : List Slot :=
  match graph.output? port with
  | some output => output.readers.toList
  | none => []

/-- How many slots read a port. -/
def readerCount (graph : Graph) (port : Port) : Nat := (graph.readers port).length

/-- The port read at a slot. -/
def producer? (graph : Graph) (slot : Slot) : Option Port :=
  (graph.node? slot.node).bind fun node => node.input? slot.index

/-- The payload of a constant and the tensor its port carries. -/
def constant? (graph : Graph) (port : Port) : Option (Payload × TensorInfo) :=
  match graph.node? port.node with
  | some node =>
    match node.operation with
    | .constant payload => (node.info? port.index).map fun info => (payload, info)
    | _ => none
  | none => none

/-- The elements of a constant as integers. -/
def integers? (graph : Graph) (port : Port) : Option (List Int) := do
  let (payload, info) ← graph.constant? port
  let count ← info.shape.count?
  payload.integers? info.element count

/-- The elements of a constant in single precision. -/
def singles? (graph : Graph) (port : Port) : Option (List Single) := do
  let (payload, info) ← graph.constant? port
  let count ← info.shape.count?
  payload.singles? info.element count

end Graph

end GatherFusion

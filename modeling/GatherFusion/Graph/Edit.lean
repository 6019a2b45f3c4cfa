import GatherFusion.Graph.Basic

/-!
# Changing a graph

An edit runs on a graph and leaves a graph behind, also when it fails: the changes made before a
failure stay. The edits of this module check everything they need before their first change, so in a
graph whose edges agree they either do all of their work or none of it.

There are three changes. A node is added and registers itself with the outputs it reads; all readers
of one port are redirected to another that carries the same tensor; an unread node is removed and
struck from the outputs it read.
-/
namespace GatherFusion

/-- A change of a graph that yields a value or fails. -/
abbrev Edit (ε α : Type) := ExceptT (Failure ε) (StateM Graph) α

namespace Edit

variable {ε ε' α β : Type}

/-- Run an edit on a graph. -/
def runOn (edit : Edit ε α) (graph : Graph) : Except (Failure ε) α × Graph := edit graph

/-- Decline with a cause. -/
def refuse (cause : ε) : Edit ε α := throw (.refusal cause)

/-- Read from the graph; an error of the reading refuses the edit. -/
def require (reading : Graph → Except ε α) : Edit ε α := fun graph =>
  match reading graph with
  | .ok value => (.ok value, graph)
  | .error cause => (.error (.refusal cause), graph)

/-- Read from the graph; a failure of the reading ends the edit. -/
def attempt (reading : Graph → Except (Failure ε) α) : Edit ε α := fun graph =>
  (reading graph, graph)

/-- Read from the graph what is promised to be there. -/
def inspect (reading : Graph → Except Fault α) : Edit ε α := fun graph =>
  match reading graph with
  | .ok value => (.ok value, graph)
  | .error broken => (.error (.fault broken), graph)

/-- Replace the graph by the outcome of a change; an error of the change leaves the graph alone. -/
def change (step : Graph → Except (Failure ε) Graph) : Edit ε Unit := fun graph =>
  match step graph with
  | .ok changed => (.ok (), changed)
  | .error failure => (.error failure, graph)

/-- Restate the cause of a refusal. -/
def mapCause (wrap : ε → ε') (edit : Edit ε α) : Edit ε' α := fun graph =>
  match edit graph with
  | (.ok value, changed) => (.ok value, changed)
  | (.error failure, changed) => (.error (failure.mapCause wrap), changed)

/-- A finished edit changes nothing. -/
@[simp] theorem runOn_pure (value : α) (graph : Graph) :
    (pure value : Edit ε α).runOn graph = (.ok value, graph) := rfl

/-- An edit in sequence starts from the graph the first part left, unless that failed. -/
theorem runOn_bind (edit : Edit ε α) (next : α → Edit ε β) (graph : Graph) :
    (edit >>= next).runOn graph =
      match edit.runOn graph with
      | (.ok value, changed) => (next value).runOn changed
      | (.error failure, changed) => (.error failure, changed) := by
  simp only [runOn, bind, ExceptT.bind, ExceptT.mk, StateT.bind, ExceptT.bindCont]
  cases edit graph with
  | mk outcome changed => cases outcome <;> rfl

end Edit

namespace Graph

/-! ## Parts of the edits -/

/-- Change one output. -/
def modifyOutput (graph : Graph) (port : Port) (step : Output → Output) :
    Except GraphError Graph :=
  match graph.node? port.node with
  | none => .error (.unknownNode port.node)
  | some node =>
    if port.index < node.outputs.length then
      match graph.nodes.replace? port.node
          { node with outputs := node.outputs.modify port.index step } with
      | some nodes => .ok ⟨nodes⟩
      | none => .error (.unknownNode port.node)
    else .error (.badOutputIndex port node.outputs.length)

/-- Record a slot as a reader of a port. -/
def addReader (slot : Slot) (port : Port) (graph : Graph) : Except GraphError Graph :=
  graph.modifyOutput port fun output => { output with readers := output.readers.insert slot }

/-- Strike a slot from the readers of a port; a port that is gone has no readers to strike. -/
def dropReader (graph : Graph) (slot : Slot) (port : Port) : Graph :=
  match graph.modifyOutput port fun output =>
      { output with readers := output.readers.erase slot } with
  | .ok changed => changed
  | .error _ => graph

/-- Make one slot read another port. -/
def redirectSlot (slot : Slot) (target : Port) (graph : Graph) :
    Except (Failure GraphError) Graph :=
  match graph.node? slot.node with
  | none => refuse (.unknownNode slot.node)
  | some node =>
    if slot.index < node.inputs.length then
      match graph.nodes.replace? slot.node
          { node with inputs := node.inputs.set slot.index target } with
      | some nodes => .ok ⟨nodes⟩
      | none => refuse (.unknownNode slot.node)
    else .error (.fault (.missingInput slot))

/-- The slots of a node that reads the given ports, each with its port. -/
def slots (node : Nat) (inputs : List Port) : List (Slot × Port) :=
  inputs.zipIdx.map fun (port, index) => (⟨node, index⟩, port)

/-- A constant offers one output, of a known shape, whose packed elements fill the payload. -/
def checkConstant (name : String) (payload : Payload) (outputs : List TensorInfo) :
    Except GraphError Unit :=
  match outputs with
  | [info] =>
    match info.shape.count? with
    | none => .error (.dynamicConstant name)
    | some count =>
      if payload.size = info.element.byteLength count then .ok ()
      else .error (.constantSize name (info.element.byteLength count) payload.size)
  | _ => .error (.constantSize name 1 outputs.length)

/-- What is asked of a new node: every port it reads exists, and a constant fits its output. -/
def checkNode (operation : Operation) (inputs : List Port) (outputs : List TensorInfo)
    (name : String) (graph : Graph) : Except GraphError Unit := do
  inputs.forM fun port => discard (graph.output port)
  match operation with
  | .constant payload => checkConstant name payload outputs
  | _ => .ok ()

/-- Add a node under a fresh handle, without registering it anywhere. -/
def append (node : Node) : Edit GraphError Nat := fun graph =>
  let (id, nodes) := graph.nodes.push node
  (.ok id, ⟨nodes⟩)

/-- Turn an error of a step into a refusal. -/
def declining (step : Graph → Except GraphError Graph) (graph : Graph) :
    Except (Failure GraphError) Graph :=
  (step graph).mapError .refusal

/-! ## Adding nodes -/

/-- Add a node. Every port it reads has to exist, and the payload of a constant has to fit the
declared type and shape. -/
def addNode (operation : Operation) (inputs : List Port) (outputs : List TensorInfo)
    (name : String) : Edit GraphError Nat := do
  Edit.require (checkNode operation inputs outputs name)
  let id ← Edit.inspect fun graph => .ok graph.nodes.next
  (slots id inputs).forM fun (slot, port) => Edit.change (declining (addReader slot port))
  append { name, operation, inputs, outputs := outputs.map fun info => ⟨info, .empty⟩ }

/-- Add an input of the graph. -/
def addParameter (name : String) (info : TensorInfo) : Edit GraphError Nat :=
  append { name, operation := .parameter, inputs := [], outputs := [⟨info, .empty⟩] }

/-- Add a constant tensor. -/
def addConstant (name : String) (info : TensorInfo) (payload : Payload) : Edit GraphError Nat :=
  addNode (.constant payload) [] [info] name

/-- Add an output of the graph. -/
def addResult (name : String) (source : Port) : Edit GraphError Nat :=
  addNode .result [source] [] name

/-! ## Moving readers and removing nodes -/

/-- Redirect every reader of one port to another that carries the same tensor. The number of slots
moved is returned. -/
def replaceAllUses (source target : Port) : Edit GraphError Nat := do
  let old ← Edit.require (·.output source)
  let new ← Edit.require (·.output target)
  if old.info ≠ new.info then Edit.refuse (.incompatibleRewire source target)
  else if source = target then pure 0
  else
    let moved := old.readers
    Edit.change (declining (·.modifyOutput source fun output => { output with readers := .empty }))
    moved.toList.forM fun slot => Edit.change (redirectSlot slot target)
    Edit.change (declining (·.modifyOutput target fun output =>
      { output with readers := output.readers.insertAll moved.toList }))
    pure moved.size

/-- Retire a node and strike it from the outputs it read. -/
def detach (graph : Graph) (id : Nat) (node : Node) : Graph :=
  (slots id node.inputs).foldl (fun graph (slot, port) => graph.dropReader slot port)
    ⟨(graph.nodes.remove id).2⟩

/-- Remove a node that nothing reads, returning it. -/
def removeNode (id : Nat) : Edit GraphError Node := fun graph =>
  match graph.node? id with
  | none => (.error (.refusal (.unknownNode id)), graph)
  | some node =>
    if 0 < node.readerCount then
      (.error (.refusal (.nodeInUse node.name node.readerCount)), graph)
    else (.ok node, graph.detach id node)

/-! ## Number of nodes after an edit -/

/-- Changing an output adds and removes no node. -/
theorem nodeCount_modifyOutput {graph changed : Graph} {port : Port} {step : Output → Output}
    (done : graph.modifyOutput port step = .ok changed) :
    changed.nodeCount = graph.nodeCount := by
  unfold modifyOutput at done
  split at done
  · contradiction
  · split at done
    · split at done
      · rename_i stored
        cases done
        exact (Store.size_replace? stored).1
      · contradiction
    · contradiction

/-- Striking a reader adds and removes no node. -/
@[simp] theorem nodeCount_dropReader (graph : Graph) (slot : Slot) (port : Port) :
    (graph.dropReader slot port).nodeCount = graph.nodeCount := by
  unfold dropReader
  split
  · rename_i done
    exact nodeCount_modifyOutput done
  · rfl

/-- A removal that succeeds leaves one node less. -/
theorem nodeCount_removeNode {graph changed : Graph} {id : Nat} {node : Node}
    (done : (removeNode id).runOn graph = (.ok node, changed)) :
    changed.nodeCount + 1 = graph.nodeCount := by
  have struck (pairs : List (Slot × Port)) (start : Graph) :
      (pairs.foldl (fun graph (slot, port) => graph.dropReader slot port) start).nodeCount =
        start.nodeCount := by
    induction pairs generalizing start with
    | nil => rfl
    | cons pair rest ih => simp [ih]
  simp only [Edit.runOn, removeNode] at done
  split at done
  · simp at done
  · rename_i found
    split at done
    · simp at done
    · simp only [Prod.mk.injEq, Except.ok.injEq] at done
      obtain ⟨rfl, rfl⟩ := done
      rw [detach, struck]
      exact Store.size_remove found

end Graph

end GatherFusion

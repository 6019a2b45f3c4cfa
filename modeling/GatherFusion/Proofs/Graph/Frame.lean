import GatherFusion.Graph.Edit

/-!
# Frames and readers

A graph records every edge twice, so its content falls into two parts. The frame of a node is what
the node says itself: its name, its operation, the ports it reads and the tensors it offers. The
readers of a port are what the other record says. Each step an edit is made of changes one of the
parts and leaves the other alone; the lemmas here say which, and how.
-/
namespace GatherFusion

/-- A node without the record of who reads it. -/
structure Frame where
  /-- The name of the node. -/
  name : String
  /-- What the node computes. -/
  operation : Operation
  /-- The ports the node reads, in operand order. -/
  inputs : List Port
  /-- The tensors the node offers. -/
  infos : List TensorInfo
  deriving DecidableEq

/-- The frame of a node. -/
def Node.frame (node : Node) : Frame :=
  ⟨node.name, node.operation, node.inputs, node.outputs.map Output.info⟩

/-- A frame that reads the target wherever it read the source. -/
def Frame.redirect (source target : Port) (frame : Frame) : Frame :=
  { frame with inputs := frame.inputs.map fun port => if port = source then target else port }

/-- A frame that reads the target at the slots named in a list. -/
def Frame.redirectAt (id : Nat) (moved : List Slot) (target : Port) (frame : Frame) : Frame :=
  { frame with
    inputs := frame.inputs.mapIdx fun index port =>
      if (⟨id, index⟩ : Slot) ∈ moved then target else port }

/-- Redirecting slots of other nodes changes nothing. -/
theorem Frame.redirectAt_of_apart {id : Nat} {moved : List Slot} (target : Port) (frame : Frame)
    (apart : ∀ slot ∈ moved, slot.node ≠ id) : frame.redirectAt id moved target = frame := by
  have kept : (frame.inputs.mapIdx fun index port =>
      if (⟨id, index⟩ : Slot) ∈ moved then target else port) = frame.inputs := by
    apply List.ext_getElem?
    intro index
    have outside : (⟨id, index⟩ : Slot) ∉ moved := fun inside => apart _ inside rfl
    simp [outside]
  simp only [redirectAt, kept]

/-- Redirecting one slot exchanges what is read at one position. -/
theorem Frame.redirectAt_singleton (frame : Frame) {slot : Slot}
    (inside : slot.index < frame.inputs.length) (target : Port) :
    frame.redirectAt slot.node [slot] target =
      { frame with inputs := frame.inputs.set slot.index target } := by
  simp only [redirectAt, Frame.mk.injEq, true_and, and_true]
  apply List.ext_getElem?
  intro index
  by_cases same : slot.index = index
  · simp [← same, inside]
  · have apart : (⟨slot.node, index⟩ : Slot) ≠ slot :=
      fun equal => same (congrArg Slot.index equal).symm
    simp [same, apart]

/-- Slots can be redirected one after the other. -/
theorem Frame.redirectAt_redirectAt (id : Nat) (slot : Slot) (moved : List Slot) (target : Port)
    (frame : Frame) : (frame.redirectAt id [slot] target).redirectAt id moved target =
      frame.redirectAt id (slot :: moved) target := by
  simp only [redirectAt, List.mapIdx_mapIdx, Frame.mk.injEq, true_and, and_true]
  congr 1
  funext index port
  by_cases first : (⟨id, index⟩ : Slot) = slot <;> simp [first]

/-- Redirecting a port to itself changes nothing. -/
@[simp] theorem Frame.redirect_self (port : Port) (frame : Frame) :
    frame.redirect port port = frame := by
  have same : (fun other => if other = port then port else other) = id := by
    funext other
    split <;> simp_all
  simp [redirect, same]

/-- Redirecting a port that is not read changes nothing. -/
theorem Frame.redirect_of_not_mem {source : Port} (target : Port) {frame : Frame}
    (unread : source ∉ frame.inputs) : frame.redirect source target = frame := by
  have same : (frame.inputs.map fun port => if port = source then target else port) =
      frame.inputs := by
    refine (List.map_congr_left fun port operand => if_neg ?_).trans (List.map_id _)
    exact fun equal => unread (equal ▸ operand)
  simp only [redirect, same]

namespace Graph

/-! ## The two records -/

/-- The handle the next node receives. -/
def next (graph : Graph) : Nat := graph.nodes.next

/-- The frame of the node a handle names, if it is live. -/
def frame? (graph : Graph) (id : Nat) : Option Frame := (graph.node? id).map Node.frame

/-- A port exists and lists a slot among its readers. -/
def Lists (graph : Graph) (port : Port) (slot : Slot) : Prop :=
  ∃ output, graph.output? port = some output ∧ slot ∈ output.readers

/-- An output exists where the node is live and offers as many. -/
theorem output?_eq (graph : Graph) (port : Port) :
    graph.output? port = (graph.node? port.node).bind (·.outputs[port.index]?) := by
  unfold output? output
  cases graph.node? port.node with
  | none => rfl
  | some node =>
    simp only [Option.bind_some]
    cases node.outputs[port.index]? <;> rfl

/-- Looking an output up succeeds exactly where it exists. -/
theorem output_eq_ok_iff {graph : Graph} {port : Port} {output : Output} :
    graph.output port = .ok output ↔ graph.output? port = some output := by
  unfold output?
  cases graph.output port <;> simp [Except.toOption]

/-- The port read at a slot is the one the frame of the reader names. -/
theorem producer?_eq (graph : Graph) (slot : Slot) :
    graph.producer? slot = (graph.frame? slot.node).bind (·.inputs[slot.index]?) := by
  unfold producer? frame?
  cases graph.node? slot.node <;> rfl

/-- A port is read at a slot when the reader is live and names the port there. -/
theorem producer?_eq_some_iff {graph : Graph} {slot : Slot} {port : Port} :
    graph.producer? slot = some port ↔ ∃ frame,
      graph.frame? slot.node = some frame ∧ frame.inputs[slot.index]? = some port := by
  rw [producer?_eq, Option.bind_eq_some_iff]

/-- What a port carries is what the frame of its node offers. -/
theorem info?_eq (graph : Graph) (port : Port) :
    graph.info? port = (graph.frame? port.node).bind (·.infos[port.index]?) := by
  unfold info? frame?
  rw [output?_eq]
  cases graph.node? port.node <;> simp [Node.frame]

/-- The constant behind a port, told by the frame of its node. -/
theorem constant?_eq (graph : Graph) (port : Port) :
    graph.constant? port = (graph.frame? port.node).bind fun frame =>
      match frame.operation with
      | .constant payload => frame.infos[port.index]?.map fun info => (payload, info)
      | _ => none := by
  unfold constant? frame?
  cases graph.node? port.node with
  | none => rfl
  | some node =>
    obtain ⟨name, operation, inputs, outputs⟩ := node
    have offered : outputs[port.index]?.map Output.info = (outputs.map Output.info)[port.index]? :=
      List.getElem?_map.symm
    cases operation with
    | constant payload => exact congrArg (Option.map fun info => (payload, info)) offered
    | _ => rfl

/-- A promised node is there when it is live. -/
theorem node_eq_ok_iff {graph : Graph} {id : Nat} {node : Node} :
    graph.node id = .ok node ↔ graph.node? id = some node := by
  unfold Graph.node Graph.node? Store.get
  cases graph.nodes.get? id <;> simp

/-- A promised node that is dead breaks the promise. -/
theorem node_eq_error {graph : Graph} {id : Nat} (dead : graph.node? id = none) :
    graph.node id = .error (.deadHandle id) := by
  unfold Graph.node Store.get
  rw [show graph.nodes.get? id = none from dead]

/-- A live node has a frame. -/
theorem frame?_of_node? {graph : Graph} {id : Nat} {node : Node}
    (found : graph.node? id = some node) : graph.frame? id = some node.frame := by
  simp [frame?, found]

/-- A frame belongs to a live node. -/
theorem frame?_eq_some_iff {graph : Graph} {id : Nat} {frame : Frame} :
    graph.frame? id = some frame ↔ ∃ node, graph.node? id = some node ∧ node.frame = frame := by
  simp [frame?]

/-- Handles with a frame have been given out. -/
theorem lt_next_of_frame? {graph : Graph} {id : Nat} {frame : Frame}
    (found : graph.frame? id = some frame) : id < graph.next := by
  obtain ⟨node, live, -⟩ := frame?_eq_some_iff.mp found
  exact Store.lt_next_of_get? live

/-- The next handle names nothing yet. -/
@[simp] theorem node?_next (graph : Graph) : graph.node? graph.next = none := by
  cases found : graph.node? graph.next with
  | none => rfl
  | some node => exact absurd (Store.lt_next_of_get? found) (Nat.lt_irrefl _)

/-- A handle is contained exactly when it has a frame. -/
theorem contains_iff {graph : Graph} {id : Nat} :
    graph.contains id = true ↔ ∃ frame, graph.frame? id = some frame := by
  rw [← Option.isSome_iff_exists]
  simp [contains, Store.contains, frame?, node?]

/-- A handle is not contained exactly when it has no frame. -/
theorem contains_eq_false_iff {graph : Graph} {id : Nat} :
    graph.contains id = false ↔ graph.frame? id = none := by
  rw [← Bool.not_eq_true, contains_iff, ← Option.isSome_iff_exists, Option.not_isSome_iff_eq_none]

/-- The slots a new reader occupies are its operand positions. -/
theorem mem_slots {node : Nat} {inputs : List Port} {slot : Slot} {port : Port} :
    (slot, port) ∈ slots node inputs ↔ slot.node = node ∧ inputs[slot.index]? = some port := by
  simp only [slots, List.mem_map, Prod.exists, Prod.mk.injEq, List.mem_zipIdx_iff_getElem?]
  constructor
  · rintro ⟨source, index, found, rfl, rfl⟩
    exact ⟨rfl, found⟩
  · rintro ⟨rfl, found⟩
    exact ⟨port, slot.index, found, rfl, rfl⟩

/-! ## Changing an output -/

/-- The output a change of one output starts from, and the view of the changed graph. -/
theorem modifyOutput_view {graph changed : Graph} {port : Port} {step : Output → Output}
    (done : graph.modifyOutput port step = .ok changed) :
    ∃ node, graph.node? port.node = some node ∧ port.index < node.outputs.length ∧
      changed.next = graph.next ∧ ∀ id, changed.node? id = if id = port.node then
        some { node with outputs := node.outputs.modify port.index step } else graph.node? id := by
  unfold modifyOutput at done
  split at done
  · contradiction
  · rename_i node found
    split at done
    · rename_i inside
      split at done
      · rename_i stored
        cases done
        exact ⟨node, found, inside, (Store.size_replace? stored).2, Store.get?_replace? stored⟩
      · contradiction
    · contradiction

/-- An output that exists can be changed. -/
theorem modifyOutput_of_output? {graph : Graph} {port : Port} {output : Output}
    (found : graph.output? port = some output) (step : Output → Output) :
    ∃ changed, graph.modifyOutput port step = .ok changed := by
  rw [output?_eq, Option.bind_eq_some_iff] at found
  obtain ⟨node, live, offered⟩ := found
  have inside : port.index < node.outputs.length := (List.getElem?_eq_some_iff.mp offered).1
  have stored := Store.replace?_isSome graph.nodes port.node
    { node with outputs := node.outputs.modify port.index step }
  rw [show graph.nodes.contains port.node = true by
    simpa [Store.contains, node?] using congrArg Option.isSome live, Option.isSome_iff_exists]
    at stored
  obtain ⟨nodes, stored⟩ := stored
  exact ⟨⟨nodes⟩, by simp only [modifyOutput, live, inside, ↓reduceIte, stored]⟩

/-- Only an output that exists can be changed. -/
theorem output?_of_modifyOutput {graph changed : Graph} {port : Port} {step : Output → Output}
    (done : graph.modifyOutput port step = .ok changed) :
    ∃ output, graph.output? port = some output := by
  obtain ⟨node, found, inside, -, -⟩ := modifyOutput_view done
  exact ⟨node.outputs[port.index], by simp [output?_eq, found, inside]⟩

/-- A change of one output is seen at that port and nowhere else. -/
theorem output?_modifyOutput {graph changed : Graph} {port : Port} {step : Output → Output}
    (done : graph.modifyOutput port step = .ok changed) (other : Port) :
    changed.output? other =
      if other = port then (graph.output? other).map step else graph.output? other := by
  obtain ⟨node, found, -, -, view⟩ := modifyOutput_view done
  simp only [output?_eq, view]
  by_cases sameNode : other.node = port.node
  · simp only [sameNode, ↓reduceIte, Option.bind_some, found, List.getElem?_modify]
    by_cases same : other = port
    · subst same
      simp
    · have apart : port.index ≠ other.index := fun index => same (Port.ext sameNode index.symm)
      simp [same, apart]
  · have apart : other ≠ port := fun same => sameNode (congrArg Port.node same)
    simp only [if_neg sameNode, if_neg apart]

/-- A change of readers alone keeps every frame. -/
theorem frame?_modifyOutput {graph changed : Graph} {port : Port} {step : Output → Output}
    (done : graph.modifyOutput port step = .ok changed)
    (keeps : ∀ output, (step output).info = output.info) (id : Nat) :
    changed.frame? id = graph.frame? id := by
  obtain ⟨node, found, -, -, view⟩ := modifyOutput_view done
  simp only [frame?, view]
  by_cases same : id = port.node
  · subst same
    have infos : (node.outputs.modify port.index step).map Output.info =
        node.outputs.map Output.info := by
      apply List.ext_getElem?
      intro index
      simp only [List.getElem?_map, List.getElem?_modify]
      cases node.outputs[index]? with
      | none => rfl
      | some output =>
        by_cases here : port.index = index <;> simp [here, keeps]
    simp only [↓reduceIte, Option.map_some, found, Node.frame, infos]
  · simp only [if_neg same]

/-- A change of readers alone uses up no handle. -/
theorem next_modifyOutput {graph changed : Graph} {port : Port} {step : Output → Output}
    (done : graph.modifyOutput port step = .ok changed) : changed.next = graph.next := by
  obtain ⟨_, -, -, same, -⟩ := modifyOutput_view done
  exact same

/-- The slots listed after a change of the readers of one port. -/
theorem lists_modifyOutput {graph changed : Graph} {port : Port}
    (step : OrderedSet Slot → OrderedSet Slot)
    (done : graph.modifyOutput port (fun output => { output with readers := step output.readers }) =
      .ok changed) (other : Port) (slot : Slot) :
    changed.Lists other slot ↔
      if other = port then ∃ output, graph.output? other = some output ∧ slot ∈ step output.readers
      else graph.Lists other slot := by
  unfold Lists
  rw [output?_modifyOutput done]
  by_cases same : other = port
  · simp only [same, ↓reduceIte, Option.map_eq_some_iff]
    constructor
    · rintro ⟨_, ⟨output, found, rfl⟩, listed⟩
      exact ⟨output, found, listed⟩
    · rintro ⟨output, found, listed⟩
      exact ⟨_, ⟨output, found, rfl⟩, listed⟩
  · simp only [if_neg same]

/-! ## The steps of an edit -/

/-- Recording a reader lists it at that port and nothing else. -/
theorem lists_addReader {graph changed : Graph} {slot : Slot} {port : Port}
    (done : addReader slot port graph = .ok changed) (other : Port) (reader : Slot) :
    changed.Lists other reader ↔ graph.Lists other reader ∨ (reader = slot ∧ other = port) := by
  rw [lists_modifyOutput (·.insert slot) done]
  by_cases same : other = port
  · subst same
    obtain ⟨output, found⟩ := output?_of_modifyOutput done
    simp [Lists, found, or_comm]
  · simp [same]

/-- Striking a reader keeps every frame. -/
@[simp] theorem frame?_dropReader (graph : Graph) (slot : Slot) (port : Port) (id : Nat) :
    (graph.dropReader slot port).frame? id = graph.frame? id := by
  unfold dropReader
  split
  · rename_i done
    exact frame?_modifyOutput done (fun _ => rfl) id
  · rfl

/-- Striking a reader uses up no handle. -/
@[simp] theorem next_dropReader (graph : Graph) (slot : Slot) (port : Port) :
    (graph.dropReader slot port).next = graph.next := by
  unfold dropReader
  split
  · rename_i done
    exact next_modifyOutput done
  · rfl

/-- Striking a reader takes that slot from that port and nothing else. -/
theorem lists_dropReader (graph : Graph) (slot : Slot) (port other : Port) (reader : Slot) :
    (graph.dropReader slot port).Lists other reader ↔
      graph.Lists other reader ∧ ¬(reader = slot ∧ other = port) := by
  unfold dropReader
  split
  · rename_i changed done
    rw [lists_modifyOutput (·.erase slot) done]
    by_cases same : other = port
    · subst same
      simp only [↓reduceIte, OrderedSet.mem_erase, Lists, and_true]
      constructor
      · rintro ⟨output, found, listed, apart⟩
        exact ⟨⟨output, found, listed⟩, apart⟩
      · rintro ⟨⟨output, found, listed⟩, apart⟩
        exact ⟨output, found, listed, apart⟩
    · simp [same]
  · rename_i refused
    refine ⟨fun listed => ⟨listed, ?_⟩, And.left⟩
    rintro ⟨rfl, rfl⟩
    obtain ⟨output, found, -⟩ := listed
    obtain ⟨changed, done⟩ := modifyOutput_of_output? found fun output =>
      { output with readers := output.readers.erase reader }
    rw [done] at refused
    contradiction

/-- A new node is found at the fresh handle, every other handle is as before. -/
theorem node?_push (graph : Graph) (node : Node) (id : Nat) :
    (Graph.mk (graph.nodes.push node).2).node? id =
      if id = graph.next then some node else graph.node? id :=
  Store.get?_push graph.nodes node id

/-- The frame of a new node is found at the fresh handle. -/
theorem frame?_push (graph : Graph) (node : Node) (id : Nat) :
    (Graph.mk (graph.nodes.push node).2).frame? id =
      if id = graph.next then some node.frame else graph.frame? id := by
  simp only [frame?, node?_push]
  split <;> rfl

/-- A new node that lists nobody leaves the lists as they are. -/
theorem lists_push (graph : Graph) {node : Node}
    (unread : ∀ output ∈ node.outputs, output.readers = .empty) (port : Port) (slot : Slot) :
    (Graph.mk (graph.nodes.push node).2).Lists port slot ↔ graph.Lists port slot := by
  simp only [Lists, output?_eq, node?_push]
  by_cases fresh : port.node = graph.next
  · simp only [fresh, ↓reduceIte, Option.bind_some, node?_next, Option.bind_none, reduceCtorEq,
      false_and, exists_false, iff_false, not_exists, not_and]
    intro output offered
    rw [unread output (List.mem_of_getElem? offered)]
    exact OrderedSet.not_mem_empty slot
  · simp only [if_neg fresh]

/-- A retired handle names nothing, every other handle is as before. -/
theorem node?_retire (graph : Graph) (target id : Nat) :
    (Graph.mk (graph.nodes.remove target).2).node? id =
      if id = target then none else graph.node? id :=
  Store.get?_remove graph.nodes target id

/-- A retired handle has no frame, every other frame is as before. -/
theorem frame?_retire (graph : Graph) (target id : Nat) :
    (Graph.mk (graph.nodes.remove target).2).frame? id =
      if id = target then none else graph.frame? id := by
  simp only [frame?, node?_retire]
  split <;> rfl

/-- A retired node lists nobody, every other list is as before. -/
theorem lists_retire (graph : Graph) (target : Nat) (port : Port) (slot : Slot) :
    (Graph.mk (graph.nodes.remove target).2).Lists port slot ↔
      graph.Lists port slot ∧ port.node ≠ target := by
  simp only [Lists, output?_eq, node?_retire]
  by_cases same : port.node = target <;> simp [same]

/-- Making a slot read another port changes the frame of its node at that position only. -/
theorem redirectSlot_view {graph changed : Graph} {slot : Slot} {target : Port}
    (done : redirectSlot slot target graph = .ok changed) :
    changed.next = graph.next ∧
      (∀ id, changed.frame? id = (graph.frame? id).map (·.redirectAt id [slot] target)) ∧
      ∀ port reader, changed.Lists port reader ↔ graph.Lists port reader := by
  unfold redirectSlot at done
  split at done
  · contradiction
  · rename_i node found
    split at done
    · rename_i inside
      split at done
      · rename_i nodes stored
        cases done
        have view (id : Nat) := Store.get?_replace? stored id
        refine ⟨(Store.size_replace? stored).2, fun id => ?_, fun port reader => ?_⟩
        · by_cases here : id = slot.node
          · subst here
            simp only [frame?, node?, view, ↓reduceIte, Option.map_some] at found ⊢
            rw [found, Option.map_some, Option.map_some,
              node.frame.redirectAt_singleton inside target]
            rfl
          · have kept (frame : Frame) : frame.redirectAt id [slot] target = frame :=
              frame.redirectAt_of_apart target (by simpa using Ne.symm here)
            simp only [frame?, node?, view, if_neg here, kept, Option.map_id_fun', id_eq]
        · simp only [Lists, output?_eq, node?, view]
          by_cases here : port.node = slot.node
          · simp only [here, ↓reduceIte, Option.bind_some]
            rw [show graph.nodes.get? slot.node = some node from found, Option.bind_some]
          · simp only [if_neg here]
      · contradiction
    · contradiction

end Graph

end GatherFusion

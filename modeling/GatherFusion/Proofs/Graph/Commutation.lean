import GatherFusion.Proofs.Graph.Rewiring

/-!
# Swapping the operands of multiplications

A multiplication of two factors may read them in either order. Of any graph and any choice of nodes
there is a twin, in which the chosen multiplications of two factors read them the other way round
and stand among the readers of their factors with the other slot. A graph and its twin offer the same
tensors, and every node has as many readers in one as in the other. An edit that looks at no slots
and adds no multiplication does the same to both.
-/
namespace GatherFusion

/-! ## Twins -/

/-- A frame reads two factors in an order that is to be swapped. -/
def Frame.Swaps (chosen : Bool) (frame : Frame) : Prop :=
  chosen = true ∧ frame.operation = .multiply ∧ frame.inputs.length = 2

instance (chosen : Bool) (frame : Frame) : Decidable (frame.Swaps chosen) :=
  inferInstanceAs (Decidable (_ ∧ _))

/-- A frame with its two factors swapped, if it is a chosen multiplication. -/
def Frame.swapped (chosen : Bool) (frame : Frame) : Frame :=
  if frame.Swaps chosen then { frame with inputs := frame.inputs.reverse } else frame

/-- The operand position that takes the place of another one when two factors are swapped. -/
def Frame.turn (chosen : Bool) (frame : Frame) (index : Nat) : Nat :=
  if frame.Swaps chosen then
    match index with
    | 0 => 1
    | 1 => 0
    | other => other
  else index

namespace Graph

/-- The slot that takes the place of another one when the chosen multiplications are swapped. -/
def turn (nodes : Nat → Bool) (graph : Graph) (slot : Slot) : Slot :=
  match graph.frame? slot.node with
  | none => slot
  | some frame => ⟨slot.node, frame.turn (nodes slot.node) slot.index⟩

end Graph

/-- The values of a store, worked on under their handles. -/
def Store.mapValues {α β : Type} (work : Nat → α → β) (store : Store α) : Store β :=
  let slots := store.slots.mapIdx fun handle slot => slot.map (work handle)
  ⟨slots, slots.countP Option.isSome, rfl⟩

/-- A node with its operands swapped if it is a chosen multiplication, and the slots of chosen
multiplications among its readers turned. -/
def Node.swapped (turn : Slot → Slot) (chosen : Bool) (node : Node) : Node where
  name := node.name
  operation := node.operation
  inputs := (node.frame.swapped chosen).inputs
  outputs := node.outputs.map fun output =>
    { output with readers := .insertAll .empty (output.readers.toList.map turn) }

/-- The graph with the factors of the chosen multiplications swapped. -/
def Graph.swapped (nodes : Nat → Bool) (graph : Graph) : Graph :=
  ⟨graph.nodes.mapValues fun id node => node.swapped (graph.turn nodes) (nodes id)⟩

/-- Two graphs whose edges agree are twins when they differ in the operand order of chosen
multiplications only. -/
structure Graph.Twins (nodes : Nat → Bool) (left right : Graph) : Prop where
  /-- The edges of the one agree. -/
  mirrored : left.Mirrored
  /-- The edges of the other agree. -/
  still : right.Mirrored
  /-- Both have given out the same handles. -/
  next : right.next = left.next
  /-- The nodes are the same but for the swapped operands. -/
  frames : ∀ id, right.frame? id = (left.frame? id).map (·.swapped (nodes id))

namespace Frame

variable (chosen : Bool) (frame : Frame)

/-- A swapped frame keeps its name. -/
@[simp] theorem swapped_name : (frame.swapped chosen).name = frame.name := by
  unfold swapped
  split <;> rfl

/-- A swapped frame keeps its operation. -/
@[simp] theorem swapped_operation : (frame.swapped chosen).operation = frame.operation := by
  unfold swapped
  split <;> rfl

/-- A swapped frame offers what it offered. -/
@[simp] theorem swapped_infos : (frame.swapped chosen).infos = frame.infos := by
  unfold swapped
  split <;> rfl

/-- A swapped frame has as many operands. -/
@[simp] theorem length_swapped :
    (frame.swapped chosen).inputs.length = frame.inputs.length := by
  unfold swapped
  split
  · exact List.length_reverse
  · rfl

/-- A frame of another operation stays as it is. -/
theorem swapped_of_operation {frame : Frame} (other : frame.operation ≠ .multiply) :
    frame.swapped chosen = frame :=
  if_neg fun swaps => other swaps.2.1

/-- A swapped frame is to be swapped as well. -/
theorem swaps_swapped : (frame.swapped chosen).Swaps chosen ↔ frame.Swaps chosen := by
  simp only [Swaps, swapped_operation, length_swapped]

/-- Swapping twice changes nothing. -/
@[simp] theorem swapped_swapped : (frame.swapped chosen).swapped chosen = frame := by
  by_cases swaps : frame.Swaps chosen
  · have again := (frame.swaps_swapped chosen).mpr swaps
    rw [swapped, if_pos again, swapped, if_pos swaps]
    simp
  · have again := mt (frame.swaps_swapped chosen).mp swaps
    rw [swapped, if_neg again, swapped, if_neg swaps]

/-- A swapped frame reads at a position what it read at the other one. -/
theorem swapped_inputs (index : Nat) :
    (frame.swapped chosen).inputs[index]? = frame.inputs[frame.turn chosen index]? := by
  unfold swapped turn
  split
  · rename_i swaps
    obtain ⟨left, right, pair⟩ := List.length_eq_two.mp swaps.2.2
    simp only [pair]
    match index with
    | 0 => rfl
    | 1 => rfl
    | _ + 2 => rfl
  · rfl

/-- Turning a position twice leads back to it. -/
theorem turn_turn (index : Nat) : frame.turn chosen (frame.turn chosen index) = index := by
  unfold turn
  split
  · match index with
    | 0 => rfl
    | 1 => rfl
    | _ + 2 => rfl
  · rfl

/-- Readers are redirected in either operand order. -/
theorem redirect_swapped (source target : Port) :
    (frame.swapped chosen).redirect source target =
      (frame.redirect source target).swapped chosen := by
  have same : (frame.redirect source target).Swaps chosen ↔ frame.Swaps chosen := by
    simp [Swaps, redirect]
  by_cases swaps : frame.Swaps chosen
  · rw [swapped, if_pos swaps, swapped, if_pos (same.mpr swaps)]
    simp [redirect]
  · rw [swapped, if_neg swaps, swapped, if_neg (mt same.mp swaps)]

end Frame

/-- Twin nodes differ in their operands at most, and only if they multiply. -/
theorem Node.alike_of_swapped {chosen : Bool} {one two : Node}
    (frame : two.frame = one.frame.swapped chosen) : two.name = one.name ∧
      two.operation = one.operation ∧
      (one.operation ≠ .multiply → two.inputs = one.inputs) := by
  have name := congrArg Frame.name frame
  have operation := congrArg Frame.operation frame
  rw [Frame.swapped_name] at name
  rw [Frame.swapped_operation] at operation
  refine ⟨name, operation, fun other => ?_⟩
  rw [Frame.swapped_of_operation chosen (show one.frame.operation ≠ .multiply from other)] at frame
  exact congrArg Frame.inputs frame

namespace Graph

/-- Turning a slot does not lead to another node. -/
@[simp] theorem turn_node (nodes : Nat → Bool) (graph : Graph) (slot : Slot) :
    (graph.turn nodes slot).node = slot.node := by
  unfold turn
  split <;> rfl

/-- Turning a slot twice leads back to it. -/
@[simp] theorem turn_turn (nodes : Nat → Bool) (graph : Graph) (slot : Slot) :
    graph.turn nodes (graph.turn nodes slot) = slot := by
  cases found : graph.frame? slot.node with
  | none => simp only [turn, found]
  | some frame => simp only [turn, found, Frame.turn_turn]

/-! ## The twin of a graph -/

/-- A handle of the twin names the node of the graph, swapped. -/
theorem node?_swapped (nodes : Nat → Bool) (graph : Graph) (id : Nat) :
    (graph.swapped nodes).node? id =
      (graph.node? id).map (Node.swapped (graph.turn nodes) (nodes id)) := by
  simp only [swapped, node?, Store.get?, Store.mapValues, Array.getElem?_mapIdx]
  cases graph.nodes.slots[id]? with
  | none => rfl
  | some slot => cases slot <;> rfl

/-- The frames of the twin are those of the graph, swapped. -/
theorem frame?_swapped (nodes : Nat → Bool) (graph : Graph) (id : Nat) :
    (graph.swapped nodes).frame? id = (graph.frame? id).map (·.swapped (nodes id)) := by
  rw [frame?, node?_swapped, frame?]
  cases graph.node? id with
  | none => rfl
  | some node =>
    have infos : (node.swapped (graph.turn nodes) (nodes id)).outputs.map Output.info =
        node.outputs.map Output.info := by simp [Node.swapped, Function.comp_def]
    simp only [Option.map_some, Option.some.injEq]
    calc (node.swapped (graph.turn nodes) (nodes id)).frame
      _ = ⟨node.name, node.operation, (node.frame.swapped (nodes id)).inputs,
            node.outputs.map Output.info⟩ := by rw [← infos]; rfl
      _ = ⟨(node.frame.swapped (nodes id)).name, (node.frame.swapped (nodes id)).operation,
            (node.frame.swapped (nodes id)).inputs, (node.frame.swapped (nodes id)).infos⟩ := by
        simp [Node.frame]
      _ = node.frame.swapped (nodes id) := rfl

/-- The slot of the twin reads what the slot in its place reads. -/
theorem producer?_of_frames {nodes : Nat → Bool} {left right : Graph}
    (frames : ∀ id, right.frame? id = (left.frame? id).map (·.swapped (nodes id))) (slot : Slot) :
    right.producer? slot = left.producer? (left.turn nodes slot) := by
  rw [producer?_eq, producer?_eq, frames]
  cases found : left.frame? slot.node with
  | none => simp [turn, found]
  | some frame => simp [turn, found, Frame.swapped_inputs]

/-- A port of the twin lists the slots that take the place of those listed. -/
theorem lists_swapped (nodes : Nat → Bool) (graph : Graph) (port : Port) (slot : Slot) :
    (graph.swapped nodes).Lists port slot ↔ graph.Lists port (graph.turn nodes slot) := by
  have turned (readers : OrderedSet Slot) :
      (∃ reader ∈ readers, graph.turn nodes reader = slot) ↔ graph.turn nodes slot ∈ readers := by
    constructor
    · rintro ⟨reader, inside, rfl⟩
      rwa [turn_turn]
    · exact fun inside => ⟨_, inside, turn_turn nodes graph slot⟩
  simp only [Lists, output?_eq, node?_swapped]
  cases graph.node? port.node with
  | none => simp
  | some node =>
    simp only [Option.map_some, Option.bind_some, Node.swapped, List.getElem?_map]
    cases node.outputs[port.index]? with
    | none => simp
    | some output => simp [turned]

/-- A graph whose edges agree and the graph with swapped factors are twins. -/
theorem Mirrored.twins_swapped {graph : Graph} (mirrored : graph.Mirrored) (nodes : Nat → Bool) :
    Twins nodes graph (graph.swapped nodes) where
  mirrored := mirrored
  still slot port := by
    rw [producer?_of_frames (frame?_swapped nodes graph), lists_swapped, mirrored]
  next := by simp [swapped, Graph.next, Store.next, Store.mapValues]
  frames := frame?_swapped nodes graph

namespace Twins

variable {nodes : Nat → Bool} {left right : Graph} (twins : Twins nodes left right)
include twins

/-- The only twin of a graph is the one with swapped factors. -/
theorem eq_swapped : right = left.swapped nodes := by
  have own := twins.mirrored.twins_swapped nodes
  apply twins.still.ext own.still
  · rw [twins.next, own.next]
  · intro id
    rw [twins.frames, own.frames]

/-- Twins are twins of one another. -/
theorem symm : Twins nodes right left where
  mirrored := twins.still
  still := twins.mirrored
  next := twins.next.symm
  frames id := by
    rw [twins.frames]
    cases left.frame? id <;> simp

/-- A frame of the one is, swapped, a frame of the other. -/
theorem frame?_eq_some {id : Nat} {frame : Frame} (found : left.frame? id = some frame) :
    right.frame? id = some (frame.swapped (nodes id)) := by
  rw [twins.frames, found, Option.map_some]

/-- A handle names nothing in both graphs, or a node in each of them. -/
theorem node?_cases (id : Nat) : (left.node? id = none ∧ right.node? id = none) ∨
    ∃ one two, left.node? id = some one ∧ right.node? id = some two ∧
      two.frame = one.frame.swapped (nodes id) := by
  have frames := twins.frames id
  cases found : left.node? id with
  | none =>
    rw [frame?, frame?, found, Option.map_none, Option.map_none, Option.map_eq_none_iff] at frames
    exact .inl ⟨rfl, frames⟩
  | some one =>
    rw [frame?_of_node? found, Option.map_some, frame?_eq_some_iff] at frames
    obtain ⟨two, there, same⟩ := frames
    exact .inr ⟨one, two, rfl, there, same⟩

/-- Twins carry the same tensors. -/
theorem info?_eq (port : Port) : right.info? port = left.info? port := by
  rw [Graph.info?_eq, Graph.info?_eq, twins.frames]
  cases left.frame? port.node <;> simp

/-- Twins hold the same constants. -/
theorem constant?_eq (port : Port) : right.constant? port = left.constant? port := by
  rw [Graph.constant?_eq, Graph.constant?_eq, twins.frames]
  cases left.frame? port.node <;> simp

/-- Constants of twins are read as the same integers. -/
theorem integers?_eq (port : Port) : right.integers? port = left.integers? port := by
  unfold integers?
  rw [twins.constant?_eq]

/-- Twins have the same live nodes. -/
theorem contains_eq (id : Nat) : right.contains id = left.contains id := by
  rw [Bool.eq_iff_iff, contains_iff, contains_iff, twins.frames]
  cases left.frame? id <;> simp

/-- A port is missing in both graphs, for the same cause, or offers the same tensor in both. -/
theorem output_cases (port : Port) :
    (∃ cause, left.output port = .error cause ∧ right.output port = .error cause) ∨
      ∃ one two, left.output port = .ok one ∧ right.output port = .ok two ∧
        two.info = one.info := by
  unfold output
  rcases twins.node?_cases port.node with ⟨none, noneToo⟩ | ⟨one, two, found, there, frame⟩
  · exact .inl ⟨.unknownNode port.node, by rw [none], by rw [noneToo]⟩
  · have infos : two.outputs.map Output.info = one.outputs.map Output.info := by
      have same := congrArg Frame.infos frame
      rwa [Frame.swapped_infos] at same
    have length : two.outputs.length = one.outputs.length := by
      simpa using congrArg List.length infos
    have offered := congrArg (·[port.index]?) infos
    simp only [List.getElem?_map] at offered
    simp only [found, there]
    cases own : one.outputs[port.index]? with
    | none =>
      rw [own, Option.map_none, Option.map_eq_none_iff] at offered
      exact .inl ⟨_, rfl, by rw [offered, length]⟩
    | some output =>
      rw [own, Option.map_some, Option.map_eq_some_iff] at offered
      obtain ⟨other, position, same⟩ := offered
      exact .inr ⟨output, other, rfl, by rw [position], same⟩

/-! ## Readers -/

/-- The slots that read a port are turned. -/
theorem mem_readers_iff {port : Port} {slot : Slot} :
    slot ∈ right.readers port ↔ left.turn nodes slot ∈ left.readers port := by
  rw [twins.still.mem_readers_iff, twins.mirrored.mem_readers_iff,
    producer?_of_frames twins.frames]

omit twins in
/-- Slots are as many as those whose place they take. -/
theorem length_eq_of_turned {listed turned : List Slot} (distinct : listed.Nodup)
    (apart : turned.Nodup) (members : ∀ slot, slot ∈ turned ↔ left.turn nodes slot ∈ listed) :
    turned.length = listed.length := by
  have injective : Function.Injective (left.turn nodes) :=
    Function.LeftInverse.injective (turn_turn nodes left)
  have same : turned.Perm (listed.map (left.turn nodes)) := by
    refine (List.perm_ext_iff_of_nodup apart (distinct.map injective)).mpr fun slot => ?_
    rw [members, List.mem_map]
    constructor
    · exact fun inside => ⟨_, inside, turn_turn nodes left slot⟩
    · rintro ⟨reader, inside, rfl⟩
      rwa [turn_turn]
  simpa using same.length_eq

/-- A port has as many readers in twins. -/
theorem readerCount_eq (port : Port) : right.readerCount port = left.readerCount port :=
  length_eq_of_turned (left.nodup_readers port) (right.nodup_readers port)
    fun _ => twins.mem_readers_iff

/-- A node has as many readers in twins, over all of its outputs. -/
theorem readerCount_node_eq {id : Nat} {one two : Node} (found : left.node? id = some one)
    (there : right.node? id = some two) : two.readerCount = one.readerCount := by
  have count (node : Node) : node.readerCount = (nodeReaders node).length := by
    unfold Node.readerCount nodeReaders
    induction node.outputs with
    | nil => rfl
    | cons output rest ih =>
      rw [List.foldr_cons, List.flatMap_cons, List.length_append, ih]
      rfl
  have distinct := twins.mirrored.nodup_nodeReaders found
  have apart := twins.still.nodup_nodeReaders there
  rw [count, count]
  apply length_eq_of_turned distinct apart
  intro slot
  rw [twins.still.mem_nodeReaders_iff there, producer?_of_frames twins.frames,
    ← twins.mirrored.mem_nodeReaders_iff found]

end Twins

/-! ## Edits of twins -/

section

variable {nodes : Nat → Bool}

/-- A new node that is no multiplication is added to both twins. -/
theorem respects_addNode {operation : Operation} (inputs : List Port) (outputs : List TensorInfo)
    (name : String) (other : operation ≠ .multiply) :
    Edit.Respects (Twins nodes) (addNode operation inputs outputs name) := by
  intro left right twins
  have ports (port : Port) : discard (right.output port) = discard (left.output port) := by
    rcases twins.output_cases port with ⟨cause, failed, failedToo⟩ | ⟨one, two, found, there, -⟩
    · rw [failed, failedToo]
    · rw [found, there]
      rfl
  have checks : checkNode operation inputs outputs name right =
      checkNode operation inputs outputs name left := by simp only [checkNode, ports]
  cases checked : checkNode operation inputs outputs name left with
  | error cause =>
    rw [runOn_addNode_error checked, runOn_addNode_error (checks.trans checked)]
    exact ⟨rfl, twins⟩
  | ok =>
    obtain ⟨one, run, adds, lists⟩ := runOn_addNode checked
    obtain ⟨two, runToo, addsToo, listsToo⟩ := runOn_addNode (checks.trans checked)
    rw [run, runToo]
    refine ⟨congrArg Except.ok twins.next, adds.mirrored twins.mirrored lists,
      addsToo.mirrored twins.still listsToo, ?_, fun id => ?_⟩
    · rw [addsToo.next, adds.next, twins.next]
    · rw [addsToo.frames, adds.frames, twins.next]
      split
      · rw [Option.map_some, Frame.swapped_of_operation _ other]
      · exact twins.frames id

/-- Redirecting readers in both twins leaves twins behind. -/
theorem Twins.redirects {left right leftAfter rightAfter : Graph} {source target : Port}
    (twins : Twins nodes left right) (redirects : Redirects left source target leftAfter)
    (redirectsToo : Redirects right source target rightAfter) (mirrored : leftAfter.Mirrored)
    (still : rightAfter.Mirrored) : Twins nodes leftAfter rightAfter := by
  refine ⟨mirrored, still, ?_, fun id => ?_⟩
  · rw [redirectsToo.next, redirects.next, twins.next]
  · rw [redirectsToo.frames, redirects.frames, twins.frames]
    cases left.frame? id <;> simp [Frame.redirect_swapped]

/-- The readers of a port are redirected in both twins. -/
theorem respects_replaceAllUses (source target : Port) :
    Edit.Respects (Twins nodes) (replaceAllUses source target) := by
  intro left right twins
  rcases twins.output_cases source with
    ⟨cause, missing, missingToo⟩ | ⟨old, oldToo, found, there, own⟩
  · rw [runOn_replaceAllUses_noSource missing, runOn_replaceAllUses_noSource missingToo]
    exact ⟨rfl, twins⟩
  rcases twins.output_cases target with
    ⟨cause, missing, missingToo⟩ | ⟨new, newToo, offered, offers, other⟩
  · rw [runOn_replaceAllUses_noTarget found missing, runOn_replaceAllUses_noTarget there missingToo]
    exact ⟨rfl, twins⟩
  by_cases same : old.info = new.info
  · have carries : left.info? source = some old.info := by
      simp [Graph.info?, output_eq_ok_iff.mp found]
    have carriesToo : left.info? target = some old.info := by
      simp [Graph.info?, output_eq_ok_iff.mp offered, same]
    have moves := twins.mirrored.replaceAllUses_cases carries carriesToo
    rw [← twins.info?_eq] at carries carriesToo
    have movesToo := twins.still.replaceAllUses_cases carries carriesToo
    rcases moves with ⟨equal, run⟩ | ⟨distinct, one, run, redirects, mirrored⟩
    · rcases movesToo with ⟨-, runToo⟩ | ⟨distinct, -⟩
      · rw [run, runToo]
        exact ⟨rfl, twins⟩
      · exact absurd equal distinct
    · rcases movesToo with ⟨equal, -⟩ | ⟨-, two, runToo, redirectsToo, still⟩
      · exact absurd equal distinct
      · rw [run, runToo]
        exact ⟨congrArg Except.ok (twins.readerCount_eq source),
          twins.redirects redirects redirectsToo mirrored still⟩
  · have differentToo : oldToo.info ≠ newToo.info := by rwa [own, other]
    rw [runOn_replaceAllUses_incompatible found offered same,
      runOn_replaceAllUses_incompatible there offers differentToo]
    exact ⟨rfl, twins⟩

/-- Dropping a node from both twins leaves twins behind. -/
theorem Twins.drops {left right leftAfter rightAfter : Graph} {id : Nat}
    (twins : Twins nodes left right) (drops : Drops left id leftAfter)
    (dropsToo : Drops right id rightAfter) (mirrored : leftAfter.Mirrored)
    (still : rightAfter.Mirrored) : Twins nodes leftAfter rightAfter := by
  refine ⟨mirrored, still, ?_, fun other => ?_⟩
  · rw [dropsToo.next, drops.next, twins.next]
  · rw [dropsToo.frames, drops.frames, twins.frames]
    split <;> rfl

/-- A node that nothing reads is removed from both twins. -/
theorem respects_removeNode (id : Nat) :
    Edit.Respects (Twins nodes) (discard (removeNode id)) := by
  intro left right twins
  have ends {graph changed : Graph} {result : Except (Failure GraphError) Node}
      (run : (removeNode id).runOn graph = (result, changed)) :
      (discard (removeNode id)).runOn graph = (result.map fun _ => (), changed) := by
    cases result with
    | ok node => exact Edit.runOn_bind_ok run
    | error failure => exact Edit.runOn_bind_error run
  rcases twins.node?_cases id with ⟨dead, deadToo⟩ | ⟨one, two, found, there, frame⟩
  · have refused {graph : Graph} (dead : graph.node? id = none) :
        (removeNode id).runOn graph = (.error (.refusal (.unknownNode id)), graph) := by
      simp [Edit.runOn, removeNode, dead]
    rw [ends (refused dead), ends (refused deadToo)]
    exact ⟨rfl, twins⟩
  · have count := twins.readerCount_node_eq found there
    have name := (Node.alike_of_swapped frame).1
    by_cases unread : one.readerCount = 0
    · obtain ⟨leftAfter, run, drops, mirrored⟩ := runOn_removeNode twins.mirrored found
        ((twins.mirrored.readerCount_eq_zero_iff found).mp unread)
      obtain ⟨rightAfter, runToo, dropsToo, still⟩ := runOn_removeNode twins.still there
        ((twins.still.readerCount_eq_zero_iff there).mp (count.trans unread))
      rw [ends run, ends runToo]
      exact ⟨rfl, twins.drops drops dropsToo mirrored still⟩
    · have used : 0 < one.readerCount := Nat.pos_of_ne_zero unread
      rw [ends (runOn_removeNode_inUse found used),
        ends (runOn_removeNode_inUse there (count ▸ used)), count, name]
      exact ⟨rfl, twins⟩

end

end Graph

end GatherFusion

import GatherFusion.Graph.Audit
import GatherFusion.Proofs.Graph.Frame
import GatherFusion.Proofs.Sequencing

/-!
# The two records of every edge

In a mirrored graph a slot reads a port exactly when the port exists and lists the slot. The edits
of the library make one of three changes to the frames of such a graph: a node is added, the readers
of one port are redirected to another, or an unread node is dropped. Each of them leaves a mirrored
graph behind, and each of them either does all of its work or none of it.
-/
namespace GatherFusion.Graph

/-- The two records of every edge agree. -/
def Mirrored (graph : Graph) : Prop :=
  ∀ slot port, graph.producer? slot = some port ↔ graph.Lists port slot

/-- The change of frames when a node is added. -/
structure Adds (graph : Graph) (frame : Frame) (changed : Graph) : Prop where
  /-- The node reads ports that exist. -/
  reads : ∀ port ∈ frame.inputs, ∃ info, graph.info? port = some info
  /-- One handle is used up. -/
  next : changed.next = graph.next + 1
  /-- The new frame is found at that handle, every other is as before. -/
  frames : ∀ id, changed.frame? id = if id = graph.next then some frame else graph.frame? id

/-- The change of frames when the readers of a port are redirected. -/
structure Redirects (graph : Graph) (source target : Port) (changed : Graph) : Prop where
  /-- Both ports exist and carry the same tensor. -/
  agree : ∃ info, graph.info? source = some info ∧ graph.info? target = some info
  /-- No handle is used up. -/
  next : changed.next = graph.next
  /-- Whoever read the source reads the target. -/
  frames : ∀ id, changed.frame? id = (graph.frame? id).map (·.redirect source target)

/-- The change of frames when a node is dropped. -/
structure Drops (graph : Graph) (id : Nat) (changed : Graph) : Prop where
  /-- Nothing reads the node. -/
  unread : ∀ slot port, graph.producer? slot = some port → port.node ≠ id
  /-- No handle is used up. -/
  next : changed.next = graph.next
  /-- The frame of the dropped node is gone, every other is as before. -/
  frames : ∀ other, changed.frame? other = if other = id then none else graph.frame? other

/-! ## What a mirrored graph promises -/

/-- What a change of a mirrored graph can do; the graph stays mirrored. -/
inductive Changes (graph : Graph) : Graph → Prop where
  /-- Nothing is changed. -/
  | stays (mirrored : graph.Mirrored) : Changes graph graph
  /-- A node is added; the payload of a constant fits its output. -/
  | adds {frame : Frame} {changed : Graph} (adds : Adds graph frame changed)
    (fits : ∀ payload, frame.operation = .constant payload →
      checkConstant frame.name payload frame.infos = .ok ())
    (mirrored : changed.Mirrored) : Changes graph changed
  /-- Readers are redirected. -/
  | redirects {source target : Port} {changed : Graph}
    (redirects : Redirects graph source target changed) (mirrored : changed.Mirrored) :
    Changes graph changed
  /-- A node is dropped. -/
  | drops {id : Nat} {changed : Graph} (drops : Drops graph id changed)
    (mirrored : changed.Mirrored) : Changes graph changed

/-- A changed graph is mirrored. -/
theorem Changes.mirrored {graph changed : Graph} (changes : graph.Changes changed) :
    changed.Mirrored := by
  cases changes <;> assumption

/-- The empty graph is mirrored. -/
theorem mirrored_empty : empty.Mirrored := by
  intro slot port
  simp [producer?_eq, Lists, output?_eq, frame?, node?, empty]

/-- The readers of a port are the slots it lists. -/
theorem mem_readers_iff_lists {graph : Graph} {slot : Slot} {port : Port} :
    slot ∈ graph.readers port ↔ graph.Lists port slot := by
  unfold readers Lists
  cases graph.output? port <;> simp

section

variable {graph : Graph} (mirrored : graph.Mirrored)
include mirrored

/-- Every slot reads a port that exists. -/
theorem Mirrored.exists_output {slot : Slot} {port : Port}
    (reads : graph.producer? slot = some port) : ∃ output, graph.output? port = some output := by
  obtain ⟨output, found, -⟩ := (mirrored slot port).mp reads
  exact ⟨output, found⟩

/-- A port a frame reads exists. -/
theorem Mirrored.exists_output_of_frame {id : Nat} {frame : Frame} {port : Port}
    (found : graph.frame? id = some frame) (reads : port ∈ frame.inputs) :
    ∃ output, graph.output? port = some output := by
  obtain ⟨index, position⟩ := List.mem_iff_getElem?.mp reads
  refine mirrored.exists_output (show graph.producer? ⟨id, index⟩ = some port from ?_)
  simp [producer?_eq, found, position]

/-- A port a frame reads belongs to a live node that offers it. -/
theorem Mirrored.exists_frame {id : Nat} {frame : Frame} {port : Port}
    (found : graph.frame? id = some frame) (reads : port ∈ frame.inputs) :
    ∃ producer info, graph.frame? port.node = some producer ∧
      producer.infos[port.index]? = some info := by
  obtain ⟨output, exists_⟩ := mirrored.exists_output_of_frame found reads
  have carried : graph.info? port = some output.info := by simp [info?, exists_]
  rw [info?_eq, Option.bind_eq_some_iff] at carried
  obtain ⟨producer, live, offered⟩ := carried
  exact ⟨producer, output.info, live, offered⟩

/-- The readers of a port are the slots that read it. -/
theorem Mirrored.mem_readers_iff {slot : Slot} {port : Port} :
    slot ∈ graph.readers port ↔ graph.producer? slot = some port := by
  rw [mirrored slot port, mem_readers_iff_lists]

end

/-- The readers of a port are listed in increasing order. -/
theorem increasing_readers (graph : Graph) (port : Port) :
    (graph.readers port).Pairwise (· < ·) := by
  unfold readers
  split
  · exact OrderedSet.increasing _
  · exact .nil

/-- Ports that the same slots read have the same readers. -/
theorem Mirrored.readers_eq {old new : Graph} (mirrored : old.Mirrored) (still : new.Mirrored)
    {before after : Port}
    (same : ∀ slot, new.producer? slot = some after ↔ old.producer? slot = some before) :
    new.readers after = old.readers before := by
  refine OrderedSet.eq_of_mem_iff (new.increasing_readers after) (old.increasing_readers before) ?_
  intro slot
  rw [still.mem_readers_iff, mirrored.mem_readers_iff, same]

/-- A node is determined by its frame and the readers of its outputs. -/
theorem node_ext {left right : Node} (frame : left.frame = right.frame)
    (readers : ∀ (index : Nat) (one two : Output), left.outputs[index]? = some one →
      right.outputs[index]? = some two → ∀ slot, slot ∈ one.readers ↔ slot ∈ two.readers) :
    left = right := by
  obtain ⟨name, operation, inputs, outputs⟩ := left
  obtain ⟨nameToo, operationToo, inputsToo, outputsToo⟩ := right
  simp only [Node.frame, Frame.mk.injEq] at frame
  obtain ⟨rfl, rfl, rfl, infos⟩ := frame
  have length : outputs.length = outputsToo.length := by simpa using congrArg List.length infos
  have same : outputs = outputsToo := by
    refine List.ext_getElem length fun index inside insideToo => ?_
    have info : outputs[index].info = outputsToo[index].info := by
      simpa [inside, insideToo] using congrArg (·[index]?) infos
    have listed : outputs[index].readers = outputsToo[index].readers :=
      OrderedSet.ext_mem (readers index _ _ (List.getElem?_eq_getElem inside)
        (List.getElem?_eq_getElem insideToo))
    calc outputs[index] = ⟨outputs[index].info, outputs[index].readers⟩ := rfl
      _ = ⟨outputsToo[index].info, outputsToo[index].readers⟩ := by rw [info, listed]
      _ = outputsToo[index] := rfl
  rw [same]

/-- A mirrored graph is determined by its frames and the handles it has given out. -/
theorem Mirrored.ext {left right : Graph} (mirrored : left.Mirrored) (other : right.Mirrored)
    (next : left.next = right.next) (frames : ∀ id, left.frame? id = right.frame? id) :
    left = right := by
  have lists (port : Port) (slot : Slot) : left.Lists port slot ↔ right.Lists port slot := by
    rw [← mirrored, ← other, producer?_eq, producer?_eq, frames]
  have nodes (id : Nat) : left.node? id = right.node? id := by
    have same := frames id
    cases found : left.node? id with
    | none =>
      rw [frame?, found, Option.map_none] at same
      exact (Option.map_eq_none_iff.mp same.symm).symm
    | some one =>
      rw [frame?_of_node? found] at same
      obtain ⟨two, there, frame⟩ := frame?_eq_some_iff.mp same.symm
      rw [there, node_ext frame.symm fun index left right offered offeredToo slot => ?_]
      simpa [Lists, output?_eq, found, there, offered, offeredToo] using lists ⟨id, index⟩ slot
  obtain ⟨leftNodes⟩ := left
  obtain ⟨rightNodes⟩ := right
  exact congrArg Graph.mk (Store.ext_get? next nodes)

/-! ## Adding a node -/

/-- Registering slots with the ports they read lists exactly those slots there. -/
theorem runOn_addReaders {graph : Graph} {pairs : List (Slot × Port)}
    (exist : ∀ pair ∈ pairs, ∃ output, graph.output? pair.2 = some output) :
    ∃ changed, Edit.runOn (ε := GraphError) (pairs.forM fun (slot, port) =>
        Edit.change (declining (addReader slot port))) graph = (.ok (), changed) ∧
      changed.next = graph.next ∧ (∀ id, changed.frame? id = graph.frame? id) ∧
      ∀ port slot, changed.Lists port slot ↔ graph.Lists port slot ∨ (slot, port) ∈ pairs := by
  induction pairs generalizing graph with
  | nil => exact ⟨graph, rfl, rfl, fun _ => rfl, by simp⟩
  | cons pair rest ih =>
    obtain ⟨slot, port⟩ := pair
    obtain ⟨output, found⟩ := exist (slot, port) List.mem_cons_self
    obtain ⟨middle, done⟩ := modifyOutput_of_output? found fun output =>
      { output with readers := output.readers.insert slot }
    have registered : addReader slot port graph = .ok middle := done
    have later : ∀ pair ∈ rest, ∃ output, middle.output? pair.2 = some output := by
      intro pair inside
      obtain ⟨old, exists_⟩ := exist pair (List.mem_cons_of_mem _ inside)
      rw [output?_modifyOutput done, exists_]
      split <;> exact ⟨_, rfl⟩
    obtain ⟨changed, run, next, frames, lists⟩ := ih later
    refine ⟨changed, ?_, next.trans (next_modifyOutput done), fun id => ?_, fun other reader => ?_⟩
    · have first : declining (addReader slot port) graph = .ok middle := by
        simp [declining, registered]
      exact (Edit.runOn_bind_ok (Edit.runOn_change_ok first)).trans run
    · rw [frames, frame?_modifyOutput done fun _ => rfl]
    · rw [lists, lists_addReader registered, List.mem_cons, Prod.mk.injEq, or_assoc]

/-- What is asked of a new node: its ports exist, and a constant fits its output. -/
theorem checkNode_eq_ok_iff {operation : Operation} {inputs : List Port}
    {outputs : List TensorInfo} {name : String} {graph : Graph} :
    checkNode operation inputs outputs name graph = .ok () ↔
      (∀ port ∈ inputs, ∃ output, graph.output? port = some output) ∧
        ∀ payload, operation = .constant payload → checkConstant name payload outputs = .ok () := by
  have ports : (inputs.forM fun port => discard (graph.output port)) = .ok () ↔
      ∀ port ∈ inputs, ∃ output, graph.output? port = some output := by
    rw [forM_eq_ok_iff]
    refine forall₂_congr fun port _ => ?_
    simp only [← output_eq_ok_iff]
    cases graph.output port <;> simp [discard, Functor.discard, Functor.mapConst, Except.map]
  unfold checkNode
  rw [bind_eq_ok_iff]
  simp only [ports, exists_const, and_congr_right_iff]
  intro _
  cases operation <;> simp

/-- A node that passes its check is added under the fresh handle and registered where it reads. -/
theorem runOn_addNode {operation : Operation} {inputs : List Port} {outputs : List TensorInfo}
    {name : String} {graph : Graph}
    (checked : checkNode operation inputs outputs name graph = .ok ()) :
    ∃ changed, (addNode operation inputs outputs name).runOn graph = (.ok graph.next, changed) ∧
      Adds graph ⟨name, operation, inputs, outputs⟩ changed ∧
      ∀ port slot, changed.Lists port slot ↔
        graph.Lists port slot ∨ (slot.node = graph.next ∧ inputs[slot.index]? = some port) := by
  have exist : ∀ pair ∈ slots graph.next inputs, ∃ output, graph.output? pair.2 = some output := by
    rintro ⟨slot, port⟩ inside
    exact (checkNode_eq_ok_iff.mp checked).1 port (List.mem_of_getElem? (mem_slots.mp inside).2)
  obtain ⟨registered, run, next, frames, lists⟩ := runOn_addReaders exist
  have unread : ∀ output ∈ outputs.map fun info => (⟨info, .empty⟩ : Output),
      output.readers = .empty := by
    intro output inside
    obtain ⟨info, -, rfl⟩ := List.mem_map.mp inside
    rfl
  refine ⟨⟨(registered.nodes.push
    ⟨name, operation, inputs, outputs.map fun info => ⟨info, .empty⟩⟩).2⟩, ?_, ⟨?_, ?_, ?_⟩, ?_⟩
  · have announced : (Edit.inspect fun graph => .ok graph.nodes.next : Edit GraphError Nat).runOn
        graph = (.ok graph.next, graph) := rfl
    refine (Edit.runOn_bind_ok (Edit.runOn_require_ok checked)).trans ?_
    refine (Edit.runOn_bind_ok announced).trans ?_
    refine (Edit.runOn_bind_ok run).trans ?_
    exact congrArg (fun id => (Except.ok id, _)) next
  · intro port reads
    obtain ⟨output, found⟩ := (checkNode_eq_ok_iff.mp checked).1 port reads
    exact ⟨output.info, by simp [info?, found]⟩
  · exact (Store.next_push _ _).trans (congrArg (· + 1) next)
  · intro id
    rw [frame?_push, next, frames]
    simp [Node.frame, Function.comp_def]
  · intro port slot
    rw [lists_push _ unread, lists, mem_slots]

/-- The port a slot reads after a node was added. -/
theorem Adds.producer? {graph changed : Graph} {frame : Frame} (adds : Adds graph frame changed)
    (slot : Slot) : changed.producer? slot =
      if slot.node = graph.next then frame.inputs[slot.index]? else graph.producer? slot := by
  rw [producer?_eq, adds.frames]
  split
  · rfl
  · rw [producer?_eq]

/-- Nodes that were there stay as they are when a node is added. -/
theorem Adds.frame?_eq_some {graph changed : Graph} {frame : Frame}
    (adds : Adds graph frame changed) {id : Nat} {old : Frame}
    (found : graph.frame? id = some old) : changed.frame? id = some old := by
  rw [adds.frames, if_neg (Nat.ne_of_lt (lt_next_of_frame? found)), found]

/-- A new node is found under its handle. -/
theorem Adds.frame?_next {graph changed : Graph} {frame : Frame} (adds : Adds graph frame changed) :
    changed.frame? graph.next = some frame := by
  rw [adds.frames, if_pos rfl]

/-- What is found after a node was added is the new node or was there. -/
theorem Adds.frame?_cases {graph changed : Graph} {frame : Frame} (adds : Adds graph frame changed)
    {id : Nat} {other : Frame} (found : changed.frame? id = some other) :
    (id = graph.next ∧ other = frame) ∨ graph.frame? id = some other := by
  rw [adds.frames] at found
  split at found
  · rename_i fresh
    exact .inl ⟨fresh, (Option.some.inj found).symm⟩
  · exact .inr found

/-- Ports that were there carry what they carried when a node is added. -/
theorem Adds.info?_eq_some {graph changed : Graph} {frame : Frame}
    (adds : Adds graph frame changed) {port : Port} {info : TensorInfo}
    (carries : graph.info? port = some info) : changed.info? port = some info := by
  rw [info?_eq, Option.bind_eq_some_iff] at carries ⊢
  obtain ⟨producer, found, position⟩ := carries
  exact ⟨producer, adds.frame?_eq_some found, position⟩

/-- A new node offers what it was made to offer. -/
theorem Adds.info?_next {graph changed : Graph} {frame : Frame} (adds : Adds graph frame changed)
    (index : Nat) : changed.info? ⟨graph.next, index⟩ = frame.infos[index]? := by
  rw [info?_eq, adds.frame?_next, Option.bind_some]

/-- A node registered where it reads leaves a mirrored graph mirrored. -/
theorem Adds.mirrored {graph changed : Graph} {frame : Frame} (adds : Adds graph frame changed)
    (mirrored : graph.Mirrored)
    (lists : ∀ port slot, changed.Lists port slot ↔
      graph.Lists port slot ∨ (slot.node = graph.next ∧ frame.inputs[slot.index]? = some port)) :
    changed.Mirrored := by
  intro slot port
  rw [adds.producer?, lists, ← mirrored]
  by_cases fresh : slot.node = graph.next
  · have unborn : graph.producer? slot = none := by simp [Graph.producer?, fresh]
    simp [fresh, unborn]
  · simp [fresh]

/-- A node that fails its check is not added. -/
theorem runOn_addNode_error {operation : Operation} {inputs : List Port}
    {outputs : List TensorInfo} {name : String} {graph : Graph} {cause : GraphError}
    (checked : checkNode operation inputs outputs name graph = .error cause) :
    (addNode operation inputs outputs name).runOn graph = (.error (.refusal cause), graph) :=
  Edit.runOn_bind_error (Edit.runOn_require_error checked)

/-- Adding a node to a mirrored graph adds it or changes nothing. -/
theorem Mirrored.adds_or_stays {graph : Graph} (mirrored : graph.Mirrored) (operation : Operation)
    (inputs : List Port) (outputs : List TensorInfo) (name : String) :
    ((addNode operation inputs outputs name).runOn graph).2 = graph ∨
      graph.Adds ⟨name, operation, inputs, outputs⟩
          ((addNode operation inputs outputs name).runOn graph).2 ∧
        (∀ payload, operation = .constant payload → checkConstant name payload outputs = .ok ()) ∧
        ((addNode operation inputs outputs name).runOn graph).2.Mirrored := by
  cases checked : checkNode operation inputs outputs name graph with
  | error cause => exact .inl (by rw [runOn_addNode_error checked])
  | ok =>
    obtain ⟨changed, run, adds, lists⟩ := runOn_addNode checked
    rw [run]
    exact .inr ⟨adds, (checkNode_eq_ok_iff.mp checked).2, adds.mirrored mirrored lists⟩

/-- Adding a node to a mirrored graph is a change. -/
theorem Mirrored.changes_addNode {graph : Graph} (mirrored : graph.Mirrored)
    (operation : Operation) (inputs : List Port) (outputs : List TensorInfo) (name : String) :
    graph.Changes ((addNode operation inputs outputs name).runOn graph).2 := by
  rcases mirrored.adds_or_stays operation inputs outputs name with same | ⟨adds, fits, kept⟩
  · rw [same]
    exact .stays mirrored
  · exact .adds adds fits kept

/-- A constant whose payload fits is added under the fresh handle. -/
theorem runOn_addConstant {name : String} {info : TensorInfo} {payload : Payload} {graph : Graph}
    (mirrored : graph.Mirrored) (fits : checkConstant name payload [info] = .ok ()) :
    ∃ changed, (addConstant name info payload).runOn graph = (.ok graph.next, changed) ∧
      Adds graph ⟨name, .constant payload, [], [info]⟩ changed ∧ changed.Mirrored := by
  have checked : checkNode (.constant payload) [] [info] name graph = .ok () := by
    rw [checkNode_eq_ok_iff]
    simp [fits]
  obtain ⟨changed, run, adds, lists⟩ := runOn_addNode checked
  exact ⟨changed, run, adds, adds.mirrored mirrored lists⟩

/-- An input of the graph is added under the fresh handle. -/
theorem runOn_addParameter {name : String} {info : TensorInfo} {graph : Graph}
    (mirrored : graph.Mirrored) :
    ∃ changed, (addParameter name info).runOn graph = (.ok graph.next, changed) ∧
      Adds graph ⟨name, .parameter, [], [info]⟩ changed ∧ changed.Mirrored := by
  let node : Node := ⟨name, .parameter, [], [⟨info, .empty⟩]⟩
  have unread : ∀ output ∈ node.outputs, output.readers = .empty := by simp [node]
  have adds : Adds graph ⟨name, .parameter, [], [info]⟩ ⟨(graph.nodes.push node).2⟩ :=
    ⟨by simp, Store.next_push _ _, frame?_push graph node⟩
  refine ⟨⟨(graph.nodes.push node).2⟩, rfl, adds, adds.mirrored mirrored ?_⟩
  intro port slot
  rw [lists_push graph unread]
  simp

/-! ## Moving readers -/

/-- A slot that reads something can be made to read another port. -/
theorem redirectSlot_of_producer? {graph : Graph} {slot : Slot} {source : Port}
    (reads : graph.producer? slot = some source) (target : Port) :
    ∃ changed, redirectSlot slot target graph = .ok changed := by
  obtain ⟨node, found, position⟩ := Option.bind_eq_some_iff.mp reads
  have inside : slot.index < node.inputs.length := (List.getElem?_eq_some_iff.mp position).1
  have stored := Store.replace?_isSome graph.nodes slot.node
    { node with inputs := node.inputs.set slot.index target }
  rw [show graph.nodes.contains slot.node = true by
    simpa [Store.contains, node?] using congrArg Option.isSome found, Option.isSome_iff_exists]
    at stored
  obtain ⟨nodes, stored⟩ := stored
  exact ⟨⟨nodes⟩, by simp only [redirectSlot, found, inside, ↓reduceIte, stored]⟩

/-- Redirecting slots that read something redirects those slots and keeps the lists of readers. -/
theorem runOn_redirectSlots {graph : Graph} {moved : List Slot} (target : Port)
    (read : ∀ slot ∈ moved, ∃ source, graph.producer? slot = some source) :
    ∃ changed, Edit.runOn (moved.forM fun slot => Edit.change (redirectSlot slot target)) graph =
        (.ok (), changed) ∧ changed.next = graph.next ∧
      (∀ id, changed.frame? id = (graph.frame? id).map (·.redirectAt id moved target)) ∧
      ∀ port slot, changed.Lists port slot ↔ graph.Lists port slot := by
  induction moved generalizing graph with
  | nil =>
    refine ⟨graph, rfl, rfl, fun id => ?_, fun _ _ => Iff.rfl⟩
    have kept (frame : Frame) : frame.redirectAt id [] target = frame :=
      frame.redirectAt_of_apart target (by simp)
    simp [kept]
  | cons slot rest ih =>
    obtain ⟨source, reads⟩ := read slot List.mem_cons_self
    obtain ⟨middle, done⟩ := redirectSlot_of_producer? reads target
    obtain ⟨middleNext, middleFrames, middleLists⟩ := redirectSlot_view done
    have later : ∀ other ∈ rest, ∃ source, middle.producer? other = some source := by
      intro other inside
      obtain ⟨old, readsOld⟩ := read other (List.mem_cons_of_mem _ inside)
      rw [producer?_eq, Option.bind_eq_some_iff] at readsOld
      obtain ⟨frame, found, position⟩ := readsOld
      simp [producer?_eq, middleFrames, found, Frame.redirectAt, position]
    obtain ⟨changed, run, next, frames, lists⟩ := ih later
    refine ⟨changed, ?_, next.trans middleNext, fun id => ?_, fun port reader => ?_⟩
    · exact (Edit.runOn_bind_ok (Edit.runOn_change_ok done)).trans run
    · rw [frames, middleFrames, Option.map_map]
      congr 1
      funext frame
      exact frame.redirectAt_redirectAt id slot rest target
    · rw [lists, middleLists]

/-- A change of one output that exists, as a step of an edit. -/
theorem declining_modifyOutput {graph : Graph} {port : Port} {info : TensorInfo}
    (found : graph.info? port = some info) (step : Output → Output) :
    ∃ changed, declining (·.modifyOutput port step) graph = .ok changed ∧
      graph.modifyOutput port step = .ok changed := by
  obtain ⟨output, offered, -⟩ := Option.map_eq_some_iff.mp found
  obtain ⟨changed, done⟩ := modifyOutput_of_output? offered step
  exact ⟨changed, by simp [declining, done], done⟩

/-- Where the moved slots are those that read the source, redirecting them redirects the source. -/
theorem redirectAt_eq_redirect {graph : Graph} {moved : List Slot} {source target : Port}
    (readers : ∀ slot, slot ∈ moved ↔ graph.producer? slot = some source) {id : Nat}
    {frame : Frame} (found : graph.frame? id = some frame) :
    frame.redirectAt id moved target = frame.redirect source target := by
  simp only [Frame.redirectAt, Frame.redirect, Frame.mk.injEq, true_and, and_true]
  apply List.ext_getElem?
  intro index
  have reads : (⟨id, index⟩ : Slot) ∈ moved ↔ frame.inputs[index]? = some source := by
    rw [readers, producer?_eq, found, Option.bind_some]
  cases position : frame.inputs[index]? with
  | none => simp [position]
  | some port => simp [position, reads]

/-- A node stays when readers are redirected, and its inputs are redirected. -/
theorem Redirects.frame?_eq_some {graph changed : Graph} {source target : Port}
    (redirects : Redirects graph source target changed) {id : Nat} {frame : Frame}
    (found : graph.frame? id = some frame) :
    changed.frame? id = some (frame.redirect source target) := by
  rw [redirects.frames, found, Option.map_some]

/-- What is found after readers were redirected was there with its old inputs. -/
theorem Redirects.exists_frame {graph changed : Graph} {source target : Port}
    (redirects : Redirects graph source target changed) {id : Nat} {frame : Frame}
    (found : changed.frame? id = some frame) :
    ∃ before, graph.frame? id = some before ∧ before.redirect source target = frame := by
  rwa [redirects.frames, Option.map_eq_some_iff] at found

/-- The port a slot reads after the readers of a port were redirected. -/
theorem Redirects.producer? {graph changed : Graph} {source target : Port}
    (redirects : Redirects graph source target changed) (slot : Slot) :
    changed.producer? slot =
      (graph.producer? slot).map fun port => if port = source then target else port := by
  rw [producer?_eq, producer?_eq, redirects.frames]
  cases graph.frame? slot.node <;> simp [Frame.redirect]

/-- Ports other than the two are read where they were read. -/
theorem Redirects.reads_other {graph changed : Graph} {source target : Port}
    (redirects : Redirects graph source target changed) {port : Port} (notSource : port ≠ source)
    (notTarget : port ≠ target) (slot : Slot) :
    changed.producer? slot = some port ↔ graph.producer? slot = some port := by
  rw [redirects.producer?, Option.map_eq_some_iff]
  constructor
  · rintro ⟨old, reads, same⟩
    split at same
    · exact absurd same.symm notTarget
    · rwa [← same]
  · exact fun reads => ⟨port, reads, if_neg notSource⟩

/-- A target that nobody read is read where the source was read. -/
theorem Redirects.reads_target {graph changed : Graph} {source target : Port}
    (redirects : Redirects graph source target changed)
    (unread : ∀ slot, graph.producer? slot ≠ some target) (slot : Slot) :
    changed.producer? slot = some target ↔ graph.producer? slot = some source := by
  rw [redirects.producer?, Option.map_eq_some_iff]
  constructor
  · rintro ⟨old, reads, same⟩
    split at same
    · rename_i moved
      rwa [← moved]
    · exact absurd (reads.trans (congrArg some same)) (unread slot)
  · exact fun reads => ⟨source, reads, if_pos rfl⟩

/-- Handing the readers of a port to another one leaves a mirrored graph mirrored. -/
theorem Redirects.mirrored {graph changed : Graph} {source target : Port}
    (redirects : Redirects graph source target changed) (mirrored : graph.Mirrored)
    (lists : ∀ port slot, changed.Lists port slot ↔
      (port ≠ source ∧ graph.Lists port slot) ∨ (port = target ∧ graph.Lists source slot)) :
    changed.Mirrored := by
  intro slot port
  rw [redirects.producer?, lists, ← mirrored, ← mirrored]
  cases reads : graph.producer? slot with
  | none => simp
  | some old =>
    by_cases moved : old = source
    · simp only [moved, Option.map_some, ↓reduceIte, Option.some.injEq, and_true]
      grind
    · simp only [if_neg moved, Option.map_some, Option.some.injEq]
      grind

/-- The list of a port is emptied, and then whoever stood on it is made to read another port. -/
theorem exists_redirected {graph : Graph} (mirrored : graph.Mirrored) {source : Port}
    {old : Output} (found : graph.output? source = some old) (target : Port) :
    ∃ emptied redirected,
      declining (·.modifyOutput source fun output => { output with readers := .empty }) graph =
        .ok emptied ∧
      Edit.runOn (old.readers.toList.forM fun slot => Edit.change (redirectSlot slot target))
        emptied = (.ok (), redirected) ∧
      redirected.next = graph.next ∧
      (∀ id, redirected.frame? id = (graph.frame? id).map (·.redirect source target)) ∧
      ∀ port slot, redirected.Lists port slot ↔ port ≠ source ∧ graph.Lists port slot := by
  have carried : graph.info? source = some old.info := by simp [info?, found]
  obtain ⟨emptied, first, emptying⟩ := declining_modifyOutput carried
    fun output => { output with readers := .empty }
  have emptiedFrames := frame?_modifyOutput emptying fun _ => rfl
  have emptiedLists := lists_modifyOutput (fun _ => .empty) emptying
  -- The list holds all readers and nobody else, so that all reads of the source are redirected.
  have readers : ∀ slot, slot ∈ old.readers.toList ↔ graph.producer? slot = some source := by
    intro slot
    rw [mirrored slot source]
    simp [Lists, found]
  have read : ∀ slot ∈ old.readers.toList, ∃ port, emptied.producer? slot = some port := by
    intro slot inside
    refine ⟨source, ?_⟩
    rw [producer?_eq, emptiedFrames, ← producer?_eq]
    exact (readers slot).mp inside
  obtain ⟨redirected, second, next, frames, lists⟩ := runOn_redirectSlots target read
  refine ⟨emptied, redirected, first, second, ?_, fun id => ?_, fun port slot => ?_⟩
  · rw [next, next_modifyOutput emptying]
  · rw [frames, emptiedFrames]
    cases live : graph.frame? id with
    | none => rfl
    | some frame => exact congrArg some (redirectAt_eq_redirect readers live)
  · rw [lists, emptiedLists]
    by_cases here : port = source
    · simp [here]
    · simp [here]

/-- Adding the slots of one port to the list of another one. -/
theorem lists_insertAll {graph redirected changed : Graph} {source target : Port} {old : Output}
    (found : graph.output? source = some old) (apart : target ≠ source)
    (lists : ∀ port slot, redirected.Lists port slot ↔ port ≠ source ∧ graph.Lists port slot)
    (filling : redirected.modifyOutput target (fun output =>
      { output with readers := output.readers.insertAll old.readers.toList }) = .ok changed)
    (port : Port) (slot : Slot) : changed.Lists port slot ↔
      (port ≠ source ∧ graph.Lists port slot) ∨ (port = target ∧ graph.Lists source slot) := by
  have held : slot ∈ old.readers.toList ↔ graph.Lists source slot := by simp [Lists, found]
  rw [lists_modifyOutput (·.insertAll old.readers.toList) filling]
  by_cases here : port = target
  · obtain ⟨output, offers⟩ := output?_of_modifyOutput filling
    have listed : slot ∈ output.readers ↔ graph.Lists target slot := by
      have before := lists target slot
      rw [and_iff_right apart] at before
      rw [← before]
      simp [Lists, offers]
    rw [here, if_pos rfl, ← listed, ← held]
    simp [offers, apart, or_comm]
  · rw [if_neg here, lists]
    simp [here]

/-- The steps of moving readers: the list of the source is emptied, the slots that stood on it are
redirected one by one, and they are put on the list of the target. -/
structure Moves (graph : Graph) (source target : Port) (old : Output)
    (emptied redirected changed : Graph) : Prop where
  /-- The list of the source is emptied. -/
  emptying : declining (·.modifyOutput source fun output => { output with readers := .empty }) graph =
    .ok emptied
  /-- The slots are redirected. -/
  redirecting : Edit.runOn (old.readers.toList.forM fun slot => Edit.change (redirectSlot slot target))
    emptied = (.ok (), redirected)
  /-- The list of the target is filled. -/
  filling : declining (·.modifyOutput target fun output =>
    { output with readers := output.readers.insertAll old.readers.toList }) redirected = .ok changed

/-- In a mirrored graph every step of moving readers to another port of the same tensor goes
through. -/
theorem exists_moves {graph : Graph} (mirrored : graph.Mirrored) {source target : Port}
    {old new : Output} (found : graph.output? source = some old)
    (offered : graph.output? target = some new) (same : old.info = new.info)
    (apart : source ≠ target) :
    ∃ emptied redirected changed, Moves graph source target old emptied redirected changed ∧
      Redirects graph source target changed ∧ changed.Mirrored := by
  have carriedSource : graph.info? source = some old.info := by simp [info?, found]
  have carriedTarget : graph.info? target = some old.info := by simp [info?, offered, same]
  obtain ⟨emptied, redirected, first, second, next, frames, lists⟩ :=
    exists_redirected mirrored found target
  have carried : redirected.info? target = some old.info := by
    rw [info?_eq, Option.bind_eq_some_iff] at carriedTarget
    obtain ⟨frame, live, position⟩ := carriedTarget
    simp [info?_eq, frames, live, Frame.redirect, position]
  obtain ⟨changed, third, filling⟩ := declining_modifyOutput carried
    fun output => { output with readers := output.readers.insertAll old.readers.toList }
  have redirects : Redirects graph source target changed := by
    refine ⟨⟨old.info, carriedSource, carriedTarget⟩, ?_, fun id => ?_⟩
    · rw [next_modifyOutput filling, next]
    · rw [frame?_modifyOutput filling fun _ => rfl, frames]
  refine ⟨emptied, redirected, changed, ⟨first, second, third⟩, redirects,
    redirects.mirrored mirrored ?_⟩
  exact lists_insertAll found (Ne.symm apart) lists filling

section

variable {graph : Graph} {source target : Port} {old new : Output}
  (found : graph.output? source = some old) (offered : graph.output? target = some new)
  (same : old.info = new.info)
include found offered same

/-- Moving the readers of a port to itself moves none. -/
theorem runOn_replaceAllUses_self (selfSame : source = target) :
    (replaceAllUses source target).runOn graph = (.ok 0, graph) := by
  refine (Edit.runOn_bind_ok (Edit.runOn_require_ok (output_eq_ok_iff.mpr found))).trans ?_
  refine (Edit.runOn_bind_ok (Edit.runOn_require_ok (output_eq_ok_iff.mpr offered))).trans ?_
  rw [if_neg (not_not_intro same), if_pos selfSame, Edit.runOn_pure]

/-- Where its steps go through, moving the readers to another port yields their number. -/
theorem Moves.runOn_replaceAllUses (apart : source ≠ target) {emptied redirected changed : Graph}
    (moves : Moves graph source target old emptied redirected changed) :
    (replaceAllUses source target).runOn graph = (.ok old.readers.size, changed) := by
  refine (Edit.runOn_bind_ok (Edit.runOn_require_ok (output_eq_ok_iff.mpr found))).trans ?_
  refine (Edit.runOn_bind_ok (Edit.runOn_require_ok (output_eq_ok_iff.mpr offered))).trans ?_
  rw [if_neg (not_not_intro same), if_neg apart]
  refine (Edit.runOn_bind_ok (Edit.runOn_change_ok moves.emptying)).trans ?_
  refine (Edit.runOn_bind_ok moves.redirecting).trans ?_
  exact Edit.runOn_bind_ok (Edit.runOn_change_ok moves.filling)

/-- In a mirrored graph the readers of a port can be handed to any port of the same tensor. -/
theorem runOn_replaceAllUses (mirrored : graph.Mirrored) :
    ∃ moved changed, (replaceAllUses source target).runOn graph = (.ok moved, changed) ∧
      Redirects graph source target changed ∧ changed.Mirrored := by
  by_cases selfSame : source = target
  · have carried : graph.info? source = some old.info := by simp [info?, found]
    refine ⟨0, graph, runOn_replaceAllUses_self found offered same selfSame,
      ⟨⟨old.info, carried, selfSame ▸ carried⟩, rfl, fun id => ?_⟩, mirrored⟩
    simp [← selfSame, Frame.redirect_self]
  · obtain ⟨emptied, redirected, changed, moves, redirects, kept⟩ :=
      exists_moves mirrored found offered same selfSame
    exact ⟨_, changed, moves.runOn_replaceAllUses found offered same selfSame, redirects, kept⟩

end

section

variable {graph : Graph} {source target : Port}

/-- Readers of a port that does not exist are not redirected. -/
theorem runOn_replaceAllUses_noSource {cause : GraphError}
    (missing : graph.output source = .error cause) :
    (replaceAllUses source target).runOn graph = (.error (.refusal cause), graph) := by
  rw [replaceAllUses, Edit.runOn_bind_error (Edit.runOn_require_error missing)]

/-- Readers are not redirected to a port that does not exist. -/
theorem runOn_replaceAllUses_noTarget {old : Output} {cause : GraphError}
    (found : graph.output source = .ok old) (missing : graph.output target = .error cause) :
    (replaceAllUses source target).runOn graph = (.error (.refusal cause), graph) := by
  rw [replaceAllUses, Edit.runOn_bind_ok (Edit.runOn_require_ok found),
    Edit.runOn_bind_error (Edit.runOn_require_error missing)]

/-- Readers are not redirected to a port that carries another tensor. -/
theorem runOn_replaceAllUses_incompatible {old new : Output}
    (found : graph.output source = .ok old) (offered : graph.output target = .ok new)
    (different : old.info ≠ new.info) : (replaceAllUses source target).runOn graph =
      (.error (.refusal (.incompatibleRewire source target)), graph) := by
  rw [replaceAllUses, Edit.runOn_bind_ok (Edit.runOn_require_ok found),
    Edit.runOn_bind_ok (Edit.runOn_require_ok offered), if_pos different]
  rfl

end

/-- Redirecting the readers of a port of a mirrored graph does so or changes nothing. -/
theorem Mirrored.redirects_or_stays {graph : Graph} (mirrored : graph.Mirrored)
    (source target : Port) :
    ((replaceAllUses source target).runOn graph).2 = graph ∨
      graph.Redirects source target ((replaceAllUses source target).runOn graph).2 ∧
        ((replaceAllUses source target).runOn graph).2.Mirrored := by
  cases found : graph.output source with
  | error cause => exact .inl (by rw [runOn_replaceAllUses_noSource found])
  | ok old =>
    cases offered : graph.output target with
    | error cause => exact .inl (by rw [runOn_replaceAllUses_noTarget found offered])
    | ok new =>
      by_cases same : old.info = new.info
      · obtain ⟨moved, changed, run, redirects, kept⟩ := runOn_replaceAllUses
          (output_eq_ok_iff.mp found) (output_eq_ok_iff.mp offered) same mirrored
        rw [run]
        exact .inr ⟨redirects, kept⟩
      · exact .inl (by rw [runOn_replaceAllUses_incompatible found offered same])

/-- Redirecting the readers of a port of a mirrored graph is a change. -/
theorem Mirrored.changes_replaceAllUses {graph : Graph} (mirrored : graph.Mirrored)
    (source target : Port) : graph.Changes ((replaceAllUses source target).runOn graph).2 := by
  rcases mirrored.redirects_or_stays source target with same | ⟨redirects, kept⟩
  · rw [same]
    exact .stays mirrored
  · exact .redirects redirects kept

/-! ## Removing a node -/

/-- A node is read by as many slots as none exactly when none of its outputs lists one. -/
theorem readerCount_eq_zero_iff {node : Node} :
    node.readerCount = 0 ↔ ∀ output ∈ node.outputs, ∀ slot, slot ∉ output.readers := by
  have empty (readers : OrderedSet Slot) : readers.size = 0 ↔ ∀ slot, slot ∉ readers := by
    rw [OrderedSet.size, List.length_eq_zero_iff, List.eq_nil_iff_forall_not_mem]
    exact Iff.rfl
  unfold Node.readerCount
  induction node.outputs with
  | nil => simp
  | cons output rest ih => simp [empty, ih]

/-- A node is unused when none of its outputs lists a reader. -/
theorem isUnused_iff {node : Node} : node.isUnused = true ↔ node.readerCount = 0 := by
  simp only [readerCount_eq_zero_iff, Node.isUnused, List.all_eq_true, OrderedSet.isEmpty,
    List.isEmpty_iff, List.eq_nil_iff_forall_not_mem, OrderedSet.mem_toList]

/-- In a mirrored graph a node is unread when no slot reads one of its ports. -/
theorem Mirrored.readerCount_eq_zero_iff {graph : Graph} (mirrored : graph.Mirrored) {id : Nat}
    {node : Node} (found : graph.node? id = some node) :
    node.readerCount = 0 ↔ ∀ slot port, graph.producer? slot = some port → port.node ≠ id := by
  rw [Graph.readerCount_eq_zero_iff]
  constructor
  · rintro unread slot port reads rfl
    obtain ⟨output, offered, listed⟩ := (mirrored slot port).mp reads
    rw [output?_eq, found, Option.bind_some] at offered
    exact unread output (List.mem_of_getElem? offered) slot listed
  · intro unread output inside slot listed
    obtain ⟨index, position⟩ := List.mem_iff_getElem?.mp inside
    have lists : graph.Lists ⟨id, index⟩ slot :=
      ⟨output, by simp [output?_eq, found, position], listed⟩
    exact unread slot ⟨id, index⟩ ((mirrored _ _).mpr lists) rfl

/-- Striking slots from the ports they read strikes those slots and keeps every frame. -/
theorem foldl_dropReader (graph : Graph) (pairs : List (Slot × Port)) :
    let changed := pairs.foldl (fun graph (slot, port) => graph.dropReader slot port) graph
    changed.next = graph.next ∧ (∀ id, changed.frame? id = graph.frame? id) ∧
      ∀ port slot, changed.Lists port slot ↔ graph.Lists port slot ∧ (slot, port) ∉ pairs := by
  induction pairs generalizing graph with
  | nil => simp
  | cons pair rest ih =>
    obtain ⟨slot, port⟩ := pair
    obtain ⟨next, frames, lists⟩ := ih (graph.dropReader slot port)
    refine ⟨by simpa using next, fun id => by simpa using frames id, fun other reader => ?_⟩
    simp only [List.foldl_cons, lists, lists_dropReader, List.mem_cons, Prod.mk.injEq, not_or]
    exact and_assoc

section

variable {graph changed : Graph} {dead : Nat} (drops : Drops graph dead changed)
include drops

/-- A dropped node is gone. -/
theorem Drops.frame?_eq_none : changed.frame? dead = none := by
  rw [drops.frames, if_pos rfl]

/-- What is left after a node was dropped are the other nodes, as they were. -/
theorem Drops.frame?_eq_some_iff {id : Nat} {frame : Frame} :
    changed.frame? id = some frame ↔ id ≠ dead ∧ graph.frame? id = some frame := by
  rw [drops.frames]
  by_cases same : id = dead <;> simp [same]

/-- The port a slot reads after a node was dropped. -/
theorem Drops.producer? (slot : Slot) : changed.producer? slot =
    if slot.node = dead then none else graph.producer? slot := by
  rw [producer?_eq, drops.frames]
  split
  · rfl
  · rw [producer?_eq]

end

/-- A node that nothing reads can be removed from a mirrored graph. -/
theorem runOn_removeNode {graph : Graph} (mirrored : graph.Mirrored) {id : Nat} {node : Node}
    (found : graph.node? id = some node)
    (unread : ∀ slot port, graph.producer? slot = some port → port.node ≠ id) :
    ∃ changed, (removeNode id).runOn graph = (.ok node, changed) ∧ Drops graph id changed ∧
      changed.Mirrored := by
  have count := (mirrored.readerCount_eq_zero_iff found).mpr unread
  obtain ⟨next, frames, lists⟩ :=
    foldl_dropReader ⟨(graph.nodes.remove id).2⟩ (slots id node.inputs)
  have drops : Drops graph id (graph.detach id node) :=
    ⟨unread, next.trans (Store.next_remove _ _), fun other =>
      (frames other).trans (frame?_retire graph id other)⟩
  refine ⟨graph.detach id node, by simp [Edit.runOn, removeNode, found, count], drops, ?_⟩
  intro slot port
  rw [drops.producer?, detach, lists, lists_retire, mem_slots, ← mirrored slot port]
  by_cases own : slot.node = id
  · simp only [own, ↓reduceIte, reduceCtorEq, producer?_eq, frame?, found, Node.frame,
      Option.map_some, Option.bind_some, true_and, false_iff]
    exact fun both => both.2 both.1.1
  · simp only [own, ↓reduceIte, false_and, not_false_eq_true, and_true]
    exact ⟨fun read => ⟨read, unread slot port read⟩, And.left⟩

/-- A node that is read is not removed; the refusal names the node and counts its readers. -/
theorem runOn_removeNode_inUse {graph : Graph} {id : Nat} {node : Node}
    (found : graph.node? id = some node) (used : 0 < node.readerCount) :
    (removeNode id).runOn graph =
      (.error (.refusal (.nodeInUse node.name node.readerCount)), graph) := by
  simp [Edit.runOn, removeNode, found, used]

/-- A node that is dead or read is not removed. -/
theorem runOn_removeNode_error {graph : Graph} {id : Nat}
    (kept : ∀ node, graph.node? id = some node → node.readerCount ≠ 0) :
    ∃ cause, (removeNode id).runOn graph = (.error (.refusal cause), graph) := by
  cases found : graph.node? id with
  | none => exact ⟨.unknownNode id, by simp [Edit.runOn, removeNode, found]⟩
  | some node =>
    exact ⟨_, runOn_removeNode_inUse found (Nat.pos_of_ne_zero (kept node found))⟩

/-- A node that was removed from a mirrored graph is dropped. -/
theorem Mirrored.drops_of_removeNode {graph changed : Graph} (mirrored : graph.Mirrored) {id : Nat}
    {node : Node} (done : (removeNode id).runOn graph = (.ok node, changed)) :
    graph.node? id = some node ∧ Drops graph id changed ∧ changed.Mirrored := by
  by_cases removable : ∃ node, graph.node? id = some node ∧ node.readerCount = 0
  · obtain ⟨own, found, count⟩ := removable
    obtain ⟨other, run, drops, kept⟩ := runOn_removeNode mirrored found
      ((mirrored.readerCount_eq_zero_iff found).mp count)
    rw [done, Prod.mk.injEq, Except.ok.injEq] at run
    obtain ⟨rfl, rfl⟩ := run
    exact ⟨found, drops, kept⟩
  · obtain ⟨cause, run⟩ := runOn_removeNode_error
      fun node found count => removable ⟨node, found, count⟩
    rw [done] at run
    simp at run

/-- Removing a node of a mirrored graph drops it or changes nothing. -/
theorem Mirrored.drops_or_stays {graph : Graph} (mirrored : graph.Mirrored) (id : Nat) :
    ((removeNode id).runOn graph).2 = graph ∨
      graph.Drops id ((removeNode id).runOn graph).2 ∧ ((removeNode id).runOn graph).2.Mirrored := by
  by_cases removable : ∃ node, graph.node? id = some node ∧ node.readerCount = 0
  · obtain ⟨node, found, count⟩ := removable
    obtain ⟨changed, run, drops, kept⟩ := runOn_removeNode mirrored found
      ((mirrored.readerCount_eq_zero_iff found).mp count)
    rw [run]
    exact .inr ⟨drops, kept⟩
  · have kept : ∀ node, graph.node? id = some node → node.readerCount ≠ 0 :=
      fun node found count => removable ⟨node, found, count⟩
    obtain ⟨cause, run⟩ := runOn_removeNode_error kept
    exact .inl (by rw [run])

/-- Removing a node of a mirrored graph is a change. -/
theorem Mirrored.changes_removeNode {graph : Graph} (mirrored : graph.Mirrored) (id : Nat) :
    graph.Changes ((removeNode id).runOn graph).2 := by
  rcases mirrored.drops_or_stays id with same | ⟨drops, kept⟩
  · rw [same]
    exact .stays mirrored
  · exact .drops drops kept

/-! ## The check of edges -/

section

variable {graph : Graph}

/-- The check of an input passes where the port lists the slot. -/
theorem auditInput_eq_ok_iff {slot : Slot} {port : Port} :
    graph.auditInput slot port = .ok () ↔ graph.Lists port slot := by
  unfold auditInput Lists
  cases graph.output? port <;> simp

/-- The check of an output passes where every slot it lists reads it. -/
theorem auditOutput_eq_ok_iff {port : Port} {output : Output} :
    graph.auditOutput port output = .ok () ↔
      ∀ slot ∈ output.readers, graph.producer? slot = some port := by
  simp [auditOutput]

/-- The check of a node passes where the check of each of its edges does, from either end. -/
theorem auditNode_eq_ok_iff {id : Nat} {node : Node} (found : graph.node? id = some node) :
    graph.auditNode id node = .ok () ↔
      (∀ index port, graph.producer? ⟨id, index⟩ = some port → graph.Lists port ⟨id, index⟩) ∧
        ∀ index slot, graph.Lists ⟨id, index⟩ slot → graph.producer? slot = some ⟨id, index⟩ := by
  have inputs (index : Nat) : graph.producer? ⟨id, index⟩ = node.inputs[index]? := by
    simp [producer?, found, Node.input?]
  have outputs (index : Nat) : graph.output? ⟨id, index⟩ = node.outputs[index]? := by
    simp [output?_eq, found]
  rw [auditNode, bind_eq_ok_iff, exists_unit_iff, forM_eq_ok_iff, forM_eq_ok_iff]
  simp only [Prod.forall, List.mem_zipIdx_iff_getElem?, auditInput_eq_ok_iff,
    auditOutput_eq_ok_iff, inputs]
  refine and_congr ⟨fun listed index port => listed port index,
    fun listed port index => listed index port⟩ ⟨fun read index slot => ?_,
    fun read output index offered slot inside => ?_⟩
  · rintro ⟨output, offered, inside⟩
    exact read output index (outputs index ▸ offered) slot inside
  · exact read index slot ⟨output, (outputs index).trans offered, inside⟩

/-- The check of edges passes exactly where the two records of every edge agree. -/
theorem audit_eq_ok_iff : graph.audit = .ok () ↔ graph.Mirrored := by
  rw [audit, forM_eq_ok_iff]
  simp only [Prod.forall, entries, Store.mem_entries]
  constructor
  · intro passes slot port
    constructor
    · intro reads
      obtain ⟨node, found, -⟩ := Option.bind_eq_some_iff.mp reads
      exact ((auditNode_eq_ok_iff found).mp (passes slot.node node found)).1 slot.index port reads
    · rintro ⟨output, offered, listed⟩
      have behind := offered
      rw [output?_eq, Option.bind_eq_some_iff] at behind
      obtain ⟨node, found, -⟩ := behind
      exact ((auditNode_eq_ok_iff found).mp (passes port.node node found)).2 port.index slot
        ⟨output, offered, listed⟩
  · intro mirrored id node found
    exact (auditNode_eq_ok_iff found).mpr ⟨fun index port => (mirrored ⟨id, index⟩ port).mp,
      fun index slot => (mirrored slot ⟨id, index⟩).mpr⟩

/-- The check of edges finds nothing wrong with a mirrored graph. -/
theorem Mirrored.audit (mirrored : graph.Mirrored) : graph.audit = .ok () :=
  audit_eq_ok_iff.mpr mirrored

end

end GatherFusion.Graph

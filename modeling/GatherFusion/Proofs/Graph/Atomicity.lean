import GatherFusion.Proofs.Reachable

/-!
# Edits that do all or nothing

Adding a node, moving readers and removing a node check what they need before they change anything.
In a mirrored graph nothing can go wrong after the checks: a slot that is listed exists, and a port
that was looked up stays. An edit therefore declines exactly where one of its checks fails, and a
graph that declined an edit is the graph it was before.
-/
namespace GatherFusion

/-- The packed elements of the one output of a constant fill its payload. -/
def Payload.Fills (payload : Payload) (outputs : List TensorInfo) : Prop :=
  ∃ element extents, outputs = [.fixed element extents] ∧
    payload.size = element.byteLength (Shape.product extents)

/-- An edit of a graph declines under a condition and goes through otherwise. It breaks no promise,
and where it fails it leaves the graph as it was. -/
structure Edit.AllOrNothing {ε α : Type} (edit : Edit ε α) (graph : Graph) (declined : Prop) :
    Prop where
  /-- The edit declines exactly under the condition. -/
  declines : (∃ cause, (edit.runOn graph).1 = .error (.refusal cause)) ↔ declined
  /-- No promise is broken. -/
  settles : ∀ fault, (edit.runOn graph).1 ≠ .error (.fault fault)
  /-- An edit that fails leaves the graph as it was. -/
  unchanged : ∀ failure, (edit.runOn graph).1 = .error failure → (edit.runOn graph).2 = graph

namespace Edit

variable {ε α : Type} {edit : Edit ε α} {graph : Graph} {declined : Prop}

/-- An edit that declines where it should. -/
theorem allOrNothing_of_refusal (cause : ε) (holds : declined)
    (run : edit.runOn graph = (.error (.refusal cause), graph)) :
    edit.AllOrNothing graph declined where
  declines := by simp [run, holds]
  settles := by simp [run]
  unchanged := by simp [run]

/-- An edit that goes through where it should. -/
theorem allOrNothing_of_ok (fails : ¬declined) {value : α} {changed : Graph}
    (run : edit.runOn graph = (.ok value, changed)) : edit.AllOrNothing graph declined where
  declines := by simp [run, fails]
  settles := by simp [run]
  unchanged := by simp [run]

end Edit

namespace Graph

/-- A port exists: its node is live and offers as many outputs. -/
def HasPort (graph : Graph) (port : Port) : Prop :=
  ∃ node, graph.node? port.node = some node ∧ port.index < node.outputs.length

/-- A port exists when there is an output behind it. -/
theorem hasPort_iff {graph : Graph} {port : Port} :
    graph.HasPort port ↔ ∃ output, graph.output port = .ok output := by
  simp only [HasPort, output_eq_ok_iff, output?_eq, Option.bind_eq_some_iff,
    List.getElem?_eq_some_iff]
  constructor
  · rintro ⟨node, found, inside⟩
    exact ⟨node.outputs[port.index], node, found, inside, rfl⟩
  · rintro ⟨output, node, found, inside, -⟩
    exact ⟨node, found, inside⟩

/-- A constant passes its check when its payload is filled. -/
theorem checkConstant_eq_ok_iff {name : String} {payload : Payload} {outputs : List TensorInfo} :
    checkConstant name payload outputs = .ok () ↔ payload.Fills outputs := by
  unfold checkConstant Payload.Fills
  split
  · rename_i info
    obtain ⟨element, shape⟩ := info
    simp only [Shape.count?]
    cases known : shape.extents? with
    | none =>
      have unknown (extents : List Nat) : shape ≠ .fixed extents :=
        fun same => by simp [Shape.extents?_eq_some_iff.mpr same] at known
      simp [TensorInfo.fixed, unknown]
    | some extents =>
      obtain rfl := Shape.extents?_eq_some_iff.mp known
      have injective (others : List Nat) : Shape.fixed extents = .fixed others ↔ extents = others := by
        rw [← Shape.extents?_eq_some_iff, Shape.extents?_fixed, Option.some.injEq]
      simp only [Option.map_some, ite_eq_left_iff, reduceCtorEq, imp_false, Decidable.not_not,
        TensorInfo.fixed, List.cons.injEq, TensorInfo.mk.injEq, injective, and_true]
      constructor
      · exact fun size => ⟨element, extents, ⟨rfl, rfl⟩, size⟩
      · rintro ⟨_, _, ⟨rfl, rfl⟩, size⟩
        exact size
  · rename_i outputs many
    simp only [reduceCtorEq, false_iff]
    rintro ⟨element, extents, same, -⟩
    exact many _ same

/-! ## Adding a node -/

/-- A new node passes its check unless it reads a port that does not exist or is a constant whose
payload is not filled. -/
theorem checkNode_eq_ok_iff_not {operation : Operation} {inputs : List Port}
    {outputs : List TensorInfo} {name : String} {graph : Graph} :
    checkNode operation inputs outputs name graph = .ok () ↔
      ¬((∃ port ∈ inputs, ¬graph.HasPort port) ∨
        ∃ payload, operation = .constant payload ∧ ¬payload.Fills outputs) := by
  simp only [checkNode_eq_ok_iff, checkConstant_eq_ok_iff, ← output_eq_ok_iff, ← hasPort_iff, not_or,
    not_exists, not_and, Classical.not_not]

/-- A new node is added or declined as a whole. -/
theorem addNode_allOrNothing (graph : Graph) (operation : Operation) (inputs : List Port)
    (outputs : List TensorInfo) (name : String) :
    (addNode operation inputs outputs name).AllOrNothing graph
      ((∃ port ∈ inputs, ¬graph.HasPort port) ∨
        ∃ payload, operation = .constant payload ∧ ¬payload.Fills outputs) := by
  cases checked : checkNode operation inputs outputs name graph with
  | error cause =>
    refine Edit.allOrNothing_of_refusal _ ?_ (runOn_addNode_error checked)
    refine Classical.not_not.mp fun fits => ?_
    rw [checkNode_eq_ok_iff_not.mpr fits] at checked
    contradiction
  | ok =>
    obtain ⟨changed, run, -⟩ := runOn_addNode checked
    exact Edit.allOrNothing_of_ok (checkNode_eq_ok_iff_not.mp checked) run

/-- Once a new node has passed its check, every port it reads lists the slot that reads it. -/
theorem exists_registered {operation : Operation} {inputs : List Port} {outputs : List TensorInfo}
    {name : String} {graph : Graph}
    (checked : checkNode operation inputs outputs name graph = .ok ()) :
    ∃ registered, Edit.runOn (ε := GraphError) ((slots graph.next inputs).forM fun (slot, port) =>
      Edit.change (declining (addReader slot port))) graph = (.ok (), registered) := by
  obtain ⟨registered, run, -⟩ := runOn_addReaders fun pair inside =>
    (checkNode_eq_ok_iff.mp checked).1 pair.2 (List.mem_of_getElem? (mem_slots.mp inside).2)
  exact ⟨registered, run⟩

/-! ## Moving readers -/

/-- Moving readers is declined when one of the ports does not exist or they carry different
tensors. -/
theorem Mirrored.replaceAllUses_allOrNothing {graph : Graph} (mirrored : graph.Mirrored)
    (source target : Port) :
    (replaceAllUses source target).AllOrNothing graph
      (¬graph.HasPort source ∨ ¬graph.HasPort target ∨ graph.info? source ≠ graph.info? target) := by
  have missing {port : Port} {cause : GraphError} (none : graph.output port = .error cause) :
      ¬graph.HasPort port := by
    rw [hasPort_iff, none]
    simp
  cases found : graph.output source with
  | error cause =>
    exact Edit.allOrNothing_of_refusal cause (.inl (missing found))
      (runOn_replaceAllUses_noSource found)
  | ok old =>
    cases offered : graph.output target with
    | error cause =>
      exact Edit.allOrNothing_of_refusal cause (.inr (.inl (missing offered)))
        (runOn_replaceAllUses_noTarget found offered)
    | ok new =>
      have carriedSource : graph.info? source = some old.info := by
        simp [info?, output_eq_ok_iff.mp found]
      have carriedTarget : graph.info? target = some new.info := by
        simp [info?, output_eq_ok_iff.mp offered]
      by_cases same : old.info = new.info
      · obtain ⟨moved, changed, run, -⟩ := runOn_replaceAllUses (output_eq_ok_iff.mp found)
          (output_eq_ok_iff.mp offered) same mirrored
        refine Edit.allOrNothing_of_ok ?_ run
        simp [hasPort_iff, found, offered, carriedSource, carriedTarget, same]
      · have different : graph.info? source ≠ graph.info? target := by
          simp [carriedSource, carriedTarget, same]
        exact Edit.allOrNothing_of_refusal (.incompatibleRewire source target)
          (.inr (.inr different)) (runOn_replaceAllUses_incompatible found offered same)

/-! ## Removing a node -/

/-- A live node is in use when one of its outputs has a reader. -/
theorem readerCount_ne_zero_iff {graph : Graph} {id : Nat} {node : Node}
    (found : graph.node? id = some node) :
    node.readerCount ≠ 0 ↔ ∃ index slot, slot ∈ graph.readers ⟨id, index⟩ := by
  have listed {index : Nat} {slot : Slot} : slot ∈ graph.readers ⟨id, index⟩ ↔
      ∃ output, node.outputs[index]? = some output ∧ slot ∈ output.readers := by
    simp only [readers, output?_eq, found, Option.bind_some]
    cases node.outputs[index]? <;> simp
  simp only [ne_eq, readerCount_eq_zero_iff, Classical.not_forall, Classical.not_not, listed]
  constructor
  · rintro ⟨output, inside, slot, reads⟩
    obtain ⟨index, position⟩ := List.mem_iff_getElem?.mp inside
    exact ⟨index, slot, output, position, reads⟩
  · rintro ⟨index, slot, output, position, reads⟩
    exact ⟨output, List.mem_of_getElem? position, slot, reads⟩

/-- A node is removed or kept as a whole; it is kept when it is dead or one of its outputs has a
reader. -/
theorem removeNode_allOrNothing (graph : Graph) (id : Nat) :
    (removeNode id).AllOrNothing graph
      (graph.node? id = none ∨ ∃ index slot, slot ∈ graph.readers ⟨id, index⟩) := by
  by_cases removable : ∃ node, graph.node? id = some node ∧ node.readerCount = 0
  · obtain ⟨node, found, count⟩ := removable
    have run : (removeNode id).runOn graph = (.ok node, graph.detach id node) := by
      simp [Edit.runOn, removeNode, found, count]
    refine Edit.allOrNothing_of_ok ?_ run
    rw [← readerCount_ne_zero_iff found]
    simp [found, count]
  · have kept : ∀ node, graph.node? id = some node → node.readerCount ≠ 0 :=
      fun node found count => removable ⟨node, found, count⟩
    obtain ⟨cause, run⟩ := runOn_removeNode_error kept
    refine Edit.allOrNothing_of_refusal cause ?_ run
    cases found : graph.node? id with
    | none => exact .inl rfl
    | some node => exact .inr ((readerCount_ne_zero_iff found).mp (kept node found))

/-! ## All edits -/

end Graph

end GatherFusion

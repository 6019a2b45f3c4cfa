import GatherFusion.Proofs.Graph.LeastOrder

/-!
# Graphs as they are built

A node that is added reads nodes that exist, so it reads older ones; removing a node moves no edge,
and no handle is given out twice. As long as no reader is redirected, age is therefore an order of
the graph, and it is the one that is found: the smallest node that is not listed yet never waits for
a producer, since its producers are smaller still.
-/
namespace GatherFusion

/-- The action adds nodes or removes one; it redirects no reader. -/
def Action.builds : Action → Bool
  | .addNode .. | .addParameter .. | .addConstant .. | .addResult .. | .removeNode .. => true
  | .replaceAllUses .. | .replace .. | .runPass .. | .runPipeline .. => false

namespace Graph

/-- Every node reads older nodes only. -/
def ReadsOlder (graph : Graph) : Prop := ∀ id, ∀ port ∈ graph.operands id, port.node < id

/-! ## What building keeps -/

/-- A node that is added reads nodes that are there already. -/
theorem Adds.readsOlder {graph changed : Graph} {frame : Frame} (adds : Adds graph frame changed)
    (older : graph.ReadsOlder) : changed.ReadsOlder := by
  intro id port operand
  rw [operands, adds.frames] at operand
  split at operand
  · rename_i fresh
    obtain ⟨info, carries⟩ := adds.reads port operand
    rw [info?_eq, Option.bind_eq_some_iff] at carries
    obtain ⟨producer, there, -⟩ := carries
    rw [fresh]
    exact lt_next_of_frame? there
  · exact older id port operand

/-- Removing a node moves no edge. -/
theorem Drops.readsOlder {graph changed : Graph} {dead : Nat} (drops : Drops graph dead changed)
    (older : graph.ReadsOlder) : changed.ReadsOlder := by
  intro id port operand
  rw [operands, drops.frames] at operand
  split at operand
  · simp at operand
  · exact older id port operand

/-- Building keeps every node reading older ones. -/
theorem ReadsOlder.leave {graph : Graph} (older : graph.ReadsOlder) (mirrored : graph.Mirrored)
    {action : Action} (builds : action.builds = true) : (action.leave graph).ReadsOlder := by
  have added (operation : Operation) (inputs : List Port) (outputs : List TensorInfo)
      (name : String) : ((addNode operation inputs outputs name).runOn graph).2.ReadsOlder := by
    rcases mirrored.adds_or_stays operation inputs outputs name with same | ⟨adds, -⟩
    · rwa [same]
    · exact adds.readsOlder older
  cases action with
  | addNode operation inputs outputs name => exact added operation inputs outputs name
  | addParameter name info =>
    obtain ⟨changed, run, adds, -⟩ := @runOn_addParameter name info graph mirrored
    rw [Action.leave, run]
    exact adds.readsOlder older
  | addConstant name info payload => exact added (.constant payload) [] [info] name
  | addResult name source => exact added .result [source] [] name
  | removeNode id =>
    rcases mirrored.drops_or_stays id with same | ⟨drops, -⟩
    · rwa [Action.leave, same]
    · exact drops.readsOlder older
  | replaceAllUses | replace | runPass | runPipeline => contradiction

/-- In a graph that was only built every node reads older ones. -/
theorem readsOlder_after {history : List Action}
    (builds : ∀ action ∈ history, action.builds = true) : (after history).ReadsOlder := by
  have folded (actions : List Action) (builds : ∀ action ∈ actions, action.builds = true)
      {graph : Graph} (mirrored : graph.Mirrored) (older : graph.ReadsOlder) :
      (actions.foldl Action.leave graph).ReadsOlder := by
    induction actions generalizing graph with
    | nil => exact older
    | cons action rest ih =>
      obtain ⟨first, later⟩ := List.forall_mem_cons.mp builds
      exact ih later (stable_mirrored.leave mirrored action) (older.leave mirrored first)
  refine folded history builds mirrored_empty fun id port operand => ?_
  obtain ⟨frame, found, -⟩ := exists_frame_of_operand operand
  simp [frame?, node?, empty] at found

/-! ## Age as the order -/

/-- A graph in which every node reads older ones has no cycle. -/
theorem ReadsOlder.acyclic {graph : Graph} (older : graph.ReadsOlder) : graph.Acyclic := by
  refine acyclic_of_older fun id _ frame found port inside => older id port ?_
  rw [operands, Option.mem_def.mp found]
  exact inside

/-- Where every node reads older ones, a list that takes the smallest ready node at every position
leaves no smaller live node for later. -/
theorem Greedy.le_of_unlisted {graph : Graph} (mirrored : graph.Mirrored)
    (older : graph.ReadsOlder) {order : List Nat} (greedy : graph.Greedy order)
    {before rest : List Nat} {id : Nat} (split : order = before ++ id :: rest) {other : Nat}
    (contained : graph.contains other = true) (unlisted : other ∉ before) : id ≤ other := by
  -- A node that waits for a producer waits for a smaller one.
  induction other using Nat.strong_induction_on with
  | _ other ih =>
    by_cases supplied : ∀ port ∈ graph.operands other, port.node ∈ before
    · exact (greedy before id rest split).2 other ⟨contained, unlisted, supplied⟩
    · obtain ⟨port, waits⟩ := not_forall.mp supplied
      obtain ⟨operand, missing⟩ := Classical.not_imp.mp waits
      obtain ⟨frame, found, inside⟩ := exists_frame_of_operand operand
      obtain ⟨producer, -, there, -⟩ := mirrored.exists_frame found inside
      have younger : port.node < other := older other port operand
      have bound : id ≤ port.node :=
        ih port.node younger (contains_iff.mpr ⟨producer, there⟩) missing
      omega

/-- Where every node reads older ones, a list that takes the smallest ready node at every position
is increasing. -/
theorem Greedy.increasing {graph : Graph} (mirrored : graph.Mirrored) (older : graph.ReadsOlder)
    {order : List Nat} (greedy : graph.Greedy order) (orders : graph.Orders order) :
    order.Pairwise (· < ·) := by
  have behind (rest before : List Nat) (split : order = before ++ rest) :
      rest.Pairwise (· < ·) := by
    induction rest generalizing before with
    | nil => exact .nil
    | cons id rest ih =>
      refine List.pairwise_cons.mpr ⟨fun other later => ?_, ih (before ++ [id]) (by simp [split])⟩
      have distinct : (before ++ id :: rest).Nodup := split ▸ orders.nodup
      obtain ⟨-, ownFirst, apart⟩ := List.nodup_append.mp distinct
      have different : id ≠ other := fun same => (List.nodup_cons.mp ownFirst).1 (same ▸ later)
      have unlisted : other ∉ before :=
        fun listed => apart other listed other (List.mem_cons_of_mem _ later) rfl
      have contained : graph.contains other = true := (orders.mem_iff other).mp (by simp [split, later])
      have bound : id ≤ other := greedy.le_of_unlisted mirrored older split contained unlisted
      omega
  exact behind order [] rfl

/-- Where every node reads older ones, the order found is the list of live handles, oldest first. -/
theorem ReadsOlder.topologicalOrder_eq {graph : Graph} (older : graph.ReadsOlder)
    (mirrored : graph.Mirrored) : graph.topologicalOrder = .ok graph.ids := by
  have acyclic := older.acyclic
  obtain ⟨order, schedules, ⟨-, ordered⟩ | ⟨cyclic, -⟩⟩ := mirrored.topologicalOrder_cases
  · have orders : graph.Orders order := schedules.orders mirrored acyclic
    have increasing : order.Pairwise (· < ·) :=
      schedules.greedy.increasing mirrored older orders
    have same : order = graph.ids :=
      OrderedSet.eq_of_mem_iff increasing graph.nodes.increasing_entries fun id => by
        rw [orders.mem_iff, mem_ids]
    rw [ordered, same]
  · exact absurd acyclic cyclic

/-- In a graph that was only built, by adding and removing nodes in any order and with any
arguments, every node reads nodes with smaller handles. The graph is acyclic, and the order found is
the list of the live handles and no others, in increasing order. -/
theorem ordered_by_age_after (history : List Action)
    (builds : ∀ action ∈ history, action.builds = true) :
    (∀ slot port, (after history).producer? slot = some port → port.node < slot.node) ∧
      (after history).Acyclic ∧
      (after history).topologicalOrder = .ok (after history).ids ∧
      (after history).ids.Pairwise (· < ·) ∧
      ∀ id, id ∈ (after history).ids ↔ (after history).contains id = true := by
  have mirrored := mirrored_after history
  have older := readsOlder_after builds
  refine ⟨fun slot port reads => ?_, older.acyclic, older.topologicalOrder_eq mirrored,
    (after history).nodes.increasing_entries, fun id => mem_ids⟩
  rw [producer?_eq_operands] at reads
  exact older slot.node port (List.mem_of_getElem? reads)

/-- A parameter is squared. A conversion beside the square may not go while a result reads it, and
goes after the result did; a node that names it afterwards is refused. -/
def builtAndPruned : List Action := [
  .addParameter "input" (.fixed .f32 [1]),
  .addNode .convert [.first 0] [.fixed .f32 [1]] "beside",
  .addNode .multiply [.first 0, .first 0] [.fixed .f32 [1]] "square",
  .addResult "short-lived" (.first 1),
  .removeNode 1,
  .removeNode 3,
  .removeNode 1,
  .addNode .convert [.first 1] [.fixed .f32 [1]] "refused",
  .addResult "output" (.first 2)]

/-- The nodes that are left are ordered by age. -/
theorem ordered_by_age_builtAndPruned :
    (∀ action ∈ builtAndPruned, action.builds = true) ∧
      (∀ slot port, (after builtAndPruned).producer? slot = some port → port.node < slot.node) ∧
      (after builtAndPruned).Acyclic ∧ (after builtAndPruned).topologicalOrder = .ok [0, 2, 4] := by
  have builds : ∀ action ∈ builtAndPruned, action.builds = true := by decide
  have ids : (after builtAndPruned).ids = [0, 2, 4] := by decide +kernel
  obtain ⟨older, acyclic, ordered, -⟩ := ordered_by_age_after builtAndPruned builds
  exact ⟨builds, older, acyclic, ids ▸ ordered⟩

/-- Handing readers to a younger node ends the order by age: the conversion added second is read by
the one added first and listed before it. -/
example : (after [
    .addParameter "input" (.fixed .f32 [1]),
    .addNode .convert [.first 0] [.fixed .f32 [1]] "second",
    .addParameter "other" (.fixed .f32 [1]),
    .addNode .convert [.first 2] [.fixed .f32 [1]] "first",
    .replaceAllUses (.first 0) (.first 3)]).topologicalOrder = .ok [0, 2, 3, 1] := by
  decide +kernel

end Graph

end GatherFusion

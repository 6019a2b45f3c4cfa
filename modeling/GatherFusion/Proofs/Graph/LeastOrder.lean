import GatherFusion.Proofs.Graph.Order
import GatherFusion.Proofs.Reachable
import Mathlib.Data.Set.Card

/-!
# The order that is found

An order of a graph goes through its live nodes, producers before their readers. A graph may have
many; the one that takes the smallest ready node at every position is the least of them, compared
node by node. `Graph.topologicalOrder` finds that one in every acyclic graph. In a graph with a cycle
it counts the nodes it could list, which are the nodes behind no cycle.
-/
namespace GatherFusion.Graph

/-- A list goes through the live nodes of a graph, each once, producers before their readers. -/
structure Orders (graph : Graph) (order : List Nat) : Prop where
  /-- No node comes twice. -/
  nodup : order.Nodup
  /-- The live nodes come, and no others. -/
  mem_iff : ∀ id, id ∈ order ↔ graph.contains id = true
  /-- The producers of a node come before it. -/
  supplied : ∀ before id rest, order = before ++ id :: rest →
    ∀ port ∈ graph.operands id, port.node ∈ before

/-- A list takes, at every position, the smallest of the nodes that are ready there. -/
def Greedy (graph : Graph) (order : List Nat) : Prop :=
  ∀ before id rest, order = before ++ id :: rest →
    graph.Ready before id ∧ ∀ other, graph.Ready before other → id ≤ other

/-- Whether a node is ready depends on the nodes that were listed, not on their order. -/
theorem ready_congr {graph : Graph} {left right : List Nat}
    (same : ∀ id, id ∈ left ↔ id ∈ right) (id : Nat) :
    graph.Ready left id ↔ graph.Ready right id := by
  simp only [Ready, same]

/-! ## Schedules as orders -/

/-- A schedule takes the smallest ready node at every position. -/
theorem Schedules.greedy {graph : Graph} {order : List Nat} (schedules : graph.Schedules [] order) :
    graph.Greedy order := by
  -- Going on from listed nodes, these count as listed at every position.
  have continued {passed order : List Nat} (schedules : graph.Schedules passed order) :
      ∀ before id rest, order = before ++ id :: rest →
        graph.Ready (before ++ passed) id ∧
          ∀ other, graph.Ready (before ++ passed) other → id ≤ other := by
    induction schedules with
    | done =>
      intro before id rest split
      simp at split
    | @next passed rest first ready least _ ih =>
      intro before id after split
      cases before with
      | nil =>
        have same : first = id := (List.cons.inj split).1
        subst same
        exact ⟨ready, least⟩
      | cons head before =>
        have same : first = head := (List.cons.inj split).1
        have tail : rest = before ++ id :: after := (List.cons.inj split).2
        subst same
        have members (other : Nat) :
            other ∈ first :: before ++ passed ↔ other ∈ before ++ first :: passed := by
          simp only [List.cons_append, List.mem_cons, List.mem_append]
          tauto
        have later := ih before id after tail
        simp only [ready_congr members]
        exact later
  intro before id rest split
  have here := continued schedules before id rest split
  rwa [List.append_nil] at here

/-- In an acyclic graph the schedule is an order. -/
theorem Schedules.orders {graph : Graph} (mirrored : graph.Mirrored) (acyclic : graph.Acyclic)
    {order : List Nat} (schedules : graph.Schedules [] order) : graph.Orders order where
  nodup := schedules.nodup
  mem_iff id := by
    rw [schedules.mem_iff mirrored]
    exact and_iff_left (acyclic.not_behindCycle id)
  supplied before id rest split port operand := by
    have ready := (schedules.greedy before id rest split).1
    exact ready.2.2 port operand

/-! ## The least order -/

/-- At every position of an order the node that comes is ready. -/
theorem Orders.ready {graph : Graph} {order : List Nat} (orders : graph.Orders order)
    {before rest : List Nat} {id : Nat} (split : order = before ++ id :: rest) :
    graph.Ready before id := by
  have distinct := orders.nodup
  rw [split, List.nodup_middle, List.nodup_cons, List.mem_append, not_or] at distinct
  have live : graph.contains id = true := (orders.mem_iff id).mp (by simp [split])
  exact ⟨live, distinct.1.1, orders.supplied before id rest split⟩

/-- The order that takes the smallest ready node at every position comes first among all orders. -/
theorem Greedy.least {graph : Graph} {order other : List Nat} (greedy : graph.Greedy order)
    (orders : graph.Orders order) (others : graph.Orders other) :
    order = other ∨ List.Lex (· < ·) order other := by
  -- Behind a common beginning, whichever node the other order takes is ready for this one too.
  have behind (rest otherRest before : List Nat) (split : order = before ++ rest)
      (otherSplit : other = before ++ otherRest) :
      rest = otherRest ∨ List.Lex (· < ·) rest otherRest := by
    induction rest generalizing before otherRest with
    | nil =>
      cases otherRest with
      | nil => exact .inl rfl
      | cons => exact .inr .nil
    | cons id rest ih =>
      have ready := orders.ready split
      cases otherRest with
      | nil =>
        have inside : id ∈ other := (others.mem_iff id).mpr ready.1
        rw [otherSplit, List.append_nil] at inside
        exact absurd inside ready.2.1
      | cons otherId otherRest =>
        have bound : id ≤ otherId :=
          (greedy before id rest split).2 otherId (others.ready otherSplit)
        by_cases same : id = otherId
        · subst same
          have later := ih otherRest (before ++ [id]) (by simp [split]) (by simp [otherSplit])
          rcases later with rfl | below
          · exact .inl rfl
          · exact .inr (.cons below)
        · exact .inr (.rel (by omega))
  exact behind order other [] rfl rfl

/-! ## Counting nodes -/

/-- A list without repetition has as many members as it is long. -/
theorem ncard_members {list : List Nat} (distinct : list.Nodup) :
    {id | id ∈ list}.ncard = list.length := by
  have asFinset : {id | id ∈ list} = (list.toFinset : Set Nat) := by
    ext id
    simp
  rw [asFinset, Set.ncard_coe_finset, List.toFinset_card_of_nodup distinct]

/-- The count of nodes is the number of live handles. -/
theorem ncard_contains (graph : Graph) :
    {id | graph.contains id = true}.ncard = graph.nodeCount := by
  simp only [← mem_ids, ncard_members graph.nodup_ids, graph.length_ids]

/-- A schedule is as long as there are live nodes behind no cycle. -/
theorem Schedules.ncard_eq {graph : Graph} (mirrored : graph.Mirrored) {order : List Nat}
    (schedules : graph.Schedules [] order) :
    {id | graph.contains id = true ∧ ¬graph.BehindCycle id}.ncard = order.length := by
  simp only [← schedules.mem_iff mirrored, ncard_members schedules.nodup]

/-! ## What is told of reachable graphs -/

/-- In every reachable graph the counters agree with the readers, so the ordering breaks no promise.
If the graph is acyclic the order found goes through all live nodes, takes the smallest ready node at
every position, and is the least of all orders; otherwise the refusal tells how many live nodes are
behind no cycle, and how many live nodes there are. -/
theorem order_least_or_cycle_counted (history : List Action) :
    (∀ fault, (after history).topologicalOrder ≠ .error (.fault fault)) ∧
    (((after history).Acyclic ∧ ∃ order, (after history).topologicalOrder = .ok order ∧
        (after history).Orders order ∧ (after history).Greedy order ∧
        ∀ other, (after history).Orders other → order = other ∨ List.Lex (· < ·) order other) ∨
      (¬(after history).Acyclic ∧ (after history).topologicalOrder = refuse (.cycle
        {id | (after history).contains id = true ∧ ¬(after history).BehindCycle id}.ncard
        {id | (after history).contains id = true}.ncard))) := by
  have mirrored := mirrored_after history
  obtain ⟨order, schedules, found⟩ := mirrored.topologicalOrder_cases
  rw [schedules.ncard_eq mirrored, ncard_contains]
  constructor
  · intro fault broken
    rcases found with ⟨-, ordered⟩ | ⟨-, refused⟩
    · simp [ordered] at broken
    · simp [refused, refuse] at broken
  · rcases found with ⟨acyclic, ordered⟩ | cyclic
    · have orders := schedules.orders mirrored acyclic
      have greedy := schedules.greedy
      refine .inl ⟨acyclic, order, ordered, orders, greedy, fun other others => ?_⟩
      exact greedy.least orders others
    · exact .inr cyclic

/-- Of two conversions that read one another, the parameter that neither reads any more, and a result
behind them, only the parameter can be listed. -/
example : (after [
    .addParameter "start" (.fixed .f32 [1]),
    .addNode .convert [.first 0] [.fixed .f32 [1]] "there",
    .addNode .convert [.first 1] [.fixed .f32 [1]] "back",
    .addResult "behind" (.first 2),
    .replaceAllUses (.first 0) (.first 2)]).topologicalOrder = refuse (.cycle 1 4) := by
  decide +kernel

end GatherFusion.Graph

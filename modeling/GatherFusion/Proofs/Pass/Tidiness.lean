import GatherFusion.Proofs.Pass.Honesty
import Mathlib.Data.Multiset.AddSub
import Mathlib.Logic.Relation

/-!
# Nothing dead is left in a graph

The removal of dead nodes works off a stack, and the dead nodes are on the stack all along: a node
that dies when another is removed was read by that one, and the nodes it read are put on the stack.
When the stack is empty no dead node is left, and a second removal finds nothing to do. None of this
depends on which node is taken from the stack next, so it is shown for steps that take any of them.
-/
namespace GatherFusion

namespace Graph

/-- A node is neither an input nor an output of the graph, and nothing reads it. -/
def Dead (graph : Graph) (id : Nat) : Prop :=
  (∃ frame, graph.frame? id = some frame ∧ frame.operation ≠ .parameter ∧
    frame.operation ≠ .result) ∧
  ∀ slot port, graph.producer? slot = some port → port.node ≠ id

/-- No node is dead. -/
def Tidy (graph : Graph) : Prop := ∀ id, ¬graph.Dead id

/-- In a mirrored graph the dead nodes are those that are found to be dead code. -/
theorem Mirrored.dead_iff {graph : Graph} (mirrored : graph.Mirrored) {id : Nat} :
    graph.Dead id ↔ ∃ node, graph.node? id = some node ∧ node.isDead = true := by
  have dead (node : Node) : node.isDead = true ↔
      node.operation ≠ .parameter ∧ node.operation ≠ .result ∧ node.isUnused = true := by
    unfold Node.isDead
    split <;> simp_all
  constructor
  · rintro ⟨⟨frame, found, input, output⟩, unread⟩
    obtain ⟨node, there, rfl⟩ := frame?_eq_some_iff.mp found
    exact ⟨node, there, (dead node).mpr ⟨input, output,
      isUnused_iff.mpr ((mirrored.readerCount_eq_zero_iff there).mpr unread)⟩⟩
  · rintro ⟨node, there, code⟩
    obtain ⟨input, output, unused⟩ := (dead node).mp code
    exact ⟨⟨node.frame, frame?_of_node? there, input, output⟩,
      (mirrored.readerCount_eq_zero_iff there).mp (isUnused_iff.mp unused)⟩

/-- What is dead after a node was dropped is another node, which was dead before or was read by the
dropped one. -/
theorem Drops.dead {graph changed : Graph} {gone : Nat} (drops : graph.Drops gone changed)
    {frame : Frame} (found : graph.frame? gone = some frame) {id : Nat} (dead : changed.Dead id) :
    id ≠ gone ∧ (graph.Dead id ∨ id ∈ frame.inputs.map Port.node) := by
  obtain ⟨⟨other, there, interior⟩, unread⟩ := dead
  obtain ⟨apart, there⟩ := drops.frame?_eq_some_iff.mp there
  refine ⟨apart, ?_⟩
  by_cases read : ∃ slot port, graph.producer? slot = some port ∧ port.node = id
  · right
    obtain ⟨slot, port, reads, rfl⟩ := read
    -- The slot is gone, or it would be read from still.
    have own : slot.node = gone := by
      by_contra survives
      refine unread slot port ?_ rfl
      rw [drops.producer?, if_neg survives, reads]
    obtain ⟨reader, live, position⟩ := producer?_eq_some_iff.mp reads
    have same : reader = frame := by
      rw [own, found, Option.some.injEq] at live
      exact live.symm
    subst same
    exact List.mem_map_of_mem (List.mem_of_getElem? position)
  · exact .inl ⟨⟨other, there, interior⟩, fun slot port reads same => read ⟨slot, port, reads, same⟩⟩

end Graph

namespace Cleanup

/-- The nodes to start from are the dead ones. -/
theorem mem_deadNodes {graph : Graph} (mirrored : graph.Mirrored) {id : Nat} :
    id ∈ deadNodes graph ↔ graph.Dead id := by
  rw [mirrored.dead_iff]
  simp [deadNodes, Graph.entries, Graph.node?]

/-! ## Working off nodes in any order -/

/-- A graph, and nodes of it that are still to be looked at. -/
abbrev State := Graph × Multiset Nat

/-- One node is looked at, whichever it is. -/
inductive Step : State → State → Prop where
  /-- A node that is gone or not dead is passed over. -/
  | pass {graph : Graph} {id : Nat} {rest : Multiset Nat}
    (alive : ¬(graph.node? id).any Node.isDead = true) : Step (graph, id ::ₘ rest) (graph, rest)
  /-- A dead node is removed, and the nodes it read are to be looked at. -/
  | remove {graph changed : Graph} {id : Nat} {rest : Multiset Nat} {node : Node}
    (dead : (graph.node? id).any Node.isDead = true)
    (done : (Graph.removeNode id).runOn graph = (.ok node, changed)) :
    Step (graph, id ::ₘ rest) (changed, (node.inputs.map Port.node : List Nat) + rest)
  /-- A dead node whose removal is declined is passed over. -/
  | decline {graph left : Graph} {id : Nat} {rest : Multiset Nat} {failure : Failure GraphError}
    (dead : (graph.node? id).any Node.isDead = true)
    (failed : (Graph.removeNode id).runOn graph = (.error failure, left)) :
    Step (graph, id ::ₘ rest) (graph, rest)

/-- Working off a stack takes such steps until there is nothing to look at. -/
theorem steps_sweep (graph : Graph) (removed : Nat) (stack : List Nat) :
    Relation.ReflTransGen Step (graph, stack) ((sweep graph removed stack).1, 0) := by
  fun_induction sweep graph removed stack with
  | case1 => exact .refl
  | case2 graph removed first rest dead node changed step ih =>
    rw [← Multiset.coe_add, Multiset.coe_reverse] at ih
    rw [← Multiset.cons_coe]
    exact .head (.remove dead step) ih
  | case3 graph removed first rest dead failure left step ih =>
    rw [← Multiset.cons_coe]
    exact .head (.decline dead step) ih
  | case4 graph removed first rest alive ih =>
    rw [← Multiset.cons_coe]
    exact .head (.pass alive) ih

/-- While there is something to look at there is a step. -/
theorem exists_step (graph : Graph) {pending : Multiset Nat} (some : pending ≠ 0) :
    ∃ next, Step (graph, pending) next := by
  obtain ⟨id, inside⟩ := Multiset.exists_mem_of_ne_zero some
  obtain ⟨rest, rfl⟩ := Multiset.exists_cons_of_mem inside
  by_cases dead : (graph.node? id).any Node.isDead = true
  · rcases done : (Graph.removeNode id).runOn graph with ⟨node | failure, changed⟩
    · exact ⟨_, .decline dead done⟩
    · exact ⟨_, .remove dead done⟩
  · exact ⟨_, .pass dead⟩

/-- How many nodes are left, and how many are to be looked at. -/
def remaining (state : State) : Nat × Nat := (state.1.nodeCount, state.2.card)

/-- However the next node is chosen, the steps come to an end: a node is lost, or else there is one
less to look at. -/
theorem wellFounded_step : WellFounded (Function.swap Step) := by
  refine Subrelation.wf (r := InvImage (Prod.Lex (· < ·) (· < ·)) remaining) ?_
    (InvImage.wf remaining (WellFounded.prod_lex Nat.lt_wfRel.wf Nat.lt_wfRel.wf))
  intro after before step
  cases step with
  | pass alive => exact .right _ (by simp)
  | remove dead done =>
    have fewer := Graph.nodeCount_removeNode done
    exact .left _ _ (by simp only; omega)
  | decline dead failed => exact .right _ (by simp)

/-- A step leaves a mirrored graph alone or drops a dead node of it. -/
theorem Step.cases {before after : State} (step : Step before after)
    (mirrored : before.1.Mirrored) : after.1.Mirrored ∧
      (after.1 = before.1 ∨ ∃ id, before.1.Dead id ∧ before.1.Drops id after.1) := by
  cases step with
  | pass alive => exact ⟨mirrored, .inl rfl⟩
  | remove dead done =>
    obtain ⟨-, drops, kept⟩ := mirrored.drops_of_removeNode done
    obtain ⟨node, found, code⟩ := (Option.any_eq_true _ _).mp dead
    exact ⟨kept, .inr ⟨_, mirrored.dead_iff.mpr ⟨node, found, code⟩, drops⟩⟩
  | decline dead failed => exact ⟨mirrored, .inl rfl⟩

/-- Steps keep a mirrored graph mirrored, and nodes are at most lost. -/
theorem thins_of_steps {before after : State} (mirrored : before.1.Mirrored)
    (steps : Relation.ReflTransGen Step before after) :
    after.1.Mirrored ∧ before.1.Thins after.1 := by
  induction steps with
  | refl => exact ⟨mirrored, fun _ _ survives => survives⟩
  | tail earlier step ih =>
    obtain ⟨middle, thins⟩ := ih
    obtain ⟨kept, same | ⟨gone, -, drops⟩⟩ := step.cases middle
    · exact ⟨kept, same ▸ thins⟩
    · exact ⟨kept, fun id frame survives => thins id frame (drops.thins id frame survives)⟩

/-- Working off a stack of dead nodes loses at most nodes. -/
theorem thins_sweep {graph : Graph} (mirrored : graph.Mirrored) (removed : Nat)
    (stack : List Nat) : graph.Thins (sweep graph removed stack).1 :=
  (thins_of_steps mirrored (steps_sweep graph removed stack)).2

/-- Every dead node of a graph is still to be looked at. -/
def Covered (state : State) : Prop := ∀ id, state.1.Dead id → id ∈ state.2

/-- After a step every dead node is still to be looked at. -/
theorem Step.covered {before after : State} (step : Step before after)
    (mirrored : before.1.Mirrored) (covered : Covered before) : Covered after := by
  cases step with
  | pass alive =>
    intro id dead
    refine (Multiset.mem_cons.mp (covered id dead)).resolve_left ?_
    rintro rfl
    obtain ⟨node, found, code⟩ := mirrored.dead_iff.mp dead
    exact alive ((Option.any_eq_true _ _).mpr ⟨node, found, code⟩)
  | remove dead done =>
    intro id dies
    obtain ⟨found, drops, -⟩ := mirrored.drops_of_removeNode done
    obtain ⟨apart, before | read⟩ := drops.dead (Graph.frame?_of_node? found) dies
    · have listed := (Multiset.mem_cons.mp (covered id before)).resolve_left apart
      exact Multiset.mem_add.mpr (.inr listed)
    · exact Multiset.mem_add.mpr (.inl (Multiset.mem_coe.mpr read))
  | decline dead failed =>
    -- A dead node is unread, so a mirrored graph does not decline its removal.
    obtain ⟨node, found, code⟩ := (Option.any_eq_true _ _).mp dead
    have unread := (mirrored.dead_iff.mpr ⟨node, found, code⟩).2
    obtain ⟨changed, run, -⟩ := Graph.runOn_removeNode mirrored found unread
    rw [run] at failed
    simp at failed

/-- Where there is nothing to look at no dead node is left. -/
theorem Covered.tidy {graph : Graph} (covered : Covered (graph, 0)) : graph.Tidy := by
  intro id dead
  have inside := covered id dead
  simp at inside

/-- At the start every dead node is to be looked at. -/
theorem covered_deadNodes {graph : Graph} (mirrored : graph.Mirrored) :
    Covered (graph, deadNodes graph) :=
  fun _ dead => Multiset.mem_coe.mpr ((mem_deadNodes mirrored).mpr dead)

/-- After any steps every dead node is still to be looked at. -/
theorem covered_of_steps {before after : State} (mirrored : before.1.Mirrored)
    (covered : Covered before) (steps : Relation.ReflTransGen Step before after) :
    Covered after := by
  induction steps with
  | refl => exact covered
  | tail earlier step ih => exact step.covered (thins_of_steps mirrored earlier).1 ih

/-- The removal of dead nodes leaves none. -/
theorem tidy_run {graph : Graph} (mirrored : graph.Mirrored) : (run graph).graph.Tidy :=
  (covered_of_steps mirrored (covered_deadNodes mirrored)
    (steps_sweep graph 0 (deadNodes graph))).tidy

/-- Where nothing is dead the removal of dead nodes does nothing and says so. -/
theorem run_of_tidy {graph : Graph} (mirrored : graph.Mirrored) (tidy : graph.Tidy) :
    (run graph).result = .ok false ∧ (run graph).graph = graph := by
  have none : deadNodes graph = [] := by
    rw [List.eq_nil_iff_forall_not_mem]
    exact fun id inside => tidy id ((mem_deadNodes mirrored).mp inside)
  have swept : sweep graph 0 [] = (graph, 0) := by rw [sweep]
  simp [run, none, swept]

end Cleanup

end GatherFusion

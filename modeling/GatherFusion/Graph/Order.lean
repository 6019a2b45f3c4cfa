import GatherFusion.Graph.Basic

/-!
# Producers before readers

`Graph.topologicalOrder` lists the live nodes so that every node comes after the nodes it reads.
Each node carries a counter of the inputs whose producer is not listed yet; a node whose counter is
zero is ready, and the ready node with the smallest handle is listed next. Nodes on a cycle, and
nodes downstream of one, never become ready.

Listing a node takes one unit away from the counters for each slot that reads it and makes a node
ready only when its counter reaches zero, so the counters and the ready nodes together weigh less
after every step (`Agenda.weight_countDownAll`), and the listing ends.
-/
namespace GatherFusion

/-- What remains to be listed. -/
structure Agenda where
  /-- For each handle, the number of inputs whose producer is not listed yet. -/
  waiting : Array Nat
  /-- Nodes that can be listed now. -/
  ready : OrderedSet Nat

namespace Agenda

/-- The sum of a list of counters. -/
def total (counters : List Nat) : Nat := counters.foldr (· + ·) 0

/-- A bound on the number of nodes that can still be listed. -/
def weight (agenda : Agenda) : Nat := total agenda.waiting.toList + agenda.ready.size

/-- One producer of a node has been listed. -/
def countDown (agenda : Agenda) (reader : Nat) : Except Fault Agenda :=
  match agenda.waiting[reader]? with
  | none => .error (.missingCounter reader)
  | some 0 => .error (.exhaustedCounter reader)
  | some (left + 1) => .ok {
      waiting := agenda.waiting.setIfInBounds reader left
      ready := if left = 0 then agenda.ready.insert reader else agenda.ready }

/-- One producer of each of these readers has been listed; a node that reads twice counts twice. -/
def countDownAll (agenda : Agenda) : List Slot → Except Fault Agenda
  | [] => .ok agenda
  | slot :: rest =>
    match agenda.countDown slot.node with
    | .ok counted => counted.countDownAll rest
    | .error fault => .error fault

/-- Changing one counter changes the sum by as much. -/
theorem total_set_add {list : List Nat} {index old : Nat} (found : list[index]? = some old)
    (value : Nat) : total (list.set index value) + old = total list + value := by
  induction list generalizing index with
  | nil => simp at found
  | cons first rest ih =>
    cases index with
    | zero =>
      simp only [List.getElem?_cons_zero, Option.some.injEq] at found
      simp only [total, List.set_cons_zero, List.foldr_cons]
      omega
    | succ index =>
      simp only [List.getElem?_cons_succ] at found
      have tail := ih found
      simp only [total, List.set_cons_succ, List.foldr_cons] at tail ⊢
      omega

/-- Counting down never adds weight. -/
theorem weight_countDown {agenda counted : Agenda} {reader : Nat}
    (done : agenda.countDown reader = .ok counted) : counted.weight ≤ agenda.weight := by
  unfold countDown at done
  split at done
  · contradiction
  · contradiction
  · rename_i left found
    cases done
    have entry : agenda.waiting.toList[reader]? = some (left + 1) := by simpa using found
    have lowered := total_set_add entry left
    have grown := OrderedSet.size_insert_le agenda.ready reader
    simp only [weight, Array.toList_setIfInBounds]
    split <;> omega

/-- Counting down for a list of readers never adds weight. -/
theorem weight_countDownAll {agenda counted : Agenda} {slots : List Slot}
    (done : agenda.countDownAll slots = .ok counted) : counted.weight ≤ agenda.weight := by
  induction slots generalizing agenda with
  | nil =>
    cases done
    exact Nat.le_refl _
  | cons slot rest ih =>
    simp only [countDownAll] at done
    split at done
    · rename_i step
      exact Nat.le_trans (ih done) (weight_countDown step)
    · contradiction

end Agenda

namespace Graph

/-- The slots that read any output of a node, output by output. -/
def nodeReaders (node : Node) : List Slot :=
  node.outputs.flatMap fun output => output.readers.toList

/-- The agenda before anything is listed. -/
def agenda (graph : Graph) : Agenda where
  waiting := graph.nodes.slots.map fun slot => slot.elim 0 fun node => node.inputs.length
  ready := OrderedSet.empty.insertAll
    ((graph.entries.filter fun (_, node) => node.inputs.isEmpty).map Prod.fst)

/-- List ready nodes, smallest handle first, until none is ready. -/
def listReady (graph : Graph) (agenda : Agenda) : Except Fault (List Nat) :=
  match _taken : agenda.ready.takeLeast? with
  | none => .ok []
  | some (id, others) =>
    match graph.node id with
    | .error fault => .error fault
    | .ok node =>
      match _counted : Agenda.countDownAll { agenda with ready := others } (nodeReaders node) with
      | .error fault => .error fault
      | .ok next => (graph.listReady next).map (id :: ·)
termination_by agenda.weight
decreasing_by
  have kept := Agenda.weight_countDownAll _counted
  have fewer := OrderedSet.size_takeLeast? _taken
  simp only [Agenda.weight] at kept ⊢
  omega

/-- The live nodes, producers before readers, the smallest handle first among those that are ready
together. A graph with a cycle has no such order. -/
def topologicalOrder (graph : Graph) : Except (Failure GraphError) (List Nat) :=
  match graph.listReady graph.agenda with
  | .error fault => .error (.fault fault)
  | .ok order =>
    if order.length = graph.nodeCount then .ok order
    else refuse (.cycle order.length graph.nodeCount)

end Graph

end GatherFusion

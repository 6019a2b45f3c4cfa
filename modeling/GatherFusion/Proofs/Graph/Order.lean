import GatherFusion.Graph.Order
import GatherFusion.Proofs.Graph.Acyclic
import Mathlib.Data.List.Perm.Basic

/-!
# What the listing of nodes finds

A schedule lists, one after the other, the smallest of the nodes that are not listed yet and whose
producers all are, until there is none. In a mirrored graph `Graph.listReady` finds that schedule:
what its counters count are the operands whose producer is not listed, since a node that is listed
is struck from exactly the operands that read it. A schedule leaves nothing out just where the graph
is acyclic.
-/
namespace GatherFusion

namespace Agenda

/-! ## Counting down -/

/-- How many slots of a list belong to a node. -/
def occurrences (slots : List Slot) (id : Nat) : Nat := slots.countP fun slot => slot.node = id

/-- A slot in front counts for its own node. -/
theorem occurrences_cons (slot : Slot) (rest : List Slot) (id : Nat) :
    occurrences (slot :: rest) id = occurrences rest id + if slot.node = id then 1 else 0 := by
  simp [occurrences, List.countP_cons]

/-- Counting down takes one from a positive counter, and makes the node ready when nothing is
left. -/
theorem exists_countDown (agenda : Agenda) {reader left : Nat}
    (found : agenda.waiting[reader]? = some (left + 1)) :
    ∃ counted, agenda.countDown reader = .ok counted ∧
      (∀ id, counted.waiting[id]? = if reader = id then some left else agenda.waiting[id]?) ∧
      ∀ id, id ∈ counted.ready ↔ id ∈ agenda.ready ∨ (left = 0 ∧ reader = id) := by
  refine ⟨⟨agenda.waiting.setIfInBounds reader left,
    if left = 0 then agenda.ready.insert reader else agenda.ready⟩, by simp [countDown, found],
    fun id => ?_, fun id => ?_⟩
  · have inside : reader < agenda.waiting.size := (Array.getElem?_eq_some_iff.mp found).1
    rw [Array.getElem?_setIfInBounds]
    by_cases same : reader = id
    · subst same
      simp [inside]
    · simp [same]
  · by_cases last : left = 0 <;> simp [last, or_comm, eq_comm]

/-- Counting down takes from each counter as often as its node occurs, and makes the nodes ready
whose counters reach zero. It goes through where no counter is too small. -/
theorem exists_countDownAll (agenda : Agenda) {slots : List Slot}
    (enough : ∀ id, 0 < occurrences slots id →
      ∃ left, agenda.waiting[id]? = some left ∧ occurrences slots id ≤ left) :
    ∃ counted, agenda.countDownAll slots = .ok counted ∧
      (∀ id, counted.waiting[id]? = agenda.waiting[id]?.map (· - occurrences slots id)) ∧
      ∀ id, id ∈ counted.ready ↔ id ∈ agenda.ready ∨
        (0 < occurrences slots id ∧ agenda.waiting[id]? = some (occurrences slots id)) := by
  induction slots generalizing agenda with
  | nil => exact ⟨agenda, rfl, by simp [occurrences], by simp [occurrences]⟩
  | cons slot rest ih =>
    obtain ⟨left, found, bound⟩ := enough slot.node (by simp [occurrences_cons])
    rw [occurrences_cons, if_pos rfl] at bound
    obtain ⟨left, rfl⟩ : ∃ less, left = less + 1 := ⟨left - 1, by omega⟩
    obtain ⟨middle, first, waiting, ready⟩ := agenda.exists_countDown found
    -- What is counted for the rest is still covered: the first slot took one from its own counter.
    have enoughLater (id : Nat) (positive : 0 < occurrences rest id) :
        ∃ left, middle.waiting[id]? = some left ∧ occurrences rest id ≤ left := by
      rw [waiting]
      by_cases same : slot.node = id
      · subst same
        exact ⟨left, if_pos rfl, by omega⟩
      · obtain ⟨own, there, enough⟩ := enough id (by rw [occurrences_cons]; omega)
        rw [occurrences_cons, if_neg same] at enough
        exact ⟨own, by rw [if_neg same, there], enough⟩
    obtain ⟨counted, later, waitingLater, readyLater⟩ := ih middle enoughLater
    refine ⟨counted, by simp only [countDownAll, first, later], fun id => ?_, fun id => ?_⟩
    · rw [waitingLater, waiting, occurrences_cons]
      by_cases same : slot.node = id
      · subst same
        simp only [↓reduceIte, Option.map_some, found, Option.some.injEq]
        omega
      · simp [same]
    · rw [readyLater, ready, waiting, occurrences_cons]
      by_cases same : slot.node = id
      · subst same
        simp only [↓reduceIte, found, Option.some.injEq, and_true, or_assoc]
        refine or_congr_right ?_
        omega
      · simp [same]

end Agenda

namespace Graph

/-! ## Readers and operands -/

/-- The ports a node reads, none if it is dead. -/
def operands (graph : Graph) (id : Nat) : List Port := (graph.frame? id).elim [] Frame.inputs

/-- A slot reads a port where that port is an operand of its node. -/
theorem producer?_eq_operands (graph : Graph) (slot : Slot) :
    graph.producer? slot = (graph.operands slot.node)[slot.index]? := by
  rw [producer?_eq, operands]
  cases graph.frame? slot.node <;> simp

/-- Only live nodes have operands. -/
theorem exists_frame_of_operand {graph : Graph} {id : Nat} {port : Port}
    (operand : port ∈ graph.operands id) :
    ∃ frame, graph.frame? id = some frame ∧ port ∈ frame.inputs := by
  unfold operands at operand
  cases found : graph.frame? id with
  | none => simp [found] at operand
  | some frame => exact ⟨frame, rfl, by simpa [found] using operand⟩

/-- A node feeds those that have an operand of it. -/
theorem feeds_iff {graph : Graph} {producer reader : Nat} :
    graph.Feeds producer reader ↔ ∃ port ∈ graph.operands reader, port.node = producer := by
  unfold Feeds operands
  cases graph.frame? reader <;> simp

/-- In a mirrored graph the readers of a node are the slots that read one of its ports. -/
theorem Mirrored.mem_nodeReaders_iff {graph : Graph} (mirrored : graph.Mirrored) {id : Nat}
    {node : Node} (found : graph.node? id = some node) {slot : Slot} :
    slot ∈ nodeReaders node ↔ ∃ port, graph.producer? slot = some port ∧ port.node = id := by
  simp only [nodeReaders, List.mem_flatMap]
  constructor
  · rintro ⟨output, inside, listed⟩
    obtain ⟨index, position⟩ := List.mem_iff_getElem?.mp inside
    refine ⟨⟨id, index⟩, (mirrored _ _).mpr ⟨output, ?_, listed⟩, rfl⟩
    rw [output?_eq, found, Option.bind_some, position]
  · rintro ⟨port, reads, rfl⟩
    obtain ⟨output, offered, listed⟩ := (mirrored _ _).mp reads
    rw [output?_eq, found, Option.bind_some] at offered
    exact ⟨output, List.mem_of_getElem? offered, listed⟩

/-- In a mirrored graph no slot is listed twice among the readers of a node. -/
theorem Mirrored.nodup_nodeReaders {graph : Graph} (mirrored : graph.Mirrored) {id : Nat}
    {node : Node} (found : graph.node? id = some node) : (nodeReaders node).Nodup := by
  have reads {index : Nat} {output : Output} (position : node.outputs[index]? = some output)
      {slot : Slot} (listed : slot ∈ output.readers) :
      graph.producer? slot = some ⟨id, index⟩ := by
    refine (mirrored _ _).mpr ⟨output, ?_, listed⟩
    rw [output?_eq, found, Option.bind_some, position]
  refine List.nodup_flatMap.mpr ⟨fun output inside => ?_, ?_⟩
  · exact output.readers.nodup_toList
  · refine List.pairwise_iff_getElem.mpr fun left right leftInside rightInside below => ?_
    intro slot first second
    have one := reads (List.getElem?_eq_getElem leftInside) first
    have other := reads (List.getElem?_eq_getElem rightInside) second
    rw [one, Option.some.injEq, Port.mk.injEq] at other
    omega

/-- In a mirrored graph a node is listed as a reader of another as often as it has an operand of
it. -/
theorem Mirrored.occurrences_nodeReaders {graph : Graph} (mirrored : graph.Mirrored) {id : Nat}
    {node : Node} (found : graph.node? id = some node) (reader : Nat) :
    Agenda.occurrences (nodeReaders node) reader =
      (graph.operands reader).countP fun port => port.node = id := by
  let own := ((slots reader (graph.operands reader)).filter fun pair => pair.2.node = id).map Prod.fst
  have distinct : own.Nodup := by
    have positions : (slots reader (graph.operands reader)).map Prod.fst =
        ((graph.operands reader).zipIdx.map Prod.snd).map (Slot.mk reader) := by
      rw [slots, List.map_map, List.map_map]
      rfl
    have all : ((slots reader (graph.operands reader)).map Prod.fst).Nodup := by
      rw [positions, List.zipIdx_map_snd]
      exact List.Nodup.map (fun _ _ same => congrArg Slot.index same) (List.nodup_range' ..)
    exact (List.filter_sublist.map Prod.fst).nodup all
  have members (slot : Slot) :
      slot ∈ (nodeReaders node).filter (fun slot => slot.node = reader) ↔ slot ∈ own := by
    simp only [own, List.mem_filter, mirrored.mem_nodeReaders_iff found, List.mem_map, Prod.exists,
      decide_eq_true_eq, mem_slots, exists_and_right, exists_eq_right, producer?_eq_operands]
    constructor
    · rintro ⟨⟨port, reads, same⟩, rfl⟩
      exact ⟨port, ⟨rfl, reads⟩, same⟩
    · rintro ⟨port, ⟨rfl, reads⟩, same⟩
      exact ⟨⟨port, reads, same⟩, rfl⟩
  have same : ((nodeReaders node).filter fun slot => slot.node = reader).Perm own :=
    (List.perm_ext_iff_of_nodup ((mirrored.nodup_nodeReaders found).filter _) distinct).mpr members
  have projected : (slots reader (graph.operands reader)).map Prod.snd = graph.operands reader := by
    simp [slots, Function.comp_def]
  rw [Agenda.occurrences, List.countP_eq_length_filter, same.length_eq, List.length_map,
    ← List.countP_eq_length_filter, ← projected, List.countP_map, projected]
  rfl

/-! ## Schedules -/

/-- A node can be listed next: it is live, it is not listed yet, and all its producers are. -/
def Ready (graph : Graph) (passed : List Nat) (id : Nat) : Prop :=
  graph.contains id = true ∧ id ∉ passed ∧ ∀ port ∈ graph.operands id, port.node ∈ passed

/-- A list goes on from the nodes listed so far with the smallest node that can be listed next, until
there is none. -/
inductive Schedules (graph : Graph) : List Nat → List Nat → Prop where
  /-- No node can be listed. -/
  | done {passed : List Nat} (none : ∀ id, ¬graph.Ready passed id) : Schedules graph passed []
  /-- The smallest node is listed. -/
  | next {passed rest : List Nat} {id : Nat} (ready : graph.Ready passed id)
    (least : ∀ other, graph.Ready passed other → id ≤ other)
    (later : Schedules graph (id :: passed) rest) : Schedules graph passed (id :: rest)

/-- How many operands of a node come from producers that are not listed. -/
def openOperands (graph : Graph) (passed : List Nat) (id : Nat) : Nat :=
  (graph.operands id).countP fun port => port.node ∉ passed

/-- All producers are listed when no operand is open. -/
theorem openOperands_eq_zero_iff {graph : Graph} {passed : List Nat} {id : Nat} :
    graph.openOperands passed id = 0 ↔ ∀ port ∈ graph.operands id, port.node ∈ passed := by
  simp [openOperands, List.countP_eq_zero]

/-- A node can be listed next when it is live, not listed yet, and none of its operands is open. -/
theorem ready_iff {graph : Graph} {passed : List Nat} {id : Nat} :
    graph.Ready passed id ↔
      graph.contains id = true ∧ id ∉ passed ∧ graph.openOperands passed id = 0 := by
  rw [Ready, openOperands_eq_zero_iff]

/-- Listing a node closes the operands that come from it. -/
theorem openOperands_cons (graph : Graph) {passed : List Nat} {id : Nat} (fresh : id ∉ passed)
    (reader : Nat) :
    graph.openOperands (id :: passed) reader +
      (graph.operands reader).countP (fun port => port.node = id) =
        graph.openOperands passed reader := by
  unfold openOperands
  induction graph.operands reader with
  | nil => rfl
  | cons port rest ih =>
    simp only [List.countP_cons]
    by_cases same : port.node = id
    · simp only [same, fresh, List.mem_cons, true_or, not_true_eq_false, decide_false,
        not_false_eq_true, decide_true, Bool.false_eq_true, ↓reduceIte] at ih ⊢
      omega
    · simp only [List.mem_cons, same, false_or, decide_false, Bool.false_eq_true, ↓reduceIte] at ih ⊢
      omega

/-- What is kept while nodes are listed: the counters count the open operands, and the nodes that
can be listed next are at hand. -/
structure Tracks (graph : Graph) (passed : List Nat) (agenda : Agenda) : Prop where
  /-- The counters count open operands. -/
  waiting : ∀ id, agenda.waiting[id]? =
    if id < graph.next then some (graph.openOperands passed id) else none
  /-- The nodes at hand are those that can be listed next. -/
  ready : ∀ id, id ∈ agenda.ready ↔ graph.Ready passed id
  /-- No listed node has an open operand. -/
  closed : ∀ id ∈ passed, graph.openOperands passed id = 0

/-- At first all operands are open and the nodes without operands are at hand. -/
theorem tracks_agenda (graph : Graph) : graph.Tracks [] graph.agenda where
  waiting id := by
    have open_ : graph.openOperands [] id = (graph.operands id).length := by simp [openOperands]
    rw [open_, operands, frame?, node?, Store.get?]
    simp only [agenda, Array.getElem?_map]
    by_cases inside : id < graph.next
    · have inRange : id < graph.nodes.slots.size := inside
      rw [if_pos inside, Array.getElem?_eq_getElem inRange]
      cases graph.nodes.slots[id] <;> rfl
    · have outside : graph.nodes.slots.size ≤ id := Nat.le_of_not_lt inside
      rw [if_neg inside, Array.getElem?_eq_none outside]
      rfl
  ready id := by
    simp only [agenda, OrderedSet.mem_insertAll, OrderedSet.not_mem_empty, or_false, List.mem_map,
      List.mem_filter, Prod.exists, exists_and_right, exists_eq_right, List.isEmpty_iff, entries,
      Store.mem_entries, Ready, List.not_mem_nil, not_false_eq_true, true_and, operands, frame?,
      contains, Store.contains]
    rw [show graph.nodes.get? id = graph.node? id from rfl]
    cases graph.node? id with
    | none => simp
    | some node => simp [Node.frame, List.eq_nil_iff_forall_not_mem]
  closed := by simp

/-- Once the smallest node at hand is taken, the others that can be listed next are still at hand. -/
theorem Tracks.mem_others_iff {graph : Graph} {passed : List Nat} {agenda : Agenda}
    (tracks : graph.Tracks passed agenda) {id : Nat} {others : OrderedSet Nat}
    (taken : agenda.ready.takeLeast? = some (id, others)) (reader : Nat) :
    reader ∈ others ↔ reader ≠ id ∧ graph.Ready passed reader := by
  obtain ⟨members, above⟩ := OrderedSet.mem_takeLeast? taken reader
  rw [← tracks.ready, members]
  constructor
  · exact fun inside => ⟨Nat.ne_of_gt (above inside), .inr inside⟩
  · rintro ⟨apart, same | inside⟩
    · exact absurd same apart
    · exact inside

section

variable {graph : Graph} (mirrored : graph.Mirrored) {id : Nat} {node : Node}
  (found : graph.node? id = some node)
include mirrored found

/-- The readers of a node are live. -/
theorem Mirrored.live_of_occurrences {reader : Nat}
    (reads : 0 < Agenda.occurrences (nodeReaders node) reader) :
    graph.contains reader = true ∧ reader < graph.next := by
  rw [mirrored.occurrences_nodeReaders found, List.countP_pos_iff] at reads
  obtain ⟨port, operand, -⟩ := reads
  obtain ⟨frame, there, -⟩ := exists_frame_of_operand operand
  exact ⟨contains_iff.mpr ⟨frame, there⟩, lt_next_of_frame? there⟩

/-- Listing a node closes as many operands of another as the other is among its readers. -/
theorem Mirrored.openOperands_add {passed : List Nat} (fresh : id ∉ passed) (reader : Nat) :
    graph.openOperands (id :: passed) reader + Agenda.occurrences (nodeReaders node) reader =
      graph.openOperands passed reader := by
  rw [mirrored.occurrences_nodeReaders found, graph.openOperands_cons fresh]

variable {passed : List Nat} (listed : graph.Ready passed id)
  (closed : ∀ other ∈ passed, graph.openOperands passed other = 0)
include listed

/-- A node that can be listed next is none of its own readers. -/
theorem Mirrored.occurrences_self : Agenda.occurrences (nodeReaders node) id = 0 := by
  have opened := mirrored.openOperands_add found listed.2.1 id
  rw [openOperands_eq_zero_iff.mpr listed.2.2] at opened
  omega

include closed

/-- When a node is listed no listed node has an open operand. -/
theorem Mirrored.closed_cons :
    ∀ other ∈ id :: passed, graph.openOperands (id :: passed) other = 0 := by
  intro other inside
  have opened := mirrored.openOperands_add found listed.2.1 other
  rcases List.mem_cons.mp inside with rfl | inside
  · rw [openOperands_eq_zero_iff.mpr listed.2.2] at opened
    omega
  · rw [closed other inside] at opened
    omega

/-- When a node is listed those can be listed next that could be before, and those for whom it
supplied all the operands that were open. -/
theorem Mirrored.ready_cons_iff {reader : Nat} : graph.Ready (id :: passed) reader ↔
    (reader ≠ id ∧ graph.Ready passed reader) ∨
      (0 < Agenda.occurrences (nodeReaders node) reader ∧
        graph.openOperands passed reader = Agenda.occurrences (nodeReaders node) reader) := by
  have opened := mirrored.openOperands_add found listed.2.1 reader
  rw [ready_iff, ready_iff, List.mem_cons, not_or]
  by_cases reads : 0 < Agenda.occurrences (nodeReaders node) reader
  · obtain ⟨contained, -⟩ := mirrored.live_of_occurrences found reads
    have apart : reader ≠ id := by
      rintro rfl
      exact Nat.ne_of_gt reads (mirrored.occurrences_self found listed)
    have unlisted : reader ∉ passed := by
      intro inside
      rw [closed reader inside] at opened
      omega
    simp only [contained, apart, unlisted, reads, ne_eq, not_false_eq_true, true_and]
    omega
  · have same : graph.openOperands (id :: passed) reader = graph.openOperands passed reader := by
      omega
    simp only [same, reads, false_and, or_false]
    constructor
    · exact fun ⟨contained, ⟨apart, unlisted⟩, closed⟩ => ⟨apart, contained, unlisted, closed⟩
    · exact fun ⟨apart, contained, unlisted, closed⟩ => ⟨contained, ⟨apart, unlisted⟩, closed⟩

end

/-- Counting down for the readers of the node that is listed keeps track. -/
theorem Tracks.step {graph : Graph} (mirrored : graph.Mirrored) {passed : List Nat}
    {agenda : Agenda} (tracks : graph.Tracks passed agenda) {id : Nat} {others : OrderedSet Nat}
    (taken : agenda.ready.takeLeast? = some (id, others)) {node : Node}
    (found : graph.node? id = some node) :
    ∃ next, Agenda.countDownAll { agenda with ready := others } (nodeReaders node) = .ok next ∧
      graph.Tracks (id :: passed) next := by
  have listed := (tracks.ready id).mp ((OrderedSet.mem_takeLeast? taken id).1.mpr (.inl rfl))
  have opened := mirrored.openOperands_add found listed.2.1
  have enough (reader : Nat) (reads : 0 < Agenda.occurrences (nodeReaders node) reader) :
      ∃ left, agenda.waiting[reader]? = some left ∧
        Agenda.occurrences (nodeReaders node) reader ≤ left := by
    refine ⟨graph.openOperands passed reader, ?_, opened reader ▸ Nat.le_add_left _ _⟩
    rw [tracks.waiting, if_pos (mirrored.live_of_occurrences found reads).2]
  obtain ⟨next, counted, waiting, ready⟩ :=
    Agenda.exists_countDownAll { agenda with ready := others } enough
  refine ⟨next, counted, ⟨fun reader => ?_, fun reader => ?_,
    mirrored.closed_cons found listed tracks.closed⟩⟩
  · rw [waiting, tracks.waiting, ← opened reader]
    split
    · rw [Option.map_some, Nat.add_sub_cancel]
    · rfl
  · rw [ready, tracks.mem_others_iff taken, tracks.waiting,
      mirrored.ready_cons_iff found listed tracks.closed]
    refine or_congr_right (and_congr_right fun reads => ?_)
    rw [if_pos (mirrored.live_of_occurrences found reads).2, Option.some.injEq]

/-- In a mirrored graph listing ready nodes goes through and finds the schedule. -/
theorem Mirrored.exists_schedule {graph : Graph} (mirrored : graph.Mirrored) {passed : List Nat}
    {agenda : Agenda} (tracks : graph.Tracks passed agenda) :
    ∃ order, graph.listReady agenda = .ok order ∧ graph.Schedules passed order := by
  fun_induction listReady graph agenda generalizing passed with
  | case1 agenda taken =>
    refine ⟨[], rfl, .done fun id ready => ?_⟩
    exact OrderedSet.takeLeast?_eq_none_iff.mp taken id ((tracks.ready id).mpr ready)
  | case2 agenda id others taken fault broken =>
    obtain ⟨live, -⟩ := (tracks.ready id).mp ((OrderedSet.mem_takeLeast? taken id).1.mpr (.inl rfl))
    obtain ⟨frame, there⟩ := contains_iff.mp live
    obtain ⟨node, found, -⟩ := frame?_eq_some_iff.mp there
    rw [node_eq_ok_iff.mpr found] at broken
    contradiction
  | case3 agenda id others taken node found fault broken =>
    obtain ⟨next, counted, -⟩ := tracks.step mirrored taken (node_eq_ok_iff.mp found)
    rw [counted] at broken
    contradiction
  | case4 agenda id others taken node found next counted ih =>
    obtain ⟨again, countedAgain, kept⟩ := tracks.step mirrored taken (node_eq_ok_iff.mp found)
    rw [counted, Except.ok.injEq] at countedAgain
    subst countedAgain
    obtain ⟨rest, listed, schedules⟩ := ih kept
    refine ⟨id :: rest, by simp [listed, Except.map], .next ?_ ?_ schedules⟩
    · exact (tracks.ready id).mp ((OrderedSet.mem_takeLeast? taken id).1.mpr (.inl rfl))
    · intro other ready
      obtain ⟨members, above⟩ := OrderedSet.mem_takeLeast? taken other
      rcases members.mp ((tracks.ready other).mpr ready) with same | later
      · exact Nat.le_of_eq same.symm
      · exact Nat.le_of_lt (above later)

namespace Schedules

variable {graph : Graph} {passed order : List Nat} (schedules : graph.Schedules passed order)
include schedules

/-- A schedule lists live nodes that were not listed before. -/
theorem live {id : Nat} (inside : id ∈ order) : graph.contains id = true ∧ id ∉ passed := by
  induction schedules with
  | done => contradiction
  | next ready _ _ ih =>
    rcases List.mem_cons.mp inside with rfl | later
    · exact ⟨ready.1, ready.2.1⟩
    · exact ⟨(ih later).1, fun before => (ih later).2 (List.mem_cons_of_mem _ before)⟩

/-- A schedule lists no node twice. -/
theorem nodup : order.Nodup := by
  induction schedules with
  | done => exact .nil
  | next _ _ later ih =>
    exact List.nodup_cons.mpr ⟨fun again => (later.live again).2 List.mem_cons_self, ih⟩

/-- A schedule leaves out no node whose producers are all listed. -/
theorem mem_of_operands {id : Nat} (contained : graph.contains id = true)
    (supplied : ∀ port ∈ graph.operands id, port.node ∈ passed ∨ port.node ∈ order) :
    id ∈ passed ∨ id ∈ order := by
  induction schedules with
  | @done passed none =>
    refine .inl (Classical.not_not.mp fun unlisted => none id ⟨contained, unlisted, ?_⟩)
    exact fun port operand => (supplied port operand).resolve_right List.not_mem_nil
  | next _ _ _ ih =>
    have shifted := ih fun port operand => by
      have listed := supplied port operand
      rw [List.mem_cons] at listed ⊢
      tauto
    rw [List.mem_cons] at shifted ⊢
    tauto

/-- The nodes of a schedule can be worked through, producers first. -/
theorem acc (start : ∀ id ∈ passed, Acc graph.Feeds id) : ∀ id ∈ order, Acc graph.Feeds id := by
  induction schedules with
  | done => simp
  | @next passed rest id ready _ _ ih =>
    have first : Acc graph.Feeds id := by
      refine Acc.intro _ fun producer feeds => ?_
      obtain ⟨port, operand, rfl⟩ := feeds_iff.mp feeds
      exact start _ (ready.2.2 port operand)
    exact List.forall_mem_cons.mpr ⟨first, ih (List.forall_mem_cons.mpr ⟨first, start⟩)⟩

end Schedules

/-- The handles of the live nodes. -/
theorem mem_ids {graph : Graph} {id : Nat} : id ∈ graph.ids ↔ graph.contains id = true := by
  simp only [ids, entries, List.mem_map, Prod.exists, exists_and_right, exists_eq_right,
    Store.mem_entries, contains, Store.contains, Option.isSome_iff_exists]

/-- A live node is listed once. -/
theorem nodup_ids (graph : Graph) : graph.ids.Nodup :=
  (Store.increasing_entries _).imp Nat.ne_of_lt

/-- The count of nodes is the number of live handles. -/
theorem length_ids (graph : Graph) : graph.ids.length = graph.nodeCount := by
  rw [ids, List.length_map]
  exact Store.length_entries _

/-- A schedule from the start lists the live nodes that are behind no cycle. -/
theorem Schedules.mem_iff {graph : Graph} (mirrored : graph.Mirrored) {order : List Nat}
    (schedules : graph.Schedules [] order) {id : Nat} :
    id ∈ order ↔ graph.contains id = true ∧ ¬graph.BehindCycle id := by
  constructor
  · intro inside
    exact ⟨(schedules.live inside).1, not_behindCycle_of_acc (schedules.acc (by simp) id inside)⟩
  · rintro ⟨contained, free⟩
    -- The producers of a node behind no cycle are behind none, so they are listed before it.
    induction mirrored.acc_of_not_behindCycle free with
    | intro id _ ih =>
      refine (schedules.mem_of_operands contained fun port operand => .inr ?_).resolve_left
        List.not_mem_nil
      have feeds : graph.Feeds port.node id := feeds_iff.mpr ⟨port, operand, rfl⟩
      obtain ⟨frame, found, inside⟩ := exists_frame_of_operand operand
      obtain ⟨producer, -, live, -⟩ := mirrored.exists_frame found inside
      have producerFree : ¬graph.BehindCycle port.node := fun behind => free (behind.feeds feeds)
      exact ih _ feeds (contains_iff.mpr ⟨producer, live⟩) producerFree

/-- A schedule from the start lists every live node just where the graph is acyclic. -/
theorem Schedules.forall_mem_iff {graph : Graph} (mirrored : graph.Mirrored) {order : List Nat}
    (schedules : graph.Schedules [] order) :
    (∀ id, graph.contains id = true → id ∈ order) ↔ graph.Acyclic := by
  rw [acyclic_iff]
  refine forall₂_congr fun id contained => ?_
  rw [schedules.mem_iff mirrored]
  exact and_iff_right contained

/-- A schedule from the start is as long as there are live nodes just where the graph is acyclic. -/
theorem Schedules.length_eq_iff {graph : Graph} (mirrored : graph.Mirrored) {order : List Nat}
    (schedules : graph.Schedules [] order) :
    order.length = graph.nodeCount ↔ graph.Acyclic := by
  have subset : order ⊆ graph.ids := fun id inside => mem_ids.mpr (schedules.live inside).1
  rw [← schedules.forall_mem_iff mirrored, ← graph.length_ids]
  constructor
  · intro length id contained
    have same := (schedules.nodup.subperm subset).perm_of_length_le (Nat.le_of_eq length.symm)
    exact same.mem_iff.mpr (mem_ids.mpr contained)
  · intro all
    refine ((List.perm_ext_iff_of_nodup schedules.nodup graph.nodup_ids).mpr fun id => ?_).length_eq
    exact ⟨fun inside => subset inside, fun inside => all id (mem_ids.mp inside)⟩

/-- A mirrored graph can be ordered where it is acyclic, and the order is its schedule; elsewhere
the cycle is told. -/
theorem Mirrored.topologicalOrder_cases {graph : Graph} (mirrored : graph.Mirrored) :
    ∃ order, graph.Schedules [] order ∧
      ((graph.Acyclic ∧ graph.topologicalOrder = .ok order) ∨
        (¬graph.Acyclic ∧ graph.topologicalOrder = refuse (.cycle order.length graph.nodeCount))) := by
  obtain ⟨order, listed, schedules⟩ := mirrored.exists_schedule graph.tracks_agenda
  have complete := schedules.length_eq_iff mirrored
  refine ⟨order, schedules, ?_⟩
  by_cases acyclic : graph.Acyclic
  · exact .inl ⟨acyclic, by simp [topologicalOrder, listed, complete.mpr acyclic]⟩
  · have shorter : order.length ≠ graph.nodeCount := fun same => acyclic (complete.mp same)
    exact .inr ⟨acyclic, by simp [topologicalOrder, listed, shorter]⟩

end Graph

end GatherFusion

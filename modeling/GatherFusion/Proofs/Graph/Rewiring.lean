import GatherFusion.Proofs.Graph.Order
import GatherFusion.Proofs.Reachable

/-!
# Handing the readers of a port to another one

`Graph.replaceAllUses` takes the readers of one port, whoever they are, and makes them readers of
another port that carries the same tensor. Nothing else in the graph moves. The new edges all start
at the node of the target, so they close a cycle exactly where a path of old edges leads from one of
the moved readers to that node. The edit does not look for such a path; its callers must know that
there is none.
-/
namespace GatherFusion.Graph

/-! ## What moves -/

/-- The readers of one port were handed to another one, and nothing else has changed: a node keeps
its name, what it computes and what it offers, and reads the target where it read the source. -/
structure HandsOver (graph : Graph) (source target : Port) (changed : Graph) : Prop
    extends Redirects graph source target changed where
  /-- Nothing reads the source any more. -/
  vacated : changed.readers source = []
  /-- The target has its own readers and those of the source. -/
  joined : (changed.readers target).Perm (graph.readers target ++ graph.readers source)
  /-- No slot is on both lists. -/
  apart : (graph.readers target).Disjoint (graph.readers source)
  /-- Every slot that read the source reads the target. -/
  moved : ∀ slot, graph.producer? slot = some source → changed.producer? slot = some target
  /-- Every other slot reads what it read. -/
  kept : ∀ slot, graph.producer? slot ≠ some source →
    changed.producer? slot = graph.producer? slot
  /-- Every other port offers what it offered to whom it offered it. -/
  others : ∀ port, port ≠ source → port ≠ target → changed.output? port = graph.output? port
  /-- Every port carries the tensor it carried. -/
  infos : ∀ port, changed.info? port = graph.info? port
  /-- The same nodes are live. -/
  live : ∀ id, changed.contains id = graph.contains id

/-- A port lists no reader twice. -/
theorem nodup_readers (graph : Graph) (port : Port) : (graph.readers port).Nodup := by
  unfold readers
  split
  · exact OrderedSet.nodup_toList _
  · exact .nil

section

variable {graph changed : Graph} {source target : Port}
  (redirects : Redirects graph source target changed)
include redirects

/-- A port carries what it carried when readers are redirected. -/
theorem Redirects.info? (port : Port) : changed.info? port = graph.info? port := by
  rw [info?_eq, info?_eq, redirects.frames]
  cases graph.frame? port.node <;> simp [Frame.redirect]

/-- A node lives on when readers are redirected. -/
theorem Redirects.contains (id : Nat) : changed.contains id = graph.contains id := by
  rw [Bool.eq_iff_iff, contains_iff, contains_iff, redirects.frames]
  cases graph.frame? id <;> simp

/-- A port that is neither the source nor the target keeps its output, readers included. -/
theorem Redirects.output?_other (mirrored : graph.Mirrored) (still : changed.Mirrored) {port : Port}
    (notSource : port ≠ source) (notTarget : port ≠ target) :
    changed.output? port = graph.output? port := by
  have info := redirects.info? port
  have readers := mirrored.readers_eq still (redirects.reads_other notSource notTarget)
  unfold Graph.info? at info
  unfold Graph.readers at readers
  cases offers : changed.output? port with
  | none =>
    rw [offers, Option.map_none] at info
    exact (Option.map_eq_none_iff.mp info.symm).symm
  | some after =>
    rw [offers, Option.map_some] at info
    obtain ⟨before, offered, same⟩ := Option.map_eq_some_iff.mp info.symm
    simp only [offers, offered] at readers
    have listed : after.readers = before.readers :=
      OrderedSet.ext_mem fun slot => by
        rw [← OrderedSet.mem_toList, ← OrderedSet.mem_toList, readers]
    rw [offered]
    calc some after = some ⟨after.info, after.readers⟩ := rfl
      _ = some ⟨before.info, before.readers⟩ := by rw [same, listed]
      _ = some before := rfl

/-- Redirecting the readers of a port of a mirrored graph to another port hands them over. -/
theorem Redirects.handsOver (mirrored : graph.Mirrored) (still : changed.Mirrored)
    (distinct : source ≠ target) : HandsOver graph source target changed := by
  have apart : (graph.readers target).Disjoint (graph.readers source) := by
    intro slot first second
    rw [mirrored.mem_readers_iff] at first second
    exact distinct (Option.some.inj (second.symm.trans first))
  refine ⟨redirects, ?_, ?_, apart, fun slot reads => ?_, fun slot elsewhere => ?_,
    fun port notSource notTarget => redirects.output?_other mirrored still notSource notTarget,
    redirects.info?, redirects.contains⟩
  · rw [List.eq_nil_iff_forall_not_mem]
    intro slot listed
    rw [still.mem_readers_iff, redirects.producer?, Option.map_eq_some_iff] at listed
    obtain ⟨old, -, same⟩ := listed
    split at same
    · exact distinct same.symm
    · contradiction
  · have own := (graph.nodup_readers target).append (graph.nodup_readers source) apart
    refine (List.perm_ext_iff_of_nodup (changed.nodup_readers target) own).mpr fun slot => ?_
    rw [List.mem_append, still.mem_readers_iff, mirrored.mem_readers_iff,
      mirrored.mem_readers_iff, redirects.producer?]
    cases graph.producer? slot with
    | none => simp
    | some old => by_cases moved : old = source <;> simp [moved, or_comm]
  · rw [redirects.producer?, reads, Option.map_some, if_pos rfl]
  · rw [redirects.producer?]
    cases reads : graph.producer? slot with
    | none => rfl
    | some old =>
      have other : old ≠ source := fun same => elsewhere (by rw [reads, same])
      rw [Option.map_some, if_neg other]

end

/-- In a mirrored graph the readers of a port can be handed to another port of the same tensor, and
their number is told; handed to the port itself they stay where they are, and none is counted. -/
theorem Mirrored.replaceAllUses_cases {graph : Graph} (mirrored : graph.Mirrored)
    {source target : Port} {info : TensorInfo} (carries : graph.info? source = some info)
    (carriesToo : graph.info? target = some info) :
    (source = target ∧ (replaceAllUses source target).runOn graph = (.ok 0, graph)) ∨
      (source ≠ target ∧ ∃ changed, (replaceAllUses source target).runOn graph =
          (.ok (graph.readerCount source), changed) ∧
        Redirects graph source target changed ∧ changed.Mirrored) := by
  obtain ⟨old, found, oldInfo⟩ := Option.map_eq_some_iff.mp carries
  obtain ⟨new, offered, newInfo⟩ := Option.map_eq_some_iff.mp carriesToo
  have same : old.info = new.info := oldInfo.trans newInfo.symm
  by_cases distinct : source = target
  · exact .inl ⟨distinct, runOn_replaceAllUses_self found offered same distinct⟩
  · obtain ⟨emptied, redirected, changed, moves, redirects, still⟩ :=
      exists_moves mirrored found offered same distinct
    have count : graph.readerCount source = old.readers.size := by
      simp [Graph.readerCount, readers, found, OrderedSet.size]
    refine .inr ⟨distinct, changed, ?_, redirects, still⟩
    rw [count]
    exact moves.runOn_replaceAllUses found offered same distinct

/-- In every reachable graph, between ports that carry the same tensor, the edit counts the readers
of the source and hands all of them to the target, also where the source or the target or a reader
belong to one node; a port handed to itself counts none and the graph is as before. -/
theorem replaceAllUses_hands_over_after (history : List Action) {source target : Port}
    {info : TensorInfo} (carries : (after history).info? source = some info)
    (carriesToo : (after history).info? target = some info) :
    (source ≠ target → ∃ changed, (replaceAllUses source target).runOn (after history) =
        (.ok ((after history).readerCount source), changed) ∧
      HandsOver (after history) source target changed) ∧
    (source = target →
      (replaceAllUses source target).runOn (after history) = (.ok 0, after history)) := by
  have mirrored := mirrored_after history
  rcases mirrored.replaceAllUses_cases carries carriesToo with
    ⟨same, run⟩ | ⟨distinct, changed, run, redirects, still⟩
  · exact ⟨fun distinct => absurd same distinct, fun _ => run⟩
  · exact ⟨fun _ => ⟨changed, run, redirects.handsOver mirrored still distinct⟩,
      fun same => absurd same distinct⟩

/-- A node with two outputs that reads its own first output, and another one that reads the first
output twice and the second once. -/
def selfReader : List Action := [
  .addParameter "input" (.fixed .f32 [1]),
  .addNode (.custom "pair") [.first 0] [.fixed .f32 [1], .fixed .f32 [1]] "pair",
  .addNode (.custom "mix") [⟨1, 0⟩, ⟨1, 1⟩, ⟨1, 0⟩] [.fixed .f32 [1]] "mix",
  .replaceAllUses (.first 0) ⟨1, 0⟩]

/-- The three readers of the first output, its own node among them, join the reader of the second;
handed to itself the first output keeps them. -/
theorem replaceAllUses_hands_over_selfReader :
    (∃ changed, (replaceAllUses ⟨1, 0⟩ ⟨1, 1⟩).runOn (after selfReader) = (.ok 3, changed) ∧
      HandsOver (after selfReader) ⟨1, 0⟩ ⟨1, 1⟩ changed) ∧
    (replaceAllUses ⟨1, 0⟩ ⟨1, 0⟩).runOn (after selfReader) = (.ok 0, after selfReader) := by
  have first : (after selfReader).info? ⟨1, 0⟩ = some (.fixed .f32 [1]) := by decide +kernel
  have second : (after selfReader).info? ⟨1, 1⟩ = some (.fixed .f32 [1]) := by decide +kernel
  have count : (after selfReader).readerCount ⟨1, 0⟩ = 3 := by decide +kernel
  obtain ⟨changed, run, handsOver⟩ :=
    (replaceAllUses_hands_over_after selfReader first second).1 (by decide)
  rw [count] at run
  exact ⟨⟨changed, run, handsOver⟩, (replaceAllUses_hands_over_after selfReader first first).2 rfl⟩

/-! ## When a cycle is closed -/

section

variable {graph changed : Graph} {source target : Port}
  (redirects : Redirects graph source target changed)
include redirects

/-- An edge is still there after readers were redirected, unless the reader reads the source. -/
theorem Redirects.feeds_or_reads {producer reader : Nat} (feeds : graph.Feeds producer reader) :
    changed.Feeds producer reader ∨
      ∃ slot, graph.producer? slot = some source ∧ slot.node = reader := by
  obtain ⟨frame, port, found, operand, rfl⟩ := feeds
  by_cases same : port = source
  · obtain ⟨index, position⟩ := List.mem_iff_getElem?.mp operand
    refine .inr ⟨⟨reader, index⟩, ?_, rfl⟩
    rw [producer?_eq, found, Option.bind_some, position, same]
  · have operandToo : port ∈ (frame.redirect source target).inputs :=
      List.mem_map.mpr ⟨port, operand, if_neg same⟩
    refine .inl ⟨frame.redirect source target, port, ?_, operandToo, rfl⟩
    exact redirects.frame?_eq_some found

/-- A slot that read the source is fed by the target. -/
theorem Redirects.feeds_target {slot : Slot} (reads : graph.producer? slot = some source) :
    changed.Feeds target.node slot.node := by
  have moved : changed.producer? slot = some target := by
    rw [redirects.producer?, reads, Option.map_some, if_pos rfl]
  obtain ⟨frame, found, position⟩ := producer?_eq_some_iff.mp moved
  exact ⟨frame, target, found, List.mem_of_getElem? position, rfl⟩

/-- A path is still there after readers were redirected, or what follows its last reader of the
source is. -/
theorem Redirects.path_or_reader {first last : Nat}
    (path : Relation.ReflTransGen graph.Feeds first last) :
    Relation.ReflTransGen changed.Feeds first last ∨
      ∃ slot, graph.producer? slot = some source ∧
        Relation.ReflTransGen changed.Feeds slot.node last := by
  induction path using Relation.ReflTransGen.head_induction_on with
  | refl => exact .inl .refl
  | head feeds _ ih =>
    rcases ih with rest | behind
    · rcases redirects.feeds_or_reads feeds with still | ⟨slot, reads, rfl⟩
      · exact .inl (.head still rest)
      · exact .inr ⟨slot, reads, rest⟩
    · exact .inr behind

/-- Redirecting the readers of a port of an acyclic graph closes a cycle exactly where one of the
readers is the node they are redirected to, or leads to it. -/
theorem Redirects.acyclic_iff (acyclic : graph.Acyclic) :
    changed.Acyclic ↔ ∀ slot, graph.producer? slot = some source →
      ¬Relation.ReflTransGen graph.Feeds slot.node target.node := by
  constructor
  · intro still slot reads path
    -- The last reader of the source on the path to the target is fed by the target now.
    have closing : ∃ slot, graph.producer? slot = some source ∧
        Relation.ReflTransGen changed.Feeds slot.node target.node := by
      rcases redirects.path_or_reader path with kept | behind
      · exact ⟨slot, reads, kept⟩
      · exact behind
    obtain ⟨last, readsLast, back⟩ := closing
    exact still target.node (.head' (redirects.feeds_target readsLast) back)
  · exact redirects.acyclic acyclic

end

/-- A mirrored graph can be ordered exactly where it is acyclic. -/
theorem Mirrored.exists_topologicalOrder_iff {graph : Graph} (mirrored : graph.Mirrored) :
    (∃ order, graph.topologicalOrder = .ok order) ↔ graph.Acyclic := by
  obtain ⟨order, -, ⟨acyclic, ordered⟩ | ⟨cyclic, refused⟩⟩ := mirrored.topologicalOrder_cases
  · exact ⟨fun _ => acyclic, fun _ => ⟨order, ordered⟩⟩
  · refine ⟨?_, fun acyclic => absurd acyclic cyclic⟩
    rintro ⟨order, ordered⟩
    rw [ordered] at refused
    contradiction

/-- In every reachable acyclic graph the readers of a port can be handed to any port of the same
tensor, and afterwards the graph can be ordered exactly where no reader of the source was the node
of the target or a producer of it, directly or through others. -/
theorem replaceAllUses_ordered_iff_after (history : List Action)
    (acyclic : (after history).Acyclic) {source target : Port} {info : TensorInfo}
    (carries : (after history).info? source = some info)
    (carriesToo : (after history).info? target = some info) :
    ∃ moved changed, (replaceAllUses source target).runOn (after history) = (.ok moved, changed) ∧
      ((∃ order, changed.topologicalOrder = .ok order) ↔
        ∀ slot ∈ (after history).readers source, slot.node ≠ target.node ∧
          ¬Relation.TransGen (after history).Feeds slot.node target.node) := by
  have mirrored := mirrored_after history
  obtain ⟨old, found, oldInfo⟩ := Option.map_eq_some_iff.mp carries
  obtain ⟨new, offered, newInfo⟩ := Option.map_eq_some_iff.mp carriesToo
  obtain ⟨moved, changed, run, redirects, still⟩ :=
    runOn_replaceAllUses found offered (oldInfo.trans newInfo.symm) mirrored
  refine ⟨moved, changed, run, ?_⟩
  rw [still.exists_topologicalOrder_iff, redirects.acyclic_iff acyclic]
  refine forall_congr' fun slot => ?_
  rw [mirrored.mem_readers_iff, Relation.reflTransGen_iff_eq_or_transGen, not_or, ne_comm]

/-- A parameter that is read by one conversion and, beside it, by three nodes in a row. -/
def besideARow : List Action := [
  .addParameter "input" (.fixed .f32 [1]),
  .addNode .convert [.first 0] [.fixed .f32 [1]] "beside",
  .addNode .convert [.first 0] [.fixed .f32 [1]] "first",
  .addNode .convert [.first 2] [.fixed .f32 [1]] "second",
  .addNode .multiply [.first 2, .first 3] [.fixed .f32 [1]] "third",
  .addNode .convert [.first 4] [.fixed .f32 [1]] "fourth"]

/-- Handing the readers of the first in the row to the node beside it, to which none of them leads,
leaves a graph that can be ordered; handing them to the last, to which they lead, does not. -/
theorem replaceAllUses_ordered_iff_besideARow :
    (∃ moved changed, (replaceAllUses (.first 2) (.first 1)).runOn (after besideARow) =
        (.ok moved, changed) ∧ ∃ order, changed.topologicalOrder = .ok order) ∧
      ∃ moved changed, (replaceAllUses (.first 2) (.first 5)).runOn (after besideARow) =
        (.ok moved, changed) ∧ ¬∃ order, changed.topologicalOrder = .ok order := by
  have older : ∀ id < (after besideARow).next, ∀ frame ∈ (after besideARow).frame? id,
      ∀ port ∈ frame.inputs, port.node < id := by decide +kernel
  have first : (after besideARow).info? (.first 2) = some (.fixed .f32 [1]) := by decide +kernel
  have beside : (after besideARow).info? (.first 1) = some (.fixed .f32 [1]) := by decide +kernel
  have last : (after besideARow).info? (.first 5) = some (.fixed .f32 [1]) := by decide +kernel
  have readers : (after besideARow).readers (.first 2) = [⟨3, 0⟩, ⟨4, 0⟩] := by decide +kernel
  constructor
  · obtain ⟨moved, changed, run, ordered⟩ := replaceAllUses_ordered_iff_after besideARow
      (acyclic_of_older older) first beside
    refine ⟨moved, changed, run, ordered.mpr fun slot listed => ?_⟩
    have younger : 1 < slot.node := by
      revert slot
      rw [readers]
      decide
    exact ⟨Nat.ne_of_gt younger, fun path => Nat.lt_asymm younger (lt_of_older older path)⟩
  · obtain ⟨moved, changed, run, ordered⟩ := replaceAllUses_ordered_iff_after besideARow
      (acyclic_of_older older) first last
    refine ⟨moved, changed, run, fun found => ?_⟩
    have reads : (⟨4, 0⟩ : Slot) ∈ (after besideARow).readers (.first 2) := by simp [readers]
    have leads : (after besideARow).Feeds 4 5 :=
      ⟨⟨"fourth", .convert, [.first 4], [.fixed .f32 [1]]⟩, .first 4, by decide +kernel, by simp, rfl⟩
    exact (ordered.mp found _ reads).2 (.single leads)

end GatherFusion.Graph

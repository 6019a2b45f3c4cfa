import GatherFusion.Proofs.Graph.Acyclic
import GatherFusion.Proofs.Pass.Tidiness

/-!
# What the removal of dead nodes keeps

A node is needed when it is an input or an output of the graph, lies on a cycle, or leads along its
readers to a node of these kinds. A dead node is not needed, and dropping it makes no other node more
or less needed; where no dead node is left all nodes are needed, since whoever is read by somebody
leads on until a cycle or an output is met. The removal of dead nodes therefore keeps the needed
nodes and no others, and since this determines the graph that is left, it does not matter in which
order the dead nodes are found.
-/
namespace GatherFusion

namespace Graph

variable {graph changed : Graph}

/-- A node is an input or an output of the graph. -/
def IsRoot (graph : Graph) (id : Nat) : Prop :=
  ∃ frame, graph.frame? id = some frame ∧
    (frame.operation = .parameter ∨ frame.operation = .result)

/-- A path along readers, possibly of no edge, leads from a node to an input or an output of the
graph or to a node on a cycle. -/
def Needed (graph : Graph) (id : Nat) : Prop :=
  ∃ last, Relation.ReflTransGen graph.Feeds id last ∧
    (graph.IsRoot last ∨ Relation.TransGen graph.Feeds last last)

/-! ## Needed nodes -/

/-- What a needed node reads is needed. -/
theorem Needed.of_feeds {producer reader : Nat} (feeds : graph.Feeds producer reader)
    (needed : graph.Needed reader) : graph.Needed producer := by
  obtain ⟨last, path, kind⟩ := needed
  exact ⟨last, .head feeds path, kind⟩

/-- A node that reads something is live. -/
theorem Feeds.exists_frame {producer reader : Nat} (feeds : graph.Feeds producer reader) :
    ∃ frame, graph.frame? reader = some frame := by
  obtain ⟨frame, port, found, -⟩ := feeds
  exact ⟨frame, found⟩

/-- A needed node of a mirrored graph is live. -/
theorem Needed.exists_frame (mirrored : graph.Mirrored) {id : Nat} (needed : graph.Needed id) :
    ∃ frame, graph.frame? id = some frame := by
  obtain ⟨last, path, kind⟩ := needed
  rcases Relation.ReflTransGen.cases_head path with rfl | ⟨reader, feeds, -⟩
  · rcases kind with ⟨frame, found, -⟩ | cycle
    · exact ⟨frame, found⟩
    · obtain ⟨producer, -, feeds⟩ := Relation.TransGen.tail'_iff.mp cycle
      exact feeds.exists_frame
  · obtain ⟨frame, port, found, operand, rfl⟩ := feeds
    obtain ⟨producer, info, live, -⟩ := mirrored.exists_frame found operand
    exact ⟨producer, live⟩

/-- A node that no slot reads feeds no node. -/
theorem not_feeds_of_unread {id : Nat}
    (unread : ∀ slot port, graph.producer? slot = some port → port.node ≠ id) (reader : Nat) :
    ¬graph.Feeds id reader := by
  rintro ⟨frame, port, found, operand, same⟩
  obtain ⟨index, position⟩ := List.mem_iff_getElem?.mp operand
  exact unread ⟨reader, index⟩ port (producer?_eq_some_iff.mpr ⟨frame, found, position⟩) same

/-- A dead node is not needed. -/
theorem Dead.not_needed {id : Nat} (dead : graph.Dead id) : ¬graph.Needed id := by
  have ends := not_feeds_of_unread dead.2
  rintro ⟨last, path, kind⟩
  rcases Relation.ReflTransGen.cases_head path with rfl | ⟨reader, feeds, -⟩
  · rcases kind with ⟨frame, found, root⟩ | cycle
    · obtain ⟨again, foundAgain, input, output⟩ := dead.1
      obtain rfl := Option.some.inj (found.symm.trans foundAgain)
      exact root.elim input output
    · obtain ⟨reader, feeds, -⟩ := Relation.TransGen.head'_iff.mp cycle
      exact ends reader feeds
  · exact ends reader feeds

/-- Where no dead node is left, all nodes are needed. -/
theorem Tidy.needed (tidy : graph.Tidy) (mirrored : graph.Mirrored) {id : Nat} {frame : Frame}
    (found : graph.frame? id = some frame) : graph.Needed id := by
  by_contra unneeded
  have readersFirst : Acc (Function.swap graph.Feeds) id :=
    mirrored.acc_of_not_beforeCycle fun ⟨origin, cycle, path⟩ =>
      unneeded ⟨origin, path, .inr cycle⟩
  -- A reader of an unneeded node is no more needed, and has a reader in turn.
  induction readersFirst generalizing frame with
  | intro id _ ih =>
    refine tidy id ⟨⟨frame, found, ?_, ?_⟩, fun slot port reads same => ?_⟩
    · exact fun input => unneeded ⟨id, .refl, .inl ⟨frame, found, .inl input⟩⟩
    · exact fun output => unneeded ⟨id, .refl, .inl ⟨frame, found, .inr output⟩⟩
    · obtain ⟨reader, live, position⟩ := producer?_eq_some_iff.mp reads
      have feeds : graph.Feeds id slot.node :=
        ⟨reader, port, live, List.mem_of_getElem? position, same⟩
      exact ih slot.node feeds live fun needed => unneeded (needed.of_feeds feeds)

/-! ## Dropping a dead node -/

section

variable {gone : Nat} (drops : graph.Drops gone changed)
include drops

/-- Dropping a node takes away the edges that lead to it. -/
theorem Drops.feeds_iff {producer reader : Nat} :
    changed.Feeds producer reader ↔ reader ≠ gone ∧ graph.Feeds producer reader := by
  simp only [Feeds, drops.frames]
  by_cases same : reader = gone <;> simp [same]

/-- A path that does not end in a dropped node is still there. -/
theorem Drops.path {first last : Nat} (path : Relation.TransGen graph.Feeds first last)
    (apart : last ≠ gone) : Relation.TransGen changed.Feeds first last := by
  induction path using Relation.TransGen.head_induction_on with
  | single feeds => exact .single (drops.feeds_iff.mpr ⟨apart, feeds⟩)
  | head feeds onward ih =>
    obtain ⟨reader, leaves, -⟩ := Relation.TransGen.head'_iff.mp onward
    have other : _ ≠ gone := fun same =>
      not_feeds_of_unread drops.unread reader (same ▸ leaves)
    exact .head (drops.feeds_iff.mpr ⟨other, feeds⟩) ih

/-- Dropping a dead node makes no node more or less needed. -/
theorem Drops.needed_iff (dead : graph.Dead gone) {id : Nat} :
    changed.Needed id ↔ graph.Needed id := by
  have edges : changed.Feeds ≤ graph.Feeds := fun _ _ feeds => (drops.feeds_iff.mp feeds).2
  constructor
  · rintro ⟨last, path, kind⟩
    refine ⟨last, Relation.ReflTransGen.mono edges _ _ path, ?_⟩
    rcases kind with ⟨frame, found, root⟩ | cycle
    · exact .inl ⟨frame, drops.thins last frame found, root⟩
    · exact .inr (Relation.TransGen.mono edges _ _ cycle)
  · rintro ⟨last, path, kind⟩
    have apart : last ≠ gone := by
      rintro rfl
      exact dead.not_needed ⟨_, .refl, kind⟩
    refine ⟨last, ?_, ?_⟩
    · rcases Relation.reflTransGen_iff_eq_or_transGen.mp path with rfl | path
      · exact .refl
      · exact (drops.path path apart).to_reflTransGen
    · rcases kind with ⟨frame, found, root⟩ | cycle
      · exact .inl ⟨frame, drops.frame?_eq_some_iff.mpr ⟨apart, found⟩, root⟩
      · exact .inr (drops.path cycle apart)

end

/-! ## What is left -/

/-- Nodes have been dropped from a graph, none of them needed. -/
structure Prunes (graph changed : Graph) : Prop where
  /-- No handle was used up. -/
  next : changed.next = graph.next
  /-- Nodes were at most lost. -/
  thins : graph.Thins changed
  /-- The same nodes are needed. -/
  needed : ∀ id, changed.Needed id ↔ graph.Needed id

namespace Prunes

/-- A node of the pruned graph is as it was. -/
theorem frame?_eq (prunes : graph.Prunes changed) {id : Nat} (live : changed.contains id = true) :
    changed.frame? id = graph.frame? id := by
  obtain ⟨frame, found⟩ := contains_iff.mp live
  rw [found, prunes.thins id frame found]

/-- When no dead node is left, the needed nodes are. -/
theorem contains_iff_needed (prunes : graph.Prunes changed) (mirrored : changed.Mirrored)
    (tidy : changed.Tidy) {id : Nat} : changed.contains id = true ↔ graph.Needed id := by
  rw [contains_iff, ← prunes.needed]
  constructor
  · rintro ⟨frame, found⟩
    exact tidy.needed mirrored found
  · exact Needed.exists_frame mirrored

/-- What a graph can be pruned to so that no dead node is left is determined. -/
theorem unique {other : Graph} (prunes : graph.Prunes changed) (mirrored : changed.Mirrored)
    (tidy : changed.Tidy) (otherPrunes : graph.Prunes other) (otherMirrored : other.Mirrored)
    (otherTidy : other.Tidy) : changed = other := by
  refine mirrored.ext otherMirrored (prunes.next.trans otherPrunes.next.symm) fun id => ?_
  have both : changed.contains id = other.contains id := by
    rw [Bool.eq_iff_iff, prunes.contains_iff_needed mirrored tidy,
      otherPrunes.contains_iff_needed otherMirrored otherTidy]
  cases live : changed.contains id with
  | true => rw [prunes.frame?_eq live, otherPrunes.frame?_eq (both.symm.trans live)]
  | false => rw [contains_eq_false_iff.mp live, contains_eq_false_iff.mp (both.symm.trans live)]

/-- The readers that are left of a port are the old ones that are left. -/
theorem readers_eq (prunes : graph.Prunes changed) (mirrored : graph.Mirrored)
    (still : changed.Mirrored) (port : Port) :
    changed.readers port = (graph.readers port).filter fun slot => changed.contains slot.node := by
  refine OrderedSet.eq_of_mem_iff (changed.increasing_readers port)
    ((graph.increasing_readers port).filter _) fun slot => ?_
  rw [List.mem_filter, still.mem_readers_iff, mirrored.mem_readers_iff, contains_iff]
  constructor
  · intro reads
    obtain ⟨frame, found, -⟩ := producer?_eq_some_iff.mp reads
    exact ⟨(prunes.thins.producer?_eq found).symm.trans reads, frame, found⟩
  · rintro ⟨reads, frame, found⟩
    exact (prunes.thins.producer?_eq found).trans reads

/-- A pruned graph is the graph itself, or nodes of the graph are lost. -/
theorem exists_lost (prunes : graph.Prunes changed) (mirrored : graph.Mirrored)
    (still : changed.Mirrored) (differs : changed ≠ graph) :
    ∃ id, graph.contains id = true ∧ changed.contains id = false := by
  by_contra kept
  simp only [not_exists, not_and, Bool.not_eq_false] at kept
  refine differs (still.ext mirrored prunes.next fun id => ?_)
  cases live : graph.contains id with
  | true => exact prunes.frame?_eq (kept id live)
  | false =>
    have gone := contains_eq_false_iff.mp live
    rw [gone, prunes.thins.frame?_eq_none gone]

end Prunes

end Graph

namespace Cleanup

/-- However the dead nodes are worked off, only nodes that are not needed are dropped. -/
theorem prunes_of_steps {before after : State} (mirrored : before.1.Mirrored)
    (steps : Relation.ReflTransGen Step before after) : before.1.Prunes after.1 := by
  induction steps with
  | refl => exact ⟨rfl, fun _ _ found => found, fun _ => Iff.rfl⟩
  | tail earlier step ih =>
    obtain ⟨-, same | ⟨gone, dead, drops⟩⟩ := step.cases (thins_of_steps mirrored earlier).1
    · rw [same]
      exact ih
    · exact ⟨drops.next.trans ih.next, fun id frame found => ih.thins id frame
        (drops.thins id frame found), fun id => (drops.needed_iff dead).trans (ih.needed id)⟩

end Cleanup

end GatherFusion

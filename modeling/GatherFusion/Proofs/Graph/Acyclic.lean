import GatherFusion.Proofs.Graph.Mirror
import Mathlib.Data.Fintype.EquivFin
import Mathlib.Logic.Relation

/-!
# Acyclic graphs

A graph is acyclic when no node reads itself along any chain of edges. Only the handles handed out
so far take part in edges, so an acyclic graph can be worked through producers first.
-/
namespace GatherFusion.Graph

/-- One node reads an output of another. -/
def Feeds (graph : Graph) (producer reader : Nat) : Prop :=
  ∃ frame port, graph.frame? reader = some frame ∧ port ∈ frame.inputs ∧ port.node = producer

/-- No node reads itself, directly or through others. -/
def Acyclic (graph : Graph) : Prop := ∀ id, ¬Relation.TransGen graph.Feeds id id

/-- Both ends of an edge are handles that were handed out. -/
theorem Feeds.lt_next {graph : Graph} (mirrored : graph.Mirrored) {producer reader : Nat}
    (feeds : graph.Feeds producer reader) : producer < graph.next ∧ reader < graph.next := by
  obtain ⟨frame, port, found, inside, rfl⟩ := feeds
  obtain ⟨source, info, live, -⟩ := mirrored.exists_frame found inside
  exact ⟨lt_next_of_frame? live, lt_next_of_frame? found⟩

/-- A node is on a cycle or downstream of one. -/
def BehindCycle (graph : Graph) (id : Nat) : Prop :=
  ∃ origin, Relation.TransGen graph.Feeds origin origin ∧
    Relation.ReflTransGen graph.Feeds origin id

/-- Readers of a node behind a cycle are behind it as well. -/
theorem BehindCycle.feeds {graph : Graph} {producer reader : Nat}
    (behind : graph.BehindCycle producer) (feeds : graph.Feeds producer reader) :
    graph.BehindCycle reader := by
  obtain ⟨origin, cycle, path⟩ := behind
  exact ⟨origin, cycle, path.tail feeds⟩

/-- A node that can be worked through, producers first, is behind no cycle. -/
theorem not_behindCycle_of_acc {graph : Graph} {id : Nat} (acc : Acc graph.Feeds id) :
    ¬graph.BehindCycle id := by
  have onCycle {origin : Nat} (acc : Acc (Relation.TransGen graph.Feeds) origin) :
      ¬Relation.TransGen graph.Feeds origin origin := by
    intro cycle
    induction acc with
    | intro origin _ ih => exact ih origin cycle cycle
  rintro ⟨origin, cycle, path⟩
  have transitive : Acc (Relation.TransGen graph.Feeds) id := acc.transGen
  rcases Relation.reflTransGen_iff_eq_or_transGen.mp path with rfl | path
  · exact onCycle transitive cycle
  · exact onCycle (transitive.inv path) cycle

/-- Where only finitely many handles are related, one that no cycle leads to can be worked through,
predecessors first. -/
theorem acc_of_bounded {relation : Nat → Nat → Prop} {bound : Nat}
    (bounded : ∀ first last, relation first last → first < bound) {id : Nat}
    (free : ¬∃ origin, Relation.TransGen relation origin origin ∧
      Relation.ReflTransGen relation origin id) : Acc relation id := by
  let Behind (id : Nat) : Prop := ∃ origin, Relation.TransGen relation origin origin ∧
    Relation.ReflTransGen relation origin id
  let Free := { handle : Fin bound // ¬Behind handle }
  let before (left right : Free) : Prop := Relation.TransGen relation left.1 right.1
  have transitive : IsTrans Free before := ⟨fun _ _ _ => Relation.TransGen.trans⟩
  have irreflexive : Std.Irrefl before := ⟨fun handle cycle => handle.2 ⟨_, cycle, .refl⟩⟩
  have wellFounded : WellFounded before := Finite.wellFounded_of_trans_of_irrefl before
  have onward {first last : Nat} (free : ¬Behind last) (edge : relation first last) :
      ¬Behind first := fun ⟨origin, cycle, path⟩ => free ⟨origin, cycle, path.tail edge⟩
  have inside (handle : Free) : Acc relation handle.1 := by
    induction handle using wellFounded.induction with
    | _ last ih =>
      refine Acc.intro _ fun first edge => ?_
      exact ih ⟨⟨first, bounded _ _ edge⟩, onward last.2 edge⟩ (.single edge)
  refine Acc.intro _ fun first edge => ?_
  exact inside ⟨⟨first, bounded _ _ edge⟩, onward free edge⟩

/-- In a mirrored graph a node behind no cycle can be worked through, producers first. -/
theorem Mirrored.acc_of_not_behindCycle {graph : Graph} (mirrored : graph.Mirrored) {id : Nat}
    (free : ¬graph.BehindCycle id) : Acc graph.Feeds id :=
  acc_of_bounded (fun _ _ feeds => (feeds.lt_next mirrored).1) free

/-- A node from which a path leads to a cycle. -/
def BeforeCycle (graph : Graph) (id : Nat) : Prop :=
  ∃ origin, Relation.TransGen graph.Feeds origin origin ∧
    Relation.ReflTransGen graph.Feeds id origin

/-- In a mirrored graph a node before no cycle can be worked through, readers first. -/
theorem Mirrored.acc_of_not_beforeCycle {graph : Graph} (mirrored : graph.Mirrored) {id : Nat}
    (free : ¬graph.BeforeCycle id) : Acc (Function.swap graph.Feeds) id := by
  refine acc_of_bounded (fun _ _ feeds => (feeds.lt_next mirrored).2) ?_
  rintro ⟨origin, cycle, path⟩
  exact free ⟨origin, Relation.transGen_swap.mp cycle, Relation.reflTransGen_swap.mp path⟩

/-- No node of an acyclic graph is behind a cycle. -/
theorem Acyclic.not_behindCycle {graph : Graph} (acyclic : graph.Acyclic) (id : Nat) :
    ¬graph.BehindCycle id := fun ⟨origin, cycle, _⟩ => acyclic origin cycle

/-- The nodes of an acyclic graph can be worked through, producers first. -/
theorem Acyclic.acc {graph : Graph} (acyclic : graph.Acyclic) (mirrored : graph.Mirrored)
    (id : Nat) : Acc graph.Feeds id :=
  mirrored.acc_of_not_behindCycle (acyclic.not_behindCycle id)

/-- A graph is acyclic when none of its live nodes is behind a cycle. -/
theorem acyclic_iff {graph : Graph} :
    graph.Acyclic ↔ ∀ id, graph.contains id = true → ¬graph.BehindCycle id := by
  constructor
  · exact fun acyclic id _ => acyclic.not_behindCycle id
  · intro free id cycle
    have reads : ∃ producer, graph.Feeds producer id := by
      obtain ⟨producer, -, feeds⟩ := Relation.TransGen.tail'_iff.mp cycle
      exact ⟨producer, feeds⟩
    obtain ⟨producer, frame, port, found, -⟩ := reads
    exact free id (contains_iff.mpr ⟨frame, found⟩) ⟨id, cycle, .refl⟩

/-- Where every node reads older ones, paths lead to younger nodes. -/
theorem lt_of_older {graph : Graph}
    (older : ∀ id < graph.next, ∀ frame ∈ graph.frame? id, ∀ port ∈ frame.inputs, port.node < id)
    {first last : Nat} (path : Relation.TransGen graph.Feeds first last) : first < last := by
  have step {producer reader : Nat} (feeds : graph.Feeds producer reader) : producer < reader := by
    obtain ⟨frame, port, found, inside, rfl⟩ := feeds
    exact older reader (lt_next_of_frame? found) frame found port inside
  induction path with
  | single feeds => exact step feeds
  | tail _ feeds ih => exact Nat.lt_trans ih (step feeds)

/-- A graph in which every node reads older ones is acyclic. -/
theorem acyclic_of_older {graph : Graph}
    (older : ∀ id < graph.next, ∀ frame ∈ graph.frame? id, ∀ port ∈ frame.inputs, port.node < id) :
    graph.Acyclic :=
  fun id path => Nat.lt_irrefl id (lt_of_older older path)

/-! ## Acyclic graphs after a change -/

/-- A graph with no further edges is acyclic if the other one is. -/
theorem Acyclic.of_feeds {graph changed : Graph} (acyclic : graph.Acyclic)
    (kept : ∀ producer reader, changed.Feeds producer reader → graph.Feeds producer reader) :
    changed.Acyclic :=
  fun id path => acyclic id (Relation.TransGen.mono kept id id path)

/-- Every node that is read has a handle that was given out. -/
def ReadsGiven (graph : Graph) : Prop :=
  ∀ producer reader, graph.Feeds producer reader → producer < graph.next

/-- In a mirrored graph every node that is read is live. -/
theorem Mirrored.readsGiven {graph : Graph} (mirrored : graph.Mirrored) : graph.ReadsGiven :=
  fun _ _ feeds => (feeds.lt_next mirrored).1

section

variable {graph changed : Graph} {frame : Frame} (adds : Adds graph frame changed)
include adds

/-- What is read after a node was added is older, and only the new node has new edges. -/
theorem Adds.feeds_cases (given : graph.ReadsGiven) {producer reader : Nat}
    (feeds : changed.Feeds producer reader) :
    producer < graph.next ∧ (reader = graph.next ∨ graph.Feeds producer reader) := by
  obtain ⟨other, port, found, inside, rfl⟩ := feeds
  rcases adds.frame?_cases found with ⟨fresh, rfl⟩ | old
  · obtain ⟨info, carries⟩ := adds.reads port inside
    rw [info?_eq, Option.bind_eq_some_iff] at carries
    obtain ⟨source, live, -⟩ := carries
    exact ⟨lt_next_of_frame? live, .inl fresh⟩
  · have feeds : graph.Feeds port.node reader := ⟨other, port, old, inside, rfl⟩
    exact ⟨given _ _ feeds, .inr feeds⟩

/-- Adding a node reads given handles. -/
theorem Adds.readsGiven (given : graph.ReadsGiven) : changed.ReadsGiven := by
  intro producer reader feeds
  have older := (adds.feeds_cases given feeds).1
  have grown := adds.next
  omega

/-- A node that is added closes no cycle, since nothing reads it. -/
theorem Adds.acyclic (given : graph.ReadsGiven) (acyclic : graph.Acyclic) : changed.Acyclic := by
  -- A path that does not end in the new node does not pass through it.
  have path {first last : Nat} (path : Relation.TransGen changed.Feeds first last)
      (apart : last ≠ graph.next) : Relation.TransGen graph.Feeds first last := by
    induction path with
    | single feeds => exact .single ((adds.feeds_cases given feeds).2.resolve_left apart)
    | tail _ feeds ih =>
      obtain ⟨older, kind⟩ := adds.feeds_cases given feeds
      exact (ih (Nat.ne_of_lt older)).tail (kind.resolve_left apart)
  intro id cycle
  obtain ⟨reader, feeds, -⟩ := Relation.TransGen.head'_iff.mp cycle
  exact acyclic id (path cycle (Nat.ne_of_lt (adds.feeds_cases given feeds).1))

end

/-- The edges of a relation, and further edges from one node to a set of nodes. -/
def WithEdges (relation : Nat → Nat → Prop) (source : Nat) (targets : Nat → Prop)
    (first last : Nat) : Prop :=
  relation first last ∨ (first = source ∧ targets last)

/-- A path that is not made of old edges has a last new one. -/
theorem last_new_edge {relation : Nat → Nat → Prop} {source : Nat} {targets : Nat → Prop}
    {first last : Nat} (path : Relation.TransGen (WithEdges relation source targets) first last) :
    Relation.TransGen relation first last ∨
      (Relation.ReflTransGen (WithEdges relation source targets) first source ∧
        ∃ target, targets target ∧ Relation.ReflTransGen relation target last) := by
  induction path with
  | single edge =>
    rcases edge with old | ⟨rfl, target⟩
    · exact .inl (.single old)
    · exact .inr ⟨.refl, _, target, .refl⟩
  | tail before edge ih =>
    rcases edge with old | ⟨rfl, target⟩
    · exact ih.imp (·.tail old) fun ⟨start, target, inside, rest⟩ =>
        ⟨start, target, inside, rest.tail old⟩
    · exact .inr ⟨before.to_reflTransGen, _, target, .refl⟩

/-- Edges from one node close no cycle if no node they lead to leads back to it. -/
theorem not_cyclic_of_withEdges {relation : Nat → Nat → Prop} {source : Nat} {targets : Nat → Prop}
    (acyclic : ∀ id, ¬Relation.TransGen relation id id)
    (apart : ∀ target, targets target → ¬Relation.ReflTransGen relation target source) (id : Nat) :
    ¬Relation.TransGen (WithEdges relation source targets) id id := by
  have sourceAcyclic : ¬Relation.TransGen (WithEdges relation source targets) source source := by
    intro cycle
    rcases last_new_edge cycle with old | ⟨-, target, inside, back⟩
    · exact acyclic source old
    · exact apart target inside back
  intro cycle
  rcases last_new_edge cycle with old | ⟨start, target, inside, rest⟩
  · exact acyclic id old
  · have old : relation ≤ WithEdges relation source targets := fun _ _ edge => .inl edge
    have onward : Relation.ReflTransGen (WithEdges relation source targets) target id :=
      Relation.ReflTransGen.mono old target id rest
    exact sourceAcyclic (.head' (.inr ⟨rfl, inside⟩) (onward.trans start))

/-- Handing the readers of one port to another node closes no cycle if none of the readers leads to
that node. -/
theorem Redirects.acyclic {graph changed : Graph} {source target : Port}
    (redirects : Redirects graph source target changed) (acyclic : graph.Acyclic)
    (apart : ∀ slot, graph.producer? slot = some source →
      ¬Relation.ReflTransGen graph.Feeds slot.node target.node) : changed.Acyclic := by
  let readers (reader : Nat) : Prop := ∃ slot, graph.producer? slot = some source ∧ slot.node = reader
  have edges (producer reader : Nat) (feeds : changed.Feeds producer reader) :
      WithEdges graph.Feeds target.node readers producer reader := by
    obtain ⟨frame, port, found, inside, rfl⟩ := feeds
    obtain ⟨before, live, rfl⟩ := redirects.exists_frame found
    obtain ⟨old, reads, rfl⟩ := List.mem_map.mp inside
    by_cases moved : old = source
    · obtain ⟨index, position⟩ := List.mem_iff_getElem?.mp reads
      refine .inr ⟨by rw [if_pos moved], ⟨reader, index⟩, ?_, rfl⟩
      rw [producer?_eq, live, Option.bind_some, position, moved]
    · refine .inl ⟨before, old, live, reads, ?_⟩
      rw [if_neg moved]
  have leads (reader : Nat) (reads : readers reader) :
      ¬Relation.ReflTransGen graph.Feeds reader target.node := by
    obtain ⟨slot, reads, rfl⟩ := reads
    exact apart slot reads
  exact fun id cycle => not_cyclic_of_withEdges acyclic leads id (Relation.TransGen.mono edges id id cycle)

end GatherFusion.Graph

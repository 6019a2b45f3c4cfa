import GatherFusion.Proofs.Lookup.Footprint
import GatherFusion.Proofs.Reachable

/-!
# Edits that record what they remove

The graph an edit leaves tells which nodes are gone, but not what they were read by when they went.
A recording does what an edit does and keeps a record of the removals besides, each with the graph it
was made in. `Recording.Tells` says that a recording has the result and the graph of an edit and
accounts for the difference: what it records is what has gone, and every removal was proper.
-/
namespace GatherFusion

/-- A node that was removed: the graph as it was then, and the handle of the node. -/
structure Removal where
  /-- The graph before the removal. -/
  graph : Graph
  /-- The handle of the node. -/
  id : Nat

/-- The removed node was a step of a decompression or a lookup, and nothing read it. -/
def Removal.Proper (removal : Removal) : Prop :=
  ∃ node, removal.graph.node? removal.id = some node ∧ node.operation.isStep = true ∧
    node.isUnused = true

/-- A handle is dead: it was given out and names no node. -/
def Graph.Retired (graph : Graph) (id : Nat) : Prop := id < graph.next ∧ graph.frame? id = none

/-- A record of proper removals that tells which handles died. -/
structure Graph.Accounts (graph : Graph) (record : List Removal) (changed : Graph) : Prop where
  /-- Nothing comes back to life. -/
  retired : ∀ id, graph.Retired id → changed.Retired id
  /-- The handles recorded are those that died. -/
  removed : ∀ id, id ∈ record.map Removal.id ↔ changed.Retired id ∧ ¬graph.Retired id
  /-- The removals were proper. -/
  proper : ∀ removal ∈ record, removal.Proper

namespace Graph.Accounts

variable {graph middle changed : Graph}

/-- Nothing dies in a graph that stays as it is. -/
theorem refl (graph : Graph) : graph.Accounts [] graph where
  retired _ dead := dead
  removed id := by simp
  proper := by simp

/-- Two records one after the other account for both spells. -/
theorem trans {first second : List Removal} (before : graph.Accounts first middle)
    (after : middle.Accounts second changed) : graph.Accounts (first ++ second) changed where
  retired id dead := after.retired id (before.retired id dead)
  removed id := by
    have died := before.removed id
    have diedLater := after.removed id
    rw [List.map_append, List.mem_append, died, diedLater]
    by_cases dead : middle.Retired id
    · have still := after.retired id dead
      simp [dead, still]
    · have alive : ¬graph.Retired id := fun old => dead (before.retired id old)
      simp [dead, alive]
  proper removal inside := (List.mem_append.mp inside).elim (before.proper removal)
    (after.proper removal)

/-- Nothing dies when a node is added. -/
theorem of_adds {frame : Frame} (adds : graph.Adds frame changed) : graph.Accounts [] changed := by
  have same (id : Nat) : changed.Retired id ↔ graph.Retired id := by
    have gone := adds.frames id
    have grown := adds.next
    by_cases fresh : id = graph.next
    · subst fresh
      simp [Retired, gone]
    · rw [if_neg fresh] at gone
      have below : id < changed.next ↔ id < graph.next := by omega
      rw [Retired, Retired, gone, below]
  exact ⟨fun id => (same id).mpr, fun id => by simp [same id], by simp⟩

/-- Nothing dies when readers are redirected. -/
theorem of_redirects {source target : Port} (redirects : graph.Redirects source target changed) :
    graph.Accounts [] changed := by
  have same (id : Nat) : changed.Retired id ↔ graph.Retired id := by
    rw [Retired, Retired, redirects.frames, redirects.next, Option.map_eq_none_iff]
  exact ⟨fun id => (same id).mpr, fun id => by simp [same id], by simp⟩

/-- When an unread step is dropped it is the only node that dies. -/
theorem of_drops {id : Nat} (drops : graph.Drops id changed) (proper : Removal.Proper ⟨graph, id⟩) :
    graph.Accounts [⟨graph, id⟩] changed := by
  have ⟨node, found, _⟩ := proper
  have live := Graph.frame?_of_node? found
  have inside := Graph.lt_next_of_frame? live
  have dies (other : Nat) : changed.Retired other ↔ other = id ∨ graph.Retired other := by
    rw [Retired, Retired, drops.frames, drops.next]
    by_cases same : other = id
    · simp [same, inside]
    · simp [same]
  refine ⟨fun other dead => (dies other).mpr (.inr dead), fun other => ?_, by simpa using proper⟩
  have alive : ¬graph.Retired id := by simp [Retired, live]
  rw [dies]
  by_cases same : other = id
  · simp [same, alive]
  · simp [same]

end Graph.Accounts

/-! ## Recordings -/

/-- A change of a graph that yields a value or fails, and adds to a record of removals. -/
abbrev Recording (ε α : Type) := ExceptT (Failure ε) (StateM (Graph × List Removal)) α

namespace Recording

variable {ε α β : Type}

/-- Run a recording on a graph and the record so far. -/
def runOn (recording : Recording ε α) (graph : Graph) (record : List Removal) :
    Except (Failure ε) α × Graph × List Removal := recording (graph, record)

/-- An edit that has nothing to record. -/
def ofEdit (edit : Edit ε α) : Recording ε α := fun (graph, record) =>
  ((edit.runOn graph).1, (edit.runOn graph).2, record)

/-- Remove a node and record the removal, unless the graph declines. -/
def removeNode (id : Nat) : Recording GraphError Node := fun (graph, record) =>
  match (Graph.removeNode id).runOn graph with
  | (.ok node, changed) => (.ok node, changed, record ++ [⟨graph, id⟩])
  | (.error failure, changed) => (.error failure, changed, record)

/-- A recording in sequence starts from what the first part left, unless that failed. -/
theorem runOn_bind (recording : Recording ε α) (next : α → Recording ε β) (graph : Graph)
    (record : List Removal) :
    (recording >>= next).runOn graph record =
      match recording.runOn graph record with
      | (.ok value, changed, later) => (next value).runOn changed later
      | (.error failure, changed, later) => (.error failure, changed, later) := by
  simp only [runOn, bind, ExceptT.bind, ExceptT.mk, StateT.bind, ExceptT.bindCont]
  cases recording (graph, record) with
  | mk outcome changed => cases outcome <;> rfl

/-- On graphs with a property a recording does what an edit does, keeps the property, and accounts
for the nodes that go. -/
def Tells (property : Graph → Prop) (recording : Recording ε α) (edit : Edit ε α) : Prop :=
  ∀ graph record, property graph → ∃ later,
    recording.runOn graph record = ((edit.runOn graph).1, (edit.runOn graph).2, record ++ later) ∧
      property (edit.runOn graph).2 ∧ graph.Accounts later (edit.runOn graph).2

variable {property : Graph → Prop}

/-- Nothing is recorded where nothing is done. -/
theorem tells_pure (value : α) :
    Tells property (pure value : Recording ε α) (pure value : Edit ε α) := by
  intro graph record holds
  refine ⟨[], ?_, holds, .refl graph⟩
  rw [List.append_nil]
  rfl

/-- The record of a sequence is that of its parts. -/
theorem tells_bind {recording : Recording ε α} {edit : Edit ε α} {next : α → Recording ε β}
    {later : α → Edit ε β} (first : Tells property recording edit)
    (second : ∀ value, Tells property (next value) (later value)) :
    Tells property (recording >>= next) (edit >>= later) := by
  intro graph record holds
  obtain ⟨early, run, kept, accounts⟩ := first graph record holds
  rw [runOn_bind, run, Edit.runOn_bind]
  cases done : edit.runOn graph with
  | mk result middle =>
    rw [done] at kept accounts
    cases result with
    | error failure => exact ⟨early, rfl, kept, accounts⟩
    | ok value =>
      obtain ⟨late, runLate, keptLate, accountsLate⟩ := second value middle (record ++ early) kept
      exact ⟨early ++ late, by simpa [List.append_assoc] using runLate, keptLate,
        accounts.trans accountsLate⟩

/-- Forgetting a value forgets nothing of the record. -/
theorem tells_discard {recording : Recording ε α} {edit : Edit ε α}
    (tells : Tells property recording edit) : Tells property (discard recording) (discard edit) :=
  tells_bind tells fun _ => tells_pure _

/-- The record of working through a list is that of the work on its elements. -/
theorem tells_forM {list : List β} {recording : β → Recording ε PUnit} {edit : β → Edit ε PUnit}
    (tells : ∀ element ∈ list, Tells property (recording element) (edit element)) :
    Tells property (list.forM recording) (list.forM edit) := by
  induction list with
  | nil => exact tells_pure ()
  | cons first rest ih =>
    exact tells_bind (tells first List.mem_cons_self) fun _ =>
      ih fun element inside => tells element (List.mem_cons_of_mem first inside)

/-- An edit after which no node is gone has nothing to record. -/
theorem tells_ofEdit {edit : Edit ε α} (kept : Edit.Keeps property edit)
    (grows : ∀ graph, property graph → graph.Accounts [] (edit.runOn graph).2) :
    Tells property (ofEdit edit) edit := by
  intro graph record holds
  refine ⟨[], ?_, kept graph holds, grows graph holds⟩
  rw [List.append_nil]
  rfl

end Recording

/-! ## Recordings of the changes of a graph -/

/-- The edges of a graph agree, and the nodes of a list were given out and are steps as long as they
live. -/
def Graph.StepsLive (list : List Nat) (graph : Graph) : Prop :=
  graph.Mirrored ∧ ∀ id ∈ list, id < graph.next ∧
    ∀ frame, graph.frame? id = some frame → frame.operation.isStep = true

namespace Graph

variable (list : List Nat)

/-- Every change keeps the nodes of a list steps. -/
theorem stable_stepsLive : Stable (StepsLive list) := by
  refine stable_of_changes fun graph changed steps changes id inside => ?_
  obtain ⟨old, step⟩ := steps id inside
  cases changes with
  | stays => exact ⟨old, step⟩
  | adds adds =>
    refine ⟨by rw [adds.next]; omega, fun frame found => step frame ?_⟩
    rwa [adds.frames, if_neg (Nat.ne_of_lt old)] at found
  | redirects redirects =>
    refine ⟨by rwa [redirects.next], fun frame found => ?_⟩
    obtain ⟨before, there, rfl⟩ := redirects.exists_frame found
    exact step before there
  | drops drops =>
    refine ⟨by rwa [drops.next], fun frame found => ?_⟩
    exact step frame (drops.frame?_eq_some_iff.mp found).2

variable {list}

/-- Nothing dies when a node is added, or is not. -/
theorem Mirrored.accounts_addNode {graph : Graph} (mirrored : graph.Mirrored)
    (operation : Operation) (inputs : List Port) (outputs : List TensorInfo) (name : String) :
    graph.Accounts [] ((addNode operation inputs outputs name).runOn graph).2 := by
  rcases mirrored.adds_or_stays operation inputs outputs name with same | ⟨adds, -⟩
  · rw [same]
    exact .refl graph
  · exact .of_adds adds

/-- Adding a node records nothing. -/
theorem tells_addNode (operation : Operation) (inputs : List Port) (outputs : List TensorInfo)
    (name : String) :
    Recording.Tells (StepsLive list) (.ofEdit (addNode operation inputs outputs name))
      (addNode operation inputs outputs name) :=
  Recording.tells_ofEdit ((stable_stepsLive list).addNode _ _ _ _) fun _ holds =>
    holds.1.accounts_addNode _ _ _ _

/-- Redirecting readers records nothing. -/
theorem tells_replaceAllUses (source target : Port) :
    Recording.Tells (StepsLive list) (.ofEdit (replaceAllUses source target))
      (replaceAllUses source target) := by
  refine Recording.tells_ofEdit ((stable_stepsLive list).replaceAllUses _ _) fun graph holds => ?_
  rcases holds.1.redirects_or_stays source target with same | ⟨redirects, -⟩
  · rw [same]
    exact .refl graph
  · exact .of_redirects redirects

/-- Removing a node of the list is recorded. -/
theorem tells_removeNode {id : Nat} (inside : id ∈ list) :
    Recording.Tells (StepsLive list) (Recording.removeNode id) (removeNode id) := by
  intro graph record holds
  have kept := (stable_stepsLive list).removeNode id graph holds
  cases done : (removeNode id).runOn graph with
  | mk result changed =>
    rw [done] at kept
    cases result with
    | ok node =>
      have run : (Recording.removeNode id).runOn graph record =
          (.ok node, changed, record ++ [⟨graph, id⟩]) := by
        simp only [Recording.runOn, Recording.removeNode, done]
      obtain ⟨found, drops, -⟩ := holds.1.drops_of_removeNode done
      have step := (holds.2 id inside).2 _ (frame?_of_node? found)
      have unread := (holds.1.readerCount_eq_zero_iff found).mpr drops.unread
      exact ⟨_, run, kept, .of_drops drops ⟨node, found, step, isUnused_iff.mpr unread⟩⟩
    | error failure =>
      have run : (Recording.removeNode id).runOn graph record =
          (.error failure, changed, record) := by
        simp only [Recording.runOn, Recording.removeNode, done]
      obtain rfl : graph = changed := by
        simp only [Edit.runOn, removeNode] at done
        split at done
        · exact congrArg Prod.snd done
        · split at done
          · exact congrArg Prod.snd done
          · simp at done
      exact ⟨[], by rw [run, List.append_nil], kept, .refl graph⟩

end Graph

end GatherFusion

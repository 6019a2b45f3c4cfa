import GatherFusion.Proofs.Graph.Recording
import Mathlib.Data.List.Sort

/-!
# A store as a ledger

A ledger is a finite map from handles to values together with the next fresh handle. A store is asked
for one thing after the other, to change it or to look something up, and every answer it gives is the
answer of a ledger that started empty as well. What the slots and the separate count add is not seen
from outside.

A ledger writes a new value under the next handle and counts on, so a handle that is below the next
one and names nothing stays dead in every later state. In a graph, whose nodes are held by a store, a
node that is gone is therefore gone for good.
-/
namespace GatherFusion

namespace Store

/-- Something a store is asked for. -/
inductive Request (α : Type) where
  /-- Add a value. -/
  | push (value : α)
  /-- Remove the value of a handle. -/
  | remove (handle : Nat)
  /-- Put a value in the place of a live one. -/
  | replace (handle : Nat) (value : α)
  /-- Put a value in the place of one that is promised to be live. -/
  | set (handle : Nat) (value : α)
  /-- The value of a handle, if it is live. -/
  | find (handle : Nat)
  /-- The value of a handle that is promised to be live. -/
  | get (handle : Nat)
  /-- Whether a handle is live. -/
  | contains (handle : Nat)
  /-- How many values are live. -/
  | size
  /-- Whether no value is live. -/
  | isEmpty
  /-- The handle the next new value receives. -/
  | next
  /-- The live values with their handles. -/
  | entries

/-- What is answered to a request. -/
inductive Answer (α : Type) where
  /-- A handle. -/
  | handle (handle : Nat)
  /-- A value, or none where the handle is dead. -/
  | value? (value : Option α)
  /-- A value, or the promise that was broken. -/
  | value (value : Except Fault α)
  /-- Nothing but that it is done, or the promise that was broken. -/
  | done (outcome : Except Fault Unit)
  /-- Yes or no. -/
  | decision (holds : Bool)
  /-- A number of values. -/
  | count (count : Nat)
  /-- Values with their handles. -/
  | listing (entries : List (Nat × α))

/-- Meet one request after the other; the answers, and the state that is left. -/
def serve {α σ : Type} (respond : σ → Request α → Answer α × σ) :
    σ → List (Request α) → List (Answer α) × σ
  | state, [] => ([], state)
  | state, request :: rest =>
    let here := respond state request
    let later := serve respond here.2 rest
    (here.1 :: later.1, later.2)

/-- Requests are met where the earlier ones left off. -/
theorem serve_append {α σ : Type} (respond : σ → Request α → Answer α × σ) (state : σ)
    (first second : List (Request α)) :
    (serve respond state (first ++ second)).2 =
      (serve respond (serve respond state first).2 second).2 := by
  induction first generalizing state with
  | nil => rfl
  | cons request rest ih => exact ih _

variable {α : Type}

/-- Meet a request from the slots. A broken promise changes nothing. -/
def respond (store : Store α) : Request α → Answer α × Store α
  | .push value => (.handle (store.push value).1, (store.push value).2)
  | .remove handle => (.value? (store.remove handle).1, (store.remove handle).2)
  | .replace handle value =>
    match store.replace? handle value with
    | some changed => (.value? (store.get? handle), changed)
    | none => (.value? none, store)
  | .set handle value =>
    match store.set handle value with
    | .ok changed => (.done (.ok ()), changed)
    | .error fault => (.done (.error fault), store)
  | .find handle => (.value? (store.get? handle), store)
  | .get handle => (.value (store.get handle), store)
  | .contains handle => (.decision (store.contains handle), store)
  | .size => (.count store.size, store)
  | .isEmpty => (.decision store.isEmpty, store)
  | .next => (.handle store.next, store)
  | .entries => (.listing store.entries, store)

/-- The store after requests to an empty one. -/
def after (requests : List (Request α)) : Store α := (serve respond .empty requests).2

end Store

/-- A finite map from handles to values, and the next fresh handle. -/
structure Ledger (α : Type) where
  /-- The values by handle, smallest handle first. -/
  bindings : Std.ExtTreeMap Nat α
  /-- The handle the next new value receives. -/
  next : Nat

namespace Ledger

open Store (Request Answer)

variable {α : Type}

/-- A ledger without bindings. -/
def empty : Ledger α := ⟨∅, 0⟩

/-- Meet a request from the map. A value is written over a binding only; a dead handle is told where
it may be dead, and breaks a promise where it may not. -/
def respond (ledger : Ledger α) : Request α → Answer α × Ledger α
  | .push value =>
    (.handle ledger.next, ⟨ledger.bindings.insert ledger.next value, ledger.next + 1⟩)
  | .remove handle =>
    (.value? ledger.bindings[handle]?, { ledger with bindings := ledger.bindings.erase handle })
  | .replace handle value =>
    match ledger.bindings[handle]? with
    | some old => (.value? (some old), { ledger with bindings := ledger.bindings.insert handle value })
    | none => (.value? none, ledger)
  | .set handle value =>
    match ledger.bindings[handle]? with
    | some _ => (.done (.ok ()), { ledger with bindings := ledger.bindings.insert handle value })
    | none => (.done (.error (.deadHandle handle)), ledger)
  | .find handle => (.value? ledger.bindings[handle]?, ledger)
  | .get handle =>
    match ledger.bindings[handle]? with
    | some value => (.value (.ok value), ledger)
    | none => (.value (.error (.deadHandle handle)), ledger)
  | .contains handle => (.decision (ledger.bindings.contains handle), ledger)
  | .size => (.count ledger.bindings.size, ledger)
  | .isEmpty => (.decision ledger.bindings.isEmpty, ledger)
  | .next => (.handle ledger.next, ledger)
  | .entries => (.listing ledger.bindings.toList, ledger)

/-- The ledger after requests to an empty one. -/
def after (requests : List (Request α)) : Ledger α := (Store.serve respond .empty requests).2

/-- A new binding is found under its handle, every other handle is as before. -/
theorem getElem?_insert (bindings : Std.ExtTreeMap Nat α) (target : Nat) (value : α)
    (handle : Nat) : (bindings.insert target value)[handle]? =
      if handle = target then some value else bindings[handle]? := by
  rw [Std.ExtTreeMap.getElem?_insert]
  by_cases same : handle = target
  · simp [same]
  · simp [same, Ne.symm same]

/-- A deleted binding is found no more, every other handle is as before. -/
theorem getElem?_erase (bindings : Std.ExtTreeMap Nat α) (target handle : Nat) :
    (bindings.erase target)[handle]? = if handle = target then none else bindings[handle]? := by
  rw [Std.ExtTreeMap.getElem?_erase]
  by_cases same : handle = target
  · simp [same]
  · simp [same, Ne.symm same]

end Ledger

namespace Store

variable {α : Type}

/-! ## The same bindings -/

/-- A store and a ledger bind the same handles to the same values and announce the same handle. -/
structure Keeps (store : Store α) (ledger : Ledger α) : Prop where
  /-- The next handle is the same. -/
  next : store.next = ledger.next
  /-- The bindings are the same. -/
  get? : ∀ handle, store.get? handle = ledger.bindings[handle]?

/-- An empty store binds nothing, as an empty ledger does. -/
theorem keeps_empty : (empty : Store α).Keeps .empty where
  next := rfl
  get? handle := by simp [Ledger.empty]

namespace Keeps

variable {store : Store α} {ledger : Ledger α} (keeps : store.Keeps ledger)
include keeps

/-- The entries of the store are the bindings of the ledger, in the same order. -/
theorem entries_eq : store.entries = ledger.bindings.toList := by
  have below : ledger.bindings.toList.Pairwise fun left right => left.1 < right.1 :=
    ledger.bindings.ordered_keys_toList.imp Nat.compare_eq_lt.mp
  have belowToo : store.entries.Pairwise fun left right => left.1 < right.1 :=
    List.pairwise_map.mp store.increasing_entries
  have distinct {entries : List (Nat × α)}
      (increasing : entries.Pairwise fun left right => left.1 < right.1) : entries.Nodup :=
    increasing.imp fun order same => Nat.ne_of_lt order (congrArg Prod.fst same)
  have members : store.entries.Perm ledger.bindings.toList := by
    refine (List.perm_ext_iff_of_nodup (distinct belowToo) (distinct below)).mpr ?_
    rintro ⟨handle, value⟩
    rw [mem_entries, keeps.get?, Std.ExtTreeMap.mem_toList_iff_getElem?_eq_some]
  refine members.eq_of_pairwise ?_ belowToo below
  intro left right _ _ order reverse
  exact absurd reverse (Nat.lt_asymm order)

/-- The count of live values is the number of bindings. -/
theorem size_eq : store.size = ledger.bindings.size := by
  rw [← length_entries, keeps.entries_eq, Std.ExtTreeMap.length_toList]

/-- A new value is bound to the next handle, which is counted on. -/
theorem push (value : α) : (store.push value).2.Keeps
    ⟨ledger.bindings.insert ledger.next value, ledger.next + 1⟩ where
  next := by rw [next_push, keeps.next]
  get? handle := by
    rw [get?_push, keeps.get?, keeps.next, Ledger.getElem?_insert]

/-- A removal deletes the binding and nothing else. -/
theorem remove (handle : Nat) : (store.remove handle).2.Keeps
    { ledger with bindings := ledger.bindings.erase handle } where
  next := (next_remove store handle).trans keeps.next
  get? other := by
    rw [get?_remove, keeps.get?, Ledger.getElem?_erase]

/-- A value that is put in the place of another changes the named binding and nothing else. -/
theorem replace {changed : Store α} {handle : Nat} {value : α}
    (done : store.replace? handle value = some changed) :
    changed.Keeps { ledger with bindings := ledger.bindings.insert handle value } where
  next := (size_replace? done).2.trans keeps.next
  get? other := by
    rw [get?_replace? done, keeps.get?, Ledger.getElem?_insert]

/-- A value is put in the place of another just where there is a binding. -/
theorem replace?_cases (handle : Nat) (value : α) :
    (∃ old changed, ledger.bindings[handle]? = some old ∧
        store.replace? handle value = some changed) ∨
      (ledger.bindings[handle]? = none ∧ store.replace? handle value = none) := by
  have live := store.replace?_isSome handle value
  rw [contains, keeps.get?] at live
  cases found : ledger.bindings[handle]? with
  | none =>
    rw [found] at live
    exact .inr ⟨rfl, Option.not_isSome_iff_eq_none.mp (by simp [live])⟩
  | some old =>
    rw [found] at live
    obtain ⟨changed, done⟩ := Option.isSome_iff_exists.mp live
    exact .inl ⟨old, changed, rfl, done⟩

/-- A request has the same answer, and leaves the same bindings. -/
theorem respond (request : Request α) :
    (store.respond request).1 = (ledger.respond request).1 ∧
      (store.respond request).2.Keeps (ledger.respond request).2 := by
  cases request with
  | push value =>
    refine ⟨?_, keeps.push value⟩
    simp only [Store.respond, Ledger.respond, push_fst, keeps.next]
  | remove handle =>
    refine ⟨?_, keeps.remove handle⟩
    simp only [Store.respond, Ledger.respond, remove_fst, keeps.get?]
  | replace handle value =>
    rcases keeps.replace?_cases handle value with ⟨old, changed, found, done⟩ | ⟨found, refused⟩
    · simp only [Store.respond, Ledger.respond, done, found, keeps.get?, true_and]
      exact keeps.replace done
    · simp only [Store.respond, Ledger.respond, refused, found, true_and]
      exact keeps
  | set handle value =>
    rcases keeps.replace?_cases handle value with ⟨old, changed, found, done⟩ | ⟨found, refused⟩
    · simp only [Store.respond, Ledger.respond, Store.set, done, found, true_and]
      exact keeps.replace done
    · simp only [Store.respond, Ledger.respond, Store.set, refused, found, true_and]
      exact keeps
  | find handle =>
    simp only [Store.respond, Ledger.respond, keeps.get?, true_and]
    exact keeps
  | get handle =>
    simp only [Store.respond, Ledger.respond, Store.get, keeps.get?]
    cases ledger.bindings[handle]? with
    | none => exact ⟨rfl, keeps⟩
    | some value => exact ⟨rfl, keeps⟩
  | contains handle =>
    simp only [Store.respond, Ledger.respond, Store.contains, keeps.get?,
      Std.ExtTreeMap.contains_eq_isSome_getElem?, true_and]
    exact keeps
  | size =>
    simp only [Store.respond, Ledger.respond, keeps.size_eq, true_and]
    exact keeps
  | isEmpty =>
    simp only [Store.respond, Ledger.respond, Store.isEmpty, keeps.size_eq,
      Std.ExtTreeMap.isEmpty_eq_size_beq_zero, true_and]
    exact keeps
  | next =>
    simp only [Store.respond, Ledger.respond, keeps.next, true_and]
    exact keeps
  | entries =>
    simp only [Store.respond, Ledger.respond, keeps.entries_eq, true_and]
    exact keeps

/-- Requests one after the other have the same answers, and leave the same bindings. -/
theorem serve (requests : List (Request α)) :
    (Store.serve Store.respond store requests).1 = (Store.serve Ledger.respond ledger requests).1 ∧
      (Store.serve Store.respond store requests).2.Keeps
        (Store.serve Ledger.respond ledger requests).2 := by
  induction requests generalizing store ledger with
  | nil => exact ⟨rfl, keeps⟩
  | cons request rest ih =>
    obtain ⟨answer, kept⟩ := keeps.respond request
    obtain ⟨answers, keptLater⟩ := ih kept
    exact ⟨congrArg₂ List.cons answer answers, keptLater⟩

end Keeps

/-! ## Handles that are dead -/

/-- A handle is dead: it was given out and names nothing. -/
def Retired (store : Store α) (handle : Nat) : Prop :=
  handle < store.next ∧ store.get? handle = none

/-- A removal leaves a handle that was given out dead. -/
theorem retired_remove {store : Store α} {handle : Nat} (issued : handle < store.next) :
    (store.remove handle).2.Retired handle := by
  refine ⟨(next_remove store handle).symm ▸ issued, ?_⟩
  rw [get?_remove, if_pos rfl]

/-- No value is put in the place of a dead handle, and replacing another keeps it dead. -/
theorem Retired.replace {store changed : Store α} {handle target : Nat} {value : α}
    (retired : store.Retired handle) (done : store.replace? target value = some changed) :
    changed.Retired handle := by
  have live := store.replace?_isSome target value
  rw [done, Option.isSome_some] at live
  have apart : handle ≠ target := by
    rintro rfl
    simp [contains, retired.2] at live
  refine ⟨(size_replace? done).2.symm ▸ retired.1, ?_⟩
  rw [get?_replace? done, if_neg apart, retired.2]

/-- No request brings a dead handle back. -/
theorem Retired.respond {store : Store α} {handle : Nat} (retired : store.Retired handle)
    (request : Request α) : (store.respond request).2.Retired handle := by
  cases request with
  | push value =>
    refine ⟨Nat.lt_succ_of_lt retired.1 |>.trans_eq (next_push store value).symm, ?_⟩
    rw [Store.respond, get?_push, if_neg (Nat.ne_of_lt retired.1), retired.2]
  | remove target =>
    refine ⟨retired.1.trans_eq (next_remove store target).symm, ?_⟩
    rw [Store.respond, get?_remove, retired.2, ite_self]
  | replace target value =>
    cases done : store.replace? target value with
    | none => simpa only [Store.respond, done] using retired
    | some changed => simpa only [Store.respond, done] using retired.replace done
  | set target value =>
    cases done : store.replace? target value with
    | none => simpa only [Store.respond, Store.set, done] using retired
    | some changed => simpa only [Store.respond, Store.set, done] using retired.replace done
  | find | get | contains | size | isEmpty | next | entries => exact retired

/-- A dead handle stays dead, whatever is asked. -/
theorem Retired.serve {store : Store α} {handle : Nat} (retired : store.Retired handle)
    (requests : List (Request α)) : (Store.serve Store.respond store requests).2.Retired handle := by
  induction requests generalizing store with
  | nil => exact retired
  | cons request rest ih => exact ih (retired.respond request)

end Store

namespace Graph

/-- A handle that was given out stays given out. -/
theorem stable_issued (id : Nat) : Stable fun graph => graph.Mirrored ∧ id < graph.next := by
  refine stable_of_changes fun graph changed issued changes => ?_
  cases changes with
  | stays => exact issued
  | adds adds => exact adds.next.symm ▸ Nat.lt_succ_of_lt issued
  | redirects redirects => exact redirects.next.symm ▸ issued
  | drops drops => exact drops.next.symm ▸ issued

/-- A node that is gone stays gone. -/
theorem stable_retired (id : Nat) : Stable fun graph => graph.Mirrored ∧ graph.Retired id := by
  refine stable_of_changes fun graph changed retired changes => ?_
  cases changes with
  | stays => exact retired
  | adds adds => exact (Accounts.of_adds adds).retired id retired
  | redirects redirects => exact (Accounts.of_redirects redirects).retired id retired
  | drops drops =>
    refine ⟨drops.next.symm ▸ retired.1, ?_⟩
    rw [drops.frames, retired.2, ite_self]

/-- A node that was live and is gone is not live after any further actions. -/
theorem contains_after_eq_false {before between : List Action} {id : Nat}
    (live : (after before).contains id = true)
    (gone : (after (before ++ between)).contains id = false) (later : List Action) :
    (after (before ++ between ++ later)).contains id = false := by
  obtain ⟨frame, found⟩ := contains_iff.mp live
  have issued : id < (after (before ++ between)).next := by
    have start := And.intro (mirrored_after before) (lt_next_of_frame? found)
    rw [after_append]
    exact ((stable_issued id).leaveAll between start).2
  have retired : (after (before ++ between)).Retired id :=
    ⟨issued, contains_eq_false_iff.mp gone⟩
  have kept := (stable_retired id).leaveAll later ⟨mirrored_after _, retired⟩
  rw [after_append]
  exact contains_eq_false_iff.mpr kept.2.2

end Graph

namespace Store

/-- A store that started empty answers any sequence of requests as a finite map with a counter does,
and holds the bindings of that map, which its entries list in increasing order of handle. A handle
that was given out and is removed is dead after all further requests; in a graph, a node that was
live and is gone is not live after any further actions. -/
theorem serves_as_ledger {α : Type} :
    (∀ requests : List (Request α),
        (serve respond .empty requests).1 = (serve Ledger.respond .empty requests).1 ∧
        (after requests).next = (Ledger.after requests).next ∧
        (∀ handle, (after requests).get? handle = (Ledger.after requests).bindings[handle]?) ∧
        ((after requests).entries.map Prod.fst).Pairwise (· < ·) ∧
        ∀ handle value, (handle, value) ∈ (after requests).entries ↔
          (Ledger.after requests).bindings[handle]? = some value) ∧
      (∀ (before later : List (Request α)) (handle : Nat), handle < (after before).next →
        (after (before ++ .remove handle :: later)).contains handle = false ∧
        (after (before ++ .remove handle :: later)).get? handle = none) ∧
      ∀ (before between later : List Action) (id : Nat), (Graph.after before).contains id = true →
        (Graph.after (before ++ between)).contains id = false →
        (Graph.after (before ++ between ++ later)).contains id = false := by
  refine ⟨fun requests => ?_, fun before later handle issued => ?_,
    fun before between later id live gone => Graph.contains_after_eq_false live gone later⟩
  · obtain ⟨answers, keeps⟩ := (keeps_empty (α := α)).serve requests
    refine ⟨answers, keeps.next, keeps.get?, increasing_entries _, fun handle value => ?_⟩
    rw [mem_entries]
    exact Eq.congr (keeps.get? handle) rfl
  · have dead : (after (before ++ .remove handle :: later)).Retired handle := by
      rw [after, serve_append]
      exact (retired_remove issued).serve later
    refine ⟨?_, dead.2⟩
    rw [contains, dead.2, Option.isSome_none]

/-- A value is removed before another one is added, and so is an input of a graph: both stay gone,
and the new ones are live under the next handle. -/
theorem serves_as_ledger_firstReplaced :
    let input := Action.addParameter "input" (.fixed .f32 [1])
    (0 < (after [.push 'a']).next ∧ (after [.push 'a', .remove 0, .push 'b']).contains 0 = false ∧
      (after [.push 'a', .remove 0, .push 'b']).get? 1 = some 'b') ∧
    (Graph.after [input]).contains 0 = true ∧
      (Graph.after [input, .removeNode 0]).contains 0 = false ∧
      (Graph.after [input, .removeNode 0, input]).contains 0 = false ∧
      (Graph.after [input, .removeNode 0, input]).contains 1 = true := by
  intro input
  have issued : 0 < (after [.push 'a']).next := by decide
  have live : (Graph.after [input]).contains 0 = true := by decide +kernel
  have gone : (Graph.after [input, .removeNode 0]).contains 0 = false := by decide +kernel
  obtain ⟨-, values, nodes⟩ := serves_as_ledger (α := Char)
  exact ⟨⟨issued, (values [.push 'a'] [.push 'b'] 0 issued).1, by decide⟩, live, gone,
    nodes [input] [.removeNode 0] [input] 0 live gone, by decide +kernel⟩

end Store

end GatherFusion

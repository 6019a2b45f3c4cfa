/-!
# A store with handles that are never reused

Values live in numbered slots. A new value always takes a fresh slot, and a removed value leaves its
slot empty for ever, so a handle that has gone dead can never come to name a different value. The
number of live values is kept beside the slots and agrees with them by construction.

A handle is the number of a slot. The view of a store is `get?`; each operation is described by what
it does to that view.
-/
namespace GatherFusion

/-- Values in numbered slots, some of them retired. -/
structure Store (α : Type) where
  /-- Every slot ever handed out; a retired slot is empty. -/
  slots : Array (Option α)
  /-- Number of live values. -/
  size : Nat
  /-- The count agrees with the slots. -/
  size_eq : size = slots.countP Option.isSome

namespace Store

variable {α : Type}

/-- A store without slots. -/
def empty : Store α := ⟨#[], 0, rfl⟩

/-- The store without slots is the default. -/
instance : Inhabited (Store α) := ⟨empty⟩

/-- The written form of a handle: its number between square brackets. -/
def handleText (handle : Nat) : String := s!"[{handle}]"

/-- The handle the next new value receives. -/
def next (store : Store α) : Nat := store.slots.size

/-- The value a handle names, if it is live. -/
def get? (store : Store α) (handle : Nat) : Option α := store.slots[handle]?.join

/-- Whether a handle names a live value. -/
def contains (store : Store α) (handle : Nat) : Bool := (store.get? handle).isSome

/-- Whether no value is live. -/
def isEmpty (store : Store α) : Bool := store.size == 0

/-- Add a value in a fresh slot. -/
def push (store : Store α) (value : α) : Nat × Store α :=
  (store.next, {
    slots := store.slots.push (some value)
    size := store.size + 1
    size_eq := by simp [store.size_eq] })

/-- Overwriting one live slot moves the count by what the new content adds or takes away. -/
theorem countP_overwrite {store : Store α} {handle : Nat} {old : α}
    (found : store.get? handle = some old) (content : Option α) :
    (store.slots.setIfInBounds handle content).countP Option.isSome + 1 =
      store.slots.countP Option.isSome + (if content.isSome then 1 else 0) := by
  simp only [get?, Option.join_eq_some_iff, Array.getElem?_eq_some_iff] at found
  obtain ⟨inside, same⟩ := found
  have positive : 0 < store.slots.countP Option.isSome :=
    Array.countP_pos_iff.mpr ⟨some old, same ▸ Array.getElem_mem inside, rfl⟩
  simp only [Array.setIfInBounds, inside, ↓reduceDIte, Array.countP_set, same, Option.isSome_some,
    ↓reduceIte]
  omega

/-- Put a value in the place of a live one. A dead handle is refused. -/
def replace? (store : Store α) (handle : Nat) (value : α) : Option (Store α) :=
  match found : store.get? handle with
  | none => none
  | some _ => some {
      slots := store.slots.setIfInBounds handle (some value)
      size := store.size
      size_eq := by
        have counted := countP_overwrite found (some value)
        have size := store.size_eq
        simp only [Option.isSome_some, ↓reduceIte] at counted
        omega }

/-- Retire a slot, returning the value that was live there. A dead handle changes nothing. -/
def remove (store : Store α) (handle : Nat) : Option α × Store α :=
  match found : store.get? handle with
  | none => (none, store)
  | some value => (some value, {
      slots := store.slots.setIfInBounds handle none
      size := store.size - 1
      size_eq := by
        have counted := countP_overwrite found none
        have size := store.size_eq
        simp only [Option.isSome_none, Bool.false_eq_true, ↓reduceIte] at counted
        omega })

/-- The live values with their handles, in increasing order of handle. -/
def entries (store : Store α) : List (Nat × α) :=
  store.slots.toList.zipIdx.filterMap fun (slot, handle) => slot.map fun value => (handle, value)

/-! ## The view of each operation -/

/-- Nothing is live in an empty store. -/
@[simp] theorem get?_empty (handle : Nat) : (empty : Store α).get? handle = none := by
  simp [empty, get?]

/-- A new value is found at the fresh handle, every other handle is as before. -/
theorem get?_push (store : Store α) (value : α) (handle : Nat) :
    (store.push value).2.get? handle = if handle = store.next then some value
      else store.get? handle := by
  by_cases fresh : handle = store.slots.size <;>
    simp [push, get?, next, Array.getElem?_push, fresh]

/-- The handle of a new value is the one announced. -/
@[simp] theorem push_fst (store : Store α) (value : α) : (store.push value).1 = store.next := rfl

/-- A new value uses up one handle. -/
@[simp] theorem next_push (store : Store α) (value : α) :
    (store.push value).2.next = store.next + 1 := by
  simp [push, next]

/-- Live handles are below the next one. -/
theorem lt_next_of_get? {store : Store α} {handle : Nat} {value : α}
    (found : store.get? handle = some value) : handle < store.next := by
  simp only [get?, Option.join_eq_some_iff, Array.getElem?_eq_some_iff] at found
  exact found.1

/-- Replacement succeeds exactly on live handles. -/
theorem replace?_isSome (store : Store α) (handle : Nat) (value : α) :
    (store.replace? handle value).isSome = store.contains handle := by
  unfold replace? contains
  split <;> simp_all

/-- Replacement changes the named value and no other. -/
theorem get?_replace? {store changed : Store α} {target : Nat} {value : α}
    (done : store.replace? target value = some changed) (handle : Nat) :
    changed.get? handle = if handle = target then some value else store.get? handle := by
  unfold replace? at done
  split at done
  · contradiction
  · rename_i found
    have inside := lt_next_of_get? found
    simp only [next] at inside
    cases done
    simp only [get?, Array.getElem?_setIfInBounds]
    by_cases same : target = handle
    · subst same
      simp [inside]
    · simp [same, Ne.symm same]

/-- Replacement keeps the live count and the next handle. -/
theorem size_replace? {store changed : Store α} {target : Nat} {value : α}
    (done : store.replace? target value = some changed) :
    changed.size = store.size ∧ changed.next = store.next := by
  unfold replace? at done
  split at done
  · contradiction
  · cases done
    simp [next]

/-- Removal returns what was live at the handle. -/
@[simp] theorem remove_fst (store : Store α) (handle : Nat) :
    (store.remove handle).1 = store.get? handle := by
  unfold remove
  split <;> simp_all

/-- After removal the handle is dead and every other handle is as before. -/
theorem get?_remove (store : Store α) (target handle : Nat) :
    (store.remove target).2.get? handle = if handle = target then none
      else store.get? handle := by
  unfold remove
  split
  · rename_i dead
    split
    · simp_all
    · rfl
  · simp only [get?, Array.getElem?_setIfInBounds]
    by_cases same : target = handle
    · subst same
      simp only [↓reduceIte]
      split <;> rfl
    · simp [same, Ne.symm same]

/-- Removing a live value lowers the live count by one. -/
theorem size_remove {store : Store α} {handle : Nat} {value : α}
    (found : store.get? handle = some value) :
    (store.remove handle).2.size + 1 = store.size := by
  have counted := countP_overwrite found none
  have size := store.size_eq
  simp only [Option.isSome_none, Bool.false_eq_true, ↓reduceIte] at counted
  unfold remove
  split
  · simp_all
  · simp only
    omega

/-- Removal keeps the next handle. -/
@[simp] theorem next_remove (store : Store α) (handle : Nat) :
    (store.remove handle).2.next = store.next := by
  unfold remove
  split <;> simp [next]

/-- The entries are exactly the live values under their handles. -/
@[simp] theorem mem_entries {store : Store α} {handle : Nat} {value : α} :
    (handle, value) ∈ store.entries ↔ store.get? handle = some value := by
  simp only [entries, get?, List.mem_filterMap, Prod.exists, Option.map_eq_some_iff,
    Prod.mk.injEq, List.mem_zipIdx_iff_getElem?, Array.getElem?_toList, Option.join_eq_some_iff]
  constructor
  · rintro ⟨slot, position, found, content, rfl, rfl, rfl⟩
    exact found
  · intro found
    exact ⟨some value, handle, found, value, rfl, rfl, rfl⟩

/-- There are as many entries as live values. -/
theorem length_entries (store : Store α) : store.entries.length = store.size := by
  have counted : store.slots.toList.zipIdx.countP (fun pair => pair.1.isSome) =
      store.slots.toList.countP Option.isSome := by
    rw [← List.zipIdx_map_fst 0 store.slots.toList, List.countP_map, List.zipIdx_map_fst]
    rfl
  rw [store.size_eq, ← Array.countP_toList, ← counted, entries, List.length_filterMap_eq_countP]
  simp only [Option.isSome_map]

/-- The entries come in increasing order of handle. -/
theorem increasing_entries (store : Store α) :
    (store.entries.map Prod.fst).Pairwise (· < ·) := by
  have handles : (store.slots.toList.zipIdx.map Prod.snd).Pairwise (· < ·) := by
    rw [List.zipIdx_map_snd]
    exact List.pairwise_lt_range'
  rw [List.pairwise_map] at handles ⊢
  rw [entries, List.pairwise_filterMap]
  refine handles.imp fun below entry same other again => ?_
  obtain ⟨_, -, rfl⟩ := Option.map_eq_some_iff.mp same
  obtain ⟨_, -, rfl⟩ := Option.map_eq_some_iff.mp again
  exact below

/-- A store is determined by its view and the handles it has given out. -/
theorem ext_get? {left right : Store α} (next : left.next = right.next)
    (same : ∀ handle, left.get? handle = right.get? handle) : left = right := by
  obtain ⟨leftSlots, leftSize, leftCount⟩ := left
  obtain ⟨rightSlots, rightSize, rightCount⟩ := right
  have slots : leftSlots = rightSlots := by
    refine Array.ext next fun handle inside insideToo => ?_
    simpa [get?, inside, insideToo] using same handle
  subst slots
  rw [Store.mk.injEq]
  exact ⟨rfl, leftCount.trans rightCount.symm⟩

end Store

end GatherFusion

/-!
# Finite sets in increasing order

A finite set is the strictly increasing list of its members, so two sets with the same members are
equal (`OrderedSet.ext_mem`) and running through a set visits its members in order. The order is
given by the class `StrictOrder`.
-/
namespace GatherFusion

/-- A decidable strict total order. -/
class StrictOrder (α : Type) extends LT α where
  /-- The order can be decided. -/
  decidable : DecidableRel (α := α) (· < ·)
  /-- Nothing is below itself. -/
  irrefl : ∀ a : α, ¬ a < a
  /-- The order is transitive. -/
  trans : ∀ {a b c : α}, a < b → b < c → a < c
  /-- Different elements are comparable. -/
  total : ∀ {a b : α}, ¬ a < b → a ≠ b → b < a

/-- The order of a strict order can be decided. -/
instance StrictOrder.decidableLt {α : Type} [order : StrictOrder α] :
    DecidableRel (α := α) (· < ·) := order.decidable

/-- Numbers in their usual order. -/
instance : StrictOrder Nat where
  decidable := inferInstance
  irrefl := Nat.lt_irrefl
  trans := Nat.lt_trans
  total := by omega

/-- A finite set, held as the increasing list of its members. -/
structure OrderedSet (α : Type) [StrictOrder α] where
  /-- The members in increasing order. -/
  toList : List α
  /-- No member is repeated and none is out of order. -/
  increasing : toList.Pairwise (· < ·)

namespace OrderedSet

variable {α : Type} [StrictOrder α]

/-- A set contains what its list contains. -/
instance : Membership α (OrderedSet α) := ⟨fun set member => member ∈ set.toList⟩

/-- Membership is membership in the list. -/
@[simp] theorem mem_toList {set : OrderedSet α} {member : α} :
    member ∈ set.toList ↔ member ∈ set := Iff.rfl

/-- Membership is decided by looking through the list. -/
instance [DecidableEq α] (member : α) (set : OrderedSet α) : Decidable (member ∈ set) :=
  inferInstanceAs (Decidable (member ∈ set.toList))

/-- The set without members. -/
def empty : OrderedSet α := ⟨[], .nil⟩

/-- The set without members is the default. -/
instance : Inhabited (OrderedSet α) := ⟨empty⟩

/-- Number of members. -/
def size (set : OrderedSet α) : Nat := set.toList.length

/-- Whether there are no members. -/
def isEmpty (set : OrderedSet α) : Bool := set.toList.isEmpty

variable [DecidableEq α]

/-- Insert into an increasing list, keeping it increasing. -/
def insertInto (member : α) : List α → List α
  | [] => [member]
  | first :: rest =>
    if member < first then member :: first :: rest
    else if member = first then first :: rest
    else first :: insertInto member rest

/-- The members after insertion. -/
theorem mem_insertInto {member other : α} {list : List α} :
    other ∈ insertInto member list ↔ other = member ∨ other ∈ list := by
  induction list with
  | nil => simp [insertInto]
  | cons first rest ih =>
    simp only [insertInto]
    split
    · simp
    · split
      · rename_i same
        subst same
        simp
      · simp only [List.mem_cons, ih]
        constructor
        · rintro (h | h | h) <;> simp [h]
        · rintro (h | h | h) <;> simp [h]

/-- Insertion keeps a list increasing. -/
theorem increasing_insertInto (member : α) {list : List α}
    (increasing : list.Pairwise (· < ·)) : (insertInto member list).Pairwise (· < ·) := by
  induction list with
  | nil => simp [insertInto]
  | cons first rest ih =>
    have ⟨above, tail⟩ := List.pairwise_cons.mp increasing
    simp only [insertInto]
    split
    · rename_i below
      refine List.pairwise_cons.mpr ⟨fun other mem => ?_, increasing⟩
      rcases List.mem_cons.mp mem with rfl | mem
      · exact below
      · exact StrictOrder.trans below (above other mem)
    · split
      · exact increasing
      · rename_i notBelow different
        refine List.pairwise_cons.mpr ⟨fun other mem => ?_, ih tail⟩
        rcases mem_insertInto.mp mem with rfl | mem
        · exact StrictOrder.total notBelow different
        · exact above other mem

/-- Insertion adds at most one member. -/
theorem length_insertInto_le (member : α) (list : List α) :
    (insertInto member list).length ≤ list.length + 1 := by
  induction list with
  | nil => simp [insertInto]
  | cons first rest ih =>
    simp only [insertInto]
    split
    · simp
    · split
      · simp
      · simp only [List.length_cons]
        omega

/-- Add a member. -/
def insert (set : OrderedSet α) (member : α) : OrderedSet α :=
  ⟨insertInto member set.toList, increasing_insertInto member set.increasing⟩

/-- Take a member away. -/
def erase (set : OrderedSet α) (member : α) : OrderedSet α :=
  ⟨set.toList.filter fun other => other != member, set.increasing.filter _⟩

/-- Add every member of a list. -/
def insertAll (set : OrderedSet α) (members : List α) : OrderedSet α :=
  members.foldl insert set

/-- The least member and the set of the others. -/
def takeLeast? (set : OrderedSet α) : Option (α × OrderedSet α) :=
  match set with
  | ⟨[], _⟩ => none
  | ⟨least :: rest, increasing⟩ => some (least, ⟨rest, (List.pairwise_cons.mp increasing).2⟩)

/-! ## Members of each result -/

omit [DecidableEq α] in
/-- The empty set has no members. -/
@[simp] theorem not_mem_empty (member : α) : member ∉ (empty : OrderedSet α) := by
  simp [← mem_toList, empty]

/-- Insertion adds exactly the new member. -/
@[simp] theorem mem_insert {set : OrderedSet α} {member other : α} :
    other ∈ set.insert member ↔ other = member ∨ other ∈ set := mem_insertInto

/-- Erasure takes away exactly the named member. -/
@[simp] theorem mem_erase {set : OrderedSet α} {member other : α} :
    other ∈ set.erase member ↔ other ∈ set ∧ other ≠ member := by
  simp only [← mem_toList, erase, List.mem_filter, bne_iff_ne]

/-- Adding a list adds exactly its members. -/
@[simp] theorem mem_insertAll {set : OrderedSet α} {members : List α} {other : α} :
    other ∈ set.insertAll members ↔ other ∈ members ∨ other ∈ set := by
  unfold insertAll
  induction members generalizing set with
  | nil => simp
  | cons member rest ih =>
    rw [List.foldl_cons, ih, mem_insert, List.mem_cons]
    constructor
    · rintro (h | h | h) <;> simp [h]
    · rintro ((h | h) | h) <;> simp [h]

/-- Insertion adds at most one to the size. -/
theorem size_insert_le (set : OrderedSet α) (member : α) :
    (set.insert member).size ≤ set.size + 1 := length_insertInto_le member set.toList

omit [DecidableEq α] in
/-- The least member is the first in the list. -/
theorem toList_takeLeast? {set rest : OrderedSet α} {least : α}
    (taken : set.takeLeast? = some (least, rest)) : set.toList = least :: rest.toList := by
  obtain ⟨list, increasing⟩ := set
  cases list with
  | nil => simp [takeLeast?] at taken
  | cons first others =>
    simp only [takeLeast?, Option.some.injEq, Prod.mk.injEq] at taken
    obtain ⟨rfl, rfl⟩ := taken
    rfl

omit [DecidableEq α] in
/-- Taking the least member leaves one member less. -/
theorem size_takeLeast? {set rest : OrderedSet α} {least : α}
    (taken : set.takeLeast? = some (least, rest)) : rest.size + 1 = set.size := by
  rw [size, size, toList_takeLeast? taken, List.length_cons]

omit [DecidableEq α] in
/-- The list of a set repeats nothing. -/
theorem nodup_toList (set : OrderedSet α) : set.toList.Nodup := by
  refine set.increasing.imp ?_
  rintro left right below rfl
  exact StrictOrder.irrefl _ below

omit [DecidableEq α] in
/-- There is no least member exactly when there is no member. -/
theorem takeLeast?_eq_none_iff {set : OrderedSet α} :
    set.takeLeast? = none ↔ ∀ member, member ∉ set := by
  obtain ⟨list, increasing⟩ := set
  cases list with
  | nil => simp [takeLeast?, ← mem_toList]
  | cons first others =>
    simp only [takeLeast?, reduceCtorEq, false_iff]
    exact fun none => none first List.mem_cons_self

omit [DecidableEq α] in
/-- The least member is a member, and the others are the members above it. -/
theorem mem_takeLeast? {set rest : OrderedSet α} {least : α}
    (taken : set.takeLeast? = some (least, rest)) (member : α) :
    (member ∈ set ↔ member = least ∨ member ∈ rest) ∧ (member ∈ rest → least < member) := by
  have list := toList_takeLeast? taken
  have increasing := set.increasing
  rw [list] at increasing
  refine ⟨?_, (List.pairwise_cons.mp increasing).1 member⟩
  rw [← mem_toList, list, List.mem_cons, mem_toList]

omit [DecidableEq α] in
/-- Two increasing lists with the same members are the same list. -/
theorem eq_of_mem_iff {left right : List α} (leftIncreasing : left.Pairwise (· < ·))
    (rightIncreasing : right.Pairwise (· < ·)) (same : ∀ member, member ∈ left ↔ member ∈ right) :
    left = right := by
  induction left generalizing right with
  | nil =>
    cases right with
    | nil => rfl
    | cons first rest => exact absurd ((same first).mpr List.mem_cons_self) List.not_mem_nil
  | cons first rest ih =>
    have ⟨above, tail⟩ := List.pairwise_cons.mp leftIncreasing
    cases right with
    | nil => exact absurd ((same first).mp List.mem_cons_self) List.not_mem_nil
    | cons other others =>
      have ⟨otherAbove, otherTail⟩ := List.pairwise_cons.mp rightIncreasing
      have heads : first = other := by
        rcases List.mem_cons.mp ((same first).mp List.mem_cons_self) with h | firstLater
        · exact h
        · rcases List.mem_cons.mp ((same other).mpr List.mem_cons_self) with h | otherLater
          · exact h.symm
          · exact absurd (StrictOrder.trans (above other otherLater) (otherAbove first firstLater))
              (StrictOrder.irrefl first)
      subst heads
      congr 1
      refine ih tail otherTail fun member => ⟨fun mem => ?_, fun mem => ?_⟩
      · rcases List.mem_cons.mp ((same member).mp (List.mem_cons_of_mem _ mem)) with rfl | h
        · exact absurd (above _ mem) (StrictOrder.irrefl _)
        · exact h
      · rcases List.mem_cons.mp ((same member).mpr (List.mem_cons_of_mem _ mem)) with rfl | h
        · exact absurd (otherAbove _ mem) (StrictOrder.irrefl _)
        · exact h

omit [DecidableEq α] in
/-- A set is determined by its members. -/
theorem ext_mem {left right : OrderedSet α} (same : ∀ member, member ∈ left ↔ member ∈ right) :
    left = right := by
  obtain ⟨leftList, leftIncreasing⟩ := left
  obtain ⟨rightList, rightIncreasing⟩ := right
  obtain rfl := eq_of_mem_iff leftIncreasing rightIncreasing same
  rfl

end OrderedSet

end GatherFusion

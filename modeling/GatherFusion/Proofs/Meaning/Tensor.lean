import GatherFusion.Tensor.Shape

/-!
# Tensors and broadcasting

A tensor is a run of cells in row-major order under its extents. Two tensors go together when their
dimensions, aligned at the innermost one, agree or are one; a tensor with a one in a dimension gives
the same cell along all of it. A tensor that spreads over another brings no extent of its own, and
then the position of the cell that meets a cell of the other is what the lemmas here work out.
-/
namespace GatherFusion

namespace Shape

/-- The number of elements is multiplicative. -/
theorem product_append (outer inner : List Nat) :
    product (outer ++ inner) = product outer * product inner :=
  List.prod_append

/-- The number of elements does not depend on the order of the extents. -/
theorem product_reverse (extents : List Nat) : product extents.reverse = product extents :=
  List.prod_reverse extents

/-! ## Aligned dimensions -/

/-- What two aligned dimensions give together. -/
def joinExtent (left right : Nat) : Option Nat :=
  if left = 1 then some right
  else if right = 1 ∨ right = left then some left
  else none

/-- What two lists of extents give together, innermost first; a missing dimension counts as one. -/
def joinInner : List Nat → List Nat → Option (List Nat)
  | [], right => some right
  | left, [] => some left
  | left :: lefts, right :: rights => do
    let extent ← joinExtent left right
    let rest ← joinInner lefts rights
    pure (extent :: rest)

/-- What two lists of extents give together, outermost first. -/
def join (left right : List Nat) : Option (List Nat) :=
  (joinInner left.reverse right.reverse).map List.reverse

/-- The position in a part that meets a position in the whole, the extents innermost first. -/
def meetInner : List Nat → List Nat → Nat → Nat
  | extent :: part, bound :: whole, position =>
    (if extent = 1 then 0 else position % bound) + extent * meetInner part whole (position / bound)
  | _, _, _ => 0

/-- The position in a part that meets a position in the whole. -/
def meet (part whole : List Nat) (position : Nat) : Nat :=
  meetInner part.reverse whole.reverse position

/-- Each extent of a part is one or that of the whole, innermost first. -/
inductive SpreadsInner : List Nat → List Nat → Prop where
  /-- Missing dimensions count as one. -/
  | done (whole : List Nat) : SpreadsInner [] whole
  /-- A dimension fits. -/
  | step {extent bound : Nat} {part whole : List Nat} (fits : extent = 1 ∨ extent = bound)
    (rest : SpreadsInner part whole) : SpreadsInner (extent :: part) (bound :: whole)

/-- A part spreads over a whole when it brings no extent of its own. -/
def Spreads (part whole : List Nat) : Prop := SpreadsInner part.reverse whole.reverse

/-- A part that spreads over a whole gives the whole together with it, in either order. -/
theorem SpreadsInner.joinInner_eq {part whole : List Nat} (spreads : SpreadsInner part whole) :
    joinInner part whole = some whole ∧ joinInner whole part = some whole := by
  induction spreads with
  | done whole => cases whole <;> exact ⟨rfl, rfl⟩
  | @step extent bound part whole fits rest ih =>
    have before : joinExtent extent bound = some bound := by
      unfold joinExtent
      rcases fits with rfl | rfl
      · exact if_pos rfl
      · by_cases one : extent = 1
        · rw [if_pos one]
        · rw [if_neg one, if_pos (.inr rfl)]
    have after : joinExtent bound extent = some bound := by
      unfold joinExtent
      by_cases one : bound = 1
      · rw [if_pos one]
        rcases fits with rfl | rfl
        · rw [one]
        · rfl
      · rw [if_neg one, if_pos fits]
    simp [joinInner, before, after, ih.1, ih.2]

/-- A part that spreads over a whole gives the whole together with it, in either order. -/
theorem Spreads.join_eq {part whole : List Nat} (spreads : Spreads part whole) :
    join part whole = some whole ∧ join whole part = some whole := by
  simp [join, spreads.joinInner_eq]

/-- The whole spreads over itself. -/
theorem spreadsInner_self (whole : List Nat) : SpreadsInner whole whole := by
  induction whole with
  | nil => exact .done []
  | cons bound whole ih => exact .step (.inr rfl) ih

/-- In the whole every position meets itself. -/
theorem meetInner_self (whole : List Nat) {position : Nat} (inside : position < product whole) :
    meetInner whole whole position = position := by
  induction whole generalizing position with
  | nil =>
    have single : position < 1 := inside
    simp only [meetInner]
    omega
  | cons bound whole ih =>
    have outer : position / bound < product whole := Nat.div_lt_of_lt_mul inside
    rw [meetInner, ih outer]
    by_cases one : bound = 1
    · rw [if_pos one, one, Nat.div_one]
      omega
    · rw [if_neg one]
      exact Nat.mod_add_div position bound

/-- In the whole every position meets itself. -/
theorem meet_self (whole : List Nat) {position : Nat} (inside : position < product whole) :
    meet whole whole position = position :=
  meetInner_self _ (by rwa [product_reverse])

/-! ## Dimensions of extent one -/

/-- Extents of one in front of a part do not keep it from spreading. -/
theorem spreadsInner_ones_append {ones inner part whole : List Nat}
    (single : ∀ extent ∈ ones, extent = 1) (aligned : ones.length = inner.length)
    (spreads : SpreadsInner part whole) : SpreadsInner (ones ++ part) (inner ++ whole) := by
  induction ones generalizing inner with
  | nil =>
    obtain rfl := List.length_eq_zero_iff.mp aligned.symm
    exact spreads
  | cons one ones ih =>
    cases inner with
    | nil => contradiction
    | cons bound inner =>
      refine .step (.inl (single one List.mem_cons_self)) (ih ?_ (Nat.succ.inj aligned))
      exact fun extent inside => single extent (List.mem_cons_of_mem _ inside)

/-- Extents of one in front of a part pass over the innermost dimensions of the whole. -/
theorem meetInner_ones_append {ones inner : List Nat} (part whole : List Nat) (position : Nat)
    (single : ∀ extent ∈ ones, extent = 1) (aligned : ones.length = inner.length) :
    meetInner (ones ++ part) (inner ++ whole) position =
      meetInner part whole (position / product inner) := by
  induction ones generalizing inner position with
  | nil =>
    obtain rfl := List.length_eq_zero_iff.mp aligned.symm
    exact congrArg _ (Nat.div_one position).symm
  | cons one ones ih =>
    cases inner with
    | nil => contradiction
    | cons bound inner =>
      have first : one = 1 := single one List.mem_cons_self
      have later : ∀ extent ∈ ones, extent = 1 :=
        fun extent inside => single extent (List.mem_cons_of_mem _ inside)
      simp only [List.cons_append, meetInner, if_pos first]
      rw [ih _ later (Nat.succ.inj aligned), first, Nat.div_div_eq_div_mul]
      simp [product]

/-- A part that has the outer extents of the whole and ones behind them spreads over the whole, and
a position meets that of its outer dimensions. -/
theorem spreads_append_ones (outer : List Nat) {inner ones : List Nat}
    (single : ∀ extent ∈ ones, extent = 1) (aligned : ones.length = inner.length) :
    Spreads (outer ++ ones) (outer ++ inner) ∧ ∀ position, position < product (outer ++ inner) →
      meet (outer ++ ones) (outer ++ inner) position = position / product inner := by
  have reversed : ∀ extent ∈ ones.reverse, extent = 1 :=
    fun extent inside => single extent (List.mem_reverse.mp inside)
  have lengths : ones.reverse.length = inner.reverse.length := by simpa using aligned
  constructor
  · simp only [Spreads, List.reverse_append]
    exact spreadsInner_ones_append reversed lengths (spreadsInner_self _)
  · intro position inside
    simp only [meet, List.reverse_append]
    rw [meetInner_ones_append _ _ _ reversed lengths, product_reverse]
    refine meetInner_self _ ?_
    rw [product_reverse]
    refine Nat.div_lt_of_lt_mul ?_
    rwa [product_append, Nat.mul_comm] at inside

/-- All extents of a single element are one. -/
theorem eq_one_of_product {extents : List Nat} (single : product extents = 1) :
    ∀ extent ∈ extents, extent = 1 := by
  induction extents with
  | nil => simp
  | cons first rest ih =>
    have split : first * product rest = 1 := single
    intro extent inside
    rcases List.mem_cons.mp inside with rfl | later
    · exact Nat.eq_one_of_mul_eq_one_right split
    · exact ih (Nat.eq_one_of_mul_eq_one_left split) extent later

/-- A single element spreads over everything of at least as many dimensions, and every position
meets it. -/
theorem spreads_of_product {extents whole : List Nat} (single : product extents = 1)
    (short : extents.length ≤ whole.length) :
    Spreads extents whole ∧ ∀ position, meet extents whole position = 0 := by
  have ones : ∀ extent ∈ extents.reverse, extent = 1 :=
    fun extent inside => eq_one_of_product single extent (List.mem_reverse.mp inside)
  have split := (List.take_append_drop extents.length whole.reverse).symm
  have aligned : extents.reverse.length = (whole.reverse.take extents.length).length := by
    simp only [List.length_reverse, List.length_take]
    omega
  have spreads := spreadsInner_ones_append ones aligned
    (.done (whole.reverse.drop extents.length))
  have meets (position : Nat) := meetInner_ones_append [] (whole.reverse.drop extents.length)
    position ones aligned
  rw [List.append_nil, ← split] at spreads
  refine ⟨spreads, fun position => ?_⟩
  rw [meet, ← List.append_nil extents.reverse, split, meets]
  rfl

end Shape

/-! ## Tensors -/

/-- A tensor over a set of values. -/
@[ext] structure Tensor (V : Type) where
  /-- The extents, outermost first. -/
  extents : List Nat
  /-- The cells in row-major order; a cell may be without a value. -/
  cell : Nat → Option V
  /-- There is nothing beyond the extents. -/
  outside : ∀ position, Shape.product extents ≤ position → cell position = none

namespace Tensor

variable {V : Type}

/-- The tensor of the given extents whose cells a function tells. -/
def tabulate (extents : List Nat) (cell : Nat → Option V) : Tensor V where
  extents := extents
  cell position := if position < Shape.product extents then cell position else none
  outside _ beyond := if_neg (Nat.not_lt.mpr beyond)

/-- Work on every cell by itself. -/
def map (work : V → V) (tensor : Tensor V) : Tensor V where
  extents := tensor.extents
  cell position := (tensor.cell position).map work
  outside position beyond := by rw [tensor.outside position beyond, Option.map_none]

/-- Work on two tensors cell by cell, if they go together. -/
def broadcast (work : V → V → V) (left right : Tensor V) : Option (Tensor V) :=
  (Shape.join left.extents right.extents).map fun extents =>
    tabulate extents fun position => do
      let one ← left.cell (Shape.meet left.extents extents position)
      let other ← right.cell (Shape.meet right.extents extents position)
      pure (work one other)

/-- Work on each cell of a whole with the cell of a part that meets it. -/
def spread (work : V → V → V) (whole part : Tensor V) : Tensor V :=
  tabulate whole.extents fun position => do
    let one ← whole.cell position
    let other ← part.cell (Shape.meet part.extents whole.extents position)
    pure (work one other)

/-- Work on every cell is work on each. -/
theorem cell_map (work : V → V) (tensor : Tensor V) (position : Nat) :
    (tensor.map work).cell position = (tensor.cell position).map work := rfl

/-- Tabulated cells within the extents are as told. -/
theorem cell_tabulate {extents : List Nat} (cell : Nat → Option V) {position : Nat}
    (inside : position < Shape.product extents) : (tabulate extents cell).cell position =
      cell position :=
  if_pos inside

/-- Tables that agree within the extents are the same tensor. -/
theorem tabulate_congr {extents : List Nat} {left right : Nat → Option V}
    (same : ∀ position, position < Shape.product extents → left position = right position) :
    tabulate extents left = tabulate extents right := by
  refine Tensor.ext rfl (funext fun position => ?_)
  simp only [tabulate]
  split
  · rename_i inside
    exact same position inside
  · rfl

/-- Work that changes no value changes no tensor. -/
theorem map_eq_self {work : V → V} (idle : ∀ value, work value = value) (tensor : Tensor V) :
    tensor.map work = tensor := by
  refine Tensor.ext rfl (funext fun position => ?_)
  have same : work = id := funext idle
  simp [map, same]

/-- Each cell of the whole is worked on with the cell of the part that meets it. -/
theorem cell_spread (work : V → V → V) {whole : Tensor V} (part : Tensor V) {position : Nat}
    (inside : position < Shape.product whole.extents) :
    (spread work whole part).cell position =
      (whole.cell position).bind fun one =>
        (part.cell (Shape.meet part.extents whole.extents position)).map (work one) := by
  refine (cell_tabulate _ inside).trans ?_
  cases whole.cell position <;> cases part.cell _ <;> rfl

/-- A part that spreads over a whole meets each of its cells, in either order. -/
theorem broadcast_eq_spread (work : V → V → V) {whole part : Tensor V}
    (spreads : Shape.Spreads part.extents whole.extents) :
    broadcast work whole part = some (spread work whole part) ∧
      broadcast work part whole = some (spread (fun one other => work other one) whole part) := by
  simp only [broadcast, spreads.join_eq, Option.map_some, Option.some.injEq, spread]
  constructor
  · refine tabulate_congr fun position inside => ?_
    rw [Shape.meet_self _ inside]
  · refine tabulate_congr fun position inside => ?_
    rw [Shape.meet_self _ inside]
    cases whole.cell position <;> cases part.cell _ <;> rfl

/-- A tensor carries what a port promises: its extents are those of the shape that are known. -/
def Conforms (tensor : Tensor V) (info : TensorInfo) : Prop :=
  info.shape.compatible (.fixed tensor.extents) = true

instance (tensor : Tensor V) (info : TensorInfo) : Decidable (tensor.Conforms info) :=
  inferInstanceAs (Decidable (_ = true))

/-- A tensor that carries what a port promises has the number of dimensions promised. -/
theorem Conforms.length_eq {tensor : Tensor V} {info : TensorInfo}
    (conforms : tensor.Conforms info) : tensor.extents.length = info.shape.rank := by
  simp only [Conforms, Shape.compatible, Bool.and_eq_true, beq_iff_eq] at conforms
  rw [conforms.1]
  simp [Shape.rank, Shape.fixed]

/-- A tensor that carries what a port promises has the extents promised where all are known. -/
theorem Conforms.extents_eq {tensor : Tensor V} {info : TensorInfo}
    (conforms : tensor.Conforms info) {extents : List Nat}
    (known : info.shape.extents? = some extents) : tensor.extents = extents := by
  simp only [Conforms, Shape.compatible, Shape.fixed, Shape.rank, Bool.and_eq_true, beq_iff_eq,
    List.length_map] at conforms
  obtain ⟨rank, dims⟩ := conforms
  simp only [Shape.extents?] at known
  generalize info.shape.dims = promised at *
  generalize tensor.extents = actual at *
  induction promised generalizing actual extents with
  | nil =>
    cases known
    exact List.length_eq_zero_iff.mp rank.symm
  | cons dim rest ih =>
    cases actual with
    | nil => contradiction
    | cons extent actual =>
      cases dim with
      | dynamic name => simp [Dimension.extent?] at known
      | fixed promise =>
        simp only [List.mapM_cons, Dimension.extent?, Option.bind_eq_bind, Option.bind_some,
          Option.bind_eq_some_iff, Option.pure_def, Option.some.injEq] at known
        obtain ⟨later, laterKnown, rfl⟩ := known
        simp only [List.map_cons, List.zip_cons_cons, List.all_cons, Dimension.compatible,
          Bool.and_eq_true, beq_iff_eq] at dims
        rw [dims.1, ih laterKnown actual (Nat.succ.inj rank) dims.2]

end Tensor

end GatherFusion

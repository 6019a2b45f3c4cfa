import GatherFusion.Tensor.Element

/-!
# Dimensions, shapes and tensor descriptions

A dimension is either a known extent or one that is only known when the program runs. A shape
has an element count exactly when all of its dimensions are known.
-/
namespace GatherFusion

/-- One dimension of a tensor. -/
inductive Dimension where
  /-- An extent known ahead of time. -/
  | fixed (extent : Nat)
  /-- An extent known only at run time, which may carry a name. -/
  | dynamic (name : Option String)
  deriving DecidableEq, Repr

namespace Dimension

/-- The extent, when it is known ahead of time. -/
def extent? : Dimension → Option Nat
  | fixed extent => some extent
  | dynamic _ => none

/-- Two dimensions are compatible unless both are known and differ. -/
def compatible : Dimension → Dimension → Bool
  | fixed left, fixed right => left == right
  | _, _ => true

/-- A known extent in decimal; otherwise the name, or a question mark for an unnamed dimension. -/
def text : Dimension → String
  | fixed extent => toString extent
  | dynamic (some name) => name
  | dynamic none => "?"

end Dimension

/-- The dimensions of a tensor, outermost first. -/
structure Shape where
  /-- One entry per dimension. -/
  dims : List Dimension
  deriving DecidableEq, Repr

namespace Shape

/-- The shape of a single value: no dimensions at all. -/
def scalar : Shape := ⟨[]⟩

/-- A shape whose extents are all known. -/
def fixed (extents : List Nat) : Shape := ⟨extents.map .fixed⟩

/-- Number of dimensions. -/
def rank (shape : Shape) : Nat := shape.dims.length

/-- All extents, when every one of them is known. -/
def extents? (shape : Shape) : Option (List Nat) := shape.dims.mapM Dimension.extent?

/-- The number of elements of a tensor with the given extents. -/
def product (extents : List Nat) : Nat := extents.foldr (· * ·) 1

/-- The number of elements, when every extent is known. -/
def count? (shape : Shape) : Option Nat := shape.extents?.map product

/-- Shapes are compatible when they have the same rank and their dimensions are pairwise so. -/
def compatible (left right : Shape) : Bool :=
  left.rank == right.rank && (left.dims.zip right.dims).all fun (a, b) => a.compatible b

/-- The dimensions between square brackets. -/
def text (shape : Shape) : String :=
  "[" ++ ", ".intercalate (shape.dims.map Dimension.text) ++ "]"

/-- A shape is shown in its written form. -/
instance : ToString Shape := ⟨text⟩

/-- Every extent of a shape built from known extents is known. -/
theorem extents?_fixed (extents : List Nat) : (fixed extents).extents? = some extents := by
  induction extents with
  | nil => rfl
  | cons extent rest ih =>
    simp only [extents?, fixed] at ih ⊢
    simp [ih, Dimension.extent?]

/-- A shape whose extents are all known is built from them. -/
theorem extents?_eq_some_iff {shape : Shape} {extents : List Nat} :
    shape.extents? = some extents ↔ shape = fixed extents := by
  constructor
  · obtain ⟨dims⟩ := shape
    intro known
    suffices dims = extents.map .fixed by rw [fixed, this]
    simp only [extents?] at known
    induction dims generalizing extents with
    | nil =>
      obtain rfl : [] = extents := Option.some.inj known
      rfl
    | cons dimension rest ih =>
      simp only [List.mapM_cons, Option.bind_eq_bind, Option.bind_eq_some_iff, Option.pure_def,
        Option.some.injEq] at known
      obtain ⟨extent, first, others, later, rfl⟩ := known
      cases dimension with
      | dynamic name => contradiction
      | fixed own =>
        obtain rfl : own = extent := Option.some.inj first
        rw [List.map_cons, ← ih later]
  · rintro rfl
    exact extents?_fixed extents

/-- The number of elements is known where the extents are. -/
theorem count?_fixed (extents : List Nat) : (fixed extents).count? = some (product extents) := by
  rw [count?, extents?_fixed, Option.map_some]

/-- A single value has one element. -/
theorem count?_scalar : scalar.count? = some 1 := rfl

end Shape

/-- What a port promises about the tensor it carries. -/
structure TensorInfo where
  /-- Type of every element. -/
  element : ElementType
  /-- Extents of the tensor. -/
  shape : Shape
  deriving DecidableEq, Repr

namespace TensorInfo

/-- A tensor whose extents are all known. -/
def fixed (element : ElementType) (extents : List Nat) : TensorInfo :=
  ⟨element, .fixed extents⟩

/-- The element type followed by the shape. -/
def text (info : TensorInfo) : String := info.element.text ++ info.shape.text

/-- A tensor description is shown in its written form. -/
instance : ToString TensorInfo := ⟨text⟩

end TensorInfo

end GatherFusion

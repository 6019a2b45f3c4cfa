/-!
# Element types

An element type is a kind together with a width in bits. Elements are packed without gaps, so a
run of elements occupies its bit count rounded up to whole bytes; four-bit elements share bytes in
pairs.
-/
namespace GatherFusion

/-- The family an element type belongs to. -/
inductive ElementKind where
  /-- Truth values. -/
  | boolean
  /-- Two's complement integers. -/
  | signed
  /-- Non-negative integers. -/
  | unsigned
  /-- Binary interchange floating point. -/
  | float
  /-- Floating point with the exponent range of single precision and a short fraction. -/
  | brainFloat
  deriving DecidableEq, Repr

namespace ElementKind

/-- The kind spelled out as a word. -/
def name : ElementKind → String
  | boolean => "bool"
  | signed => "sint"
  | unsigned => "uint"
  | float => "float"
  | brainFloat => "bfloat"

/-- The kind as the name of a variant, used in records. -/
def label : ElementKind → String
  | boolean => "Bool"
  | signed => "Sint"
  | unsigned => "Uint"
  | float => "Float"
  | brainFloat => "BFloat"

end ElementKind

/-- The type of a single tensor element. -/
structure ElementType where
  /-- The family of the type. -/
  kind : ElementKind
  /-- Width of one element in bits. -/
  bits : Nat
  deriving DecidableEq, Repr

namespace ElementType

/-- Truth values stored in whole bytes. -/
def bool : ElementType := ⟨.boolean, 8⟩
/-- Signed four-bit integers. -/
def i4 : ElementType := ⟨.signed, 4⟩
/-- Unsigned four-bit integers. -/
def u4 : ElementType := ⟨.unsigned, 4⟩
/-- Signed bytes. -/
def i8 : ElementType := ⟨.signed, 8⟩
/-- Unsigned bytes. -/
def u8 : ElementType := ⟨.unsigned, 8⟩
/-- Signed 32-bit integers. -/
def i32 : ElementType := ⟨.signed, 32⟩
/-- Unsigned 32-bit integers. -/
def u32 : ElementType := ⟨.unsigned, 32⟩
/-- Signed 64-bit integers. -/
def i64 : ElementType := ⟨.signed, 64⟩
/-- Half precision. -/
def f16 : ElementType := ⟨.float, 16⟩
/-- Brain floating point. -/
def bf16 : ElementType := ⟨.brainFloat, 16⟩
/-- Single precision. -/
def f32 : ElementType := ⟨.float, 32⟩

/-- Signed and unsigned types hold integers; truth values do not. -/
def isInteger (element : ElementType) : Bool :=
  match element.kind with
  | .signed | .unsigned => true
  | .boolean | .float | .brainFloat => false

/-- Both floating-point families count as float. -/
def isFloat (element : ElementType) : Bool :=
  match element.kind with
  | .float | .brainFloat => true
  | .boolean | .signed | .unsigned => false

/-- Whole bytes needed for `count` packed elements. -/
def byteLength (element : ElementType) (count : Nat) : Nat :=
  (count * element.bits + 7) / 8

/-- The short written form: a letter for the family, then the width. Truth values have no width. -/
def text (element : ElementType) : String :=
  match element.kind with
  | .boolean => "bool"
  | .signed => s!"i{element.bits}"
  | .unsigned => s!"u{element.bits}"
  | .float => s!"f{element.bits}"
  | .brainFloat => s!"bf{element.bits}"

/-- An element type is shown in its short form. -/
instance : ToString ElementType := ⟨text⟩

/-- The bytes hold every bit of the run, and there is no whole byte to spare. -/
theorem byteLength_tight (element : ElementType) (count : Nat) :
    count * element.bits ≤ 8 * element.byteLength count ∧
      8 * element.byteLength count < count * element.bits + 8 := by
  unfold byteLength
  omega

end ElementType

end GatherFusion

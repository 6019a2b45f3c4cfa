import GatherFusion.Operation
import GatherFusion.Tensor.Shape

/-!
# Quantization layouts and reasons for rejection

A layout says how the elements of a compressed table are restored: whether a zero point is
subtracted and which scale meets which element. A candidate whose layout cannot be recovered is
rejected with the first constraint it violates; the wording of every rejection is in
`Rejection.message`.
-/
namespace GatherFusion

/-- Whether the compressed values are shifted by a zero point. -/
inductive Encoding where
  /-- No zero point. -/
  | symmetric
  /-- A zero point is subtracted. -/
  | asymmetric
  deriving DecidableEq, Repr

/-- The encoding as the name of a variant. -/
def Encoding.label : Encoding → String
  | symmetric => "Symmetric"
  | asymmetric => "Asymmetric"

/-- The layout of a compressed table. -/
structure Layout where
  /-- Whether there is a zero point. -/
  encoding : Encoding
  /-- How finely the scale varies. -/
  granularity : Granularity
  deriving DecidableEq, Repr

/-- What a rejection speaks of, by its name in words. The constraints speak of the parts below; any
other name can be put into words as well. -/
structure Part where
  /-- The part in words. -/
  name : String
  deriving DecidableEq, Repr

namespace Part

/-- The constant scale. -/
def scale : Part := ⟨"scale"⟩
/-- The multiplication by the scale. -/
def multiply : Part := ⟨"multiply"⟩
/-- The subtraction of the zero point. -/
def subtract : Part := ⟨"subtract"⟩
/-- The zero point. -/
def zeroPoint : Part := ⟨"zero point"⟩
/-- The reshape of groups into rows. -/
def reshape : Part := ⟨"reshape"⟩
/-- The table as the lookup reads it. -/
def gatherData : Part := ⟨"gather data"⟩
/-- The conversion of the compressed table. -/
def weightConversion : Part := ⟨"weight conversion"⟩
/-- The last conversion. -/
def outputConversion : Part := ⟨"output conversion"⟩

end Part

/-- Why a recognized candidate is not fused. -/
inductive Rejection where
  /-- The table is not of an accepted element type. -/
  | unsupportedWeightType (element : ElementType)
  /-- The indices are not integers. -/
  | nonIntegerIndices (element : ElementType)
  /-- The table is not converted to floating point. -/
  | nonFloatDecompression (element : ElementType)
  /-- A part is of another element type than the rest of the arithmetic. -/
  | typeMismatch (part : Part) (expected found : ElementType)
  /-- The table has too few dimensions, or dimensions that are not known. -/
  | unsupportedRank (rank : Nat)
  /-- The lookup does not run over the rows of the table. -/
  | unsupportedAxis (axisValue : Int)
  /-- A part does not have the shape of the table. -/
  | shapeMismatch (part : Part) (expected found : Shape)
  /-- The shape of a scale or zero point fits no layout of the table. -/
  | unrecognizedLayout (part : Part) (shape weight : Shape)
  /-- Scale and zero point vary differently. -/
  | mixedGranularity (scale zeroPoint : Granularity)
  /-- The rows do not split into the groups of the table. -/
  | groupSizeMismatch (rowLength groups : Nat)
  /-- The reshape does not lay the groups of a row side by side. -/
  | unsupportedReshape (shape : Shape)
  /-- A scale or zero point is read by somebody else. -/
  | sharedConstant (part : Part)
  /-- The configuration leaves this lookup alone. -/
  | skipped
  deriving DecidableEq, Repr

namespace Rejection

/-- The wording of a rejection. -/
def message : Rejection → String
  | unsupportedWeightType element =>
    s!"weight type {element.text} is not a supported compressed type"
  | nonIntegerIndices element => s!"indices type {element.text} is not an integer type"
  | nonFloatDecompression element => s!"decompression produces non-float type {element.text}"
  | typeMismatch part expected found =>
    s!"{part.name} has type {found.text}, expected {expected.text}"
  | unsupportedRank rank => s!"weight rank {rank} is not supported"
  | unsupportedAxis axisValue => s!"gather axis {axisValue} does not select table rows"
  | shapeMismatch part expected found =>
    s!"{part.name} has shape {found.text}, expected {expected.text}"
  | unrecognizedLayout part shape weight =>
    s!"{part.name} shape {shape.text} matches no layout of weight {weight.text}"
  | mixedGranularity scale zeroPoint =>
    s!"zero point granularity {zeroPoint.text} differs from scale granularity {scale.text}"
  | groupSizeMismatch rowLength groups =>
    s!"row length {rowLength} does not split into {groups} groups"
  | unsupportedReshape shape => s!"reshape to {shape.text} does not flatten table rows"
  | sharedConstant part => s!"{part.name} is read outside the decompression chain"
  | skipped => "skipped by configuration"

end Rejection

end GatherFusion

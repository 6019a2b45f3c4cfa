import GatherFusion.Lookup.Candidate
import GatherFusion.Proofs.Meaning.Tensor

/-!
# What operations mean

An interpretation gives meaning to whatever the graph leaves open: the values of inputs and of packed
elements, the arithmetic on single values, and every operation that is not spelled out here. The
meaning of the operations a lookup in a compressed table is made of is fixed on top of that:
conversions work cell by cell, differences and products broadcast, a reshape keeps the row-major
order, and a lookup lays out a row of its table for every index.
-/
namespace GatherFusion

/-- What a node reads at one of its slots. -/
structure Operand (V : Type) where
  /-- What the port promises. -/
  info : TensorInfo
  /-- The integers behind the port, if it carries a constant that holds some. -/
  integers? : Option (List Int)
  /-- The tensor the port carries. -/
  tensor : Tensor V

/-- Whether an operand names the first dimension of another. -/
def Operand.namesRows {V : Type} (axis data : Operand V) : Bool :=
  match axis.integers? with
  | some [axisValue] => resolveAxis axisValue data.tensor.extents.length == 0
  | _ => false

/-- What a graph leaves open. -/
structure Interpretation (V : Type) where
  /-- The tensor an input of the graph carries. -/
  parameter : Port → Tensor V
  /-- An element of a payload. -/
  element : ElementType → Payload → Nat → V
  /-- The row an index names in a table of so many rows, if it names one. -/
  row : ElementType → V → Nat → Option Nat
  /-- Conversion of a value from one type to another. -/
  convert : ElementType → ElementType → V → V
  /-- Difference of two values of a type. -/
  subtract : ElementType → V → V → V
  /-- Product of two values of a type. -/
  multiply : ElementType → V → V → V
  /-- The extents a reshape of one operand to another yields. -/
  reshape : Bool → Operand V → Operand V → List Nat
  /-- Every other operation, at each of its outputs. -/
  other : Operation → List TensorInfo → List (Operand V) → Nat → Tensor V

/-- The place in a scale or zero point of the given extents for an element of a table: the only one,
or that of the row, or that of the group within the row. -/
def Granularity.place? (granularity : Granularity) (extents : List Nat) (row column : Nat) :
    Option Nat :=
  if Shape.product extents = 1 then some 0
  else
    match granularity with
    | perTensor => none
    | perChannel => some row
    | grouped groupSize => some (row * Shape.product (extents.drop 1) + column / groupSize)

/-- The value of a scale or zero point for an element of a table. -/
def Granularity.valueAt {V : Type} (granularity : Granularity) (constant : Operand V)
    (row column : Nat) : Option V :=
  (granularity.place? constant.tensor.extents row column).bind constant.tensor.cell

namespace Interpretation

variable {V : Type}

/-- What the arithmetic has to satisfy. -/
structure Lawful (meaning : Interpretation V) : Prop where
  /-- Conversion to the same type changes nothing. -/
  convert_self : ∀ element value, meaning.convert element element value = value
  /-- Products do not depend on the order of the factors. -/
  multiply_comm : ∀ element left right,
    meaning.multiply element left right = meaning.multiply element right left
  /-- One is neutral. -/
  multiply_one : ∀ element payload value, Payload.ofFloats? element [.one] = some payload →
    meaning.multiply element value (meaning.element element payload 0) = value

variable (meaning : Interpretation V)

/-- Lay out a row of a table for every index. -/
def lookup (indices : Operand V) (rows : Nat) (rest : List Nat) (cell : Nat → Nat → Option V) :
    Tensor V :=
  .tabulate (indices.tensor.extents ++ rest) fun position => do
    let index ← indices.tensor.cell (position / Shape.product rest)
    let row ← meaning.row indices.info.element index rows
    cell row (position % Shape.product rest)

/-- A lookup in a table. -/
def gather (data indices : Operand V) : Option (Tensor V) :=
  match data.tensor.extents with
  | [] => none
  | rows :: rest => some (meaning.lookup indices rows rest fun row column =>
      data.tensor.cell (row * Shape.product rest + column))

/-- A converted element of a table, shifted by the zero point if there is one. -/
def shifted (granularity : Granularity) (float : ElementType) (table : Operand V)
    (zeroPoint : Option (Operand V)) (row column : Nat) : Option V := do
  let weight ← table.tensor.cell (row * Shape.product (table.tensor.extents.drop 1) + column)
  let converted := meaning.convert table.info.element float weight
  match zeroPoint with
  | none => pure converted
  | some zeroPoint =>
    let zero ← granularity.valueAt zeroPoint row column
    pure (meaning.subtract float converted (meaning.convert zeroPoint.info.element float zero))

/-- A shifted element of a table, multiplied by the scale. -/
def scaled (granularity : Granularity) (table scale : Operand V) (zeroPoint : Option (Operand V))
    (row column : Nat) : Option V := do
  let float := scale.info.element
  let value ← meaning.shifted granularity float table zeroPoint row column
  let factor ← granularity.valueAt scale row column
  pure (meaning.multiply float value factor)

/-- An element of a compressed table, turned back into the given type. -/
def restored (granularity : Granularity) (element : ElementType) (table scale : Operand V)
    (zeroPoint : Option (Operand V)) (row column : Nat) : Option V :=
  (meaning.scaled granularity table scale zeroPoint row column).map
    (meaning.convert scale.info.element element)

/-- A lookup in a compressed table. Where only one dimension is promised for the rows, the dimensions
of a row are laid out in it. -/
def gatherCompressed (granularity : Granularity) (info : TensorInfo)
    (table indices scale : Operand V) (zeroPoint : Option (Operand V)) : Option (Tensor V) :=
  match table.tensor.extents with
  | [] => none
  | rows :: columns =>
    let rest := if info.shape.rank = indices.tensor.extents.length + 1 then [Shape.product columns]
      else columns
    some (meaning.lookup indices rows rest
      (meaning.restored granularity info.element table scale zeroPoint))

/-- The first output of an operation that is spelled out, where its operands are as it takes them. -/
def first? : Operation → TensorInfo → List (Operand V) → Option (Tensor V)
  | .constant payload, info, [] => info.shape.extents?.map fun extents =>
      .tabulate extents fun position => some (meaning.element info.element payload position)
  | .convert, info, [source] =>
      some (source.tensor.map (meaning.convert source.info.element info.element))
  | .subtract, info, [left, right] =>
      left.tensor.broadcast (meaning.subtract info.element) right.tensor
  | .multiply, info, [left, right] =>
      left.tensor.broadcast (meaning.multiply info.element) right.tensor
  | .reshape specialZero, _, [data, target] =>
      some (.tabulate (meaning.reshape specialZero data target) data.tensor.cell)
  | .gather batchDims, _, [data, indices, axis] =>
      if batchDims = 0 ∧ axis.namesRows data then meaning.gather data indices else none
  | .gatherCompressed granularity batchDims, info, [table, indices, axis, scale] =>
      if batchDims = 0 ∧ axis.namesRows table then
        meaning.gatherCompressed granularity info table indices scale none
      else none
  | .gatherCompressed granularity batchDims, info, [table, indices, axis, scale, zeroPoint] =>
      if batchDims = 0 ∧ axis.namesRows table then
        meaning.gatherCompressed granularity info table indices scale (some zeroPoint)
      else none
  | _, _, _ => none

/-- The tensor a port of a node carries. -/
def value (port : Port) (operation : Operation) (infos : List TensorInfo)
    (operands : List (Operand V)) : Tensor V :=
  match operation with
  | .parameter => meaning.parameter port
  | _ =>
    let first := if port.index = 0 then
      infos.head?.bind fun info => meaning.first? operation info operands else none
    first.getD (meaning.other operation infos operands port.index)

/-- The first output of an operation that is spelled out is what it spells out. -/
theorem value_first {meaning : Interpretation V} {id : Nat} {operation : Operation}
    {info : TensorInfo} {infos : List TensorInfo} {operands : List (Operand V)} {tensor : Tensor V}
    (promised : infos[0]? = some info) (spelled : meaning.first? operation info operands = some tensor) :
    meaning.value (.first id) operation infos operands = tensor := by
  have head : infos.head? = some info := by rw [List.head?_eq_getElem?, promised]
  cases operation with
  | parameter => simp [first?] at spelled
  | _ => simp [value, Port.first, head, spelled]

end Interpretation

end GatherFusion

import GatherFusion.Payload

/-!
# Operations of the computation graph

The operations are those an embedding lookup over a compressed table is made of, the single
operation that replaces such a lookup, and any number of named operations that are carried along
without being interpreted.
-/
namespace GatherFusion

/-- How finely scale and zero point vary across a compressed table. -/
inductive Granularity where
  /-- One value for the whole table. -/
  | perTensor
  /-- One value for each row of the table. -/
  | perChannel
  /-- One value for each run of `groupSize` neighbouring elements of a row. -/
  | grouped (groupSize : Nat)
  deriving DecidableEq, Repr

namespace Granularity

/-- The group size of a grouped layout. -/
def groupSize? : Granularity → Option Nat
  | grouped groupSize => some groupSize
  | perTensor | perChannel => none

/-- The written form. -/
def text : Granularity → String
  | perTensor => "per_tensor"
  | perChannel => "per_channel"
  | grouped groupSize => s!"grouped({groupSize})"

/-- A granularity is shown in its written form. -/
instance : ToString Granularity := ⟨text⟩

end Granularity

/-- What a node computes. -/
inductive Operation where
  /-- An input of the graph. -/
  | parameter
  /-- An immutable tensor. -/
  | constant (payload : Payload)
  /-- Element type conversion to the type of the node's own output. -/
  | convert
  /-- Broadcasting difference of two operands. -/
  | subtract
  /-- Broadcasting product of two operands. -/
  | multiply
  /-- Change of shape; the second operand holds the target shape. -/
  | reshape (specialZero : Bool)
  /-- Table lookup; the operands are the table, the indices and the axis. -/
  | gather (batchDims : Int)
  /-- Lookup in a compressed table; the operands are the table, the indices, the axis, the scale and
  possibly the zero point. -/
  | gatherCompressed (granularity : Granularity) (batchDims : Int)
  /-- An output of the graph. -/
  | result
  /-- An operation that is not interpreted. -/
  | custom (name : String)
  deriving DecidableEq, Repr

namespace Operation

/-- The name of the operation. -/
def typeName : Operation → String
  | parameter => "Parameter"
  | constant _ => "Constant"
  | convert => "Convert"
  | subtract => "Subtract"
  | multiply => "Multiply"
  | reshape _ => "Reshape"
  | gather _ => "Gather"
  | gatherCompressed _ _ => "GatherCompressed"
  | result => "Result"
  | custom name => name

/-- Whether the operation is an immutable tensor. -/
def isConstant : Operation → Bool
  | constant _ => true
  | _ => false

/-- Whether the operation is a table lookup that has not been fused. -/
def isGather : Operation → Bool
  | gather _ => true
  | _ => false

/-- Whether the operation is a lookup in a compressed table. -/
def isGatherCompressed : Operation → Bool
  | gatherCompressed _ _ => true
  | _ => false

/-- The attributes after the name, as they are written: settings between braces, or the size of a
payload. -/
def attributes : Operation → String
  | reshape specialZero => " \x7bspecial_zero=" ++ toString specialZero ++ "\x7d"
  | gather batchDims => " \x7bbatch_dims=" ++ toString batchDims ++ "\x7d"
  | gatherCompressed granularity batchDims =>
    " \x7bgranularity=" ++ granularity.text ++ ", batch_dims=" ++ toString batchDims ++ "\x7d"
  | constant payload => s!" <{payload.size} bytes>"
  | parameter | convert | subtract | multiply | result | custom _ => ""

/-- The name followed by the attributes. -/
def text (operation : Operation) : String := operation.typeName ++ operation.attributes

/-- An operation is shown with its attributes. -/
instance : ToString Operation := ⟨text⟩

end Operation

end GatherFusion

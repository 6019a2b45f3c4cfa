import GatherFusion.Number.FloatFormat
import GatherFusion.Number.LittleEndian
import GatherFusion.Tensor.Element

/-!
# Constant payloads

A payload is the run of bytes behind a constant tensor; its element type and shape are kept by
the port that carries it. The writers fix the byte order, the readers `integers?` and `singles?`
decode a requested number of elements and refuse a payload that is too short or of a type they do
not know.
-/
namespace GatherFusion

/-- The packed bytes of a constant tensor. -/
structure Payload where
  /-- The bytes in memory order. -/
  bytes : List UInt8
  deriving DecidableEq, Repr

namespace Payload

/-! ## Writers -/

/-- Number of bytes. -/
def size (payload : Payload) : Nat := payload.bytes.length

/-- Write single precision values. -/
def ofSingles (values : List Single) : Payload :=
  ⟨values.flatMap fun value => LittleEndian.writeWord 4 value.word.toNat⟩

/-- Write the nearest 16-bit words of a floating-point format. -/
def ofRounded (format : FloatFormat) (values : List Single) : Payload :=
  ⟨values.flatMap fun value => LittleEndian.writeWord 2 (value.toWord format)⟩

/-- Write the nearest half precision values. -/
def ofHalves (values : List Single) : Payload := ofRounded .half values

/-- Write values in a floating-point element type; only three such types are known. -/
def ofFloats? (element : ElementType) (values : List Single) : Option Payload :=
  match element.kind, element.bits with
  | .float, 32 => some (ofSingles values)
  | .float, 16 => some (ofHalves values)
  | .brainFloat, 16 => some (ofRounded .brain values)
  | _, _ => none

/-- Write signed 64-bit integers. -/
def ofInt64s (values : List Int64) : Payload :=
  ⟨values.flatMap fun value => LittleEndian.writeWord 8 value.toBitVec.toNat⟩

/-- Write signed 32-bit integers. -/
def ofInt32s (values : List Int32) : Payload :=
  ⟨values.flatMap fun value => LittleEndian.writeWord 4 value.toBitVec.toNat⟩

/-- Write unsigned bytes. -/
def ofUInt8s (values : List UInt8) : Payload := ⟨values⟩

/-- Write signed bytes. -/
def ofInt8s (values : List Int8) : Payload := ⟨values.map Int8.toUInt8⟩

/-- Write the low four bits of unsigned values, two per byte. -/
def ofUnsignedNibbles (values : List UInt8) : Payload := ⟨LittleEndian.packNibbles values⟩

/-- Write the low four bits of signed values, two per byte. -/
def ofSignedNibbles (values : List Int8) : Payload :=
  ⟨LittleEndian.packNibbles (values.map Int8.toUInt8)⟩

/-! ## Readers -/

/-- A word as an unsigned integer. -/
def unsigned (word : Nat) : Int := Int.ofNat word

/-- The low `bits` bits of a word as a two's complement integer. -/
def signed (bits : Nat) (word : Nat) : Int := (BitVec.ofNat bits word).toInt

/-- The leading bytes as numbers. -/
def leadingBytes (payload : Payload) (count : Nat) : List Nat :=
  (payload.bytes.take count).map UInt8.toNat

/-- The leading nibbles as numbers. -/
def leadingNibbles (payload : Payload) (count : Nat) : List Nat :=
  ((LittleEndian.nibbles payload.bytes).take count).map UInt8.toNat

/-- The first `count` elements as integers. Floating-point types, integer types of other widths and
short payloads are refused. -/
def integers? (payload : Payload) (element : ElementType) (count : Nat) : Option (List Int) :=
  if payload.size < element.byteLength count then none
  else
    match element.kind, element.bits with
    | .unsigned, 4 => some ((payload.leadingNibbles count).map unsigned)
    | .signed, 4 => some ((payload.leadingNibbles count).map (signed 4))
    | .unsigned, 8 => some ((payload.leadingBytes count).map unsigned)
    | .boolean, 8 => some ((payload.leadingBytes count).map unsigned)
    | .signed, 8 => some ((payload.leadingBytes count).map (signed 8))
    | .signed, 32 => some ((LittleEndian.readWords 4 count payload.bytes).map (signed 32))
    | .unsigned, 32 => some ((LittleEndian.readWords 4 count payload.bytes).map unsigned)
    | .signed, 64 => some ((LittleEndian.readWords 8 count payload.bytes).map (signed 64))
    | _, _ => none

/-- The first `count` elements in single precision. Every type that can be read at all can be read
this way; integers are rounded to the nearest value. -/
def singles? (payload : Payload) (element : ElementType) (count : Nat) : Option (List Single) :=
  if payload.size < element.byteLength count then none
  else
    match element.kind, element.bits with
    | .float, 32 =>
      some ((LittleEndian.readWords 4 count payload.bytes).map fun word => ⟨UInt32.ofNat word⟩)
    | .float, 16 =>
      some ((LittleEndian.readWords 2 count payload.bytes).map (Single.ofWord .half))
    | .brainFloat, 16 =>
      some ((LittleEndian.readWords 2 count payload.bytes).map (Single.ofWord .brain))
    | _, _ => (payload.integers? element count).map (List.map Single.ofInt)

end Payload

end GatherFusion

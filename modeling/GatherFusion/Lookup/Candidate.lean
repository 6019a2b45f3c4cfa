import GatherFusion.Graph.Basic

/-!
# Candidates for fusion

A table of weights may be stored as small integers and turned back into floating point when it is
used: converted, shifted by a zero point, multiplied by a scale, perhaps reshaped and converted once
more. A `Chain` names the nodes of such a decompression, a `Candidate` the lookup that reads the top
of one.
-/
namespace GatherFusion

/-- The zero point subtracted from the converted weights. -/
structure ZeroPoint where
  /-- The constant that holds it. -/
  constant : Nat
  /-- The conversion of the constant, if it is converted before use. -/
  convert : Option Nat
  deriving DecidableEq, Repr

/-- Subtraction of a zero point. -/
structure Shift where
  /-- The subtracting node. -/
  subtract : Nat
  /-- What it subtracts. -/
  zeroPoint : ZeroPoint
  deriving DecidableEq, Repr

/-- Multiplication by a scale, of weights that may have been shifted. -/
structure Dequantization where
  /-- The multiplying node. -/
  multiply : Nat
  /-- The constant scale. -/
  scale : Nat
  /-- The shift in front of the multiplication. -/
  shift : Option Shift
  deriving DecidableEq, Repr

/-- The nodes that decompress a table. -/
structure Chain where
  /-- The constant that holds the compressed table. -/
  weight : Nat
  /-- The conversion of the table. -/
  convert : Nat
  /-- The arithmetic on the converted table; a bare conversion has none. -/
  dequantization : Option Dequantization
  /-- The reshape that flattens groups into rows. -/
  reshape : Option Nat
  /-- A last conversion between floating-point types. -/
  outputConvert : Option Nat
  deriving DecidableEq, Repr

namespace Chain

/-- The node whose output is the decompressed table: the last one present. -/
def top (chain : Chain) : Nat :=
  (chain.outputConvert.or (chain.reshape.or
    (chain.dequantization.map Dequantization.multiply))).getD chain.convert

/-- The nodes between the compressed table and the lookup, each before the nodes it reads, so that
they can be removed in this order. -/
def intermediates (chain : Chain) : List Nat :=
  let shifted (shift : Shift) : List Nat := shift.subtract :: shift.zeroPoint.convert.toList
  let scaled (dequantization : Dequantization) : List Nat :=
    dequantization.multiply :: (dequantization.shift.map shifted).getD []
  chain.outputConvert.toList ++ chain.reshape.toList ++
    (chain.dequantization.map scaled).getD [] ++ [chain.convert]

end Chain

/-- A lookup in a table that a chain decompresses. -/
structure Candidate where
  /-- The looking-up node. -/
  gather : Nat
  /-- The indices, which are passed through unchanged. -/
  indices : Port
  /-- The constant that names the axis. -/
  axis : Nat
  /-- The axis as the constant states it, possibly counted from the end. -/
  axisValue : Int
  /-- The decompression of the table. -/
  chain : Chain
  deriving DecidableEq, Repr

/-- An axis of a tensor of the given rank, counted from the front; a negative axis counts from the
end. -/
def resolveAxis (axisValue : Int) (rank : Nat) : Int :=
  if axisValue < 0 then axisValue + rank else axisValue

namespace Candidate

/-- Whether every named node still exists and the lookup still reads the top of the chain and the
same indices. -/
def isLive (candidate : Candidate) (graph : Graph) : Bool :=
  match graph.node? candidate.gather with
  | none => false
  | some gather =>
    gather.operation.isGather &&
      gather.input? 0 == some (.first candidate.chain.top) &&
      gather.input? 1 == some candidate.indices &&
      (candidate.axis :: candidate.chain.weight :: candidate.chain.intermediates).all graph.contains

end Candidate

end GatherFusion

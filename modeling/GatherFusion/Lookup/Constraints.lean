import GatherFusion.Lookup.Candidate
import GatherFusion.Lookup.Config
import GatherFusion.Lookup.Layout

/-!
# Constraints on candidates

Recognition looks at operations and edges only. Here the types, the shapes and the other readers of
a candidate are held against the constraints of the fusion, and the layout of its table is
recovered. The constraints are checked in a fixed order and the first one violated is reported:
element types, rank and axis, shapes along the chain, granularity of scale and zero point, the
reshape, other readers of the constants, and last the configuration.

The scale and zero point meet the elements of the table by broadcasting. A constant with a single
element meets all of them, a column of one element per row meets the rows, and a column per group
meets the groups; `granularityOf` tells these cases apart by shape.
-/
namespace GatherFusion

/-- Checking a candidate: a rejection is a refusal, and the graph may turn out to break a
promise. -/
abbrev Check (α : Type) := Except (Failure Rejection) α

/-- The tensor carried by a port that is promised to exist. -/
def Graph.carried (graph : Graph) (port : Port) : Except Fault TensorInfo := do
  let node ← graph.node port.node
  match node.info? port.index with
  | some info => pure info
  | none => .error (.missingOutput port)

/-- The tensor carried by the first output of a node that is promised to have one. -/
def Graph.firstInfo (graph : Graph) (id : Nat) : Except Fault TensorInfo :=
  graph.carried (.first id)

/-- An extent of a table that its layout promises. -/
def extentAt (extents : List Nat) (index : Nat) : Except Fault Nat :=
  match extents[index]? with
  | some extent => .ok extent
  | none => .error (.missingDimension index)

/-- The extents of a row of a table, whose layout promises rows. -/
def rowExtents : List Nat → Except Fault (List Nat)
  | [] => .error (.missingDimension 0)
  | _ :: extents => .ok extents

/-- The length of a group when a row is split into as many as its table promises. -/
def groupLength (rowLength groups : Nat) : Except Fault Nat :=
  if groups = 0 then .error .missingGroups else .ok (rowLength / groups)

/-- A part has the element type of the arithmetic. -/
def expectElement (part : Part) (expected : ElementType) (info : TensorInfo) : Check Unit :=
  demand (info.element = expected) (.typeMismatch part expected info.element)

/-- A part has the expected shape. -/
def expectShape (part : Part) (expected : Shape) (info : TensorInfo) : Check Unit :=
  demand (info.shape = expected) (.shapeMismatch part expected info.shape)

/-- The granularity of a constant of the given shape beside a table of the given extents. Groups are
only looked for where `grouped` allows them. -/
def granularityOf (shape : Shape) (table : List Nat) (grouped : Bool) :
    Except Fault (Option Granularity) :=
  match shape.extents? with
  | none => .ok none
  | some extents =>
    if Shape.product extents = 1 ∧ extents.length ≤ table.length then .ok (some .perTensor)
    else if extents.length ≠ table.length then .ok none
    else do
      let count ← extentAt extents 0
      let rows ← extentAt table 0
      if count ≠ rows then pure none
      else if (extents.drop 1).all (· == 1) then pure (some .perChannel)
      else if !grouped then pure none
      else
        let groups ← extentAt table 1
        let groupSize ← extentAt table 2
        let columns ← extentAt extents 1
        let last ← extentAt extents 2
        if 0 < groups ∧ 0 < groupSize ∧ columns = groups ∧ last = 1 then
          pure (some (.grouped groupSize))
        else pure none

/-- The reshape lays out each row of the table in one dimension. For groups the length of that
dimension decides the group size. -/
def checkReshape (reshaped : TensorInfo) (table : List Nat) (granularity : Granularity) :
    Check Granularity :=
  let bad : Check Granularity := refuse (.unsupportedReshape reshaped.shape)
  match reshaped.shape.extents? with
  | none => bad
  | some extents => do
    let row ← rowExtents table
    match extents with
    | [rows, rowLength] =>
      let tableRows ← extentAt table 0
      if rows ≠ tableRows then bad
      else
        match granularity with
        | .grouped _ =>
          let groups ← extentAt table 1
          let groupSize ← extentAt table 2
          if groups = 0 ∨ rowLength % groups ≠ 0 then refuse (.groupSizeMismatch rowLength groups)
          else
            let length ← groupLength rowLength groups
            if length ≠ groupSize then bad else pure (.grouped length)
        | .perTensor | .perChannel =>
          if rowLength = Shape.product row then pure granularity else bad
    | _ => bad

namespace Candidate

/-- What the ports that a candidate touches carry. -/
structure Carried where
  /-- The compressed table. -/
  weight : TensorInfo
  /-- The converted table. -/
  decompressed : TensorInfo
  /-- The result of the lookup. -/
  gather : TensorInfo
  /-- The indices. -/
  indices : TensorInfo
  /-- The table as the lookup reads it. -/
  top : TensorInfo

/-- Read what the ports of a candidate carry. -/
def carried (candidate : Candidate) (graph : Graph) : Except Fault Carried := do
  let weight ← graph.firstInfo candidate.chain.weight
  let decompressed ← graph.firstInfo candidate.chain.convert
  let gather ← graph.firstInfo candidate.gather
  let indices ← graph.carried candidate.indices
  let top ← graph.firstInfo candidate.chain.top
  pure { weight, decompressed, gather, indices, top }

/-- The subtraction and the zero point are of the type of the arithmetic. -/
def checkShiftElements (graph : Graph) (float : ElementType) (shift : Shift) : Check Unit := do
  expectElement .subtract float (← graph.firstInfo shift.subtract)
  let zeroPoint := shift.zeroPoint.convert.getD shift.zeroPoint.constant
  expectElement .zeroPoint float (← graph.firstInfo zeroPoint)

/-- The arithmetic of a dequantization is done in one type. -/
def checkDequantizationElements (graph : Graph) (float : ElementType)
    (dequantization : Dequantization) : Check Unit := do
  expectElement .scale float (← graph.firstInfo dequantization.scale)
  expectElement .multiply float (← graph.firstInfo dequantization.multiply)
  dequantization.shift.forM (checkShiftElements graph float)

/-- The last conversion yields floating point. -/
def checkOutputConvertElement (graph : Graph) (convert : Nat) : Check Unit := do
  let info ← graph.firstInfo convert
  demand info.element.isFloat (.nonFloatDecompression info.element)

/-- The element types along a candidate. -/
def checkElements (candidate : Candidate) (config : FusionConfig) (graph : Graph)
    (carried : Carried) : Check Unit := do
  let float := carried.decompressed.element
  demand (carried.weight.element ∈ config.weightTypes)
    (.unsupportedWeightType carried.weight.element)
  demand carried.indices.element.isInteger (.nonIntegerIndices carried.indices.element)
  demand float.isFloat (.nonFloatDecompression float)
  candidate.chain.dequantization.forM (checkDequantizationElements graph float)
  candidate.chain.reshape.forM fun reshape => do
    expectElement .reshape float (← graph.firstInfo reshape)
  candidate.chain.outputConvert.forM (checkOutputConvertElement graph)
  expectElement .gatherData carried.gather.element carried.top

/-- The extents of the table, which has at least two known dimensions. -/
def tableExtents (carried : Carried) : Check (List Nat) :=
  match carried.weight.shape.extents? with
  | none => refuse (.unsupportedRank carried.weight.shape.rank)
  | some extents => do
    demand (2 ≤ extents.length) (.unsupportedRank extents.length)
    pure extents

/-- The arithmetic of a dequantization keeps the shape of the table. -/
def checkDequantizationShapes (graph : Graph) (table : Shape) (dequantization : Dequantization) :
    Check Unit := do
  expectShape .multiply table (← graph.firstInfo dequantization.multiply)
  dequantization.shift.forM fun shift => do
    expectShape .subtract table (← graph.firstInfo shift.subtract)

/-- The last conversion keeps the shape it reads. -/
def checkOutputConvertShape (graph : Graph) (convert : Nat) : Check Unit := do
  let node ← graph.node convert
  let converted ← graph.firstInfo convert
  let source ← graph.firstInfo ((node.input? 0).elim convert Port.node)
  expectShape .outputConversion source.shape converted

/-- The axis and the shapes along a candidate. The arithmetic keeps the shape of the table, a last
conversion keeps the shape it reads, and the lookup sees as many rows as the table has. -/
def checkShapes (candidate : Candidate) (graph : Graph) (carried : Carried) (table : List Nat) :
    Check Unit := do
  demand (resolveAxis candidate.axisValue carried.top.shape.rank = 0)
    (.unsupportedAxis candidate.axisValue)
  expectShape .weightConversion carried.weight.shape carried.decompressed
  candidate.chain.dequantization.forM (checkDequantizationShapes graph carried.weight.shape)
  candidate.chain.outputConvert.forM (checkOutputConvertShape graph)
  let rows ← extentAt table 0
  demand (carried.top.shape.dims.head? = some (.fixed rows))
    (.shapeMismatch .gatherData carried.weight.shape carried.top.shape)

/-- The granularity of one constant of a candidate. -/
def constantGranularity (graph : Graph) (carried : Carried) (table : List Nat) (grouped : Bool)
    (part : Part) (constant : Nat) : Check Granularity := do
  let info ← graph.firstInfo constant
  match ← granularityOf info.shape table grouped with
  | some granularity => pure granularity
  | none => refuse (.unrecognizedLayout part info.shape carried.weight.shape)

/-- The layout that scale and zero point give the table. A zero point varies like the scale or not
at all. -/
def constantsLayout (candidate : Candidate) (graph : Graph) (carried : Carried)
    (table : List Nat) : Check Layout :=
  let granularity :=
    constantGranularity graph carried table (candidate.chain.reshape.isSome && table.length == 3)
  match candidate.chain.dequantization with
  | none => pure ⟨.symmetric, .perTensor⟩
  | some ⟨_, scale, none⟩ => do
    pure ⟨.symmetric, ← granularity .scale scale⟩
  | some ⟨_, scale, some shift⟩ => do
    let scale ← granularity .scale scale
    let zeroPoint ← granularity .zeroPoint shift.zeroPoint.constant
    demand (zeroPoint = .perTensor ∨ zeroPoint = scale) (.mixedGranularity scale zeroPoint)
    pure ⟨.asymmetric, scale⟩

/-- Whether a value is read only by one node and by lookups that are fused already. -/
def privateTo (graph : Graph) (value reader : Nat) : Except Fault Bool :=
  (graph.readers (.first value)).allM fun slot =>
    if slot.node = reader then pure true
    else do
      let node ← graph.node slot.node
      pure node.operation.isGatherCompressed

/-- Whether the zero point is read only along the chain. -/
def zeroPointPrivate (graph : Graph) (shift : Shift) : Except Fault Bool :=
  match shift.zeroPoint.convert with
  | none => privateTo graph shift.zeroPoint.constant shift.subtract
  | some convert => do
    if ← privateTo graph shift.zeroPoint.constant convert then
      privateTo graph convert shift.subtract
    else pure false

/-- Scale and zero point are read only along the chain and by fused siblings. -/
def checkReaders (graph : Graph) (dequantization : Dequantization) : Check Unit := do
  let scalePrivate ← privateTo graph dequantization.scale dequantization.multiply
  demand scalePrivate (.sharedConstant .scale)
  dequantization.shift.forM fun shift => do
    let zeroPointPrivate ← zeroPointPrivate graph shift
    demand zeroPointPrivate (.sharedConstant .zeroPoint)

/-- The granularity after the reshape, if there is one. -/
def reshapedGranularity (candidate : Candidate) (graph : Graph) (table : List Nat)
    (granularity : Granularity) : Check Granularity :=
  match candidate.chain.reshape with
  | none => pure granularity
  | some reshape => do checkReshape (← graph.firstInfo reshape) table granularity

/-- Hold a candidate against all constraints and recover the layout of its table. -/
def layout (candidate : Candidate) (config : FusionConfig) (graph : Graph) : Check Layout := do
  let carried ← candidate.carried graph
  candidate.checkElements config graph carried
  let table ← tableExtents carried
  candidate.checkShapes graph carried table
  let found ← candidate.constantsLayout graph carried table
  let granularity ← candidate.reshapedGranularity graph table found.granularity
  candidate.chain.dequantization.forM (checkReaders graph)
  let gather ← graph.node candidate.gather
  demand (!config.skips gather) .skipped
  pure ⟨found.encoding, granularity⟩

end Candidate

end GatherFusion

import GatherFusion.Lookup.Candidate

/-!
# Recognizing lookups in decompressed tables

A lookup is recognized from its data operand backward, by the operations and edges alone; types,
shapes and other readers are not looked at. The accepted chains are

```
data = [Convert] [Reshape(_, Const)] Multiply(x, Const scale)
     | Convert(Const weight)
x    = Subtract(Convert(Const weight), Const zero | Convert(Const zero))
     | Convert(Const weight)
```

where brackets mark optional steps, the two factors may stand in either order, and every edge of the
chain leaves the first output of its node. The axis has to be a constant with one element that names
the first dimension of the data.
-/
namespace GatherFusion

/-- A search that may find nothing, and that stops if the graph breaks a promise. -/
abbrev Search (α : Type) := OptionT (Except Fault) α

namespace Search

variable {α : Type}

/-- Continue only with a value that is there. -/
def ofOption (value : Option α) : Search α := OptionT.mk (.ok value)

/-- Read from the graph what is promised to be there. -/
def inspect (reading : Except Fault α) : Search α := OptionT.lift reading

end Search

/-- Why a node is not a recognized lookup. -/
inductive Mismatch where
  /-- The node is dead, is no lookup, or does not have three operands. -/
  | notALookup
  /-- The lookup has batch dimensions. -/
  | batched (batchDims : Int)
  /-- The axis is not a constant with a single integer. -/
  | axisNotConstant
  /-- The axis is not the first dimension of the data. -/
  | otherAxis (axisValue : Int)
  /-- The data does not come from a decompression. -/
  | otherData
  deriving DecidableEq, Repr

/-- The table and the shift behind one factor of a multiplication by a scale. -/
structure Factor where
  /-- The constant that holds the compressed table. -/
  weight : Nat
  /-- The conversion of the table. -/
  convert : Nat
  /-- The shift of the converted table. -/
  shift : Option Shift
  deriving DecidableEq, Repr

namespace Graph

/-! ## The chain -/

/-- The only operand of a node, if it is a first output. -/
def soleOperand? (node : Node) : Option Port :=
  match node.inputs with
  | [source] => if source.index = 0 then some source else none
  | _ => none

/-- The constant behind a port. -/
def constantNode? (graph : Graph) (port : Port) : Option Nat :=
  (graph.constant? port).map fun _ => port.node

/-- The constant that a node converts. -/
def convertedConstant (graph : Graph) (convert : Nat) : Search Nat := do
  let node ← Search.inspect (graph.node convert)
  match node.operation with
  | .convert => Search.ofOption ((soleOperand? node).bind graph.constantNode?)
  | _ => failure

/-- The zero point: a constant, or the conversion of one. -/
def zeroPoint (graph : Graph) (port : Port) : Search ZeroPoint := do
  match graph.constantNode? port with
  | some constant => pure ⟨constant, none⟩
  | none =>
    let constant ← graph.convertedConstant port.node
    pure ⟨constant, some port.node⟩

/-- The converted table, shifted or not. -/
def tableFactor (graph : Graph) (id : Nat) : Search Factor := do
  let node ← Search.inspect (graph.node id)
  match node.operation, node.inputs with
  | .convert, _ =>
    let weight ← graph.convertedConstant id
    pure ⟨weight, id, none⟩
  | .subtract, [minuend, zero] =>
    if minuend.index ≠ 0 ∨ zero.index ≠ 0 then failure
    else
      let weight ← graph.convertedConstant minuend.node
      let zeroPoint ← graph.zeroPoint zero
      pure ⟨weight, minuend.node, some ⟨id, zeroPoint⟩⟩
  | _, _ => failure

/-- One reading of a multiplication: the first port is the table, the second the scale. -/
def scaledTable (graph : Graph) (table scale : Port) : Search (Factor × Nat) := do
  if table.index ≠ 0 ∨ scale.index ≠ 0 then failure
  else
    let scale ← Search.ofOption (graph.constantNode? scale)
    let factor ← graph.tableFactor table.node
    pure (factor, scale)

/-- The multiplication by the scale, which may be either operand. -/
def multiplication (graph : Graph) (id : Nat) : Search (Factor × Dequantization) := do
  let node ← Search.inspect (graph.node id)
  match node.operation, node.inputs with
  | .multiply, [left, right] =>
    let (factor, scale) ← graph.scaledTable left right <|> graph.scaledTable right left
    pure (factor, ⟨id, scale, factor.shift⟩)
  | _, _ => failure

/-- The reshape in front of a node, if the node is one, and the node behind it. -/
def throughReshape (graph : Graph) (id : Nat) : Search (Option Nat × Nat) := do
  let node ← Search.inspect (graph.node id)
  match node.operation, node.inputs with
  | .reshape _, [data, target] =>
    let _ ← Search.ofOption (graph.constantNode? target)
    if data.index ≠ 0 then failure else pure (some id, data.node)
  | .reshape _, _ => failure
  | _, _ => pure (none, id)

/-- The chain below an optional last conversion. -/
def scaledChain (graph : Graph) (outputConvert : Option Nat) (id : Nat) : Search Chain := do
  let (reshape, multiplied) ← graph.throughReshape id
  let (factor, dequantization) ← graph.multiplication multiplied
  pure {
    weight := factor.weight
    convert := factor.convert
    dequantization := some dequantization
    reshape
    outputConvert }

/-- The bare conversion of a table. -/
def bareChain (graph : Graph) (id : Nat) : Search Chain := do
  let weight ← graph.convertedConstant id
  pure { weight, convert := id, dequantization := none, reshape := none, outputConvert := none }

/-- The chain that ends in a last conversion of a scaled table. -/
def convertedChain (graph : Graph) (id : Nat) (node : Node) : Search Chain := do
  let source ← Search.ofOption (soleOperand? node)
  graph.scaledChain (some id) source.node

/-- The chain that ends in a node. A conversion is read as a bare one where that is possible. -/
def chain (graph : Graph) (top : Nat) : Search Chain := do
  let node ← Search.inspect (graph.node top)
  match node.operation with
  | .convert => graph.bareChain top <|> graph.convertedChain top node
  | _ => graph.scaledChain none top

/-! ## The lookup -/

/-- Recognize one lookup. -/
def recognize (graph : Graph) (gather : Nat) : Except Fault (Except Mismatch Candidate) :=
  match graph.node? gather with
  | none => .ok (.error .notALookup)
  | some node =>
    match node.operation, node.inputs with
    | .gather batchDims, [data, indices, axis] =>
      if batchDims ≠ 0 then .ok (.error (.batched batchDims))
      else
        match graph.integers? axis with
        | some [axisValue] =>
          match graph.info? data with
          | none => .ok (.error .otherData)
          | some info =>
            if resolveAxis axisValue info.shape.rank ≠ 0 then .ok (.error (.otherAxis axisValue))
            else if data.index ≠ 0 then .ok (.error .otherData)
            else
              match (graph.chain data.node).run with
              | .error fault => .error fault
              | .ok none => .ok (.error .otherData)
              | .ok (some chain) =>
                .ok (.ok { gather, indices, axis := axis.node, axisValue, chain })
        | _ => .ok (.error .axisNotConstant)
    | _, _ => .ok (.error .notALookup)

/-- The live lookups, oldest first. -/
def gathers (graph : Graph) : List Nat :=
  (graph.entries.filter fun (_, node) => node.operation.isGather).map Prod.fst

/-- The candidate of each lookup that is recognized, oldest first. -/
def candidates (graph : Graph) : Except Fault (List Candidate) := do
  let outcomes ← graph.gathers.mapM graph.recognize
  pure (outcomes.filterMap Except.toOption)

end Graph

end GatherFusion

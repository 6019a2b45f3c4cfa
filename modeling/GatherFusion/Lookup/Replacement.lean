import GatherFusion.Graph.Edit
import GatherFusion.Lookup.Candidate
import GatherFusion.Lookup.Constraints
import GatherFusion.Lookup.Layout

/-!
# Replacing a lookup by its fused form

The fused lookup reads the compressed table, the indices, the axis, the scale and, if there is one,
the zero point. It takes over the name and the readers of the lookup it replaces; the lookup goes,
and with it every node of the decompression that nothing else reads.

The fused lookup counts its axis from the front and always has a scale, so an axis counted from the
end is replaced by a fresh constant zero and a bare conversion gets a fresh constant one. All other
requirements are checked before the first change.
-/
namespace GatherFusion

/-- Why a candidate cannot be replaced. -/
inductive ReplacementError where
  /-- The lookup is declared to yield something else than the fused lookup does. -/
  | outputMismatch (gather fused : TensorInfo)
  /-- The graph has moved on since the candidate was found. -/
  | stale
  /-- One cannot be written in the type of the decompressed table. -/
  | unitScale (element : ElementType)
  /-- The graph refused a change. -/
  | graph (error : GraphError)
  deriving DecidableEq, Repr

namespace ReplacementError

/-- The wording of an error. -/
def message : ReplacementError → String
  | outputMismatch gather fused =>
    s!"fused output {fused.text} is incompatible with gather output {gather.text}"
  | stale => "candidate no longer matches the graph"
  | unitScale element => s!"no unit scale encoding for {element.text}"
  | graph error => error.message

end ReplacementError

namespace Candidate

/-- What the fused lookup yields: a row of the decompressed table for every index. -/
def fusedInfo (candidate : Candidate) (graph : Graph) : Except ReplacementError TensorInfo := do
  let indices ← (graph.output candidate.indices).mapError .graph
  let data ← (graph.output (.first candidate.chain.top)).mapError .graph
  pure ⟨data.info.element, ⟨indices.info.shape.dims ++ data.info.shape.dims.drop 1⟩⟩

/-- The scale of a bare conversion: the type of the converted table, and one in that type. -/
def unitScale (candidate : Candidate) (graph : Graph) :
    Except (Failure ReplacementError) (ElementType × Payload) := do
  let decompressed ← graph.firstInfo candidate.chain.convert
  match Payload.ofFloats? decompressed.element [.one] with
  | some payload => pure (decompressed.element, payload)
  | none => refuse (.unitScale decompressed.element)

/-- The unit scale, for a candidate that has no scale of its own. -/
def missingScale (candidate : Candidate) (graph : Graph) :
    Except (Failure ReplacementError) (Option (ElementType × Payload)) :=
  match candidate.chain.dequantization with
  | some _ => pure none
  | none => do pure (some (← candidate.unitScale graph))

/-- What a replacement needs to know before its first change. -/
structure Plan where
  /-- The name of the lookup. -/
  name : String
  /-- What the lookup is declared to yield. -/
  info : TensorInfo
  /-- The type and payload of a fresh scale, if the candidate has none. -/
  scale : Option (ElementType × Payload)
  deriving DecidableEq, Repr

/-- Check all that a replacement needs, without changing anything. -/
def plan (candidate : Candidate) (graph : Graph) : Except (Failure ReplacementError) Plan := do
  demand (candidate.isLive graph) .stale
  let gather ← graph.node candidate.gather
  let info ← graph.firstInfo candidate.gather
  let fused ← (candidate.fusedInfo graph).mapError Failure.refusal
  demand (fused.element = info.element ∧ fused.shape.compatible info.shape)
    (.outputMismatch info fused)
  pure ⟨gather.name, info, ← candidate.missingScale graph⟩

/-- The axis of the fused lookup, which is zero: the constant at hand or a fresh one. -/
def fusedAxis (candidate : Candidate) (name : String) : Edit GraphError Port :=
  if candidate.axisValue = 0 then pure (.first candidate.axis)
  else do
    pure (.first (← Graph.addConstant (name ++ "/axis") (.fixed .i64 []) (.ofInt64s [0])))

/-- The scale and the zero point among the constants of a candidate. -/
def constants (candidate : Candidate) : List Port :=
  match candidate.chain.dequantization with
  | none => []
  | some dequantization =>
    .first dequantization.scale ::
      (dequantization.shift.map fun shift => Port.first shift.zeroPoint.constant).toList

/-- The fresh constant scale, if one is asked for. -/
def fusedScale (name : String) : Option (ElementType × Payload) → Edit GraphError (List Port)
  | none => pure []
  | some (element, payload) => do
    pure [.first (← Graph.addConstant (name ++ "/scale") ⟨element, .scalar⟩ payload)]

/-- Remove a node if it is there and nothing reads it. -/
def removeUnused (id : Nat) : Edit GraphError Unit := do
  let node ← Edit.inspect fun graph => .ok (graph.node? id)
  if node.any Node.isUnused then discard (Graph.removeNode id) else pure ()

/-- Add the fused lookup with the constants it lacks, hand it the readers of the lookup it replaces,
and remove that lookup with all that only it made use of. -/
def Plan.perform (plan : Plan) (candidate : Candidate) (granularity : Granularity) :
    Edit GraphError Nat := do
  let axis ← candidate.fusedAxis plan.name
  let scale ← fusedScale plan.name plan.scale
  let inputs := .first candidate.chain.weight :: candidate.indices :: axis ::
    (candidate.constants ++ scale)
  let fused ← Graph.addNode (.gatherCompressed granularity 0) inputs [plan.info] plan.name
  discard (Graph.replaceAllUses (.first candidate.gather) (.first fused))
  discard (Graph.removeNode candidate.gather)
  candidate.chain.intermediates.forM removeUnused
  pure fused

/-- Replace the lookup of a candidate by its fused form. The handle of the fused lookup is
returned. -/
def replace (candidate : Candidate) (layout : Layout) : Edit ReplacementError Nat := do
  let plan ← Edit.attempt candidate.plan
  (plan.perform candidate layout.granularity).mapCause .graph

end Candidate

end GatherFusion

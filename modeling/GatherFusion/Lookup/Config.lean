import GatherFusion.Graph.Basic

/-!
# What may be fused

The configuration of the fusion: which element types a compressed table may have, and which lookups
are to be left alone.
-/
namespace GatherFusion

/-- Options of the fusion. -/
structure FusionConfig where
  /-- Element types accepted for a compressed table. -/
  weightTypes : List ElementType := [.u8, .i8, .u4, .i4]
  /-- Says of a lookup whether it is to be left alone. -/
  skip : Option (Node → Bool) := none

namespace FusionConfig

/-- The standard options are the default. -/
instance : Inhabited FusionConfig := ⟨{}⟩

/-- Leave alone the lookups that have one of these names. -/
def skipNamed (names : List String) : Node → Bool := fun node => names.contains node.name

/-- Whether a lookup is to be left alone. -/
def skips (config : FusionConfig) (node : Node) : Bool :=
  match config.skip with
  | some skip => skip node
  | none => false

/-- An element type as a record. -/
def elementRecord (element : ElementType) : String :=
  "Scalar \x7b kind: " ++ element.kind.label ++ ", bits: " ++ toString element.bits ++ " \x7d"

/-- The configuration as a record; of the choice of lookups only its presence is told. -/
def record (config : FusionConfig) : String :=
  let types := ", ".intercalate (config.weightTypes.map elementRecord)
  let skip := if config.skip.isSome then "Some(\"..\")" else "None"
  "FusionConfig \x7b weight_types: [" ++ types ++ "], skip: " ++ skip ++ " \x7d"

end FusionConfig

end GatherFusion

import GatherFusion.OrderedSet
import GatherFusion.Store

/-!
# Ports and slots

An edge of the graph runs from a port, one numbered output of a node, to a slot, one numbered input
of a node. Slots are ordered by node and then by position.
-/
namespace GatherFusion

/-- One numbered output of a node. -/
@[ext] structure Port where
  /-- The node that produces the value. -/
  node : Nat
  /-- Position among the outputs of the node. -/
  index : Nat
  deriving DecidableEq, Repr

namespace Port

/-- The first output of a node. -/
def first (node : Nat) : Port := ⟨node, 0⟩

/-- The short written form: the node, and the position unless it is the first. -/
def text (port : Port) : String :=
  if port.index = 0 then s!"%{port.node}" else s!"%{port.node}.{port.index}"

/-- The port as a record. -/
def record (port : Port) : String :=
  "Output \x7b node: " ++ Store.handleText port.node ++ ", index: " ++ toString port.index ++
    " \x7d"

/-- A port is shown in its short form. -/
instance : ToString Port := ⟨text⟩

end Port

/-- One numbered input of a node. -/
@[ext] structure Slot where
  /-- The node that reads the value. -/
  node : Nat
  /-- Position among the inputs of the node. -/
  index : Nat
  deriving DecidableEq, Repr

namespace Slot

/-- The slot as a record. -/
def record (slot : Slot) : String :=
  "Input \x7b node: " ++ Store.handleText slot.node ++ ", index: " ++ toString slot.index ++ " \x7d"

/-- Slots are ordered by node, those of one node by position. -/
instance : LT Slot :=
  ⟨fun left right => left.node < right.node ∨ (left.node = right.node ∧ left.index < right.index)⟩

/-- The order of slots, spelled out. -/
theorem lt_iff {left right : Slot} : left < right ↔
    left.node < right.node ∨ (left.node = right.node ∧ left.index < right.index) := Iff.rfl

/-- The order of slots is total. -/
instance : StrictOrder Slot where
  decidable _ _ := decidable_of_iff' _ lt_iff
  irrefl slot := by
    simp only [lt_iff]
    omega
  trans := by
    simp only [lt_iff]
    omega
  total := by
    intro left right notBelow different
    have apart : ¬(left.node = right.node ∧ left.index = right.index) :=
      fun same => different (Slot.ext same.1 same.2)
    simp only [lt_iff] at notBelow ⊢
    omega

end Slot

end GatherFusion

import GatherFusion.Graph.Port

/-!
# Faults and failures

A function may be asked for something its caller promised to be there. When the promise is broken
the function stops with a `Fault`; no error of the library describes a fault, and well-formed graphs
never raise one. Everything a function refuses by its own rules is a refusal with a cause. A
`Failure` is one or the other.
-/
namespace GatherFusion

/-- A promise about a graph that turned out to be broken. -/
inductive Fault where
  /-- A handle that had to be live is dead. -/
  | deadHandle (handle : Nat)
  /-- A node lacks an output it had to have. -/
  | missingOutput (port : Port)
  /-- A node lacks an input that another node lists it as reading. -/
  | missingInput (slot : Slot)
  /-- A table lacks a dimension its layout had to have. -/
  | missingDimension (index : Nat)
  /-- A row is to be split into no groups. -/
  | missingGroups
  /-- A reader lies outside the handles that were ever given out. -/
  | missingCounter (node : Nat)
  /-- A node is listed as a reader more often than it reads. -/
  | exhaustedCounter (node : Nat)
  deriving DecidableEq, Repr

/-- The two ways a function can stop without a result. -/
inductive Failure (ε : Type) where
  /-- The function declined, for a cause it documents. -/
  | refusal (cause : ε)
  /-- A promise of the caller was broken. -/
  | fault (fault : Fault)
  deriving DecidableEq, Repr

/-- Restate the cause of a refusal; a fault stays what it is. -/
def Failure.mapCause {ε ε' : Type} (wrap : ε → ε') : Failure ε → Failure ε'
  | refusal cause => refusal (wrap cause)
  | fault broken => fault broken

/-- A step that can only raise a fault is a step of any function that can fail. -/
instance {ε : Type} : MonadLift (Except Fault) (Except (Failure ε)) where
  monadLift := Except.mapError .fault

/-- Decline with a cause. -/
def refuse {ε α : Type} (cause : ε) : Except (Failure ε) α := .error (.refusal cause)

/-- Decline with a cause unless a condition holds. -/
def demand {ε : Type} (condition : Prop) [Decidable condition] (cause : ε) :
    Except (Failure ε) Unit :=
  if condition then .ok () else refuse cause

/-- A demand is met exactly when its condition holds. -/
@[simp] theorem demand_eq_ok_iff {ε : Type} {condition : Prop} [Decidable condition] {cause : ε} :
    demand condition cause = .ok () ↔ condition := by
  unfold demand refuse
  split <;> simp_all

namespace Store

variable {α : Type}

/-- The value of a handle that is promised to be live. -/
def get (store : Store α) (handle : Nat) : Except Fault α :=
  match store.get? handle with
  | some value => .ok value
  | none => .error (.deadHandle handle)

/-- Overwrite the value of a handle that is promised to be live. -/
def set (store : Store α) (handle : Nat) (value : α) : Except Fault (Store α) :=
  match store.replace? handle value with
  | some changed => .ok changed
  | none => .error (.deadHandle handle)

end Store

end GatherFusion

import GatherFusion.Lookup.Constraints
import GatherFusion.Proofs.Lookup.Persistence

/-!
# Readers of scale and zero point

A candidate may be fused only if its scale and its zero point are read along the chain and by fused
lookups, by nothing else. In a mirrored graph the check of readers decides that. While a graph
evolves, a constant that is read along the chain only stays so, and as long as no node goes it was
so before.
-/
namespace GatherFusion

namespace Graph

/-- The first output of a node is read by one node and by fused lookups only. -/
def ReadOnlyBy (graph : Graph) (value reader : Nat) : Prop :=
  ∀ slot, graph.producer? slot = some (.first value) → slot.node = reader ∨
    ∃ frame, graph.frame? slot.node = some frame ∧ frame.operation.isGatherCompressed = true

/-- In a mirrored graph the question for other readers is answered. -/
theorem Mirrored.exists_privateTo {graph : Graph} (mirrored : graph.Mirrored)
    (value reader : Nat) : ∃ verdict, Candidate.privateTo graph value reader = .ok verdict ∧
      (verdict = true ↔ graph.ReadOnlyBy value reader) := by
  let fused (slot : Slot) : Bool := slot.node = reader ||
    (graph.frame? slot.node).any fun frame => frame.operation.isGatherCompressed
  have answered : ∀ slot ∈ graph.readers (.first value),
      (if slot.node = reader then pure true
        else do
          let node ← graph.node slot.node
          pure node.operation.isGatherCompressed : Except Fault Bool) = .ok (fused slot) := by
    intro slot listed
    by_cases own : slot.node = reader
    · simp only [own, ↓reduceIte, fused, decide_true, Bool.true_or]
      rfl
    · have reads := mirrored.mem_readers_iff.mp listed
      obtain ⟨node, found, -⟩ := Option.bind_eq_some_iff.mp reads
      simp only [own, ↓reduceIte, fused, decide_false, Bool.false_or, node_eq_ok_iff.mpr found,
        frame?_of_node? found, Option.any_some, Node.frame]
      rfl
  refine ⟨_, allM_eq_ok answered, ?_⟩
  simp only [List.all_eq_true, mirrored.mem_readers_iff, ReadOnlyBy, fused, Bool.or_eq_true,
    decide_eq_true_eq, Option.any_eq_true]

end Graph

/-- A zero point is read along the chain only. -/
def Shift.Private (shift : Shift) (graph : Graph) : Prop :=
  match shift.zeroPoint.convert with
  | none => graph.ReadOnlyBy shift.zeroPoint.constant shift.subtract
  | some convert =>
    graph.ReadOnlyBy shift.zeroPoint.constant convert ∧ graph.ReadOnlyBy convert shift.subtract

/-- Scale and zero point are read along the chain only. -/
def Dequantization.Private (dequantization : Dequantization) (graph : Graph) : Prop :=
  graph.ReadOnlyBy dequantization.scale dequantization.multiply ∧
    ∀ shift ∈ dequantization.shift, shift.Private graph

/-- The constants of a chain are read along the chain only. -/
def Chain.Private (chain : Chain) (graph : Graph) : Prop :=
  ∀ dequantization ∈ chain.dequantization, dequantization.Private graph

/-- In a mirrored graph the question for other readers of a zero point is answered. -/
theorem Graph.Mirrored.exists_zeroPointPrivate {graph : Graph} (mirrored : graph.Mirrored)
    (shift : Shift) : ∃ verdict, Candidate.zeroPointPrivate graph shift = .ok verdict ∧
      (verdict = true ↔ shift.Private graph) := by
  unfold Candidate.zeroPointPrivate Shift.Private
  cases shift.zeroPoint.convert with
  | none => exact mirrored.exists_privateTo _ _
  | some convert =>
    obtain ⟨first, firstDone, firstIff⟩ :=
      mirrored.exists_privateTo shift.zeroPoint.constant convert
    obtain ⟨second, secondDone, secondIff⟩ := mirrored.exists_privateTo convert shift.subtract
    cases first with
    | false => exact ⟨false, by simp [firstDone, bind, Except.bind, pure, Except.pure], by
        simp only [Bool.false_eq_true, false_iff] at firstIff
        simp [firstIff]⟩
    | true => exact ⟨second, by simp [firstDone, secondDone, bind, Except.bind], by
        simp only [true_iff] at firstIff
        simp [firstIff, secondIff]⟩

/-- In a mirrored graph the check of readers passes exactly where scale and zero point are read
along the chain only; otherwise it names the one that is shared. -/
theorem Graph.Mirrored.checkReaders {graph : Graph} (mirrored : graph.Mirrored) (chain : Chain) :
    (chain.dequantization.forM (Candidate.checkReaders graph) = .ok () ∧ chain.Private graph) ∨
      ∃ part, chain.dequantization.forM (Candidate.checkReaders graph) =
        refuse (.sharedConstant part) ∧ ¬chain.Private graph := by
  unfold Chain.Private
  cases chain.dequantization with
  | none => exact .inl ⟨rfl, by simp⟩
  | some dequantization =>
    simp only [Option.mem_some_iff, forall_eq']
    obtain ⟨scale, scaleDone, scaleIff⟩ :=
      mirrored.exists_privateTo dequantization.scale dequantization.multiply
    simp only [Option.forM, Candidate.checkReaders, Dequantization.Private, scaleDone, ← scaleIff]
    cases scale with
    | false => exact .inr ⟨.scale, rfl, by simp⟩
    | true =>
      cases dequantization.shift with
      | none => exact .inl ⟨rfl, by simp⟩
      | some shift =>
        obtain ⟨zero, zeroDone, zeroIff⟩ := mirrored.exists_zeroPointPrivate shift
        simp only [zeroDone, Option.mem_some_iff, forall_eq', ← zeroIff]
        cases zero with
        | false => exact .inr ⟨.zeroPoint, rfl, by simp⟩
        | true => exact .inl ⟨rfl, by simp⟩

/-! ## Readers while a graph evolves -/

namespace Graph

/-- No node goes. -/
def Retains (old new : Graph) : Prop :=
  ∀ id before, old.frame? id = some before → ∃ after, new.frame? id = some after

/-- No node goes in two spells if none goes in either. -/
theorem Retains.trans {old middle new : Graph} (first : old.Retains middle)
    (second : middle.Retains new) : old.Retains new := by
  intro id before found
  obtain ⟨between, there⟩ := first id before found
  exact second id between there

namespace Evolves

variable {old new : Graph} {move : Port → Port} (evolves : Evolves move old new)
include evolves

/-- A value that is neither a lookup nor fused is later read by nobody but its readers and fused
lookups. -/
theorem readOnlyBy {value reader : Nat} {frame : Frame} (found : old.frame? value = some frame)
    (noFused : frame.operation.isGatherCompressed = false)
    (only : old.ReadOnlyBy value reader) : new.ReadOnlyBy value reader := by
  intro slot reads
  rw [producer?_eq, Option.bind_eq_some_iff] at reads
  obtain ⟨after, live, position⟩ := reads
  cases there : old.frame? slot.node with
  | none =>
    rcases (evolves.born _ _ there live).2 with ⟨-, readsNothing⟩ | fused
    · simp [readsNothing] at position
    · exact .inr ⟨after, live, fused⟩
  | some before =>
    have renamed := evolves.kept _ _ _ there live
    subst renamed
    simp only [Frame.rename, List.getElem?_map, Option.map_eq_some_iff] at position
    obtain ⟨port, position, moved⟩ := position
    have same : port = .first value := by
      rcases evolves.moved port with same | taken
      · exact same.symm.trans moved
      · obtain ⟨fused, fusedFound, fuses⟩ := taken.fused
        rw [moved] at fusedFound
        rw [evolves.kept _ _ _ found fusedFound] at fuses
        have clash : frame.operation.isGatherCompressed = true := fuses
        rw [noFused] at clash
        contradiction
    have readsBefore : old.producer? slot = some (.first value) := by
      rw [producer?_eq, there, Option.bind_some, position, same]
    rcases only slot readsBefore with own | ⟨again, foundAgain, fused⟩
    · exact .inl own
    · rw [there, Option.some.injEq] at foundAgain
      exact .inr ⟨_, live, foundAgain ▸ fused⟩

/-- As long as no node goes, a value that is no lookup was read by nobody else before. -/
theorem readOnlyBy_before (retains : old.Retains new) {value reader : Nat} {frame : Frame}
    (found : old.frame? value = some frame) (noLookup : frame.operation.isGather = false)
    (only : new.ReadOnlyBy value reader) : old.ReadOnlyBy value reader := by
  intro slot reads
  rw [producer?_eq, Option.bind_eq_some_iff] at reads
  obtain ⟨before, there, position⟩ := reads
  obtain ⟨after, live⟩ := retains _ _ there
  have renamed := evolves.kept _ _ _ there live
  have unmoved : move (.first value) = .first value := evolves.move_eq_self found noLookup
  have readsAfter : new.producer? slot = some (.first value) := by
    rw [producer?_eq, live, Option.bind_some, renamed]
    simp [Frame.rename, position, unmoved]
  rcases only slot readsAfter with own | ⟨again, foundAgain, fused⟩
  · exact .inl own
  · rw [live, Option.some.injEq] at foundAgain
    subst foundAgain
    rw [renamed] at fused
    exact .inr ⟨before, there, fused⟩

end Evolves

end Graph

/-- That the constants of a chain are read along the chain only carries over from one graph to
another if it does so for each value that is neither a lookup nor fused. -/
theorem Chain.Private.transport {chain : Chain} {old graph changed : Graph} (fits : chain.Fits old)
    (only : chain.Private graph)
    (same : ∀ value reader frame, old.frame? value = some frame →
      frame.operation.isGather = false → frame.operation.isGatherCompressed = false →
      graph.ReadOnlyBy value reader → changed.ReadOnlyBy value reader) :
    chain.Private changed := by
  have constant {value reader : Nat} (holds : old.Holds (.first value))
      (only : graph.ReadOnlyBy value reader) : changed.ReadOnlyBy value reader := by
    obtain ⟨frame, found, -, noLookup, noFused⟩ := holds.exists_frame
    exact same value reader frame found noLookup noFused only
  intro dequantization scaled
  obtain ⟨scaleOnly, shiftsOnly⟩ := only dequantization scaled
  refine ⟨constant (fits.scales scaled).2.1 scaleOnly, fun shift shifted => ?_⟩
  have zeroOnly := shiftsOnly shift shifted
  obtain ⟨-, zeroFits⟩ := fits.shifts scaled shifted
  unfold Shift.Private at zeroOnly ⊢
  cases converted : shift.zeroPoint.convert with
  | none =>
    simp only [converted] at zeroOnly ⊢
    exact constant zeroFits.holds zeroOnly
  | some convert =>
    simp only [converted] at zeroOnly ⊢
    obtain ⟨⟨frame, found, operation, -⟩, holds⟩ := zeroFits.converts converted
    refine ⟨constant holds zeroOnly.1, ?_⟩
    exact same convert shift.subtract frame found (by simp [operation, Operation.isGather])
      (by simp [operation, Operation.isGatherCompressed]) zeroOnly.2

end GatherFusion

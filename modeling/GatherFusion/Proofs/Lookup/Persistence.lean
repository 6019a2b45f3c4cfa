import GatherFusion.Proofs.Graph.Evolution
import GatherFusion.Proofs.Lookup.Recognition

/-!
# Candidates while a graph evolves

Nothing a chain is made of changes while its nodes live: chains read no lookup, and constants stay.
A candidate therefore fits later when its nodes are still there, with the indices that took the
place of its own, and every candidate that fits later stems from one that fitted before.
-/
namespace GatherFusion

/-- A candidate whose indices are read elsewhere. -/
def Candidate.rename (move : Port → Port) (candidate : Candidate) : Candidate :=
  { candidate with indices := move candidate.indices }

namespace Graph

/-- A constant belongs to a node that is no step and no lookup of either kind. -/
theorem Holds.exists_frame {graph : Graph} {port : Port} (holds : graph.Holds port) :
    ∃ frame, graph.frame? port.node = some frame ∧ frame.operation.isStep = false ∧
      frame.operation.isGather = false ∧ frame.operation.isGatherCompressed = false := by
  obtain ⟨frame, payload, info, found, operation, -⟩ := holds_iff.mp holds
  exact ⟨frame, found, by simp [operation, Operation.isStep],
    by simp [operation, Operation.isGather], by simp [operation, Operation.isGatherCompressed]⟩

/-- A constant that is read as integers is one. -/
theorem holds_of_integers? {graph : Graph} {port : Port} {values : List Int}
    (read : graph.integers? port = some values) : graph.Holds port := by
  unfold integers? at read
  cases content : graph.constant? port with
  | none => simp [content] at read
  | some pair => exact ⟨pair, content⟩

namespace Evolves

variable {old new : Graph} {move : Port → Port} (evolves : Evolves move old new)
include evolves

/-- A surviving node carries the same constants. -/
theorem constant?_eq_of_frame? {port : Port} {before after : Frame}
    (found : old.frame? port.node = some before) (survives : new.frame? port.node = some after) :
    new.constant? port = old.constant? port := by
  rw [Graph.constant?_eq, Graph.constant?_eq, found, survives, evolves.kept _ _ _ found survives]
  rfl

/-- A constant stays what it is. -/
theorem constant?_eq {port : Port} (holds : old.Holds port) :
    new.constant? port = old.constant? port := by
  obtain ⟨frame, found, stays, -⟩ := holds.exists_frame
  obtain ⟨after, survives, -⟩ := evolves.exists_of_not_isStep found stays
  exact evolves.constant?_eq_of_frame? found survives

/-- A constant stays. -/
theorem holds {port : Port} (holds : old.Holds port) : new.Holds port := by
  obtain ⟨content, same⟩ := holds
  exact ⟨content, (evolves.constant?_eq ⟨content, same⟩).trans same⟩

/-- The integers of a constant stay what they are. -/
theorem integers?_eq {port : Port} (holds : old.Holds port) :
    new.integers? port = old.integers? port := by
  unfold integers?
  rw [evolves.constant?_eq holds]

/-- A constant that was there before was the same constant. -/
theorem holds_of_frame? {port : Port} {frame : Frame} (found : old.frame? port.node = some frame)
    (holds : new.Holds port) : old.Holds port := by
  obtain ⟨after, survives, -⟩ := holds.exists_frame
  obtain ⟨content, same⟩ := holds
  exact ⟨content, (evolves.constant?_eq_of_frame? found survives).symm.trans same⟩

/-- A constant is read where it was. -/
theorem move_eq_of_holds {port : Port} (holds : old.Holds port) : move port = port := by
  obtain ⟨frame, found, -, noLookup, -⟩ := holds.exists_frame
  exact evolves.move_eq_self found noLookup

/-- A surviving node reads what took the place of its operands. -/
theorem reads {id : Nat} {operation : Operation} {inputs : List Port}
    (reads : old.Reads id operation inputs) {after : Frame}
    (survives : new.frame? id = some after) : new.Reads id operation (inputs.map move) := by
  obtain ⟨before, found, rfl, rfl⟩ := reads
  rw [evolves.kept id before after found survives] at survives
  exact ⟨_, survives, rfl, rfl⟩

/-- A node that is neither a constant nor a fused lookup was there before. -/
theorem exists_reads {id : Nat} {operation : Operation} {inputs : List Port}
    (reads : new.Reads id operation inputs) (noConstant : operation.isConstant = false)
    (noFused : operation.isGatherCompressed = false) :
    ∃ before, old.Reads id operation before ∧ inputs = before.map move := by
  obtain ⟨after, survives, rfl, rfl⟩ := reads
  cases found : old.frame? id with
  | none =>
    obtain ⟨-, fresh⟩ := evolves.born id after found survives
    simp [noConstant, noFused] at fresh
  | some before =>
    rw [evolves.kept id before after found survives]
    exact ⟨before.inputs, ⟨before, found, rfl, rfl⟩, rfl⟩

/-- A node that reads no lookup reads the same ports as long as it lives. -/
theorem reads_same {id : Nat} {operation : Operation} {inputs : List Port}
    (reads : old.Reads id operation inputs) {after : Frame}
    (survives : new.frame? id = some after)
    (fixed : ∀ port ∈ inputs, move port = port) : new.Reads id operation inputs := by
  have same : inputs.map move = inputs :=
    (List.map_congr_left fixed).trans (List.map_id' inputs)
  exact same ▸ evolves.reads reads survives

/-- An intermediate node is read where it was. -/
theorem move_eq_of_mem {chain : Chain} (fits : chain.Fits old) {id : Nat}
    (inside : id ∈ chain.intermediates) : move (.first id) = .first id := by
  obtain ⟨_, _, ⟨frame, found, rfl, -⟩, -, noLookup, -⟩ := fits.operands inside
  exact evolves.move_eq_self found noLookup

/-- A chain fits as long as its nodes live. -/
theorem chain_fits {chain : Chain} (fits : chain.Fits old)
    (live : ∀ id ∈ chain.intermediates, ∃ frame, new.frame? id = some frame) : chain.Fits new := by
  refine fits.transport (fun id inside operation inputs reads => ?_)
    fun id inside operation inputs reads port operand holds => evolves.holds holds
  obtain ⟨after, survives⟩ := live id inside
  obtain ⟨_, _, again, -, -, operands⟩ := fits.operands inside
  obtain ⟨rfl, rfl⟩ := reads.unique again
  refine evolves.reads_same reads survives fun port operand => ?_
  rcases operands port operand with ⟨below, belowInside, rfl⟩ | holds
  · exact evolves.move_eq_of_mem fits belowInside
  · exact evolves.move_eq_of_holds holds

/-- A candidate fits as long as its nodes live, with the indices now read. -/
theorem fits {candidate : Candidate} (fits : candidate.Fits old)
    (live : ∀ id ∈ candidate.gather :: candidate.chain.intermediates,
      ∃ frame, new.frame? id = some frame) : (candidate.rename move).Fits new := by
  obtain ⟨chainFits, axis, info, reads, axisNode, axisRead, carries, front⟩ := fits
  have liveChain : ∀ id ∈ candidate.chain.intermediates, ∃ frame, new.frame? id = some frame :=
    fun id inside => live id (List.mem_cons_of_mem _ inside)
  obtain ⟨after, survives⟩ := live candidate.gather List.mem_cons_self
  have holds := holds_of_integers? axisRead
  refine ⟨evolves.chain_fits chainFits liveChain, axis, info, ?_, axisNode, ?_, ?_, front⟩
  · have moved := evolves.reads reads survives
    simp only [List.map_cons, List.map_nil, evolves.move_eq_of_mem chainFits (Chain.top_mem _),
      evolves.move_eq_of_holds holds] at moved
    exact moved
  · rw [evolves.integers?_eq holds]
    exact axisRead
  · obtain ⟨before, found⟩ := chainFits.exists_frame (Chain.top_mem _)
    obtain ⟨topAfter, topSurvives⟩ := liveChain _ (Chain.top_mem _)
    exact (evolves.info?_eq_of_frame? found topSurvives 0).trans carries

/-- A chain that fits fitted before. -/
theorem chain_fits_before (mirrored : old.Mirrored) {chain : Chain} (fits : chain.Fits new) :
    chain.Fits old := by
  have before : ∀ id ∈ chain.intermediates, ∀ operation inputs, new.Reads id operation inputs →
      old.Reads id operation inputs := by
    intro id inside operation inputs reads
    obtain ⟨_, _, again, step, -, operands⟩ := fits.operands inside
    obtain ⟨rfl, rfl⟩ := reads.unique again
    obtain ⟨noConstant, noFused⟩ := Operation.not_fresh_of_isStep step
    obtain ⟨earlier, readsEarlier, rfl⟩ := evolves.exists_reads reads noConstant noFused
    have same : earlier.map move = earlier := by
      refine (List.map_congr_left fun port operand => ?_).trans (List.map_id' earlier)
      rcases operands _ (List.mem_map_of_mem operand) with ⟨below, belowInside, moved⟩ | holds
      · obtain ⟨_, _, ⟨frame, found, rfl, -⟩, belowStep, -⟩ := fits.operands belowInside
        rw [moved]
        exact (evolves.eq_of_move_eq moved found
          (Operation.not_fresh_of_isStep belowStep).2).symm
      · obtain ⟨frame, found, -, -, noFused⟩ := holds.exists_frame
        exact (evolves.eq_of_move_eq rfl found noFused).symm
    rwa [same]
  refine fits.transport before fun id inside operation inputs reads port operand holds => ?_
  obtain ⟨frame, found, -, rfl⟩ := before id inside operation inputs reads
  obtain ⟨producer, -, live, -⟩ := mirrored.exists_frame found operand
  exact evolves.holds_of_frame? live holds

/-- A candidate that fits stems from one that fitted before. -/
theorem exists_fits (mirrored : old.Mirrored) {candidate : Candidate}
    (fits : candidate.Fits new) :
    ∃ before : Candidate, before.Fits old ∧ candidate = before.rename move := by
  obtain ⟨chainFits, axis, info, reads, axisNode, axisRead, carries, front⟩ := fits
  have chainBefore := evolves.chain_fits_before mirrored chainFits
  obtain ⟨inputs, readsBefore, same⟩ := evolves.exists_reads reads rfl rfl
  obtain ⟨data, rest, rfl, topSame, restSame⟩ := List.map_eq_cons_iff.mp same.symm
  obtain ⟨indices, rest, rfl, indicesSame, restSame⟩ := List.map_eq_cons_iff.mp restSame
  obtain ⟨axisBefore, rest, rfl, axisSame, restSame⟩ := List.map_eq_cons_iff.mp restSame
  obtain rfl := List.map_eq_nil_iff.mp restSame
  have holds := holds_of_integers? axisRead
  obtain ⟨_, _, ⟨topFrame, topFound, rfl, -⟩, topStep, -⟩ := chainFits.operands (Chain.top_mem _)
  obtain rfl := evolves.eq_of_move_eq topSame topFound (Operation.not_fresh_of_isStep topStep).2
  obtain ⟨axisFrame, axisFound, -, -, axisNoFused⟩ := holds.exists_frame
  obtain rfl := evolves.eq_of_move_eq axisSame axisFound axisNoFused
  obtain ⟨producer, live⟩ := readsBefore.exists_node mirrored axisBefore (by simp)
  have holdsBefore := evolves.holds_of_frame? (frame?_of_node? live) holds
  obtain ⟨_, _, ⟨topBefore, topFoundBefore, -⟩, -⟩ := chainBefore.operands (Chain.top_mem _)
  refine ⟨{ candidate with indices := indices }, ⟨chainBefore, axisBefore, info, readsBefore,
    axisNode, ?_, ?_, front⟩, ?_⟩
  · rw [← evolves.integers?_eq holdsBefore]
    exact axisRead
  · exact (evolves.info?_eq_of_frame? topFoundBefore topFound 0).symm.trans carries
  · simp [Candidate.rename, indicesSame]

end Evolves

end Graph

/-! ## Live candidates -/

namespace Candidate

/-- What it takes for a candidate to be live. -/
theorem isLive_eq_true_iff {candidate : Candidate} {graph : Graph} :
    candidate.isLive graph = true ↔ ∃ node, graph.node? candidate.gather = some node ∧
      node.operation.isGather = true ∧ node.input? 0 = some (.first candidate.chain.top) ∧
      node.input? 1 = some candidate.indices ∧
      ∀ id ∈ candidate.axis :: candidate.chain.weight :: candidate.chain.intermediates,
        graph.contains id = true := by
  unfold isLive
  cases graph.node? candidate.gather with
  | none => simp
  | some node => simp only [Bool.and_eq_true, beq_iff_eq, List.all_eq_true, Option.some.injEq,
      exists_eq_left', and_assoc]

/-- A candidate that fits is live. -/
theorem Fits.isLive {candidate : Candidate} {graph : Graph} (fits : candidate.Fits graph) :
    candidate.isLive graph = true := by
  obtain ⟨chainFits, axis, info, reads, axisNode, axisRead, -⟩ := fits
  obtain ⟨node, found, operation, inputs⟩ := Graph.reads_iff.mp reads
  refine isLive_eq_true_iff.mpr ⟨node, found, by simp [operation, Operation.isGather],
    by simp [Node.input?, inputs], by simp [Node.input?, inputs], fun id inside => ?_⟩
  rw [Graph.contains_iff]
  rcases List.mem_cons.mp inside with rfl | inside
  · obtain ⟨frame, live, -⟩ := (Graph.holds_of_integers? axisRead).exists_frame
    exact ⟨frame, axisNode ▸ live⟩
  · rcases List.mem_cons.mp inside with rfl | inside
    · obtain ⟨frame, live, -⟩ := chainFits.converts.2.exists_frame
      exact ⟨frame, live⟩
    · exact chainFits.exists_frame inside

end Candidate

/-- A candidate that fitted and is live still fits, and its indices are read where they were. -/
theorem Graph.Evolves.fits_of_isLive {old new : Graph} {move : Port → Port}
    (evolves : Evolves move old new) {candidate : Candidate} (fits : candidate.Fits old)
    (live : candidate.isLive new = true) :
    candidate.Fits new ∧ move candidate.indices = candidate.indices := by
  obtain ⟨node, found, -, -, second, contained⟩ := Candidate.isLive_eq_true_iff.mp live
  have there : ∀ id ∈ candidate.gather :: candidate.chain.intermediates,
      ∃ frame, new.frame? id = some frame := by
    intro id inside
    rcases List.mem_cons.mp inside with rfl | inside
    · exact ⟨node.frame, frame?_of_node? found⟩
    · exact contains_iff.mp (contained id (by simp [inside]))
  have renamed := evolves.fits fits there
  have same : move candidate.indices = candidate.indices := by
    obtain ⟨-, axis, info, reads, -⟩ := renamed
    obtain ⟨again, foundAgain, -, inputs⟩ := reads_iff.mp reads
    rw [show new.node? (candidate.rename move).gather = some node from found,
      Option.some.injEq] at foundAgain
    rw [Node.input?, foundAgain, inputs] at second
    simpa [Candidate.rename] using second
  have unchanged : candidate.rename move = candidate := by
    simp [Candidate.rename, same]
  rw [unchanged] at renamed
  exact ⟨renamed, same⟩

end GatherFusion

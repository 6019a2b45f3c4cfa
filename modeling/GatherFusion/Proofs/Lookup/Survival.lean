import GatherFusion.Proofs.Lookup.Progress

/-!
# Candidates that survive the replacement of others

A replacement removes its own lookup and steps of its own chain, and a step only where nothing reads
it any more. The lookup of another candidate therefore stays, and with it the whole chain behind it,
node by node from the top down, because each of its nodes is read by the one above. The other
candidate fits as before, unless its indices were the output that was taken over: then it reads the
fused lookup instead.
-/
namespace GatherFusion

/-- As long as the lookup of a candidate that fitted lives, so do the nodes of its chain. -/
theorem Graph.Evolves.live_of_gather {old new : Graph} {move : Port → Port}
    (evolves : old.Evolves move new) (mirroredStill : new.Mirrored) {candidate : Candidate}
    (fits : candidate.Fits old) (live : ∃ frame, new.frame? candidate.gather = some frame) :
    ∀ id ∈ candidate.gather :: candidate.chain.intermediates,
      ∃ frame, new.frame? id = some frame := by
  obtain ⟨lookup, axis, found, -, inputs, -⟩ := fits.exists_frame
  -- What a survivor reads is alive where it was read all along.
  have supplied {reader id : Nat} {before after : Frame} (there : old.frame? reader = some before)
      (survives : new.frame? reader = some after) (inside : id ∈ candidate.chain.intermediates)
      (operand : .first id ∈ before.inputs) : ∃ frame, new.frame? id = some frame := by
    have reads : .first id ∈ after.inputs := by
      rw [evolves.kept reader before after there survives]
      exact List.mem_map.mpr ⟨.first id, operand, evolves.move_eq_of_mem fits.1 inside⟩
    obtain ⟨producer, -, alive, -⟩ := mirroredStill.exists_frame survives reads
    exact ⟨producer, alive⟩
  have chain : ∀ id ∈ candidate.chain.intermediates, ∃ frame, new.frame? id = some frame := by
    obtain ⟨after, survives⟩ := live
    refine fits.1.forall_of_top _ ?_ fun reader inside alive operation ports reads id operand => ?_
    · exact supplied found survives (Chain.top_mem _) (by simp [inputs])
    · obtain ⟨before, there, -, rfl⟩ := reads
      obtain ⟨after, survives⟩ := alive
      rcases (fits.1.steps_of_frame? inside there).2.2 _ operand with ⟨below, belowInside, same⟩ | holds
      · obtain rfl : id = below := congrArg Port.node same
        exact supplied there survives belowInside operand
      · obtain ⟨frame, alive, -⟩ := (evolves.holds holds).exists_frame
        exact ⟨frame, alive⟩
  intro id inside
  rcases List.mem_cons.mp inside with rfl | inside
  · exact live
  · exact chain id inside

namespace Candidate.HandsOver

variable {candidate : Candidate} {plan : Plan} {granularity : Granularity} {graph changed : Graph}
  {fused : Nat} (hands : candidate.HandsOver plan granularity graph fused changed)
include hands

/-- A fused lookup was added. -/
theorem exists_fused : graph.frame? fused = none ∧
    ∃ frame, changed.frame? fused = some frame ∧ frame.operation.isGatherCompressed = true := by
  obtain ⟨axis, scale, withAxis, prepared, added, moved, replaced, rfl, -, -, toChanged, -⟩ := hands
  constructor
  · cases there : graph.frame? prepared.next with
    | none => rfl
    | some frame =>
      have old := Graph.lt_next_of_frame? there
      have grown := replaced.next_le.1
      omega
  · have onMoved := replaced.redirects.frame?_eq_some replaced.adds.frame?_next
    obtain ⟨after, survives, rfl⟩ := toChanged.exists_of_not_isStep onMoved rfl
    exact ⟨_, survives, rfl⟩

/-- The fused lookup reads the indices of the lookup, and itself where they were the lookup's own first
output. -/
theorem producer?_fused : changed.producer? ⟨fused, 1⟩ =
    some (if candidate.indices = .first candidate.gather then .first fused else candidate.indices) := by
  obtain ⟨axis, scale, withAxis, prepared, added, moved, replaced, rfl, -, -, toChanged, -⟩ := hands
  have onMoved := replaced.redirects.frame?_eq_some replaced.adds.frame?_next
  obtain ⟨after, survives, rfl⟩ := toChanged.exists_of_not_isStep onMoved rfl
  rw [Graph.producer?_eq, survives, Option.bind_some]
  simp [Frame.rename, Frame.redirect, fusedInputs]

/-- A node outside the chain survives, unless it is the lookup. -/
theorem survives {id : Nat} {frame : Frame} (found : graph.frame? id = some frame)
    (apart : id ≠ candidate.gather) (outside : id ∉ candidate.chain.intermediates) :
    changed.frame? id = some (frame.redirect (.first candidate.gather) (.first fused)) := by
  obtain ⟨axis, scale, withAxis, prepared, added, moved, replaced, rfl, -, others, -⟩ := hands
  exact others id (by simp [apart, outside]) _ (replaced.frame?_eq_some found)

/-- Any other lookup survives. -/
theorem survives_of_isGather (fits : candidate.Fits graph) {id : Nat} {frame : Frame}
    (found : graph.frame? id = some frame) (lookup : frame.operation.isGather = true)
    (apart : id ≠ candidate.gather) :
    changed.frame? id = some (frame.redirect (.first candidate.gather) (.first fused)) :=
  hands.survives found apart (fits.1.not_mem_of_isGather found lookup)

/-- The lookup itself apart, whoever read its first output survives. -/
theorem survives_of_reads (fits : candidate.Fits graph) {id : Nat} {frame : Frame}
    (found : graph.frame? id = some frame) (reads : .first candidate.gather ∈ frame.inputs)
    (apart : id ≠ candidate.gather) :
    changed.frame? id = some (frame.redirect (.first candidate.gather) (.first fused)) := by
  refine hands.survives found apart fun inside => ?_
  rcases (fits.1.steps_of_frame? inside found).2.2 _ reads with ⟨below, belowInside, same⟩ | holds
  · obtain rfl : candidate.gather = below := congrArg Port.node same
    exact fits.gather_not_mem belowInside
  · obtain ⟨lookup, axis, there, operation, -⟩ := fits.exists_frame
    obtain ⟨constant, again, -, noLookup, -⟩ := holds.exists_frame
    rw [show (Port.first candidate.gather).node = candidate.gather from rfl, there,
      Option.some.injEq] at again
    rw [← again, operation] at noLookup
    contradiction

/-- The first output of the lookup is read by nobody any more. -/
theorem not_reads_first (fits : candidate.Fits graph) (slot : Slot) :
    changed.producer? slot ≠ some (.first candidate.gather) := by
  obtain ⟨axis, scale, withAxis, prepared, added, moved, replaced, rfl, thins, -⟩ := hands
  obtain ⟨lookup, -, found, -⟩ := fits.exists_frame
  intro reads
  refine replaced.not_reads_first ⟨lookup, found⟩ slot ?_
  rw [Graph.producer?_eq, Option.bind_eq_some_iff] at reads ⊢
  obtain ⟨frame, survives, position⟩ := reads
  exact ⟨frame, thins _ _ survives, position⟩

/-- Another candidate still fits, with the fused lookup as its indices where it had the lookup. -/
theorem fits_other (fits : candidate.Fits graph) {move : Port → Port}
    (evolves : graph.Evolves move changed) {other : Candidate} (fitsOther : other.Fits graph)
    (apart : other.gather ≠ candidate.gather) :
    (other.rename fun port =>
      if port = .first candidate.gather then .first fused else port).Fits changed := by
  have mirrored : changed.Mirrored := by
    obtain ⟨_, _, _, _, _, _, -, -, -, -, -, mirrored⟩ := hands
    exact mirrored
  obtain ⟨frame, axis, found, operation, inputs, -⟩ := fitsOther.exists_frame
  have lookup : frame.operation.isGather = true := by simp [operation, Operation.isGather]
  have survives := hands.survives_of_isGather fits found lookup apart
  have live := evolves.live_of_gather mirrored fitsOther ⟨_, survives⟩
  have same : move other.indices =
      if other.indices = .first candidate.gather then .first fused else other.indices := by
    have kept := congrArg Frame.inputs (evolves.kept _ _ _ found survives)
    simp only [Frame.redirect, Frame.rename, inputs, List.map_cons, List.cons.injEq] at kept
    exact kept.2.1.symm
  have still := evolves.fits fitsOther live
  rwa [Candidate.rename, same] at still

end Candidate.HandsOver

end GatherFusion

import GatherFusion.Lookup.Replacement
import GatherFusion.Proofs.Lookup.Acceptance

/-!
# What a replacement does

A replacement adds the constants that the fused lookup lacks and then the fused lookup itself, hands
it the readers of the lookup it replaces, and removes that lookup with all that nothing reads any
more. In a mirrored graph the only step that can fail is the removal of the lookup, and it fails
exactly when a further output of the lookup is read. What was done before stays.
-/
namespace GatherFusion

namespace Candidate

/-! ## The plan -/

/-- What the fused lookup yields, told by the tensors it is read from. -/
theorem fusedInfo_eq {candidate : Candidate} {graph : Graph} {indices top : TensorInfo}
    (indicesInfo : graph.info? candidate.indices = some indices)
    (topInfo : graph.info? (.first candidate.chain.top) = some top) :
    candidate.fusedInfo graph =
      .ok ⟨top.element, ⟨indices.shape.dims ++ top.shape.dims.drop 1⟩⟩ := by
  obtain ⟨indicesOutput, indicesFound, rfl⟩ := Option.map_eq_some_iff.mp indicesInfo
  obtain ⟨topOutput, topFound, rfl⟩ := Option.map_eq_some_iff.mp topInfo
  simp only [fusedInfo, Graph.output_eq_ok_iff.mpr indicesFound,
    Graph.output_eq_ok_iff.mpr topFound]
  rfl

/-- A replacement is planned when the candidate is live, the lookup yields what the fused lookup
does, and one can be written in the type of the table if it has to be. -/
theorem plan_eq_ok_iff {candidate : Candidate} {graph : Graph} {plan : Plan}
    {indices top : TensorInfo} (live : candidate.isLive graph = true)
    (indicesInfo : graph.info? candidate.indices = some indices)
    (topInfo : graph.info? (.first candidate.chain.top) = some top) :
    candidate.plan graph = .ok plan ↔
      (∃ node, graph.node? candidate.gather = some node ∧ node.name = plan.name) ∧
        graph.info? (.first candidate.gather) = some plan.info ∧
        top.element = plan.info.element ∧
        Shape.compatible ⟨indices.shape.dims ++ top.shape.dims.drop 1⟩ plan.info.shape = true ∧
        candidate.missingScale graph = .ok plan.scale := by
  obtain ⟨name, info, scale⟩ := plan
  simp only [Candidate.plan, live, fusedInfo_eq indicesInfo topInfo, bind_eq_ok_iff,
    monadLift_eq_ok_iff, exists_unit_iff, demand_eq_ok_iff, Graph.node_eq_ok_iff,
    firstInfo_eq_ok_iff, mapError_ok, Except.ok.injEq, pure, Except.pure, Plan.mk.injEq,
    true_and, exists_eq_left']
  constructor
  · rintro ⟨node, found, carried, carries, ⟨element, shape⟩, missing, done, rfl, rfl, rfl⟩
    exact ⟨⟨node, found, rfl⟩, carries, element, shape, done⟩
  · rintro ⟨⟨node, found, rfl⟩, carries, element, shape, done⟩
    exact ⟨node, found, info, carries, ⟨element, shape⟩, scale, done, rfl, rfl, rfl⟩

section

variable {candidate : Candidate} {graph : Graph} {plan : Plan}
  (planned : candidate.plan graph = .ok plan)
include planned

/-- A plan has the name of the lookup, what it is declared to yield, and the scale that is
missing. -/
theorem reads_of_plan : (∃ node, graph.node? candidate.gather = some node ∧ node.name = plan.name) ∧
    graph.info? (.first candidate.gather) = some plan.info ∧
    candidate.missingScale graph = .ok plan.scale := by
  simp only [Candidate.plan, bind_eq_ok_iff, monadLift_eq_ok_iff, Graph.node_eq_ok_iff,
    firstInfo_eq_ok_iff, pure, Except.pure, Except.ok.injEq] at planned
  obtain ⟨_, -, node, found, info, carries, _, -, _, -, scale, missing, rfl⟩ := planned
  exact ⟨⟨node, found, rfl⟩, carries, missing⟩

/-- The lookup of an accepted candidate, as its plan knows it, yields floating point. -/
theorem isFloat_of_planned {config : FusionConfig} {layout : Layout}
    (described : candidate.described config graph = .ok layout) :
    plan.info.element.isFloat = true := by
  obtain ⟨-, carries, -⟩ := reads_of_plan planned
  obtain ⟨info, again, float⟩ := isFloat_of_described described
  rw [carries, Option.some.injEq] at again
  rwa [again]

/-- A planned replacement is carried out. -/
theorem runOn_replace_of_planned (layout : Layout) : (candidate.replace layout).runOn graph =
    ((plan.perform candidate layout.granularity).mapCause ReplacementError.graph).runOn graph :=
  Edit.runOn_bind_ok (congrArg (·, graph) planned)

end

/-- A replacement that is not planned changes nothing. -/
theorem runOn_replace_of_unplanned {candidate : Candidate} {graph : Graph}
    {failure : Failure ReplacementError} (failed : candidate.plan graph = .error failure)
    (layout : Layout) : (candidate.replace layout).runOn graph = (.error failure, graph) :=
  Edit.runOn_bind_error (congrArg (·, graph) failed)

/-- The scale a replacement lacks: none beside a scale, else one in the type of the table. -/
theorem missingScale_eq_ok_iff {candidate : Candidate} {graph : Graph}
    {scale : Option (ElementType × Payload)} :
    candidate.missingScale graph = .ok scale ↔
      (candidate.chain.dequantization ≠ none ∧ scale = none) ∨
        (candidate.chain.dequantization = none ∧ ∃ info payload,
          graph.info? (.first candidate.chain.convert) = some info ∧
          Payload.ofFloats? info.element [.one] = some payload ∧
          scale = some (info.element, payload)) := by
  unfold missingScale
  cases candidate.chain.dequantization with
  | some dequantization => simp [pure, Except.pure, eq_comm]
  | none =>
    simp only [unitScale, bind_eq_ok_iff, monadLift_eq_ok_iff, firstInfo_eq_ok_iff, pure,
      Except.pure, Except.ok.injEq, ne_eq, not_true_eq_false, false_and, true_and, false_or]
    constructor
    · rintro ⟨pair, ⟨info, carries, written⟩, rfl⟩
      split at written
      · rename_i payload encoded
        cases written
        exact ⟨info, payload, carries, encoded, rfl⟩
      · contradiction
    · rintro ⟨info, payload, carries, encoded, rfl⟩
      exact ⟨(info.element, payload), ⟨info, carries, by simp only [encoded]⟩, rfl⟩

/-- A planned scale is a one in its type. -/
theorem written_of_plan {candidate : Candidate} {graph : Graph} {plan : Plan}
    (planned : candidate.plan graph = .ok plan) (element : ElementType) (payload : Payload)
    (missing : plan.scale = some (element, payload)) :
    Payload.ofFloats? element [.one] = some payload := by
  obtain ⟨-, -, found⟩ := reads_of_plan planned
  obtain ⟨-, none⟩ | ⟨-, info, own, -, written, same⟩ := missingScale_eq_ok_iff.mp found
  · rw [none] at missing
    contradiction
  · rw [same] at missing
    obtain ⟨rfl, rfl⟩ := Prod.mk.inj (Option.some.inj missing)
    exact written

/-- The lookup is declared to yield what the fused lookup yields: rows of the decompressed table in
the shape of the indices. -/
def Compatible (candidate : Candidate) (graph : Graph) : Prop :=
  ∃ info indices top, graph.info? (.first candidate.gather) = some info ∧
    graph.info? candidate.indices = some indices ∧
    graph.info? (.first candidate.chain.top) = some top ∧ top.element = info.element ∧
    Shape.compatible ⟨indices.shape.dims ++ top.shape.dims.drop 1⟩ info.shape = true

/-- If the table is converted only, one can be written in the type it is converted to. -/
def Scalable (candidate : Candidate) (graph : Graph) : Prop :=
  candidate.chain.dequantization = none → ∃ info payload,
    graph.info? (.first candidate.chain.convert) = some info ∧
    Payload.ofFloats? info.element [.one] = some payload

/-- There is a scale to replace a lookup with if the table is scaled or one can be written. -/
theorem exists_missingScale_iff {candidate : Candidate} {graph : Graph} :
    (∃ scale, candidate.missingScale graph = .ok scale) ↔ candidate.Scalable graph := by
  simp only [missingScale_eq_ok_iff, Scalable]
  constructor
  · rintro ⟨_, ⟨scaled, -⟩ | ⟨-, info, payload, carries, written, -⟩⟩ bare
    · exact absurd bare scaled
    · exact ⟨info, payload, carries, written⟩
  · intro scalable
    by_cases bare : candidate.chain.dequantization = none
    · obtain ⟨info, payload, carries, written⟩ := scalable bare
      exact ⟨_, .inr ⟨bare, info, payload, carries, written, rfl⟩⟩
    · exact ⟨none, .inl ⟨bare, rfl⟩⟩

/-- Where the conversion carries a tensor, the scale is declined in its type or not at all. -/
theorem missingScale_eq_error {candidate : Candidate} {graph : Graph} {decompressed : TensorInfo}
    (carries : graph.info? (.first candidate.chain.convert) = some decompressed)
    {failure : Failure ReplacementError} (failed : candidate.missingScale graph = .error failure) :
    failure = .refusal (.unitScale decompressed.element) := by
  unfold missingScale at failed
  split at failed
  · contradiction
  · simp only [unitScale, bind_eq_error_iff, monadLift_eq_error_iff, monadLift_eq_ok_iff,
      firstInfo_eq_ok_iff.mpr carries, Except.ok.injEq, exists_eq_left', reduceCtorEq, false_and,
      exists_false, false_or, pure, Except.pure, and_false, or_false] at failed
    split at failed
    · contradiction
    · exact (Except.error.inj failed).symm

section

variable {candidate : Candidate} {graph : Graph} (mirrored : graph.Mirrored)
  (fits : candidate.Fits graph)
include mirrored fits

/-- A replacement is planned where the lookup offers an output, exactly if the outputs are
compatible and there is a scale. -/
theorem exists_plan_iff : (∃ plan, candidate.plan graph = .ok plan) ↔
    candidate.Compatible graph ∧ candidate.Scalable graph := by
  obtain ⟨indices, indicesInfo⟩ := fits.exists_info_indices mirrored
  obtain ⟨top, topInfo⟩ := fits.exists_info mirrored (Chain.top_mem _)
  simp only [plan_eq_ok_iff fits.isLive indicesInfo topInfo, ← exists_missingScale_iff, Compatible]
  constructor
  · rintro ⟨plan, -, carries, element, shape, missing⟩
    exact ⟨⟨plan.info, indices, top, carries, indicesInfo, topInfo, element, shape⟩, _, missing⟩
  · rintro ⟨⟨info, indicesAgain, topAgain, carries, sameIndices, sameTop, element, shape⟩, scale,
      missing⟩
    obtain rfl := Option.some.inj (sameIndices.symm.trans indicesInfo)
    obtain rfl := Option.some.inj (sameTop.symm.trans topInfo)
    obtain ⟨-, axis, _, reads, -⟩ := fits
    obtain ⟨node, found, -⟩ := Graph.reads_iff.mp reads
    exact ⟨⟨node.name, info, scale⟩, ⟨node, found, rfl⟩, carries, element, shape, missing⟩

/-- Where the lookup offers an output, a replacement that is not planned is declined for its output
or else for its scale. -/
theorem plan_eq_error_cases (offers : ∃ info, graph.info? (.first candidate.gather) = some info)
    {failure : Failure ReplacementError} (failed : candidate.plan graph = .error failure) :
    (¬candidate.Compatible graph ∧ ∃ gather fused, failure = .refusal (.outputMismatch gather fused)) ∨
      (candidate.Compatible graph ∧ ∃ element, failure = .refusal (.unitScale element)) := by
  obtain ⟨info, carries⟩ := offers
  obtain ⟨indices, indicesInfo⟩ := fits.exists_info_indices mirrored
  obtain ⟨top, topInfo⟩ := fits.exists_info mirrored (Chain.top_mem _)
  obtain ⟨decompressed, decompressedInfo⟩ :=
    fits.exists_info mirrored candidate.chain.convert_mem
  obtain ⟨-, axis, _, reads, -⟩ := id fits
  obtain ⟨node, found, -⟩ := Graph.reads_iff.mp reads
  simp only [plan, fits.isLive, fusedInfo_eq indicesInfo topInfo, bind_eq_error_iff,
    monadLift_eq_error_iff, demand_eq_error_iff, Graph.node_eq_ok_iff.mpr found,
    firstInfo_eq_ok_iff.mpr carries, mapError_ok, monadLift_eq_ok_iff, exists_unit_iff,
    demand_eq_ok_iff, reduceCtorEq, false_and, exists_false, not_true_eq_false, true_and, false_or,
    Except.ok.injEq, exists_eq_left', pure, Except.pure, and_false, or_false] at failed
  rcases failed with ⟨different, rfl⟩ | ⟨⟨element, shape⟩, failed⟩
  · refine .inl ⟨?_, _, _, rfl⟩
    rintro ⟨infoAgain, indicesAgain, topAgain, sameInfo, sameIndices, sameTop, element, shape⟩
    obtain rfl := Option.some.inj (sameInfo.symm.trans carries)
    obtain rfl := Option.some.inj (sameIndices.symm.trans indicesInfo)
    obtain rfl := Option.some.inj (sameTop.symm.trans topInfo)
    exact different ⟨element, shape⟩
  · refine .inr ⟨⟨info, indices, top, carries, indicesInfo, topInfo, element, shape⟩,
      decompressed.element, ?_⟩
    exact missingScale_eq_error decompressedInfo failed

/-- Where the lookup offers an output, a replacement that is not planned is declined, and not by the
graph. -/
theorem plan_eq_error (offers : ∃ info, graph.info? (.first candidate.gather) = some info)
    {failure : Failure ReplacementError} (failed : candidate.plan graph = .error failure) :
    ∃ cause, failure = .refusal cause ∧ ∀ error, cause ≠ .graph error := by
  rcases plan_eq_error_cases mirrored fits offers failed with
    ⟨-, gather, fused, rfl⟩ | ⟨-, element, rfl⟩
  · exact ⟨_, rfl, by simp⟩
  · exact ⟨_, rfl, by simp⟩

end

end Candidate

/-! ## Plans while a graph evolves -/

/-- A replacement that is planned while a graph evolves was planned alike before, and one that was
planned before still is. -/
theorem Graph.Evolves.plan_eq_ok_iff {old new : Graph} {move : Port → Port}
    (evolves : old.Evolves move new) (mirrored : old.Mirrored) (mirroredStill : new.Mirrored)
    {candidate : Candidate} (fits : candidate.Fits old) (still : (candidate.rename move).Fits new)
    {plan : Candidate.Plan} :
    (candidate.rename move).plan new = .ok plan ↔ candidate.plan old = .ok plan := by
  have infoSame {port before : Port} (same : new.carried port = old.carried before) :
      new.info? port = old.info? before := by
    apply Option.ext
    intro info
    rw [← Graph.carried_eq_ok_iff, ← Graph.carried_eq_ok_iff, same]
  have offered {id : Nat}
      (inside : id ∈ candidate.gather :: candidate.chain.weight :: candidate.chain.intermediates) :
      new.info? (.first id) = old.info? (.first id) :=
    infoSame (evolves.firstInfo_eq fits still inside)
  have topSame := offered (List.mem_cons_of_mem _ (List.mem_cons_of_mem _ (Chain.top_mem _)))
  have gatherSame := offered List.mem_cons_self
  have indicesSame := infoSame (evolves.carried_indices_eq fits still mirrored mirroredStill)
  obtain ⟨indices, indicesInfo⟩ := fits.exists_info_indices mirrored
  obtain ⟨top, topInfo⟩ := fits.exists_info mirrored (Chain.top_mem _)
  have scaleSame : (candidate.rename move).missingScale new = candidate.missingScale old := by
    have convertSame := evolves.firstInfo_eq fits still
      (List.mem_cons_of_mem _ (List.mem_cons_of_mem _ candidate.chain.convert_mem))
    simp only [Candidate.missingScale, Candidate.unitScale, Candidate.rename, convertSame]
  have nameSame : (∃ node, new.node? candidate.gather = some node ∧ node.name = plan.name) ↔
      ∃ node, old.node? candidate.gather = some node ∧ node.name = plan.name := by
    obtain ⟨-, _, _, readsBefore, -⟩ := id fits
    obtain ⟨-, _, _, readsAfter, -⟩ := id still
    obtain ⟨before, found, -⟩ := Graph.reads_iff.mp readsBefore
    obtain ⟨after, survives, -⟩ := Graph.reads_iff.mp readsAfter
    have kept := evolves.kept _ _ _ (Graph.frame?_of_node? found)
      (Graph.frame?_of_node? survives)
    have names : after.name = before.name := congrArg Frame.name kept
    have survivesHere : new.node? candidate.gather = some after := survives
    simp [found, survivesHere, names]
  rw [Candidate.plan_eq_ok_iff fits.isLive indicesInfo topInfo,
    Candidate.plan_eq_ok_iff still.isLive (indicesSame.trans indicesInfo) (topSame.trans topInfo),
    scaleSame, ← nameSame, ← gatherSame]
  exact Iff.rfl

end GatherFusion

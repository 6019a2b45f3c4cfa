import GatherFusion.Proofs.Lookup.Effect

/-!
# Replacements that fail

A replacement checks everything it can before its first change, so whatever it declines there leaves
the graph as it was. For a lookup that was recognized in an acyclic graph and offers an output there
are four endings: its output is declared to be another than the fused lookup's, one cannot be written
as a scale, the lookup cannot be removed, or the replacement succeeds. In the third case the fused
lookup has taken over already.
-/
namespace GatherFusion

namespace Candidate

variable {candidate : Candidate} {graph changed : Graph} {plan : Plan} {layout : Layout}

/-- A replacement that is planned is declined by the graph or not at all. -/
theorem exists_graph_of_planned (planned : candidate.plan graph = .ok plan)
    {cause : ReplacementError}
    (declined : (candidate.replace layout).runOn graph = (.error (.refusal cause), changed)) :
    ∃ error, cause = .graph error := by
  rw [runOn_replace_of_planned planned] at declined
  rcases done : (plan.perform candidate layout.granularity).runOn graph with ⟨outcome, after⟩
  cases outcome with
  | ok fused => simp [Edit.runOn_mapCause_ok _ done] at declined
  | error failure =>
    rw [Edit.runOn_mapCause_error _ done, Prod.mk.injEq, Except.error.injEq] at declined
    cases failure with
    | fault fault => simp [Failure.mapCause] at declined
    | refusal error =>
      refine ⟨error, ?_⟩
      simpa [Failure.mapCause, eq_comm] using declined.1

/-- A replacement that is declined, and not by the graph, changes nothing. -/
theorem unchanged_of_declined {cause : ReplacementError}
    (declined : (candidate.replace layout).runOn graph = (.error (.refusal cause), changed))
    (own : ∀ error, cause ≠ .graph error) : changed = graph := by
  cases planned : candidate.plan graph with
  | ok plan =>
    obtain ⟨error, rfl⟩ := exists_graph_of_planned planned declined
    exact absurd rfl (own error)
  | error failure =>
    rw [runOn_replace_of_unplanned planned, Prod.mk.injEq] at declined
    exact declined.2.symm

/-- How the replacement of a recognized lookup may end. -/
inductive Ending (candidate : Candidate) (layout : Layout) (graph : Graph) : Prop where
  /-- The lookup is declared to yield something else than the fused lookup. -/
  | mismatched (different : ¬candidate.Compatible graph) {gather fused : TensorInfo}
    (run : (candidate.replace layout).runOn graph =
      (.error (.refusal (.outputMismatch gather fused)), graph))
  /-- One cannot be written in the type of the table. -/
  | unscaled (unscalable : ¬candidate.Scalable graph) {element : ElementType}
    (run : (candidate.replace layout).runOn graph =
      (.error (.refusal (.unitScale element)), graph))
  /-- A further output of the lookup is read, so that it cannot be removed. -/
  | stuck (compatible : candidate.Compatible graph) (scalable : candidate.Scalable graph)
    (read : ¬candidate.Removable graph) {node : Node} {fused : Nat} {changed : Graph}
    (live : changed.node? candidate.gather = some node)
    (supersedes : candidate.Supersedes layout.granularity graph changed fused fun _ => False)
    (run : (candidate.replace layout).runOn graph =
      (.error (.refusal (.graph (.nodeInUse node.name node.readerCount))), changed))
  /-- The replacement succeeds. -/
  | replaced (compatible : candidate.Compatible graph) (scalable : candidate.Scalable graph)
    (removable : candidate.Removable graph) {fused : Nat} {changed : Graph}
    (supersedes : candidate.Supersedes layout.granularity graph changed fused
      (candidate.Released graph))
    (run : (candidate.replace layout).runOn graph = (.ok fused, changed))

/-- The replacement of a recognized lookup that offers an output ends in one of these ways. -/
theorem Fits.ending (fits : candidate.Fits graph) (mirrored : graph.Mirrored)
    (acyclic : graph.Acyclic) (offers : ∃ info, graph.info? (.first candidate.gather) = some info)
    (layout : Layout) : candidate.Ending layout graph := by
  have plannedIff := exists_plan_iff mirrored fits
  cases planned : candidate.plan graph with
  | error failure =>
    have run := runOn_replace_of_unplanned planned layout
    rcases plan_eq_error_cases mirrored fits offers planned with
      ⟨different, gather, fused, rfl⟩ | ⟨compatible, element, rfl⟩
    · exact .mismatched different run
    · refine .unscaled (fun scalable => ?_) run
      obtain ⟨plan, again⟩ := plannedIff.mpr ⟨compatible, scalable⟩
      rw [planned] at again
      contradiction
  | ok plan =>
    obtain ⟨compatible, scalable⟩ := plannedIff.mp ⟨plan, planned⟩
    obtain ⟨axis, scale, withAxis, prepared, added, moved, replaced, outcome⟩ :=
      runOn_replace_cases mirrored fits planned layout
    rcases outcome with ⟨removable, lightened, after, run, drops, sheds, still⟩ |
      ⟨read, node, live, -, run⟩
    · exact .replaced compatible scalable removable
        (replaced.supersedes fits drops sheds mirrored acyclic planned still) run
    · exact .stuck compatible scalable read live
        (replaced.supersedes_of_stuck fits mirrored acyclic planned) run

/-- The lookup cannot be removed when a further output of it has a reader. -/
theorem not_removable_iff (mirrored : graph.Mirrored) : ¬candidate.Removable graph ↔
    ∃ index slot, index ≠ 0 ∧ slot ∈ graph.readers ⟨candidate.gather, index⟩ := by
  simp only [Removable, Graph.IsRead, mirrored.mem_readers_iff, not_forall, not_not]
  constructor
  · rintro ⟨index, later, slot, reads⟩
    exact ⟨index, slot, later, reads⟩
  · rintro ⟨index, slot, later, reads⟩
    exact ⟨index, later, slot, reads⟩

end Candidate

/-- Whatever is declined before the first change leaves the graph as it was, of any candidate. A
lookup that is recognized in an acyclic graph and offers an output is never stale, and the graph
declines its replacement in one case only: outputs and scale pass their checks, but a further output
of the lookup has a reader. Then the fused lookup has taken over all readers of the first output, and
no node is gone. -/
theorem failed_replacements_contained (history : List Action) (candidate : Candidate)
    (layout : Layout) :
    (∀ cause changed, (candidate.replace layout).runOn (Graph.after history) =
        (.error (.refusal cause), changed) →
      (∀ error, cause ≠ .graph error) → changed = Graph.after history) ∧
    ∀ gather, (Graph.after history).Acyclic →
      (Graph.after history).recognize gather = .ok (.ok candidate) →
      (∃ info, (Graph.after history).info? (.first gather) = some info) →
      (∀ changed, (candidate.replace layout).runOn (Graph.after history) ≠
        (.error (.refusal .stale), changed)) ∧
      (∀ error changed, (candidate.replace layout).runOn (Graph.after history) =
          (.error (.refusal (.graph error)), changed) →
        (∃ node, changed.node? gather = some node ∧
          error = .nodeInUse node.name node.readerCount) ∧
        ∃ fused, candidate.Supersedes layout.granularity (Graph.after history) changed fused
          fun _ => False) ∧
      ((∃ error changed, (candidate.replace layout).runOn (Graph.after history) =
          (.error (.refusal (.graph error)), changed)) ↔
        candidate.Compatible (Graph.after history) ∧ candidate.Scalable (Graph.after history) ∧
          ∃ index slot, index ≠ 0 ∧ slot ∈ (Graph.after history).readers ⟨gather, index⟩) := by
  have mirrored := Graph.mirrored_after history
  generalize Graph.after history = graph at *
  refine ⟨fun _ _ declined own => Candidate.unchanged_of_declined declined own, ?_⟩
  intro gather acyclic recognized offers
  obtain ⟨rfl, fits⟩ := mirrored.recognize_eq_ok_iff.mp recognized
  rw [← Candidate.not_removable_iff mirrored]
  cases fits.ending mirrored acyclic offers layout with
  | mismatched different run =>
    rw [run]
    simp [different]
  | unscaled unscalable run =>
    rw [run]
    simp [unscalable]
  | stuck compatible scalable read live supersedes run =>
    rw [run]
    refine ⟨by simp, ?_, by simp [compatible, scalable, read]⟩
    rintro error changed same
    simp only [Prod.mk.injEq, Except.error.injEq, Failure.refusal.injEq,
      ReplacementError.graph.injEq] at same
    obtain ⟨rfl, rfl⟩ := same
    exact ⟨⟨_, live, rfl⟩, _, supersedes⟩
  | replaced compatible scalable removable supersedes run =>
    rw [run]
    simp [removable]

/-- A lookup with two outputs, both of which are read. -/
def twoOutputs : List Action := [
  .addConstant "weight" (.fixed .u8 [2, 2]) ⟨[5, 6, 7, 8]⟩,
  .addConstant "axis" (.fixed .i64 []) (.ofInt64s [0]),
  .addParameter "indices" (.fixed .i64 [3]),
  .addNode .convert [.first 0] [.fixed .f16 [2, 2]] "converted",
  .addNode (.gather 0) [.first 3, .first 2, .first 1]
    [.fixed .f16 [3, 2], .fixed .f16 [3, 2]] "lookup",
  .addResult "rows" (.first 4),
  .addResult "spare" ⟨4, 1⟩]

/-- The candidate at that lookup. -/
def twoOutputsLookup : Candidate := ⟨4, .first 2, 1, 0, ⟨0, 3, none, none, none⟩⟩

/-- The lookup cannot be removed, but the fused lookup behind its fresh scale has taken over. -/
theorem failed_replacement_contained_twoOutputs : ∃ changed : Graph,
    (twoOutputsLookup.replace ⟨.symmetric, .perTensor⟩).runOn (Graph.after twoOutputs) =
        (.error (.refusal (.graph (.nodeInUse "lookup" 1))), changed) ∧
      changed.ids = [0, 1, 2, 3, 4, 5, 6, 7, 8] ∧
      ∃ fused, twoOutputsLookup.Supersedes .perTensor (Graph.after twoOutputs) changed fused
        fun _ => False := by
  have acyclic : (Graph.after twoOutputs).Acyclic := Graph.acyclic_of_older (by decide +kernel)
  have recognized : (Graph.after twoOutputs).recognize 4 = .ok (.ok twoOutputsLookup) := by
    decide +kernel
  have offers : ∃ info, (Graph.after twoOutputs).info? (.first 4) = some info :=
    ⟨.fixed .f16 [3, 2], by decide +kernel⟩
  have outcome : ((twoOutputsLookup.replace ⟨.symmetric, .perTensor⟩).runOn
      (Graph.after twoOutputs)).1 = .error (.refusal (.graph (.nodeInUse "lookup" 1))) := by
    decide +kernel
  have left : ((twoOutputsLookup.replace ⟨.symmetric, .perTensor⟩).runOn
      (Graph.after twoOutputs)).2.ids = [0, 1, 2, 3, 4, 5, 6, 7, 8] := by decide +kernel
  have stuck := Edit.runOn_eq_of_fst outcome
  have contained := (failed_replacements_contained twoOutputs twoOutputsLookup
    ⟨.symmetric, .perTensor⟩).2 4 acyclic recognized offers
  exact ⟨_, stuck, left, (contained.2.1 _ _ stuck).2⟩

end GatherFusion

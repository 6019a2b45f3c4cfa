import GatherFusion.Proofs.Lookup.Pending
import GatherFusion.Proofs.Pass.Report

/-!
# Fusing twice

A lookup that was not fused is looked at again by the next fusion. Everything that kept it from
being fused is as it was, with one exception: a scale or zero point that somebody else read may have
lost that reader when a later turn removed it. The next fusion therefore fuses exactly the lookups
that this one turned down over a shared constant and that have become ready since.
-/
namespace GatherFusion.Fusion

variable {config : FusionConfig} {graph : Graph} {report : Report}

/-- A lookup is recognized, accepted and can be replaced in a graph. -/
def ReadyAt (config : FusionConfig) (graph : Graph) (gather : Nat) : Prop :=
  ∃ candidate layout fused changed, graph.recognize gather = .ok (.ok candidate) ∧
    candidate.layout config graph = .ok layout ∧
    (candidate.replace layout).runOn graph = (.ok fused, changed)

/-- A lookup is ready when its candidate is pending and nothing reads a further output. -/
theorem readyAt_iff (mirrored : graph.Mirrored) {gather : Nat} :
    ReadyAt config graph gather ↔ ∃ candidate : Candidate, candidate.gather = gather ∧
      candidate.Pending config graph ∧ candidate.Removable graph := by
  have float {candidate : Candidate} {layout : Layout} {plan : Candidate.Plan}
      (accepted : candidate.layout config graph = .ok layout)
      (planned : candidate.plan graph = .ok plan) : plan.info.element.isFloat = true :=
    Candidate.isFloat_of_planned planned (Candidate.layout_eq_ok_iff.mp accepted).1
  constructor
  · rintro ⟨candidate, layout, fused, changed, recognized, accepted, replaced⟩
    obtain ⟨same, fits⟩ := mirrored.recognize_eq_ok_iff.mp recognized
    cases planned : candidate.plan graph with
    | error failure =>
      rw [Candidate.runOn_replace_of_unplanned planned] at replaced
      simp at replaced
    | ok plan =>
      refine ⟨candidate, same, ⟨fits, ⟨layout, accepted⟩, plan, planned⟩, ?_⟩
      rcases Candidate.runOn_replace mirrored fits planned (float accepted planned) layout with
        ⟨removable, -⟩ | ⟨-, error, fused, other, run, -⟩
      · exact removable
      · rw [run] at replaced
        simp at replaced
  · rintro ⟨candidate, rfl, ⟨fits, ⟨layout, accepted⟩, plan, planned⟩, removable⟩
    rcases Candidate.runOn_replace mirrored fits planned (float accepted planned) layout with
      ⟨-, fused, changed, run, -⟩ | ⟨read, -⟩
    · exact ⟨candidate, layout, fused, changed,
        mirrored.recognize_eq_ok_iff.mpr ⟨rfl, fits⟩, accepted, run⟩
    · exact absurd removable read

/-- A candidate that is pending on its turn is fused if nothing reads a further output of the lookup,
and only then. -/
theorem Outcome.fused?_eq_none_iff {candidate : Candidate} {turn : Turn} {changed : Graph}
    (outcome : Outcome config graph candidate (.ok turn) changed)
    (pending : candidate.Pending config graph) :
    turn.fused? = none ↔ ¬candidate.Removable graph := by
  rcases outcome.cases_of_pending pending with ⟨removable, _, _, _, rfl⟩ | ⟨read, _, _, rfl⟩
  · simp [Turn.fused?, removable]
  · simp [Turn.fused?, read]

/-- A candidate that is fused on its turn is pending. -/
theorem Outcome.pending_of_fused {candidate : Candidate} {turn : Turn} {changed : Graph}
    (outcome : Outcome config graph candidate (.ok turn) changed) (fused : turn.fused? ≠ none) :
    candidate.Pending config graph := by
  cases outcome with
  | stale | rejected | unplanned | stuck => exact absurd rfl fused
  | fused fits accepted planned => exact ⟨fits, ⟨_, accepted⟩, _, planned⟩

/-- Whether the lookup of a candidate can be removed does not change as long as no node goes. -/
theorem removable_iff_of_retains {old new : Graph} {move : Port → Port} {candidate : Candidate}
    (evolves : old.Evolves move new) (retains : old.Retains new) (fits : candidate.Fits old) :
    candidate.Removable old ↔ candidate.Removable new := by
  obtain ⟨before, _, found, operation, -⟩ := fits.exists_frame
  obtain ⟨after, survives⟩ := retains _ _ found
  refine Candidate.removable_iff evolves survives ?_
  rw [evolves.kept _ _ _ found survives]
  simp [Frame.rename, operation, Operation.isGather]

/-- What a turn fuses while no node has gone was ready from the start. -/
theorem Outcome.ready_of_fused {before after : Graph} {candidate : Candidate} {turn : Turn}
    {move : Port → Port} (outcome : Outcome config before candidate (.ok turn) after)
    (mirrored : graph.Mirrored) (mirroredBefore : before.Mirrored) (byName : config.SkipsByName)
    (evolves : graph.Evolves move before) (retains : graph.Retains before)
    (fused : turn.fused? ≠ none) : ReadyAt config graph candidate.gather := by
  have pending := outcome.pending_of_fused fused
  have pendingFirst := evolves.pending_before mirrored mirroredBefore byName retains pending
  have removable : candidate.Removable before := by
    by_contra read
    exact fused ((outcome.fused?_eq_none_iff pending).mpr read)
  have removableFirst :=
    (removable_iff_of_retains evolves retains pendingFirst.fits).mpr removable
  exact (readyAt_iff mirrored).mpr ⟨candidate, rfl, pendingFirst, removableFirst⟩

/-- A fusion that returns fuses nothing exactly when no lookup of the graph is ready. -/
theorem fused_eq_nil_iff (mirrored : graph.Mirrored) (byName : config.SkipsByName)
    (returned : (run config graph).result = .ok report) :
    report.fused = [] ↔ ∀ gather, ¬ReadyAt config graph gather := by
  constructor
  · intro unfused gather ready
    obtain ⟨candidate, rfl, pending, removable⟩ := (readyAt_iff mirrored).mp ready
    obtain ⟨turns, rfl, -, -, taken⟩ := exists_stages mirrored returned
    obtain ⟨turn, told, before, after, stage, outcome, -⟩ := taken candidate pending.fits
    obtain ⟨move, evolves⟩ := stage.evolves
    have retains := stage.retains unfused
    have pendingStill := evolves.pending mirrored stage.mirrored byName retains pending
    have removableStill :=
      (removable_iff_of_retains evolves retains pending.fits).mp removable
    have quiet := Report.fused_ofTurns.mp unfused turn told
    exact (outcome.fused?_eq_none_iff pendingStill).mp quiet removableStill
  · intro unready
    have unfused {before after : Graph} {candidate : Candidate} {turn : Turn}
        (stage : before.Mirrored ∧ (∃ move, graph.Evolves move before) ∧ graph.Retains before)
        (outcome : Outcome config before candidate (.ok turn) after) : turn.fused? = none := by
      obtain ⟨mirroredBefore, ⟨move, evolves⟩, retains⟩ := stage
      by_contra fused
      exact unready _ (outcome.ready_of_fused mirrored mirroredBefore byName evolves retains fused)
    obtain ⟨turns, rfl, -, taken, -⟩ := exists_turns
      (fun before => before.Mirrored ∧ (∃ move, graph.Evolves move before) ∧
        graph.Retains before)
      mirrored returned
      ⟨mirrored, ⟨id, Graph.Evolves.refl graph⟩, fun _ before found => ⟨before, found⟩⟩
      (fun turns before candidate turn after _ told taken stage =>
        ⟨taken.mirrored_after, taken.evolves_after,
          stage.2.2.trans (taken.outcome.retains (unfused stage taken.outcome))⟩)
    refine Report.fused_ofTurns.mpr fun turn told => ?_
    obtain ⟨candidate, -, before, after, stage, outcome, -⟩ := taken turn told
    exact unfused stage outcome

/-- A candidate that is pending in the end, can be replaced there and was described on its turn was
turned down on its turn over a shared constant. -/
theorem Outcome.shared_of_pending {candidate : Candidate} {turn : Turn}
    {before after final : Graph} {own later : Port → Port} {layout : Layout}
    (outcome : Outcome config before candidate (.ok turn) after) (byName : config.SkipsByName)
    (mirroredBefore : before.Mirrored) (mirroredFinal : final.Mirrored)
    (step : before.Evolves own after) (toFinal : after.Evolves later final)
    (fitsBefore : candidate.Fits before)
    (describedBefore : candidate.described config before = .ok layout)
    (pending : candidate.Pending config final) (removable : candidate.Removable final) :
    ∃ part, turn.rejected? = some (candidate.gather, .sharedConstant part) := by
  obtain ⟨fits, ⟨again, accepted⟩, plan, planned⟩ := pending
  have rest := step.trans toFinal
  -- All that other outcomes stand for would still be so at the end, except for readers that went.
  cases outcome with
  | stale overtaken =>
    rw [fitsBefore.isLive] at overtaken
    contradiction
  | rejected _ declined =>
    rcases Candidate.layout_refused mirroredBefore declined with
      undescribed | ⟨-, part, rfl⟩ | ⟨old, there, skipped⟩
    · exact absurd describedBefore (undescribed layout)
    · exact ⟨part, rfl⟩
    · obtain ⟨-, -, node, found, unskipped⟩ := mirroredFinal.layout_eq_ok_iff.mp accepted
      rw [← rest.skips_eq byName there found, unskipped] at skipped
      contradiction
  | unplanned _ declined =>
    exact absurd ((rest.plan_iff_of_described mirroredBefore mirroredFinal fitsBefore fits
      describedBefore).mp planned) (declined plan)
  | fused _ _ _ _ _ gone =>
    obtain ⟨frame, _, survives, -⟩ := fits.exists_frame
    obtain ⟨old, _, found, -⟩ := fitsBefore.exists_frame
    have below := Graph.lt_next_of_frame? found
    have more := step.next
    obtain ⟨again, there⟩ := toFinal.exists_before survives (by omega)
    rw [gone] at there
    contradiction
  | stuck _ _ _ read =>
    obtain ⟨frame, _, survives, operation, -⟩ := fits.exists_frame
    have lookup : frame.operation.isGather = true := by simp [operation, Operation.isGather]
    exact absurd ((Candidate.removable_iff rest survives lookup).mpr removable) read

/-- A lookup that is ready after a fusion was turned down by it over a shared constant. -/
theorem exists_shared_of_ready (mirrored : graph.Mirrored) (byName : config.SkipsByName)
    (returned : (run config graph).result = .ok report) {gather : Nat}
    (ready : ReadyAt config (run config graph).graph gather) :
    ∃ part, (gather, .sharedConstant part) ∈ report.rejected := by
  obtain ⟨turns, rfl, final, -, taken⟩ := exists_stages mirrored returned
  obtain ⟨candidate, rfl, pending, removable⟩ := (readyAt_iff final.mirrored).mp ready
  obtain ⟨layout, accepted⟩ := pending.accepted
  have described := (final.mirrored.layout_eq_ok_iff.mp accepted).1
  obtain ⟨move, evolves⟩ := final.evolves
  obtain ⟨fitsFirst, describedFirst⟩ :=
    evolves.fits_before_of_described mirrored final.mirrored pending.fits described
  obtain ⟨turn, told, before, after, stage, outcome, later, toFinal⟩ := taken candidate fitsFirst
  obtain ⟨earlier, toBefore⟩ := stage.evolves
  obtain ⟨own, step⟩ := outcome.exists_evolves
  obtain ⟨fitsBefore, describedBefore⟩ := toBefore.fits_of_described mirrored stage.mirrored
    fitsFirst describedFirst fun id inside => by
      obtain ⟨frame, survives⟩ := pending.fits.exists_frame_of_mem inside
      obtain ⟨old, there⟩ := fitsFirst.exists_frame_of_mem inside
      have below := Graph.lt_next_of_frame? there
      have grown := toBefore.next
      exact (step.trans toFinal).exists_before survives (by omega)
  obtain ⟨part, rejected⟩ := outcome.shared_of_pending byName stage.mirrored final.mirrored step
    toFinal fitsBefore describedBefore pending removable
  exact ⟨part, List.mem_filterMap.mpr ⟨turn, told, rejected⟩⟩

/-- What a fusion reports that runs on the graph another one left: it fuses nothing, and says so,
unless a lookup that the first one turned down over a shared constant has become ready. It returns
where every lookup offers an output. -/
theorem fuses_nothing_again_iff (history : List Action) (config : FusionConfig) (report : Report)
    (byName : config.SkipsByName)
    (returned : (run config (Graph.after history)).result = .ok report) :
    (∀ again, (run config (run config (Graph.after history)).graph).result = .ok again →
      ((again.fused = [] ∧ again.changed = false) ↔
        ¬∃ gather part, (gather, .sharedConstant part) ∈ report.rejected ∧
          ReadyAt config (run config (Graph.after history)).graph gather)) ∧
    ((∀ id node, (Graph.after history).node? id = some node → node.operation.isGather = true →
        node.outputs ≠ []) →
      ∃ again, (run config (run config (Graph.after history)).graph).result = .ok again) := by
  have mirrored := Graph.mirrored_after history
  have mirroredStill := Graph.stable_mirrored.fusion config mirrored
  constructor
  · intro again returnedAgain
    have changed : (again.fused = [] ∧ again.changed = false) ↔ again.fused = [] := by
      simp [Report.changed]
    rw [changed, fused_eq_nil_iff mirroredStill byName returnedAgain]
    constructor
    · rintro unready ⟨gather, part, -, ready⟩
      exact unready gather ready
    · intro none gather ready
      obtain ⟨part, rejected⟩ := exists_shared_of_ready mirrored byName returned ready
      exact none ⟨gather, part, rejected, ready⟩
  · intro offers
    refine exists_report mirroredStill fun candidate fits => ?_
    obtain ⟨turns, -, final, -⟩ := exists_stages mirrored returned
    obtain ⟨move, evolves⟩ := final.evolves
    obtain ⟨frame, _, survives, operation, -⟩ := fits.exists_frame
    have lookup : frame.operation.isGather = true := by simp [operation, Operation.isGather]
    obtain ⟨before, found⟩ := evolves.exists_of_isGather survives lookup
    obtain ⟨node, live, rfl⟩ := Graph.frame?_eq_some_iff.mp found
    have lookupBefore : node.operation.isGather = true := by
      rw [evolves.kept _ _ _ found survives] at lookup
      exact lookup
    have nonempty := offers candidate.gather node live lookupBefore
    obtain ⟨output, rest, outputs⟩ := List.exists_cons_of_ne_nil nonempty
    refine ⟨output.info, ?_⟩
    rw [show Port.first candidate.gather = ⟨candidate.gather, 0⟩ from rfl,
      evolves.info?_eq_of_frame? found survives, Graph.info?_eq, found]
    simp [Node.frame, outputs]

/-- Two lookups, each in a table of its own, where the zero point of the first table is also the
second table. -/
def zeroPointAsTable : List Action := [
  .addConstant "weight" (.fixed .u8 [1, 1]) ⟨[5]⟩,
  .addConstant "zero" (.fixed .u8 [1, 1]) ⟨[3]⟩,
  .addConstant "scale" (.fixed .f32 []) (.ofSingles [.one]),
  .addConstant "axis" (.fixed .i64 []) (.ofInt64s [0]),
  .addParameter "indices" (.fixed .i64 [3]),
  .addNode .convert [.first 0] [.fixed .f32 [1, 1]] "weight_convert",
  .addNode .convert [.first 1] [.fixed .f32 [1, 1]] "zero_convert",
  .addNode .subtract [.first 5, .first 6] [.fixed .f32 [1, 1]] "shift",
  .addNode .multiply [.first 7, .first 2] [.fixed .f32 [1, 1]] "scaled",
  .addNode .convert [.first 1] [.fixed .f32 [1, 1]] "zero_table",
  .addNode (.gather 0) [.first 8, .first 4, .first 3] [.fixed .f32 [3, 1]] "first",
  .addNode (.gather 0) [.first 9, .first 4, .first 3] [.fixed .f32 [3, 1]] "second"]

/-- The first fusion turns the first lookup down over the zero point and fuses the second one, which
takes the other reader from the zero point; that makes the first lookup ready, as the report of the
second fusion shows. -/
theorem ready_after_fusion_of_zeroPointAsTable :
    (run {} (Graph.after zeroPointAsTable)).result =
        .ok ⟨2, [13], [(10, .sharedConstant .zeroPoint)], []⟩ ∧
      ∃ gather part, (gather, .sharedConstant part) ∈ [(10, Rejection.sharedConstant .zeroPoint)] ∧
        ReadyAt {} (run {} (Graph.after zeroPointAsTable)).graph gather := by
  have first : (run {} (Graph.after zeroPointAsTable)).result =
      .ok ⟨2, [13], [(10, .sharedConstant .zeroPoint)], []⟩ := by
    decide +kernel
  have second : (run {} (run {} (Graph.after zeroPointAsTable)).graph).result =
      .ok ⟨1, [14], [], []⟩ := by
    decide +kernel
  have verdict := (fuses_nothing_again_iff zeroPointAsTable {} _ (fun _ _ _ => rfl) first).1 _ second
  refine ⟨first, ?_⟩
  by_contra none
  have unfused : [14] = [] := (verdict.mpr none).1
  simp at unfused

end GatherFusion.Fusion

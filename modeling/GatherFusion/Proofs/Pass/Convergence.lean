import GatherFusion.Proofs.Pass.Repetition
import GatherFusion.Proofs.Pass.Tidiness
import Mathlib.Data.List.Nodup

/-!
# How soon the standard passes come to rest

Where every lookup offers one output, a fusion either fuses a lookup, which then is gone for good, or
leaves the graph alone; nothing can stop a replacement halfway. The removal of dead nodes leaves
nothing for a later one to find unless a fusion comes in between. So a round of the two passes makes
lookups fewer, or it is the first round and there was dead code at the start. That bounds the rounds,
and where the bound is below the limit the last round has changed nothing.
-/
namespace GatherFusion

/-! ## Lookups that offer one output -/

/-- Every lookup offers one output. -/
def Graph.SingleLookups (graph : Graph) : Prop :=
  ∀ id frame, graph.frame? id = some frame → frame.operation.isGather = true →
    frame.infos.length = 1

section

variable {graph changed : Graph} {candidate : Candidate} {config : FusionConfig}

/-- Evolution brings no lookups, and leaves to each what it offers. -/
theorem Graph.SingleLookups.evolves (single : graph.SingleLookups) {move : Port → Port}
    (evolves : graph.Evolves move changed) : changed.SingleLookups := by
  intro id frame found lookup
  obtain ⟨before, there⟩ := evolves.exists_of_isGather found lookup
  obtain rfl := evolves.kept id before frame there found
  exact single id before there lookup

/-- Where nodes are at most lost the lookups left offer what they offered. -/
theorem Graph.SingleLookups.thins (single : graph.SingleLookups) (thins : graph.Thins changed) :
    changed.SingleLookups :=
  fun id frame found => single id frame (thins id frame found)

/-- The lookup of a fitting candidate is one of those that offer one output. -/
theorem Graph.SingleLookups.exists_frame (single : graph.SingleLookups)
    (fits : candidate.Fits graph) :
    ∃ frame, graph.frame? candidate.gather = some frame ∧ frame.infos.length = 1 := by
  obtain ⟨frame, axis, found, operation, -⟩ := fits.exists_frame
  exact ⟨frame, found, single _ frame found (by simp [operation, Operation.isGather])⟩

/-- Nothing reads a further output of a lookup that offers one. -/
theorem Candidate.Fits.removable (fits : candidate.Fits graph) (mirrored : graph.Mirrored)
    (single : graph.SingleLookups) : candidate.Removable graph := by
  rintro index later ⟨slot, reads⟩
  obtain ⟨frame, found, one⟩ := single.exists_frame fits
  obtain ⟨output, there⟩ := mirrored.exists_output reads
  have carries : graph.info? ⟨candidate.gather, index⟩ = some output.info :=
    congrArg (Option.map Output.info) there
  rw [Graph.info?_eq, found, Option.bind_some] at carries
  have inside : index < frame.infos.length := (List.getElem?_eq_some_iff.mp carries).1
  omega

/-- A lookup that offers one output offers its first. -/
theorem Candidate.Fits.exists_info_gather (fits : candidate.Fits graph)
    (single : graph.SingleLookups) :
    ∃ info, graph.info? (.first candidate.gather) = some info := by
  obtain ⟨frame, found, one⟩ := single.exists_frame fits
  have first : 0 < frame.infos.length := by omega
  refine ⟨frame.infos[0], ?_⟩
  rw [Graph.info?_eq, Port.first, found, Option.bind_some]
  exact List.getElem?_eq_getElem first

/-! ## Lookups that are left -/

/-- A lookup is listed once. -/
theorem Graph.nodup_gathers (graph : Graph) : graph.gathers.Nodup :=
  graph.increasing_gathers.imp Nat.ne_of_lt

/-- Where no lookup is new there are not more of them. -/
theorem Graph.length_gathers_le (old : ∀ id ∈ changed.gathers, id ∈ graph.gathers) :
    changed.gathers.length ≤ graph.gathers.length :=
  (changed.nodup_gathers.subperm old).length_le

/-- Where no lookup is new and one is gone there are fewer. -/
theorem Graph.length_gathers_lt (old : ∀ id ∈ changed.gathers, id ∈ graph.gathers) {gone : Nat}
    (there : gone ∈ graph.gathers) (lost : gone ∉ changed.gathers) :
    changed.gathers.length < graph.gathers.length := by
  have distinct : (gone :: changed.gathers).Nodup := List.nodup_cons.mpr ⟨lost, changed.nodup_gathers⟩
  have inside : ∀ id ∈ gone :: changed.gathers, id ∈ graph.gathers := by
    intro id inside
    rcases List.mem_cons.mp inside with rfl | inside
    · exact there
    · exact old id inside
  exact (distinct.subperm inside).length_le

/-- Evolution brings no lookups. -/
theorem Graph.Evolves.gathers {move : Port → Port} (evolves : graph.Evolves move changed) :
    ∀ id ∈ changed.gathers, id ∈ graph.gathers := by
  intro id inside
  obtain ⟨frame, found, lookup⟩ := Graph.mem_gathers.mp inside
  obtain ⟨before, there⟩ := evolves.exists_of_isGather found lookup
  obtain rfl := evolves.kept id before frame there found
  exact Graph.mem_gathers.mpr ⟨before, there, lookup⟩

/-- Where nodes are at most lost no lookup is new. -/
theorem Graph.Thins.gathers (thins : graph.Thins changed) :
    ∀ id ∈ changed.gathers, id ∈ graph.gathers := by
  intro id inside
  obtain ⟨frame, found, lookup⟩ := Graph.mem_gathers.mp inside
  exact Graph.mem_gathers.mpr ⟨frame, thins id frame found, lookup⟩

/-! ## A fusion of such a graph -/

namespace Fusion

/-- A turn that fuses nothing is idle. -/
theorem Outcome.idle_of_unfused {turn : Turn} (outcome : Outcome config graph candidate (.ok turn) changed)
    (mirrored : graph.Mirrored) (single : graph.SingleLookups) (unfused : turn.fused? = none) :
    turn.Idle := by
  refine ⟨unfused, fun gather error told => ?_⟩
  cases outcome with
  | stale | rejected => simp [Turn.failed?] at told
  | unplanned _ _ own =>
    simp only [Turn.failed?, Option.some.injEq, Prod.mk.injEq] at told
    exact own error told.2
  | fused => simp [Turn.failed?] at told
  | stuck fits _ _ read => exact read (fits.removable mirrored single)

/-- A fusion that fuses nothing leaves the graph as it was. -/
theorem graph_eq_of_unfused {report : Report} (mirrored : graph.Mirrored)
    (single : graph.SingleLookups) (returned : (run config graph).result = .ok report)
    (unfused : report.fused = []) : (run config graph).graph = graph := by
  obtain ⟨turns, rfl, final, taken, -⟩ := exists_stages mirrored returned
  refine final.same (Report.idle_ofTurns.mpr fun turn told => ?_)
  obtain ⟨candidate, -, before, after, stage, outcome, -⟩ := taken turn told
  obtain ⟨move, evolves⟩ := stage.evolves
  exact outcome.idle_of_unfused stage.mirrored (single.evolves evolves)
    (Report.fused_ofTurns.mp unfused turn told)

/-- A fusion that fuses a lookup leaves fewer of them. -/
theorem length_gathers_lt_of_fused {report : Report} (mirrored : graph.Mirrored)
    (returned : (run config graph).result = .ok report) (fused : report.fused ≠ []) :
    (run config graph).graph.gathers.length < graph.gathers.length := by
  obtain ⟨turns, rfl, final, taken, -⟩ := exists_stages mirrored returned
  obtain ⟨move, evolves⟩ := final.evolves
  simp only [ne_eq, Report.fused_ofTurns, Classical.not_forall] at fused
  obtain ⟨turn, told, busy⟩ := fused
  obtain ⟨candidate, fits, before, after, stage, outcome, later, toFinal⟩ := taken turn told
  obtain ⟨frame, axis, found, operation, -⟩ := fits.exists_frame
  have there : candidate.gather ∈ graph.gathers :=
    Graph.mem_gathers.mpr ⟨frame, found, by rw [operation]; rfl⟩
  refine Graph.length_gathers_lt evolves.gathers there fun left => ?_
  have leftAfter := toFinal.gathers _ left
  obtain ⟨_, survives, -⟩ := Graph.mem_gathers.mp leftAfter
  cases outcome with
  | stale | rejected | unplanned | stuck => exact busy rfl
  | fused _ _ _ _ _ gone =>
    rw [gone] at survives
    contradiction

end Fusion

end

/-! ## Rounds of the standard passes -/

namespace Pipeline

variable {graph : Graph} {config : FusionConfig}

/-- A mirrored graph whose lookups offer one output. -/
structure Ready (graph : Graph) : Prop where
  /-- The edges agree. -/
  mirrored : graph.Mirrored
  /-- Every lookup offers one output. -/
  single : graph.SingleLookups

/-- A graph to which neither a fusion nor the removal of dead nodes does anything. -/
def Settled (config : FusionConfig) (graph : Graph) : Prop :=
  (∃ report, (Fusion.run config graph).result = .ok report ∧ report.fused = [] ∧
    (Fusion.run config graph).graph = graph) ∧
  (Cleanup.run graph).result = .ok false ∧ (Cleanup.run graph).graph = graph

/-- A round tells of a change when its first pass does or the others do. -/
theorem result_round_cons {pass : Pass} {rest : List Pass} {changed later : Bool}
    (told : (pass.run graph).result = .ok changed)
    (toldLater : (round (pass.run graph).graph rest).result = .ok later) :
    (round graph (pass :: rest)).result = .ok (changed || later) := by
  simp [round, Run.andThen, told, toldLater, Run.done]

/-- A round of fusion and removal of dead nodes returns. It leaves what the removal leaves of what the
fusion left, and tells of a change when one of them does. -/
theorem round_eq (config : FusionConfig) (ready : Ready graph) : ∃ report removed,
    (Fusion.run config graph).result = .ok report ∧
      (Cleanup.run (Fusion.run config graph).graph).result = .ok removed ∧
      (round graph [.fusion config, .cleanup]).result = .ok (report.changed || removed) ∧
      (round graph [.fusion config, .cleanup]).graph =
        (Cleanup.run (Fusion.run config graph).graph).graph := by
  obtain ⟨report, returned⟩ : ∃ report, (Fusion.run config graph).result = .ok report :=
    Fusion.exists_report ready.mirrored fun _ fits => fits.exists_info_gather ready.single
  have told : ((Pass.fusion config).run graph).result = .ok report.changed :=
    Pass.run_fusion_eq_ok_iff.mpr ⟨report, returned, rfl⟩
  obtain ⟨removed, cleaned⟩ : ∃ removed,
      (Pass.cleanup.run (Fusion.run config graph).graph).result = .ok removed := ⟨_, rfl⟩
  refine ⟨report, removed, returned, cleaned, ?_, ?_⟩
  · apply result_round_cons told
    rw [Pass.graph_run_fusion, result_round_cons cleaned rfl, Bool.or_false]
  · rw [graph_round_cons ⟨_, told⟩, Pass.graph_run_fusion, graph_round_cons ⟨_, cleaned⟩]
    rfl

/-- After a round of fusion and removal of dead nodes nothing is dead, and there are no more lookups
than before. -/
theorem ready_round (config : FusionConfig) (ready : Ready graph) :
    Ready (round graph [.fusion config, .cleanup]).graph ∧
      (round graph [.fusion config, .cleanup]).graph.Tidy ∧
      (round graph [.fusion config, .cleanup]).graph.gathers.length ≤
        (Fusion.run config graph).graph.gathers.length := by
  obtain ⟨report, -, returned, -, -, left⟩ := round_eq config ready
  obtain ⟨turns, -, final, -⟩ := Fusion.exists_stages ready.mirrored returned
  obtain ⟨move, evolves⟩ := final.evolves
  have thins : (Fusion.run config graph).graph.Thins
      (Cleanup.run (Fusion.run config graph).graph).graph :=
    Cleanup.thins_sweep final.mirrored 0 _
  have mirrored : (Cleanup.run (Fusion.run config graph).graph).graph.Mirrored :=
    Graph.stable_mirrored.sweep final.mirrored 0 _
  have single := (ready.single.evolves evolves).thins thins
  rw [left]
  exact ⟨⟨mirrored, single⟩, Cleanup.tidy_run final.mirrored,
    Graph.length_gathers_le thins.gathers⟩

/-- A round that says that it changed the graph leaves no more lookups, and fewer where nothing was
dead before it. -/
theorem length_gathers_round (ready : Ready graph)
    (changed : (round graph [.fusion config, .cleanup]).result = .ok true) :
    (round graph [.fusion config, .cleanup]).graph.gathers.length ≤ graph.gathers.length ∧
      (graph.Tidy → (round graph [.fusion config, .cleanup]).graph.gathers.length <
        graph.gathers.length) := by
  obtain ⟨report, removed, returned, cleaned, told, -⟩ := round_eq config ready
  obtain ⟨-, -, fewer⟩ := ready_round config ready
  by_cases unfused : report.fused = []
  · have same := Fusion.graph_eq_of_unfused ready.mirrored ready.single returned unfused
    rw [same] at fewer cleaned
    refine ⟨fewer, fun tidy => ?_⟩
    -- Nothing was fused and nothing was dead, so the round has nothing to tell.
    have quiet := (Cleanup.run_of_tidy ready.mirrored tidy).1
    rw [cleaned, Except.ok.injEq] at quiet
    rw [changed, Fusion.Report.changed_eq_false_iff.mpr unfused, quiet] at told
    simp at told
  · have less := Fusion.length_gathers_lt_of_fused ready.mirrored returned unfused
    exact ⟨by omega, fun _ => by omega⟩

/-- A round that says that it changed nothing leaves a settled graph as it was. -/
theorem settled_of_quiet (ready : Ready graph)
    (quiet : (round graph [.fusion config, .cleanup]).result = .ok false) :
    (round graph [.fusion config, .cleanup]).graph = graph ∧ Settled config graph := by
  obtain ⟨report, removed, returned, cleaned, told, left⟩ := round_eq config ready
  have both : report.changed = false ∧ removed = false := by
    rw [quiet, Except.ok.injEq, eq_comm, Bool.or_eq_false_iff] at told
    exact told
  have unfused := Fusion.Report.changed_eq_false_iff.mp both.1
  have same := Fusion.graph_eq_of_unfused ready.mirrored ready.single returned unfused
  rw [same] at left cleaned
  rw [both.2] at cleaned
  have still := Cleanup.graph_eq_of_quiet cleaned
  exact ⟨left.trans still, ⟨report, returned, unfused, same⟩, cleaned, still⟩

/-- Any number of rounds returns. Each that changed the graph but the first, and the first where
nothing was dead, has left fewer lookups; and if there were rounds to spare the graph is settled. -/
theorem rounds_converge (config : FusionConfig) (left : Nat) (ready : Ready graph) :
    ∃ count, (rounds [.fusion config, .cleanup] graph left).result = .ok count ∧ count ≤ left ∧
      count ≤ graph.gathers.length + 1 ∧ (graph.Tidy → count ≤ graph.gathers.length) ∧
      (count < left → Settled config (rounds [.fusion config, .cleanup] graph left).graph) := by
  induction left generalizing graph with
  | zero => exact ⟨0, rfl, by omega, by omega, fun _ => by omega, fun spare => by omega⟩
  | succ left ih =>
    obtain ⟨report, removed, -, -, told, -⟩ := round_eq config ready
    cases changed : (report.changed || removed) with
    | false =>
      rw [changed] at told
      obtain ⟨same, settled⟩ := settled_of_quiet ready told
      refine ⟨0, (rounds_eq_ok_zero_iff _ left).mpr told, by omega, by omega, fun _ => by omega, ?_⟩
      intro
      rw [graph_rounds _ left told, same]
      exact settled
    | true =>
      rw [changed] at told
      obtain ⟨readyAfter, tidyAfter, -⟩ := ready_round config ready
      obtain ⟨few, fewer⟩ := length_gathers_round ready told
      obtain ⟨count, counted, spare, -, bound, settled⟩ := ih readyAfter
      have bounded := bound tidyAfter
      have graphLeft : (rounds [.fusion config, .cleanup] graph (left + 1)).graph =
          (rounds [.fusion config, .cleanup]
            (round graph [.fusion config, .cleanup]).graph left).graph := by
        simp [rounds, Run.andThen, told, counted, Run.done]
      refine ⟨count + 1, ?_, by omega, by omega, fun tidy => ?_, fun later => ?_⟩
      · simp [rounds, Run.andThen, told, counted, Run.done]
      · have less := fewer tidy
        omega
      · rw [graphLeft]
        exact settled (by omega)

/-- The standard passes on any graph that was reached and whose lookups each offer one output return
the number of rounds that changed the graph, which is at most ten and at most one more than there are
lookups. With up to eight lookups the graph they leave is settled: a further fusion fuses nothing, a
further removal of dead nodes removes nothing, and the graph stays as it is. -/
theorem standard_converges (history : List Action)
    (single : ∀ entry ∈ (Graph.after history).entries, entry.2.operation.isGather = true →
      entry.2.outputs.length = 1) :
    ∃ count, ((ofLevel .standard).run (Graph.after history)).result = .ok count ∧
      count ≤ min 10 ((Graph.after history).gathers.length + 1) ∧
      ((Graph.after history).gathers.length ≤ 8 →
        Settled {} ((ofLevel .standard).run (Graph.after history)).graph) := by
  have ready : Ready (Graph.after history) := by
    refine ⟨Graph.mirrored_after history, fun id frame found lookup => ?_⟩
    obtain ⟨node, there, rfl⟩ := Graph.frame?_eq_some_iff.mp found
    have one := single (id, node) (Store.mem_entries.mpr there) lookup
    simpa [Node.frame] using one
  obtain ⟨count, counted, limit, bound, -, settled⟩ := rounds_converge {} maxRounds ready
  have ten : maxRounds = 10 := rfl
  refine ⟨count, counted, by omega, fun few => settled ?_⟩
  omega

/-- The two lookups of which the second one's table is the zero point of the first one's, each read
by an output of the graph. -/
def readZeroPointAsTable : List Action := Fusion.zeroPointAsTable ++ [
  .addResult "first_result" (.first 10),
  .addResult "second_result" (.first 11)]

/-- The first lookup becomes ready only by the fusion of the second, and still three rounds are
enough for both. -/
theorem converges_readZeroPointAsTable :
    (∀ entry ∈ (Graph.after readZeroPointAsTable).entries,
      entry.2.operation.isGather = true → entry.2.outputs.length = 1) ∧
    (Graph.after readZeroPointAsTable).gathers.length = 2 ∧
    ∃ count, ((ofLevel .standard).run (Graph.after readZeroPointAsTable)).result = .ok count ∧
      count ≤ 3 ∧ Settled {} ((ofLevel .standard).run (Graph.after readZeroPointAsTable)).graph := by
  have single : ∀ entry ∈ (Graph.after readZeroPointAsTable).entries,
      entry.2.operation.isGather = true → entry.2.outputs.length = 1 := by
    decide +kernel
  have two : (Graph.after readZeroPointAsTable).gathers.length = 2 := by
    decide +kernel
  obtain ⟨count, counted, bound, settled⟩ := standard_converges readZeroPointAsTable single
  rw [two] at bound settled
  exact ⟨single, two, count, counted, by omega, settled (by omega)⟩

end Pipeline

end GatherFusion

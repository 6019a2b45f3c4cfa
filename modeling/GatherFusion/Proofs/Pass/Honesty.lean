import GatherFusion.Proofs.Lookup.Pending
import GatherFusion.Proofs.Pass.Report

/-!
# What passes say about change

A pass returns whether it changed the graph, and a pipeline runs until a round of passes says that
it changed nothing. The removal of dead nodes and the inspection always tell the truth. The fusion
goes by the lookups it fused: it says that nothing changed although it did exactly when it fused
nothing and the graph stopped a replacement halfway. A pipeline that stopped early has come to rest
unless its last round was of that kind.
-/
namespace GatherFusion

/-! ## Single passes -/

/-- Working off a stack either removes nothing or leaves fewer nodes. -/
theorem Cleanup.sweep_cases (graph : Graph) (removed : Nat) (stack : List Nat) :
    ((sweep graph removed stack).2 = removed ∧ (sweep graph removed stack).1 = graph) ∨
      (removed < (sweep graph removed stack).2 ∧
        (sweep graph removed stack).1.nodeCount < graph.nodeCount) := by
  fun_induction sweep graph removed stack with
  | case1 graph removed => exact .inl ⟨rfl, rfl⟩
  | case2 graph removed id rest dead node changed step ih =>
    have fewer := Graph.nodeCount_removeNode step
    rcases ih with ⟨same, left⟩ | ⟨more, less⟩
    · rw [same, left]
      exact .inr ⟨by omega, by omega⟩
    · exact .inr ⟨by omega, by omega⟩
  | case3 graph removed id rest dead failure left step ih => exact ih
  | case4 graph removed id rest alive ih => exact ih

/-- The removal of dead nodes returns, and tells whether it changed the graph. -/
theorem Cleanup.run_cases (graph : Graph) :
    ((run graph).result = .ok false ∧ (run graph).graph = graph) ∨
      ((run graph).result = .ok true ∧ (run graph).graph ≠ graph) := by
  rcases sweep_cases graph 0 (deadNodes graph) with ⟨none, same⟩ | ⟨some, fewer⟩
  · exact .inl ⟨by simp [run, none], same⟩
  · refine .inr ⟨by simp [run, some], fun same => ?_⟩
    have count := congrArg Graph.nodeCount same
    simp only [run] at count
    omega

/-- The removal of dead nodes leaves the graph as it was if it says so. -/
theorem Cleanup.graph_eq_of_quiet {graph : Graph} (quiet : (run graph).result = .ok false) :
    (run graph).graph = graph := by
  rcases run_cases graph with ⟨-, same⟩ | ⟨told, -⟩
  · exact same
  · rw [told] at quiet
    simp at quiet

/-- The inspection changes nothing and says so if it returns. -/
theorem Inspection.run_cases (graph : Graph) :
    (run graph).graph = graph ∧ ∀ changed, (run graph).result = .ok changed → changed = false := by
  unfold run
  split
  · exact ⟨rfl, by simp⟩
  · exact ⟨rfl, by simp⟩

/-- A report tells of no change when it tells of no fused lookup. -/
theorem Fusion.Report.changed_eq_false_iff {report : Report} :
    report.changed = false ↔ report.fused = [] := by
  simp [changed]

/-- A candidate that is pending when a fusion starts does not come out of it untouched. -/
theorem Fusion.not_idle_of_pending {config : FusionConfig} {graph : Graph} {report : Report}
    {candidate : Candidate} (mirrored : graph.Mirrored)
    (returned : (run config graph).result = .ok report)
    (pending : candidate.Pending config graph) : ¬report.Idle := by
  intro idle
  obtain ⟨turns, rfl, -, -, taken⟩ := exists_stages mirrored returned
  obtain ⟨turn, told, before, after, stage, outcome, -⟩ := taken candidate pending.fits
  obtain rfl := stage.same idle
  have quiet := Report.idle_ofTurns.mp idle turn told
  rcases outcome.cases_of_pending pending with ⟨-, _, _, _, rfl⟩ | ⟨-, _, _, rfl⟩
  · simp [Turn.Idle, Turn.fused?] at quiet
  · simp [Turn.Idle, Turn.failed?] at quiet

/-- An unfused turn that changes the graph leaves a pending candidate behind. -/
theorem Fusion.Outcome.exists_pending {config : FusionConfig} {graph changed : Graph}
    {candidate : Candidate} {turn : Turn} (mirrored : graph.Mirrored)
    (mirroredAfter : changed.Mirrored) (byName : config.SkipsByName)
    (outcome : Outcome config graph candidate (.ok turn) changed) (unfused : turn.fused? = none) :
    changed = graph ∨ candidate.Pending config changed := by
  cases outcome with
  | stale | rejected | unplanned => exact .inl rfl
  | fused => contradiction
  | stuck fits accepted planned _ _ retains evolves =>
    exact .inr (evolves.pending mirrored mirroredAfter byName retains
      ⟨fits, ⟨_, accepted⟩, _, planned⟩)

/-- A fusion that fuses nothing but changes the graph leaves a pending candidate behind. -/
theorem Fusion.exists_pending {config : FusionConfig} {graph : Graph} {report : Report}
    (mirrored : graph.Mirrored) (byName : config.SkipsByName)
    (returned : (run config graph).result = .ok report) (unfused : report.fused = []) :
    (run config graph).graph = graph ∨
      ∃ candidate : Candidate, candidate.Pending config (run config graph).graph := by
  obtain ⟨-, -, ⟨-, -, left⟩, -⟩ := exists_turns
    (fun before => before.Mirrored ∧ (∃ move, graph.Evolves move before) ∧
      (before = graph ∨ ∃ candidate : Candidate, candidate.Pending config before))
    mirrored returned ⟨mirrored, ⟨id, Graph.Evolves.refl graph⟩, .inl rfl⟩ (by
      rintro turns before candidate turn after rfl told taken ⟨mirroredBefore, -, left⟩
      have mirroredAfter := taken.mirrored_after
      have outcome := taken.outcome
      obtain ⟨later, step⟩ := outcome.exists_evolves
      refine ⟨mirroredAfter, taken.evolves_after, ?_⟩
      have quiet := Report.fused_ofTurns.mp unfused turn told
      rcases left with rfl | ⟨other, pending⟩
      · rcases outcome.exists_pending mirroredBefore mirroredAfter byName quiet with same | pending
        · exact .inl same
        · exact .inr ⟨candidate, pending⟩
      · have retains := outcome.retains quiet
        exact .inr ⟨other, step.pending mirroredBefore mirroredAfter byName retains pending⟩)
  exact left

namespace Pass

variable {graph : Graph}

/-- As a pass the fusion leaves the graph it leaves. -/
theorem graph_run_fusion (config : FusionConfig) :
    ((fusion config).run graph).graph = (Fusion.run config graph).graph := by
  simp only [run, Run.andThen]
  cases (Fusion.run config graph).result <;> rfl

/-- As a pass the fusion returns whether its report tells of a fused lookup. -/
theorem run_fusion_eq_ok_iff {config : FusionConfig} {changed : Bool} :
    ((fusion config).run graph).result = .ok changed ↔
      ∃ report, (Fusion.run config graph).result = .ok report ∧ report.changed = changed := by
  simp only [run, Run.andThen]
  cases (Fusion.run config graph).result <;> simp [Run.done]

/-- A graph and the graph that work on it left, when no node has gone: either nothing happened or
handles were used up. -/
structure Unfused (graph changed : Graph) : Prop where
  /-- The graph has evolved. -/
  evolves : ∃ move, graph.Evolves move changed
  /-- No node has gone. -/
  retains : graph.Retains changed
  /-- Only new nodes make a difference. -/
  grown : changed = graph ∨ graph.next < changed.next

/-- Nothing happened. -/
theorem Unfused.refl (graph : Graph) : Unfused graph graph :=
  ⟨⟨id, Graph.Evolves.refl graph⟩, fun _ before found => ⟨before, found⟩, .inl rfl⟩

/-- Work in two spells. -/
theorem Unfused.trans {middle changed : Graph} (first : Unfused graph middle)
    (second : Unfused middle changed) : Unfused graph changed := by
  obtain ⟨move, evolves⟩ := first.evolves
  obtain ⟨later, step⟩ := second.evolves
  refine ⟨⟨_, evolves.trans step⟩, first.retains.trans second.retains, ?_⟩
  have more := step.next
  rcases first.grown with rfl | grown
  · exact second.grown
  · exact .inr (by omega)

/-- A pass that says that nothing changed has fused nothing. -/
theorem unfused_run (pass : Pass) (mirrored : graph.Mirrored)
    (quiet : (pass.run graph).result = .ok false) : Unfused graph (pass.run graph).graph := by
  cases pass with
  | fusion config =>
    obtain ⟨report, returned, same⟩ := run_fusion_eq_ok_iff.mp quiet
    have unfused := Fusion.Report.changed_eq_false_iff.mp same
    obtain ⟨turns, -, stage, -⟩ := Fusion.exists_stages mirrored returned
    rw [graph_run_fusion]
    refine ⟨stage.evolves, stage.retains unfused, ?_⟩
    rcases Fusion.idle_iff mirrored returned with ⟨-, same⟩ | ⟨-, grown⟩
    · exact .inl same
    · exact .inr grown
  | cleanup =>
    rw [run, Cleanup.graph_eq_of_quiet quiet]
    exact Unfused.refl graph
  | inspection =>
    rw [run, (Inspection.run_cases graph).1]
    exact Unfused.refl graph

/-- A pass that says that nothing changed but changed the graph left a pending candidate behind. -/
theorem exists_pending (pass : Pass) (mirrored : graph.Mirrored)
    (byName : ∀ config, pass = .fusion config → config.SkipsByName)
    (quiet : (pass.run graph).result = .ok false) :
    (pass.run graph).graph = graph ∨ ∃ config, pass = .fusion config ∧
      ∃ candidate : Candidate, candidate.Pending config (pass.run graph).graph := by
  cases pass with
  | fusion config =>
    obtain ⟨report, returned, same⟩ := run_fusion_eq_ok_iff.mp quiet
    have unfused := Fusion.Report.changed_eq_false_iff.mp same
    rw [graph_run_fusion]
    rcases Fusion.exists_pending mirrored (byName config rfl) returned unfused with same | pending
    · exact .inl same
    · exact .inr ⟨config, rfl, pending⟩
  | cleanup => exact .inl (Cleanup.graph_eq_of_quiet quiet)
  | inspection => exact .inl (Inspection.run_cases graph).1

end Pass

/-! ## Rounds -/

namespace Pipeline

variable {graph : Graph} {pass : Pass} {rest : List Pass}

/-- A round says that nothing changed when every pass says so. -/
theorem round_cons_eq_ok_false_iff : (round graph (pass :: rest)).result = .ok false ↔
    (pass.run graph).result = .ok false ∧
      (round (pass.run graph).graph rest).result = .ok false := by
  cases first : (pass.run graph).result with
  | error fault => simp [round, Run.andThen, first]
  | ok changed =>
    cases later : (round (pass.run graph).graph rest).result with
    | error fault => simp [round, Run.andThen, first, later]
    | ok more => simp [round, Run.andThen, first, later, Run.done]

/-- The rest of a round starts from the graph its first pass left. -/
theorem graph_round_cons (returned : ∃ changed, (pass.run graph).result = .ok changed) :
    (round graph (pass :: rest)).graph = (round (pass.run graph).graph rest).graph := by
  obtain ⟨changed, first⟩ := returned
  cases later : (round (pass.run graph).graph rest).result <;>
    simp [round, Run.andThen, first, later, Run.done]

/-- A round that says that nothing changed has fused nothing. -/
theorem unfused_round (passes : List Pass) (mirrored : graph.Mirrored)
    (quiet : (round graph passes).result = .ok false) :
    Pass.Unfused graph (round graph passes).graph := by
  induction passes generalizing graph with
  | nil => exact Pass.Unfused.refl graph
  | cons pass rest ih =>
    obtain ⟨first, later⟩ := round_cons_eq_ok_false_iff.mp quiet
    rw [graph_round_cons ⟨false, first⟩]
    exact (pass.unfused_run mirrored first).trans (ih (pass.mirrored_run mirrored) later)

/-- A round that says that nothing changed but changed the graph left a pending candidate behind. -/
theorem exists_pending_round (passes : List Pass) (mirrored : graph.Mirrored)
    (byName : ∀ config, .fusion config ∈ passes → config.SkipsByName)
    (quiet : (round graph passes).result = .ok false) :
    (round graph passes).graph = graph ∨ ∃ config, .fusion config ∈ passes ∧
      ∃ candidate : Candidate, candidate.Pending config (round graph passes).graph := by
  induction passes generalizing graph with
  | nil => exact .inl rfl
  | cons pass rest ih =>
    obtain ⟨first, later⟩ := round_cons_eq_ok_false_iff.mp quiet
    have mirroredMiddle := pass.mirrored_run mirrored
    rw [graph_round_cons ⟨false, first⟩]
    rcases ih mirroredMiddle (fun config inside => byName config (List.mem_cons_of_mem _ inside))
      later with same | ⟨config, inside, pending⟩
    · rw [same]
      rcases pass.exists_pending mirrored (fun config is => byName config (is ▸ List.mem_cons_self))
        first with still | ⟨config, rfl, pending⟩
      · exact .inl still
      · exact .inr ⟨config, List.mem_cons_self, pending⟩
    · exact .inr ⟨config, List.mem_cons_of_mem _ inside, pending⟩

/-- A round that says that nothing changed and is right found no candidate pending. -/
theorem not_pending_of_still (passes : List Pass) (mirrored : graph.Mirrored)
    (quiet : (round graph passes).result = .ok false) (still : (round graph passes).graph = graph)
    {config : FusionConfig} (inside : .fusion config ∈ passes) (candidate : Candidate) :
    ¬candidate.Pending config graph := by
  induction passes with
  | nil => contradiction
  | cons pass rest ih =>
    obtain ⟨first, later⟩ := round_cons_eq_ok_false_iff.mp quiet
    rw [graph_round_cons ⟨false, first⟩] at still
    have unchanged : (pass.run graph).graph = graph := by
      have unfused := unfused_round rest (pass.mirrored_run mirrored) later
      obtain ⟨move, evolves⟩ := unfused.evolves
      have more := evolves.next
      rw [still] at more
      rcases (pass.unfused_run mirrored first).grown with same | grown
      · exact same
      · omega
    rw [unchanged] at later still
    rcases List.mem_cons.mp inside with rfl | inside
    · obtain ⟨report, returned, -⟩ := Pass.run_fusion_eq_ok_iff.mp first
      intro pending
      have busy := Fusion.not_idle_of_pending mirrored returned pending
      rw [Pass.graph_run_fusion] at unchanged
      rcases Fusion.idle_iff mirrored returned with ⟨idle, -⟩ | ⟨-, grown⟩
      · exact busy idle
      · rw [unchanged] at grown
        omega
    · exact ih later still inside

/-! ## Pipelines -/

/-- The graph a pipeline starts its last round with. -/
def lastRound (passes : List Pass) (graph : Graph) : Nat → Graph
  | 0 => graph
  | left + 1 =>
    match (round graph passes).result with
    | .ok true => lastRound passes (round graph passes).graph left
    | _ => graph

/-- The last round starts with a mirrored graph. -/
theorem mirrored_lastRound (passes : List Pass) (left : Nat) (mirrored : graph.Mirrored) :
    (lastRound passes graph left).Mirrored := by
  induction left generalizing graph with
  | zero => exact mirrored
  | succ left ih =>
    unfold lastRound
    split
    · exact ih (holds_round Pass.mirrored_run passes mirrored)
    · exact mirrored

/-- A pipeline that stops early has gone through a last round that says that nothing changed. -/
theorem lastRound_quiet (passes : List Pass) {left count : Nat}
    (returned : (rounds passes graph left).result = .ok count) (early : count < left) :
    (round (lastRound passes graph left) passes).result = .ok false ∧
      (round (lastRound passes graph left) passes).graph = (rounds passes graph left).graph := by
  induction left generalizing graph count with
  | zero => omega
  | succ left ih =>
    unfold rounds Run.andThen at returned ⊢
    unfold lastRound
    cases first : (round graph passes).result with
    | error fault => simp [first] at returned
    | ok changed =>
      cases changed with
      | false => exact ⟨first, by simp [Run.done]⟩
      | true =>
        simp only [first, ↓reduceIte] at returned ⊢
        cases later : (rounds passes (round graph passes).graph left).result with
        | error fault => simp [later] at returned
        | ok more =>
          simp only [later, Run.done, Except.ok.injEq] at returned ⊢
          exact ih later (by omega)

/-- A pipeline returns zero when its first round says that nothing changed, and it then leaves the
graph this round leaves. -/
theorem rounds_eq_ok_zero_iff (passes : List Pass) (left : Nat) :
    (rounds passes graph (left + 1)).result = .ok 0 ↔ (round graph passes).result = .ok false := by
  unfold rounds Run.andThen
  cases first : (round graph passes).result with
  | error fault => simp
  | ok changed =>
    cases changed with
    | false => simp [Run.done]
    | true =>
      simp only [↓reduceIte]
      cases later : (rounds passes (round graph passes).graph left).result <;> simp [Run.done]

/-- A pipeline whose first round says that nothing changed leaves the graph this round leaves. -/
theorem graph_rounds (passes : List Pass) (left : Nat)
    (quiet : (round graph passes).result = .ok false) :
    (rounds passes graph (left + 1)).graph = (round graph passes).graph := by
  unfold rounds Run.andThen
  simp [quiet, Run.done]

/-- A graph on which a pipeline has nothing left to do. -/
def AtRest (pipeline : Pipeline) (graph : Graph) : Prop :=
  (pipeline.run graph).result = .ok 0 ∧ (pipeline.run graph).graph = graph

/-- A pipeline is at rest when a round changes nothing and says so. -/
theorem atRest_iff {pipeline : Pipeline} : pipeline.AtRest graph ↔
    (round graph pipeline.passes).result = .ok false ∧
      (round graph pipeline.passes).graph = graph := by
  unfold AtRest run
  rw [show maxRounds = 9 + 1 from rfl, rounds_eq_ok_zero_iff]
  refine and_congr_right fun quiet => ?_
  rw [graph_rounds pipeline.passes 9 quiet]

end Pipeline

/-! ## What is told of reachable graphs -/

/-- On every reachable graph the removal of dead nodes and the inspection tell whether they changed
it, and the fusion does unless it fused nothing and the graph stopped a replacement. A pipeline that
stops early is at rest if its last round changed nothing, and if lookups are skipped by name it is
at rest in no other case. -/
theorem change_told_iff (history : List Action) :
    (∀ config report, (Fusion.run config (Graph.after history)).result = .ok report →
      ((Pass.fusion config).run (Graph.after history)).result = .ok report.changed ∧
      ((report.changed = true ↔
          ((Pass.fusion config).run (Graph.after history)).graph ≠ Graph.after history) ↔
        ¬(report.fused = [] ∧ ∃ gather error, (gather, .graph error) ∈ report.failed))) ∧
    (∀ pass : Pass, pass = .cleanup ∨ pass = .inspection → ∀ changed,
      (pass.run (Graph.after history)).result = .ok changed →
        (changed = true ↔ (pass.run (Graph.after history)).graph ≠ Graph.after history)) ∧
    ∀ (pipeline : Pipeline) (count : Nat),
      (pipeline.run (Graph.after history)).result = .ok count → count < Pipeline.maxRounds →
      (Pipeline.lastRound pipeline.passes (Graph.after history) Pipeline.maxRounds =
          (pipeline.run (Graph.after history)).graph →
        pipeline.AtRest (pipeline.run (Graph.after history)).graph) ∧
      ((∀ config, .fusion config ∈ pipeline.passes → config.SkipsByName) →
        pipeline.AtRest (pipeline.run (Graph.after history)).graph →
        Pipeline.lastRound pipeline.passes (Graph.after history) Pipeline.maxRounds =
          (pipeline.run (Graph.after history)).graph) := by
  have mirrored := Graph.mirrored_after history
  refine ⟨fun config report returned => ⟨?_, ?_⟩, fun pass kind changed told => ?_,
    fun pipeline count returned early => ?_⟩
  · exact Pass.run_fusion_eq_ok_iff.mpr ⟨report, returned, rfl⟩
  · rw [Pass.graph_run_fusion]
    have told : report.changed = true ↔ report.fused ≠ [] := by
      rw [← Bool.not_eq_false, not_iff_not, Fusion.Report.changed_eq_false_iff]
    rw [told]
    rcases Fusion.idle_iff mirrored returned with ⟨⟨unfused, none⟩, same⟩ | ⟨busy, grown⟩
    · simp [unfused, none, same]
    · have differs : (Fusion.run config (Graph.after history)).graph ≠ Graph.after history := by
        intro same
        rw [same] at grown
        omega
      by_cases unfused : report.fused = []
      · have stopped : ∃ gather error, (gather, .graph error) ∈ report.failed := by
          by_contra none
          exact busy ⟨unfused, fun gather error inside => none ⟨gather, error, inside⟩⟩
        simp [unfused, differs, stopped]
      · simp [unfused, differs]
  · rcases kind with rfl | rfl
    · rcases Cleanup.run_cases (Graph.after history) with ⟨result, same⟩ | ⟨result, differs⟩
      · rw [Pass.run, result, Except.ok.injEq] at told
        simp [Pass.run, ← told, same]
      · rw [Pass.run, result, Except.ok.injEq] at told
        simp [Pass.run, ← told, differs]
    · obtain ⟨same, quiet⟩ := Inspection.run_cases (Graph.after history)
      simp [Pass.run, quiet changed told, same]
  · obtain ⟨quiet, left⟩ := Pipeline.lastRound_quiet pipeline.passes returned early
    have mirroredLast := Pipeline.mirrored_lastRound pipeline.passes Pipeline.maxRounds mirrored
    constructor
    · intro same
      rw [same] at quiet left
      exact Pipeline.atRest_iff.mpr ⟨quiet, left⟩
    · intro byName rest
      obtain ⟨quietAgain, still⟩ := Pipeline.atRest_iff.mp rest
      have mirroredFinal := Pipeline.holds_rounds Pass.mirrored_run pipeline.passes Pipeline.maxRounds
        mirrored
      rcases Pipeline.exists_pending_round pipeline.passes mirroredLast byName quiet with
        same | ⟨config, inside, candidate, pending⟩
      · exact same.symm.trans left
      · rw [left] at pending
        exact absurd pending
          (Pipeline.not_pending_of_still pipeline.passes mirroredFinal quietAgain still inside _)

/-- A lookup in a bare conversion of a table, with a second output that is read. -/
def lookupReadTwice : List Action := [
  .addConstant "weight" (.fixed .u8 [2, 1]) ⟨[1, 2]⟩,
  .addConstant "axis" (.fixed .i64 []) (.ofInt64s [0]),
  .addParameter "indices" (.fixed .i64 [3]),
  .addNode .convert [.first 0] [.fixed .f32 [2, 1]] "table",
  .addNode (.gather 0) [.first 3, .first 2, .first 1] [.fixed .f32 [3, 1], .fixed .f32 [3, 1]]
    "lookup",
  .addResult "first" (.first 4),
  .addResult "second" ⟨4, 1⟩]

/-- The fusion of a lookup whose second output is read stops at its removal, and says that nothing
changed although it has added nodes and moved readers. -/
theorem change_untold_of_read_twice :
    ((Pass.fusion {}).run (Graph.after lookupReadTwice)).result = .ok false ∧
      ((Pass.fusion {}).run (Graph.after lookupReadTwice)).graph ≠ Graph.after lookupReadTwice := by
  have returned : (Fusion.run {} (Graph.after lookupReadTwice)).result =
      .ok ⟨1, [], [], [(4, .graph (.nodeInUse "lookup" 1))]⟩ := by
    decide +kernel
  obtain ⟨told, honest⟩ := (change_told_iff lookupReadTwice).1 {} _ returned
  refine ⟨told, fun same => ?_⟩
  have untold : ¬((⟨1, [], [], [(4, .graph (.nodeInUse "lookup" 1))]⟩ :
      Fusion.Report).changed = true ↔
        ((Pass.fusion {}).run (Graph.after lookupReadTwice)).graph ≠
          Graph.after lookupReadTwice) := by
    rw [honest]
    simp
  exact untold (by simp [same, Fusion.Report.changed])

end GatherFusion

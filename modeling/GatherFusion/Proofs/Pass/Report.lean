import GatherFusion.Proofs.Pass.Turn

/-!
# What a report tells

A fusion that returns a report has given every candidate its turn. `Stage` is what holds between two
turns: the graph has evolved from the one the fusion started with, no node has gone unless something
was fused, and nothing has happened at all if every turn was idle.
-/
namespace GatherFusion.Fusion

variable {config : FusionConfig} {graph : Graph} {report : Report}

/-! ## Reports on turns -/

/-- No fused lookup is reported when no turn fused one. -/
theorem Report.fused_ofTurns {turns : List Turn} :
    (Report.ofTurns turns).fused = [] ↔ ∀ turn ∈ turns, turn.fused? = none := by
  simp [ofTurns, List.filterMap_eq_nil_iff]

/-- A rejection is reported when a turn rejected the lookup. -/
theorem Report.mem_rejected_ofTurns {turns : List Turn} {gather : Nat} {reason : Rejection} :
    (gather, reason) ∈ (Report.ofTurns turns).rejected ↔
      ∃ name, .rejected gather name reason ∈ turns := by
  simp only [ofTurns, List.mem_filterMap]
  constructor
  · rintro ⟨turn, told, same⟩
    cases turn <;> simp only [Turn.rejected?, reduceCtorEq, Option.some.injEq, Prod.mk.injEq] at same
    obtain ⟨rfl, rfl⟩ := same
    exact ⟨_, told⟩
  · rintro ⟨name, told⟩
    exact ⟨_, told, rfl⟩

/-- Nothing was fused, and no replacement was stopped by the graph. -/
def Report.Idle (report : Report) : Prop :=
  report.fused = [] ∧ ∀ gather error, (gather, .graph error) ∉ report.failed

/-- A report tells of idle turns only when each turn was idle. -/
theorem Report.idle_ofTurns {turns : List Turn} :
    (Report.ofTurns turns).Idle ↔ ∀ turn ∈ turns, turn.Idle := by
  simp only [Idle, Turn.Idle, fused_ofTurns, forall_and]
  refine and_congr_right fun _ => ?_
  simp only [ofTurns, List.mem_filterMap, not_exists, not_and]
  constructor
  · intro none turn told gather error same
    exact none gather error turn told same
  · intro none gather error turn told same
    exact none turn told gather error same

/-! ## Stages of a fusion -/

/-- A candidate had a turn in the course of a fusion, in a graph with some property. -/
def HadTurn (config : FusionConfig) (property : Graph → Prop) (final : Graph)
    (candidate : Candidate) (turn : Turn) : Prop :=
  ∃ before after, property before ∧ Outcome config before candidate (.ok turn) after ∧
    ∃ move, after.Evolves move final

/-- A fusion that returns a report gave every candidate a turn and had no other turns. What each
turn keeps holds before all of them and in the end. -/
theorem exists_turns (property : Graph → Prop) (mirrored : graph.Mirrored)
    (returned : (run config graph).result = .ok report) (holds : property graph)
    (kept : ∀ turns before candidate turn after, report = .ofTurns turns → turn ∈ turns →
      Taken config graph before candidate (.ok turn) after → property before → property after) :
    ∃ turns, report = .ofTurns turns ∧ property (run config graph).graph ∧
      (∀ turn ∈ turns, ∃ candidate : Candidate, candidate.Fits graph ∧
        HadTurn config property (run config graph).graph candidate turn) ∧
      ∀ candidate : Candidate, candidate.Fits graph → ∃ turn ∈ turns,
        HadTurn config property (run config graph).graph candidate turn := by
  obtain ⟨candidates, collected, members⟩ := mirrored.exists_candidates
  simp only [run, collected] at returned ⊢
  cases ended : (takeTurns config graph candidates).fault with
  | some fault => simp [ended] at returned
  | none =>
    simp only [ended, Except.ok.injEq] at returned
    obtain ⟨final, -, pairs⟩ := forall₂_takeTurns
      (fun candidate inside => (members candidate).mp inside) mirrored
      ⟨id, Graph.Evolves.refl graph⟩ property holds
      (fun before candidate turn after told => kept _ before candidate turn after returned.symm told)
      ended
    refine ⟨_, returned.symm, final, fun turn told => ?_, fun candidate fits => ?_⟩
    · obtain ⟨position, inside, rfl⟩ := List.mem_iff_getElem.mp told
      have paired : position < candidates.length := pairs.length_eq ▸ inside
      exact ⟨candidates[position], (members _).mp (List.getElem_mem paired),
        (List.forall₂_iff_get.mp pairs).2 position paired inside⟩
    · obtain ⟨position, inside, rfl⟩ := List.mem_iff_getElem.mp ((members candidate).mpr fits)
      have paired : position < (takeTurns config graph candidates).turns.length :=
        pairs.length_eq ▸ inside
      exact ⟨_, List.getElem_mem paired, (List.forall₂_iff_get.mp pairs).2 position inside paired⟩

/-- What the turns taken so far leave of the graph they started from. -/
structure Stage (start : Graph) (report : Report) (graph : Graph) : Prop where
  /-- The edges agree. -/
  mirrored : graph.Mirrored
  /-- The graph has evolved. -/
  evolves : ∃ move, start.Evolves move graph
  /-- Without a fused lookup no node has gone. -/
  retains : report.fused = [] → start.Retains graph
  /-- Idle turns leave the graph as it was. -/
  same : report.Idle → graph = start

/-- A turn leads from one stage to the next. -/
theorem Stage.step {start before after : Graph} {turns : List Turn} {candidate : Candidate}
    {turn : Turn} (stage : Stage start (.ofTurns turns) before) (told : turn ∈ turns)
    (taken : Taken config start before candidate (.ok turn) after) :
    Stage start (.ofTurns turns) after where
  mirrored := taken.mirrored_after
  evolves := taken.evolves_after
  retains unfused :=
    (stage.retains unfused).trans (taken.outcome.retains (Report.fused_ofTurns.mp unfused turn told))
  same idle := by
    rcases taken.outcome.idle_iff with ⟨-, rfl⟩ | ⟨busy, -⟩
    · exact stage.same idle
    · exact absurd (Report.idle_ofTurns.mp idle turn told) busy

/-- A fusion that returns a report led through stages. -/
theorem exists_stages (mirrored : graph.Mirrored)
    (returned : (run config graph).result = .ok report) :
    ∃ turns, report = .ofTurns turns ∧ Stage graph report (run config graph).graph ∧
      (∀ turn ∈ turns, ∃ candidate : Candidate, candidate.Fits graph ∧
        HadTurn config (Stage graph report) (run config graph).graph candidate turn) ∧
      ∀ candidate : Candidate, candidate.Fits graph → ∃ turn ∈ turns,
        HadTurn config (Stage graph report) (run config graph).graph candidate turn := by
  have start : Stage graph report graph :=
    ⟨mirrored, ⟨id, Graph.Evolves.refl graph⟩, fun _ _ before found => ⟨before, found⟩,
      fun _ => rfl⟩
  refine exists_turns (Stage graph report) mirrored returned start ?_
  rintro turns before candidate turn after rfl told taken stage
  exact stage.step told taken

/-- A fusion that returns leaves the graph as it was if its report is idle, and uses up handles
otherwise. -/
theorem idle_iff (mirrored : graph.Mirrored) (returned : (run config graph).result = .ok report) :
    (report.Idle ∧ (run config graph).graph = graph) ∨
      (¬report.Idle ∧ graph.next < (run config graph).graph.next) := by
  obtain ⟨turns, rfl, final, taken, -⟩ := exists_stages mirrored returned
  by_cases idle : (Report.ofTurns turns).Idle
  · exact .inl ⟨idle, final.same idle⟩
  · refine .inr ⟨idle, ?_⟩
    simp only [Report.idle_ofTurns, Classical.not_forall] at idle
    obtain ⟨turn, told, busy⟩ := idle
    obtain ⟨candidate, -, before, after, stage, outcome, move, later⟩ := taken turn told
    obtain ⟨earlier, evolves⟩ := stage.evolves
    rcases outcome.idle_iff with ⟨quiet, -⟩ | ⟨-, grown⟩
    · exact absurd quiet busy
    · have toBefore := evolves.next
      have toFinal := later.next
      omega

/-- A fusion returns a report where every recognized lookup offers an output. -/
theorem exists_report (mirrored : graph.Mirrored)
    (offers : ∀ candidate : Candidate, candidate.Fits graph →
      ∃ info, graph.info? (.first candidate.gather) = some info) :
    ∃ report, (run config graph).result = .ok report := by
  obtain ⟨candidates, collected, members⟩ := mirrored.exists_candidates
  have finished : (takeTurns config graph candidates).fault = none :=
    fault_takeTurns_eq_none (fun candidate inside => (members candidate).mp inside) mirrored
      ⟨id, Graph.Evolves.refl graph⟩ offers
  exact ⟨.ofTurns (takeTurns config graph candidates).turns, by simp [run, collected, finished]⟩

end GatherFusion.Fusion

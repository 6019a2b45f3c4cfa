import GatherFusion.Pass.Fusion
import GatherFusion.Proofs.Lookup.Pending
import GatherFusion.Proofs.Lookup.Progress
import GatherFusion.Proofs.Lookup.Verdict
import GatherFusion.Proofs.Reachable
import Mathlib.Data.List.Forall2

/-!
# Turns

A turn of a candidate goes one of six ways, and `Outcome` says what each of them leaves behind. A
turn is evolution in every case; it leaves the graph as it is unless the candidate is fused or the
graph stops its replacement halfway, and then it uses up handles. `Taken` is a turn in the course of a
fusion, and `takeTurns_induction` the induction over all of them; what every turn keeps holds at the
end.
-/
namespace GatherFusion

namespace Candidate

variable {candidate : Candidate} {config : FusionConfig} {graph : Graph}

/-- The search for the layout settles if the lookup offers an output. -/
theorem settles_layout (mirrored : graph.Mirrored) (fits : candidate.Fits graph)
    (offers : ∃ info, graph.info? (.first candidate.gather) = some info) :
    Settles (candidate.layout config graph) := by
  obtain ⟨frame, axis, found, -⟩ := fits.exists_frame
  obtain ⟨node, live, -⟩ := Graph.frame?_eq_some_iff.mp found
  rw [layout_eq]
  refine settles_bind (settles_described mirrored fits offers) fun layout _ => ?_
  refine settles_bind ?_ fun _ _ => ?_
  · rcases mirrored.checkReaders candidate.chain with ⟨done, -⟩ | ⟨part, done, -⟩
    · rw [done]
      exact settles_ok ()
    · rw [done]
      exact settles_refuse _
  · refine settles_bind (settles_liftM (Graph.node_eq_ok_iff.mpr live)) fun _ _ => ?_
    exact settles_bind (settles_demand _) fun _ _ => settles_ok _

/-- A candidate is rejected because its table is not described, because a constant has other
readers, or because the configuration objects. -/
theorem layout_refused (mirrored : graph.Mirrored) {reason : Rejection}
    (declined : candidate.layout config graph = .error (.refusal reason)) :
    (∀ layout, candidate.described config graph ≠ .ok layout) ∨
      (¬candidate.chain.Private graph ∧ ∃ part, reason = .sharedConstant part) ∨
      ∃ node, graph.node? candidate.gather = some node ∧ config.skips node = true := by
  rw [layout_eq] at declined
  cases done : candidate.described config graph with
  | error failure => exact .inl fun layout => by simp
  | ok layout =>
    rw [done] at declined
    rcases mirrored.checkReaders candidate.chain with ⟨readers, -⟩ | ⟨part, readers, shared⟩
    · simp only [readers, bind_eq_error_iff, monadLift_eq_error_iff, demand_eq_error_iff,
        monadLift_eq_ok_iff, Graph.node_eq_ok_iff] at declined
      simp only [reduceCtorEq, false_or, Except.ok.injEq, exists_eq_left', and_false, exists_const,
        exists_false, true_and, pure, Except.pure, or_false, Bool.not_eq_true', Bool.not_eq_false]
        at declined
      obtain ⟨node, found, skipped, -⟩ := declined
      exact .inr (.inr ⟨node, found, skipped⟩)
    · simp only [readers] at declined
      cases declined
      exact .inr (.inl ⟨shared, part, rfl⟩)

end Candidate

namespace Fusion

/-- How the turn of a candidate goes that fits as long as it is live. -/
inductive Outcome (config : FusionConfig) (graph : Graph) (candidate : Candidate) :
    Except Fault Turn → Graph → Prop where
  /-- An earlier turn changed the lookup. -/
  | stale (overtaken : candidate.isLive graph = false) :
    Outcome config graph candidate (.ok (.stale candidate.gather)) graph
  /-- The lookup offers no output. -/
  | broken (fits : candidate.Fits graph)
    (missing : graph.info? (.first candidate.gather) = none) :
    Outcome config graph candidate (.error (.missingOutput (.first candidate.gather))) graph
  /-- A constraint is violated. -/
  | rejected {name : String} {reason : Rejection} (fits : candidate.Fits graph)
    (declined : candidate.layout config graph = .error (.refusal reason)) :
    Outcome config graph candidate (.ok (.rejected candidate.gather name reason)) graph
  /-- The replacement cannot be planned. -/
  | unplanned {name : String} {cause : ReplacementError} (fits : candidate.Fits graph)
    (declined : ∀ plan, candidate.plan graph ≠ .ok plan) (own : ∀ error, cause ≠ .graph error) :
    Outcome config graph candidate (.ok (.failed candidate.gather name cause)) graph
  /-- The lookup was replaced. -/
  | fused {name : String} {layout : Layout} {plan : Candidate.Plan} {node : Nat} {changed : Graph}
    {move : Port → Port} (fits : candidate.Fits graph)
    (accepted : candidate.layout config graph = .ok layout) (planned : candidate.plan graph = .ok plan)
    (removable : candidate.Removable graph) (grown : graph.next < changed.next)
    (gone : changed.frame? candidate.gather = none) (evolves : graph.Evolves move changed)
    (hands : candidate.HandsOver plan layout.granularity graph node changed)
    (cleared : ∀ id ∈ candidate.chain.intermediates, changed.GoneOrRead id) :
    Outcome config graph candidate (.ok (.fused candidate.gather name layout node)) changed
  /-- The graph stopped the replacement halfway. -/
  | stuck {name : String} {layout : Layout} {plan : Candidate.Plan} {error : GraphError}
    {fused : Nat} {changed : Graph} {move : Port → Port} (fits : candidate.Fits graph)
    (accepted : candidate.layout config graph = .ok layout) (planned : candidate.plan graph = .ok plan)
    (read : ¬candidate.Removable graph) (grown : graph.next < changed.next)
    (retains : graph.Retains changed) (evolves : graph.Evolves move changed)
    (hands : candidate.HandsOver plan layout.granularity graph fused changed) :
    Outcome config graph candidate (.ok (.failed candidate.gather name (.graph error))) changed

/-- The turn of a live candidate whose lookup offers no output stops there. -/
theorem takeTurn_of_unoffered (config : FusionConfig) {graph : Graph} {candidate : Candidate}
    (mirrored : graph.Mirrored) (fits : candidate.Fits graph)
    (missing : graph.info? (.first candidate.gather) = none) :
    takeTurn config graph candidate =
      (.error (.missingOutput (.first candidate.gather)), graph) := by
  obtain ⟨frame, axis, found, -⟩ := fits.exists_frame
  obtain ⟨node, there, -⟩ := Graph.frame?_eq_some_iff.mp found
  have stopped : candidate.layout config graph =
      .error (.fault (.missingOutput (.first candidate.gather))) := by
    rw [Candidate.layout_eq, Candidate.described_eq_fault mirrored fits config missing]
    rfl
  simp [takeTurn, fits.isLive, Graph.node_eq_ok_iff.mpr there, stopped]

/-- The turn of an accepted candidate is the attempt to replace its lookup. -/
theorem outcome_of_accepted {config : FusionConfig} {graph : Graph} {candidate : Candidate}
    (mirrored : graph.Mirrored) (fits : candidate.Fits graph)
    (offers : ∃ info, graph.info? (.first candidate.gather) = some info) {layout : Layout}
    (accepted : candidate.layout config graph = .ok layout) :
    Outcome config graph candidate (takeTurn config graph candidate).1
      (takeTurn config graph candidate).2 := by
  obtain ⟨frame, axis, found, -⟩ := fits.exists_frame
  obtain ⟨node, there, -⟩ := Graph.frame?_eq_some_iff.mp found
  simp only [takeTurn, fits.isLive, Bool.not_true, Bool.false_eq_true, ↓reduceIte,
    Graph.node_eq_ok_iff.mpr there, accepted]
  cases planned : candidate.plan graph with
  | error failure =>
    obtain ⟨cause, rfl, own⟩ := Candidate.plan_eq_error mirrored fits offers planned
    simp only [Candidate.runOn_replace_of_unplanned planned]
    exact .unplanned fits (by simp [planned]) own
  | ok plan =>
    have float :=
      Candidate.isFloat_of_planned planned (Candidate.layout_eq_ok_iff.mp accepted).1
    -- What has been planned is carried out, unless a further output of the lookup is read.
    rcases Candidate.runOn_replace mirrored fits planned float layout with
      ⟨removable, fused, changed, run, hands, grown, gone, cleared, move, evolves⟩ |
      ⟨read, error, fused, changed, run, hands, grown, retains, move, evolves⟩
    · simp only [run]
      exact .fused fits accepted planned removable grown gone evolves hands cleared
    · simp only [run]
      exact .stuck fits accepted planned read grown retains evolves hands

/-- Every turn in a mirrored graph is one of the six. -/
theorem outcome_takeTurn (config : FusionConfig) {graph : Graph} {candidate : Candidate}
    (mirrored : graph.Mirrored) (fitting : candidate.isLive graph = true → candidate.Fits graph) :
    Outcome config graph candidate (takeTurn config graph candidate).1
      (takeTurn config graph candidate).2 := by
  cases live : candidate.isLive graph with
  | false =>
    have passed : takeTurn config graph candidate = (.ok (.stale candidate.gather), graph) := by
      simp [takeTurn, live]
    rw [passed]
    exact .stale live
  | true =>
    have fits := fitting live
    cases offers : graph.info? (.first candidate.gather) with
    | none =>
      rw [takeTurn_of_unoffered config mirrored fits offers]
      exact .broken fits offers
    | some info =>
      cases verdict : candidate.layout config graph with
      | error failure =>
        cases failure with
        | fault fault =>
          exact absurd verdict (Candidate.settles_layout mirrored fits ⟨info, offers⟩ fault)
        | refusal reason =>
          obtain ⟨frame, axis, found, -⟩ := fits.exists_frame
          obtain ⟨node, there, -⟩ := Graph.frame?_eq_some_iff.mp found
          simp only [takeTurn, live, Bool.not_true, Bool.false_eq_true, ↓reduceIte,
            Graph.node_eq_ok_iff.mpr there, verdict]
          exact .rejected fits verdict
      | ok layout => exact outcome_of_accepted mirrored fits ⟨info, offers⟩ verdict

namespace Outcome

variable {config : FusionConfig} {graph changed : Graph} {candidate : Candidate}

/-- A turn is evolution. -/
theorem exists_evolves {result : Except Fault Turn}
    (outcome : Outcome config graph candidate result changed) :
    ∃ move, graph.Evolves move changed := by
  cases outcome with
  | stale | broken | rejected | unplanned => exact ⟨id, Graph.Evolves.refl graph⟩
  | fused _ _ _ _ _ _ evolves => exact ⟨_, evolves⟩
  | stuck _ _ _ _ _ _ evolves => exact ⟨_, evolves⟩

/-- As long as nothing is fused no node goes. -/
theorem retains {turn : Turn} (outcome : Outcome config graph candidate (.ok turn) changed)
    (unfused : turn.fused? = none) : graph.Retains changed := by
  cases outcome with
  | stale | rejected | unplanned => exact fun _ before found => ⟨before, found⟩
  | fused => contradiction
  | stuck _ _ _ _ _ retains => exact retains

/-- A candidate that is pending on its turn is fused, or stopped by the graph halfway. Which of the
two happens depends on whether the lookup can be removed. -/
theorem cases_of_pending {turn : Turn}
    (outcome : Outcome config graph candidate (.ok turn) changed)
    (pending : candidate.Pending config graph) :
    (candidate.Removable graph ∧
      ∃ name layout node, turn = .fused candidate.gather name layout node) ∨
    (¬candidate.Removable graph ∧
      ∃ name error, turn = .failed candidate.gather name (.graph error)) := by
  obtain ⟨fits, ⟨layout, accepted⟩, plan, planned⟩ := pending
  cases outcome with
  | stale overtaken =>
    rw [fits.isLive] at overtaken
    contradiction
  | rejected _ declined =>
    rw [accepted] at declined
    contradiction
  | unplanned _ declined => exact absurd planned (declined plan)
  | fused _ _ _ removable => exact .inl ⟨removable, _, _, _, rfl⟩
  | stuck _ _ _ read => exact .inr ⟨read, _, _, rfl⟩

end Outcome

/-- Where a turn leaves the graph as it is, going by what is told of the turn. -/
def Turn.Idle (turn : Turn) : Prop :=
  turn.fused? = none ∧ ∀ gather error, turn.failed? ≠ some (gather, .graph error)

/-- A turn leaves the graph as it is, or it uses up a handle. -/
theorem Outcome.idle_iff {config : FusionConfig} {graph changed : Graph} {candidate : Candidate}
    {turn : Turn} (outcome : Outcome config graph candidate (.ok turn) changed) :
    (turn.Idle ∧ changed = graph) ∨ (¬turn.Idle ∧ graph.next < changed.next) := by
  cases outcome with
  | stale => exact .inl ⟨by simp [Turn.Idle, Turn.fused?, Turn.failed?], rfl⟩
  | rejected => exact .inl ⟨by simp [Turn.Idle, Turn.fused?, Turn.failed?], rfl⟩
  | unplanned _ _ own =>
    refine .inl ⟨⟨rfl, fun gather error same => ?_⟩, rfl⟩
    simp only [Turn.failed?, Option.some.injEq, Prod.mk.injEq] at same
    exact own error same.2
  | fused _ _ _ _ grown => exact .inr ⟨by simp [Turn.Idle, Turn.fused?], grown⟩
  | stuck _ _ _ _ grown => exact .inr ⟨by simp [Turn.Idle, Turn.failed?], grown⟩

/-- A turn leaves the graph as it is, or hands the lookup over to a fused lookup, which the turn
tells of unless the graph stopped the replacement. -/
theorem Outcome.idle_or_handsOver {config : FusionConfig} {graph changed : Graph}
    {candidate : Candidate} {turn : Turn}
    (outcome : Outcome config graph candidate (.ok turn) changed) :
    changed = graph ∨ candidate.Fits graph ∧ ∃ plan granularity fused,
      candidate.HandsOver plan granularity graph fused changed ∧
        (turn.fused? = some fused ∨ ∃ error, turn.failed? = some (candidate.gather, .graph error)) := by
  cases outcome with
  | stale | rejected | unplanned => exact .inl rfl
  | fused fits _ _ _ _ _ _ hands => exact .inr ⟨fits, _, _, _, hands, .inl rfl⟩
  | stuck fits _ _ _ _ _ _ hands => exact .inr ⟨fits, _, _, _, hands, .inr ⟨_, rfl⟩⟩

/-- The lookup whose turn it was. -/
def Turn.gather : Turn → Nat
  | stale gather | rejected gather _ _ | fused gather _ _ _ | failed gather _ _ => gather

/-- A turn tells of the lookup whose turn it was. -/
theorem gather_of_takeTurn {config : FusionConfig} {graph changed : Graph} {candidate : Candidate}
    {turn : Turn} (taken : takeTurn config graph candidate = (.ok turn, changed)) :
    turn.gather = candidate.gather := by
  unfold takeTurn at taken
  repeat' split at taken
  all_goals cases taken
  all_goals rfl

/-! ## All turns -/

/-- Without a fault the turns taken led to a graph and are told of. -/
theorem takeTurns_eq {config : FusionConfig} {graph : Graph} {candidates : List Candidate}
    (finished : (takeTurns config graph candidates).fault = none) :
    takeTurns config graph candidates = ⟨(takeTurns config graph candidates).graph,
      (takeTurns config graph candidates).turns, none⟩ := by
  rw [← finished]

/-- A candidate has its turn before the others have theirs. -/
theorem takeTurns_cons_iff {config : FusionConfig} {graph after : Graph} {candidate : Candidate}
    {rest : List Candidate} {told : List Turn} :
    takeTurns config graph (candidate :: rest) = ⟨after, told, none⟩ ↔ ∃ turn middle later,
      takeTurn config graph candidate = (.ok turn, middle) ∧
        takeTurns config middle rest = ⟨after, later, none⟩ ∧ told = turn :: later := by
  rw [takeTurns]
  cases taken : takeTurn config graph candidate with
  | mk result middle =>
    cases result with
    | error fault => simp
    | ok turn =>
      constructor
      · intro same
        obtain ⟨rfl, rfl, ended⟩ := Session.mk.inj same
        exact ⟨turn, middle, _, rfl, congrArg (Session.mk _ _) ended, rfl⟩
      · rintro ⟨_, _, later, same, rest, rfl⟩
        cases same
        simp only [rest]

/-- Turns break off at the first candidate, or behind its turn. -/
theorem takeTurns_cons_fault_iff {config : FusionConfig} {graph : Graph} {candidate : Candidate}
    {rest : List Candidate} {fault : Fault} :
    (takeTurns config graph (candidate :: rest)).fault = some fault ↔
      (takeTurn config graph candidate).1 = .error fault ∨ ∃ turn middle,
        takeTurn config graph candidate = (.ok turn, middle) ∧
          (takeTurns config middle rest).fault = some fault := by
  rw [takeTurns]
  cases taken : takeTurn config graph candidate with
  | mk result middle => cases result <;> simp

/-- Some candidates have their turns before others have theirs. -/
theorem takeTurns_append_iff {config : FusionConfig} {graph after : Graph}
    {first second : List Candidate} {told : List Turn} :
    takeTurns config graph (first ++ second) = ⟨after, told, none⟩ ↔ ∃ middle earlier later,
      takeTurns config graph first = ⟨middle, earlier, none⟩ ∧
        takeTurns config middle second = ⟨after, later, none⟩ ∧ told = earlier ++ later := by
  induction first generalizing graph told with
  | nil => simp [takeTurns]
  | cons candidate rest ih =>
    simp only [List.cons_append, takeTurns_cons_iff, ih]
    constructor
    · rintro ⟨turn, start, _, taken, ⟨middle, earlier, later, before, after, rfl⟩, rfl⟩
      exact ⟨middle, turn :: earlier, later, ⟨turn, start, earlier, taken, before, rfl⟩, after, rfl⟩
    · rintro ⟨middle, _, later, ⟨turn, start, earlier, taken, before, rfl⟩, after, rfl⟩
      exact ⟨turn, start, earlier ++ later, taken, ⟨middle, earlier, later, before, after, rfl⟩, rfl⟩

/-- The turns tell of the lookups in the order of the candidates. -/
theorem gathers_of_takeTurns {config : FusionConfig} {graph after : Graph}
    {candidates : List Candidate} {told : List Turn}
    (taken : takeTurns config graph candidates = ⟨after, told, none⟩) :
    told.map Turn.gather = candidates.map Candidate.gather := by
  induction candidates generalizing graph told with
  | nil =>
    cases taken
    rfl
  | cons candidate rest ih =>
    obtain ⟨turn, middle, later, first, others, rfl⟩ := takeTurns_cons_iff.mp taken
    rw [List.map_cons, List.map_cons, gather_of_takeTurn first, ih others]

/-- A turn in the course of a fusion, of a candidate that fitted when the fusion started. -/
structure Taken (config : FusionConfig) (start before : Graph) (candidate : Candidate)
    (result : Except Fault Turn) (after : Graph) : Prop where
  /-- The candidate was collected at the start. -/
  fits : candidate.Fits start
  /-- The edges agree before the turn. -/
  mirrored : before.Mirrored
  /-- What came before the turn was evolution. -/
  evolves : ∃ move, start.Evolves move before
  /-- This is how the turn goes. -/
  taken : takeTurn config before candidate = (result, after)

namespace Taken

variable {config : FusionConfig} {start before after : Graph} {candidate : Candidate}
  {result : Except Fault Turn} (turn : Taken config start before candidate result after)
include turn

/-- The candidate fits on its turn if it is live. -/
theorem fitting (live : candidate.isLive before = true) : candidate.Fits before := by
  obtain ⟨move, evolves⟩ := turn.evolves
  exact (evolves.fits_of_isLive turn.fits live).1

/-- The turn is one of the six. -/
theorem outcome : Outcome config before candidate result after := by
  have outcome := outcome_takeTurn config turn.mirrored turn.fitting
  rwa [turn.taken] at outcome

/-- The edges agree after the turn. -/
theorem mirrored_after : after.Mirrored := by
  have kept := Graph.stable_mirrored.takeTurn config turn.mirrored candidate
  rwa [turn.taken] at kept

/-- With the turn it is still evolution. -/
theorem evolves_after : ∃ move, start.Evolves move after := by
  obtain ⟨move, evolves⟩ := turn.evolves
  obtain ⟨later, step⟩ := turn.outcome.exists_evolves
  exact ⟨_, evolves.trans step⟩

end Taken

/-- What holds where there are no candidates left and where a turn breaks off, and holds of a turn
and those behind it when it holds of those behind it, holds of all turns of fitting candidates. -/
theorem takeTurns_induction {config : FusionConfig} {start : Graph}
    {motive : List Candidate → Graph → Session → Prop}
    (finished : ∀ graph, motive [] graph ⟨graph, [], none⟩)
    (stopped : ∀ {candidate rest before fault after},
      Taken config start before candidate (.error fault) after →
      motive (candidate :: rest) before ⟨after, [], some fault⟩)
    (went : ∀ {candidate rest before turn after later},
      Taken config start before candidate (.ok turn) after → motive rest after later →
      motive (candidate :: rest) before { later with turns := turn :: later.turns })
    {candidates : List Candidate} (fit : ∀ candidate ∈ candidates, candidate.Fits start)
    {graph : Graph} (mirrored : graph.Mirrored) (evolves : ∃ move, start.Evolves move graph) :
    motive candidates graph (takeTurns config graph candidates) := by
  induction candidates generalizing graph with
  | nil => exact finished graph
  | cons candidate rest ih =>
    unfold takeTurns
    split
    · rename_i taken
      exact stopped ⟨fit candidate List.mem_cons_self, mirrored, evolves, taken⟩
    · rename_i taken
      have turn : Taken config start graph candidate _ _ :=
        ⟨fit candidate List.mem_cons_self, mirrored, evolves, taken⟩
      exact went turn (ih (fun other inside => fit other (List.mem_cons_of_mem _ inside))
        turn.mirrored_after turn.evolves_after)

section

variable {config : FusionConfig} {start graph : Graph} {candidates : List Candidate}
  (fit : ∀ candidate ∈ candidates, candidate.Fits start) (mirrored : graph.Mirrored)
  (evolves : ∃ move, start.Evolves move graph)
include fit mirrored evolves

/-- What every turn keeps any number of turns keeps, also when one of them breaks off. -/
theorem holds_takeTurns (property : Graph → Prop)
    (kept : ∀ before candidate result after, Taken config start before candidate result after →
      property before → property after) (holds : property graph) :
    property (takeTurns config graph candidates).graph := by
  refine takeTurns_induction
    (motive := fun _ before session => property before → property session.graph)
    (fun _ => id) ?_ ?_ fit mirrored evolves holds
  · exact fun turn => kept _ _ _ _ turn
  · exact fun turn later holds => later (kept _ _ _ _ turn holds)

/-- Any number of turns is evolution, also when one of them breaks off. -/
theorem evolves_takeTurns :
    ∃ move, start.Evolves move (takeTurns config graph candidates).graph :=
  holds_takeTurns fit mirrored evolves (fun reached => ∃ move, start.Evolves move reached)
    (fun _ _ _ _ turn _ => turn.evolves_after) evolves

/-- A property of graphs that each of the turns taken keeps holds before each of them and in the
end, and every turn is one of the six. -/
theorem forall₂_takeTurns (property : Graph → Prop) (holds : property graph)
    (kept : ∀ before candidate turn after, turn ∈ (takeTurns config graph candidates).turns →
      Taken config start before candidate (.ok turn) after → property before → property after)
    (complete : (takeTurns config graph candidates).fault = none) :
    property (takeTurns config graph candidates).graph ∧
      (∃ move, graph.Evolves move (takeTurns config graph candidates).graph) ∧
      List.Forall₂ (fun candidate turn => ∃ before after,
          property before ∧ Outcome config before candidate (.ok turn) after ∧
          ∃ move, after.Evolves move (takeTurns config graph candidates).graph)
        candidates (takeTurns config graph candidates).turns := by
  let told (candidates : List Candidate) (graph : Graph) (session : Session) : Prop :=
    property graph → (∀ before candidate turn after, turn ∈ session.turns →
      Taken config start before candidate (.ok turn) after → property before → property after) →
    session.fault = none → property session.graph ∧ (∃ move, graph.Evolves move session.graph) ∧
      List.Forall₂ (fun candidate turn => ∃ before after, property before ∧
        Outcome config before candidate (.ok turn) after ∧ ∃ move, after.Evolves move session.graph)
        candidates session.turns
  refine takeTurns_induction (motive := told) ?_ ?_ ?_ fit mirrored evolves holds kept complete
  · exact fun graph holds _ _ => ⟨holds, ⟨id, Graph.Evolves.refl graph⟩, .nil⟩
  · intro candidate rest before fault after turn holds kept complete
    contradiction
  · intro candidate rest before turn after later taken others holds kept complete
    obtain ⟨last, ⟨onward, toLast⟩, turns⟩ := others
      (kept before candidate turn after List.mem_cons_self taken holds)
      (fun before other turn after told => kept before other turn after (List.mem_cons_of_mem _ told))
      complete
    obtain ⟨move, step⟩ := taken.outcome.exists_evolves
    exact ⟨last, ⟨_, step.trans toLast⟩,
      .cons ⟨before, after, holds, taken.outcome, onward, toLast⟩ turns⟩

/-- All candidates have their turn where every lookup offered an output at the start. -/
theorem fault_takeTurns_eq_none (offers : ∀ candidate : Candidate, candidate.Fits start →
      ∃ info, start.info? (.first candidate.gather) = some info) :
    (takeTurns config graph candidates).fault = none := by
  refine takeTurns_induction (motive := fun _ _ session => session.fault = none)
    (fun _ => rfl) ?_ (fun _ => id) fit mirrored evolves
  intro candidate rest before fault after turn
  cases turn.outcome with
  | broken fits missing =>
    obtain ⟨move, evolves⟩ := turn.evolves
    obtain ⟨old, _, found, -⟩ := turn.fits.exists_frame
    obtain ⟨new, _, survives, -⟩ := fits.exists_frame
    obtain ⟨info, there⟩ := offers candidate turn.fits
    have offered : before.info? (.first candidate.gather) = some info :=
      (evolves.info?_eq_of_frame? found survives 0).trans there
    rw [missing] at offered
    contradiction

end

end Fusion

end GatherFusion

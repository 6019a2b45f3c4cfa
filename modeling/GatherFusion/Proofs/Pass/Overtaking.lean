import GatherFusion.Proofs.Lookup.Survival
import GatherFusion.Proofs.Pass.Turn
import Mathlib.Data.List.Induction
import Mathlib.Data.List.Nodup

/-!
# Candidates on their turn

All candidates are collected before the first turn, so a candidate that comes up was recognized in a
graph that earlier turns have changed since. What it was recognized by has not changed, with one
exception: its indices may have been the output of another lookup, which an earlier turn handed to a
fused lookup. The candidate is not live then and is passed over; in any other case it is live, and it
is what would be recognized now.
-/
namespace GatherFusion.Fusion

/-- The turn of a candidate has come. -/
structure ComesUp (config : FusionConfig) (start : Graph) (earlier : List Candidate)
    (told : List Turn) (before : Graph) (candidate : Candidate) : Prop where
  /-- The candidate was collected at the start, behind some others. -/
  collected : ∃ later, start.candidates = .ok (earlier ++ candidate :: later)
  /-- The others have had their turns, and these led to the graph at hand. -/
  reached : takeTurns config start earlier = ⟨before, told, none⟩

/-- A turn handed the readers of a lookup to a fused lookup. -/
structure TakesOver (gather fused : Nat) (turn : Turn) (graph changed : Graph) : Prop where
  /-- The turn tells of the fused lookup, unless the graph stopped it when that had taken over. -/
  told : turn.fused? = some fused ∨ ∃ error, turn.failed? = some (gather, .graph error)
  /-- The lookup was there, and the fused one was not. -/
  before : graph.frame? gather ≠ none ∧ graph.frame? fused = none
  /-- The fused lookup is there. -/
  added : ∃ frame, changed.frame? fused = some frame ∧ frame.operation.isGatherCompressed = true
  /-- The lookup itself apart, whoever read the first output of the lookup reads the fused one. -/
  moved : ∀ slot, slot.node ≠ gather → graph.producer? slot = some (.first gather) →
    changed.producer? slot = some (.first fused)
  /-- Nobody reads the first output of the lookup. -/
  unread : ∀ slot, changed.producer? slot ≠ some (.first gather)

/-- The indices of a candidate were the first output of another lookup, which a turn behind some
earlier ones handed to a fused lookup, and the candidate's lookup reads that one now. -/
structure OvertakenBy (config : FusionConfig) (start : Graph) (first : List Candidate)
    (other : Candidate) (fused : Nat) (before : Graph) (candidate : Candidate) : Prop where
  /-- It was another lookup. -/
  apart : other.gather ≠ candidate.gather
  /-- Its first output was looked up at when the candidate was collected. -/
  indices : candidate.indices = .first other.gather
  /-- Its turn handed its readers to the fused lookup. -/
  handed : ∃ turn after, takeTurn config (takeTurns config start first).graph other =
      (.ok turn, after) ∧ TakesOver other.gather fused turn (takeTurns config start first).graph after
  /-- The fused lookup is still there. -/
  still : ∃ frame, before.frame? fused = some frame ∧ frame.operation.isGatherCompressed = true
  /-- The candidate's lookup looks up at its first output. -/
  reads : before.producer? ⟨candidate.gather, 1⟩ = some (.first fused)

/-- A candidate was overtaken on the turn of an earlier one. -/
def Overtaken (config : FusionConfig) (start : Graph) (earlier : List Candidate) (before : Graph)
    (candidate : Candidate) : Prop :=
  ∃ first other second fused, earlier = first ++ other :: second ∧
    OvertakenBy config start first other fused before candidate

/-! ## One turn -/

section

variable {config : FusionConfig} {graph changed : Graph} {other candidate : Candidate}

/-- Handing a lookup over moves its readers. -/
theorem takesOver_of_handsOver {plan : Candidate.Plan} {granularity : Granularity} {fused : Nat}
    {turn : Turn} (fits : other.Fits graph)
    (hands : other.HandsOver plan granularity graph fused changed)
    (told : turn.fused? = some fused ∨ ∃ error, turn.failed? = some (other.gather, .graph error)) :
    TakesOver other.gather fused turn graph changed where
  told := told
  before := by
    obtain ⟨frame, -, found, -⟩ := fits.exists_frame
    exact ⟨by simp [found], hands.exists_fused.1⟩
  added := hands.exists_fused.2
  moved slot apart reads := by
    rw [Graph.producer?_eq, Option.bind_eq_some_iff] at reads
    obtain ⟨frame, found, position⟩ := reads
    have survives := hands.survives_of_reads fits found (List.mem_of_getElem? position) apart
    rw [Graph.producer?_eq, survives, Option.bind_some, Frame.redirect, List.getElem?_map, position]
    simp
  unread := hands.not_reads_first fits

/-- A turn leaves every other lookup in place. -/
theorem Outcome.exists_frame_of_isGather {turn : Turn}
    (outcome : Outcome config graph other (.ok turn) changed) {id : Nat} {frame : Frame}
    (found : graph.frame? id = some frame) (lookup : frame.operation.isGather = true)
    (apart : id ≠ other.gather) : ∃ after, changed.frame? id = some after := by
  rcases outcome.idle_or_handsOver with rfl | ⟨fits, plan, granularity, fused, hands, -⟩
  · exact ⟨frame, found⟩
  · exact ⟨_, hands.survives_of_isGather fits found lookup apart⟩

/-- On the turn of another candidate a fitting one goes on to fit, or loses its indices to a fused
lookup. -/
theorem Outcome.fits_or_takesOver {turn : Turn}
    (outcome : Outcome config graph other (.ok turn) changed) (fits : candidate.Fits graph)
    (apart : other.gather ≠ candidate.gather) :
    candidate.Fits changed ∨ candidate.indices = .first other.gather ∧ ∃ fused,
      TakesOver other.gather fused turn graph changed ∧
        changed.producer? ⟨candidate.gather, 1⟩ = some (.first fused) := by
  obtain ⟨move, evolves⟩ := outcome.exists_evolves
  rcases outcome.idle_or_handsOver with rfl | ⟨fitsOther, plan, granularity, fused, hands, told⟩
  · exact .inl fits
  · have takes := takesOver_of_handsOver fitsOther hands told
    by_cases same : candidate.indices = .first other.gather
    · obtain ⟨frame, axis, found, -, inputs, -⟩ := fits.exists_frame
      have reads : graph.producer? ⟨candidate.gather, 1⟩ = some (.first other.gather) := by
        rw [Graph.producer?_eq, found, Option.bind_some, inputs, ← same]
        rfl
      exact .inr ⟨same, fused, takes, takes.moved _ apart.symm reads⟩
    · have still := hands.fits_other fitsOther evolves fits apart.symm
      rw [Candidate.rename, if_neg same] at still
      exact .inl still

/-- On the turn of another candidate an overtaken one goes on to read the fused lookup. -/
theorem OvertakenBy.step {start : Graph} {first : List Candidate} {overtaker : Candidate} {fused : Nat}
    {turn : Turn} (overtaken : OvertakenBy config start first overtaker fused graph candidate)
    (outcome : Outcome config graph other (.ok turn) changed)
    (lookup : ∀ frame, graph.frame? candidate.gather = some frame → frame.operation.isGather = true)
    (apart : other.gather ≠ candidate.gather) :
    OvertakenBy config start first overtaker fused changed candidate := by
  obtain ⟨move, evolves⟩ := outcome.exists_evolves
  obtain ⟨taker, there, fuses⟩ := overtaken.still
  obtain ⟨stays, noLookup⟩ := Operation.not_isStep_of_isGatherCompressed fuses
  have reads := overtaken.reads
  rw [Graph.producer?_eq, Option.bind_eq_some_iff] at reads
  obtain ⟨frame, found, position⟩ := reads
  obtain ⟨after, survives⟩ :=
    outcome.exists_frame_of_isGather found (lookup frame found) apart.symm
  refine ⟨overtaken.apart, overtaken.indices, overtaken.handed, ?_, ?_⟩
  · obtain ⟨later, survivesTaker, rfl⟩ := evolves.exists_of_not_isStep there stays
    exact ⟨_, survivesTaker, fuses⟩
  · have unmoved : move (.first fused) = .first fused := evolves.move_eq_self there noLookup
    rw [Graph.producer?_eq, survives, Option.bind_some, evolves.kept _ _ _ found survives,
      Frame.rename, List.getElem?_map, position, Option.map_some, unmoved]

end

/-! ## All turns before -/

section

variable {config : FusionConfig} {start before : Graph} {earlier : List Candidate}
  {told : List Turn} {candidate : Candidate}

/-- The graph that turns of fitting candidates led to is mirrored and has evolved from the start. -/
theorem evolves_of_reached (mirrored : start.Mirrored)
    (fit : ∀ other ∈ earlier, other.Fits start)
    (reached : takeTurns config start earlier = ⟨before, told, none⟩) :
    before.Mirrored ∧ ∃ move, start.Evolves move before := by
  have kept := Graph.stable_mirrored.takeTurns config earlier mirrored
  have evolves : ∃ move, start.Evolves move (takeTurns config start earlier).graph :=
    evolves_takeTurns fit mirrored ⟨id, Graph.Evolves.refl start⟩
  rw [reached] at kept evolves
  exact ⟨kept, evolves⟩

/-- A candidate that fitted at the start fits or was overtaken when others have had their turns. -/
theorem fits_or_overtaken (mirrored : start.Mirrored) (fits : candidate.Fits start)
    (others : ∀ other ∈ earlier, other.Fits start ∧ other.gather ≠ candidate.gather)
    (reached : takeTurns config start earlier = ⟨before, told, none⟩) :
    candidate.Fits before ∨ Overtaken config start earlier before candidate := by
  -- The last turn is split off, so that the overtaking turn is found behind the turns before it.
  induction earlier using List.reverseRecOn generalizing before told with
  | nil =>
    cases reached
    exact .inl fits
  | append_singleton first other ih =>
    obtain ⟨middle, turns, _, toMiddle, last, -⟩ := takeTurns_append_iff.mp reached
    obtain ⟨turn, _, _, taken, ended, -⟩ := takeTurns_cons_iff.mp last
    cases ended
    have inside {earlier : Candidate} (there : earlier ∈ first) : earlier ∈ first ++ [other] :=
      List.mem_append_left _ there
    obtain ⟨fitsOther, apart⟩ := others other (by simp)
    obtain ⟨mirroredMiddle, move, evolves⟩ :=
      evolves_of_reached mirrored (fun other there => (others other (inside there)).1) toMiddle
    have outcome := (Taken.mk fitsOther mirroredMiddle ⟨move, evolves⟩ taken).outcome
    rcases ih (fun other there => others other (inside there)) toMiddle with
      still | ⟨front, overtaker, back, fused, rfl, overtaken⟩
    · rcases outcome.fits_or_takesOver still apart with after | ⟨indices, fused, takes, reads⟩
      · exact .inl after
      · refine .inr ⟨first, other, [], fused, rfl, apart, indices, ⟨turn, before, ?_, ?_⟩,
          takes.added, reads⟩
        · rw [toMiddle, taken]
        · rwa [toMiddle]
    · refine .inr ⟨front, overtaker, back ++ [other], fused, by simp, overtaken.step outcome ?_ apart⟩
      intro frame found
      obtain ⟨old, axis, there, operation, -⟩ := fits.exists_frame
      rw [evolves.kept _ _ _ there found]
      simp [Frame.rename, operation, Operation.isGather]

/-- An overtaken candidate is not live. -/
theorem Overtaken.isLive_eq_false (overtaken : Overtaken config start earlier before candidate) :
    candidate.isLive before = false := by
  obtain ⟨first, other, second, fused, -, overtaken⟩ := overtaken
  obtain ⟨turn, after, -, takes⟩ := overtaken.handed
  refine Bool.eq_false_iff.mpr fun live => ?_
  obtain ⟨node, found, -, -, second, -⟩ := Candidate.isLive_eq_true_iff.mp live
  have reads := overtaken.reads
  rw [Graph.producer?, found, Option.bind_some] at reads
  rw [Node.input?, overtaken.indices] at second
  have same : fused = other.gather := congrArg Port.node (Option.some.inj (reads.symm.trans second))
  exact takes.before.1 (same ▸ takes.before.2)

/-! ## The run -/

/-- The candidates collected at the start fit there, and no two of them share a lookup. -/
theorem ComesUp.fits (comesUp : ComesUp config start earlier told before candidate)
    (mirrored : start.Mirrored) : candidate.Fits start ∧
      ∀ other ∈ earlier, other.Fits start ∧ other.gather ≠ candidate.gather := by
  obtain ⟨later, collected⟩ := comesUp.collected
  obtain ⟨candidates, again, members⟩ := mirrored.exists_candidates
  have same : candidates = earlier ++ candidate :: later :=
    Except.ok.inj (again.symm.trans collected)
  have distinct := mirrored.increasing_candidates collected
  rw [List.map_append, List.map_cons, List.pairwise_append] at distinct
  refine ⟨(members candidate).mp (by simp [same]), fun other there => ⟨?_, ?_⟩⟩
  · exact (members other).mp (by simp [same, there])
  · have below := distinct.2.2 other.gather (List.mem_map_of_mem there) candidate.gather (by simp)
    omega

/-- The graph in which a candidate comes up is mirrored and has evolved from the start. -/
theorem ComesUp.evolves (comesUp : ComesUp config start earlier told before candidate)
    (mirrored : start.Mirrored) : before.Mirrored ∧ ∃ move, start.Evolves move before :=
  evolves_of_reached mirrored (fun other there => ((comesUp.fits mirrored).2 other there).1)
    comesUp.reached

/-- The turn of a candidate that comes up is one in the course of the fusion. -/
theorem ComesUp.taken (comesUp : ComesUp config start earlier told before candidate)
    (mirrored : start.Mirrored) {result : Except Fault Turn} {after : Graph}
    (taken : takeTurn config before candidate = (result, after)) :
    Taken config start before candidate result after :=
  ⟨(comesUp.fits mirrored).1, (comesUp.evolves mirrored).1, (comesUp.evolves mirrored).2, taken⟩

/-- The report of a run in which a candidate came up lists its turn among those of others. -/
theorem ComesUp.exists_turn (comesUp : ComesUp config start earlier told before candidate)
    (mirrored : start.Mirrored) {report : Report} (returned : (run config start).result = .ok report) :
    ∃ turn after rest, takeTurn config before candidate = (.ok turn, after) ∧
      report = .ofTurns (told ++ turn :: rest) ∧
      ∀ other ∈ told ++ rest, other.gather ≠ candidate.gather := by
  obtain ⟨later, collected⟩ := comesUp.collected
  simp only [run, collected] at returned
  cases session : takeTurns config start (earlier ++ candidate :: later) with
  | mk final turns fault =>
    rw [session] at returned
    cases fault with
    | some fault => simp at returned
    | none =>
      obtain ⟨middle, _, _, reached, others, rfl⟩ := takeTurns_append_iff.mp session
      rw [comesUp.reached] at reached
      cases reached
      obtain ⟨turn, after, rest, taken, -, rfl⟩ := takeTurns_cons_iff.mp others
      refine ⟨turn, after, rest, taken, (Except.ok.inj returned).symm, fun other there => ?_⟩
      have distinct : ((told ++ turn :: rest).map Turn.gather).Nodup := by
        rw [gathers_of_takeTurns session]
        exact (mirrored.increasing_candidates collected).imp Nat.ne_of_lt
      rw [List.map_append, List.map_cons, List.nodup_middle, ← List.map_append,
        List.nodup_cons, gather_of_takeTurn taken] at distinct
      exact fun same => distinct.1 (same ▸ List.mem_map_of_mem there)

/-- A turn puts a lookup into exactly one list of the report. -/
def Turn.ListsOnce (turn : Turn) (gather : Nat) : Prop :=
  (∃ node, Report.ofTurns [turn] = ⟨1, [node], [], []⟩) ∨
    (∃ reason, Report.ofTurns [turn] = ⟨1, [], [(gather, reason)], []⟩) ∨
    ∃ cause, Report.ofTurns [turn] = ⟨1, [], [], [(gather, cause)]⟩

/-- A turn puts its lookup into one list of the report if the candidate was live. -/
theorem Outcome.listsOnce {turn : Turn} {after : Graph}
    (outcome : Outcome config before candidate (.ok turn) after)
    (live : candidate.isLive before = true) : turn.ListsOnce candidate.gather := by
  cases outcome with
  | stale overtaken =>
    rw [live] at overtaken
    contradiction
  | rejected => exact .inr (.inl ⟨_, rfl⟩)
  | unplanned | stuck => exact .inr (.inr ⟨_, rfl⟩)
  | fused => exact .inl ⟨_, rfl⟩

end

/-- A candidate that comes up in a fusion of any graph is live, is what would be recognized there
now, and is put into exactly one list of the report; or it was overtaken, and its turn changes
nothing and is put into none. Its turn is among those that the report is on, and no other one is
about its lookup. -/
theorem live_or_overtaken (history : List Action) (config : FusionConfig)
    (earlier : List Candidate) (told : List Turn) (before : Graph) (candidate : Candidate)
    (comesUp : ComesUp config (Graph.after history) earlier told before candidate) :
    ((candidate.isLive before = true ∧
        before.recognize candidate.gather = .ok (.ok candidate) ∧
        ∀ turn after, takeTurn config before candidate = (.ok turn, after) →
          turn.ListsOnce candidate.gather) ∨
      (candidate.isLive before = false ∧
        Overtaken config (Graph.after history) earlier before candidate ∧
        ∃ turn, takeTurn config before candidate = (.ok turn, before) ∧
          Report.ofTurns [turn] = ⟨1, [], [], []⟩)) ∧
    ∀ report, (run config (Graph.after history)).result = .ok report →
      ∃ turn after rest, takeTurn config before candidate = (.ok turn, after) ∧
        report = .ofTurns (told ++ turn :: rest) ∧
        ∀ other ∈ told ++ rest, other.gather ≠ candidate.gather := by
  have mirrored := Graph.mirrored_after history
  obtain ⟨fits, others⟩ := comesUp.fits mirrored
  obtain ⟨mirroredBefore, move, evolves⟩ := comesUp.evolves mirrored
  refine ⟨?_, fun report returned => comesUp.exists_turn mirrored returned⟩
  rcases fits_or_overtaken mirrored fits others comesUp.reached with still | overtaken
  · refine .inl ⟨still.isLive, mirroredBefore.recognize_of_fits still, fun turn after taken => ?_⟩
    have outcome := outcome_takeTurn config mirroredBefore fun _ => still
    rw [taken] at outcome
    exact outcome.listsOnce still.isLive
  · have dead := overtaken.isLive_eq_false
    refine .inr ⟨dead, overtaken, .stale candidate.gather, ?_, rfl⟩
    simp [takeTurn, dead]

/-- Three lookups in one table: the second looks up at what the first one yields. -/
def lookupOfLookup : List Action := [
  .addConstant "weight" (.fixed .u8 [1, 1]) ⟨[5]⟩,
  .addConstant "axis" (.fixed .i64 []) (.ofInt64s [0]),
  .addParameter "indices" (.fixed .i64 [3]),
  .addNode .convert [.first 0] [.fixed .f32 [1, 1]] "table",
  .addNode (.gather 0) [.first 3, .first 2, .first 1] [.fixed .f32 [3, 1]] "inner",
  .addNode (.gather 0) [.first 3, .first 4, .first 1] [.fixed .f32 [3, 1, 1]] "outer",
  .addNode (.gather 0) [.first 3, .first 2, .first 1] [.fixed .f32 [3, 1]] "twin",
  .addResult "rows" (.first 5),
  .addResult "twins" (.first 6)]

/-- A candidate of these lookups. -/
def lookupAt (gather indices : Nat) : Candidate :=
  ⟨gather, .first indices, 1, 0, ⟨0, 3, none, none, none⟩⟩

/-- The first lookup is fused on its turn, so the second one is overtaken. -/
theorem overtaken_of_lookupOfLookup : ∃ told before,
    ComesUp {} (Graph.after lookupOfLookup) [lookupAt 4 2] told before (lookupAt 5 4) ∧
      (lookupAt 5 4).isLive before = false ∧
      Overtaken {} (Graph.after lookupOfLookup) [lookupAt 4 2] before (lookupAt 5 4) := by
  have collected : (Graph.after lookupOfLookup).candidates =
      .ok [lookupAt 4 2, lookupAt 5 4, lookupAt 6 2] := by
    decide +kernel
  have finished : (takeTurns {} (Graph.after lookupOfLookup) [lookupAt 4 2]).fault = none := by
    decide +kernel
  have stale : (lookupAt 5 4).isLive
      (takeTurns {} (Graph.after lookupOfLookup) [lookupAt 4 2]).graph = false := by
    decide +kernel
  have comesUp : ComesUp {} (Graph.after lookupOfLookup) [lookupAt 4 2] _ _ (lookupAt 5 4) :=
    ⟨⟨[lookupAt 6 2], collected⟩, takeTurns_eq finished⟩
  rcases (live_or_overtaken lookupOfLookup {} _ _ _ _ comesUp).1 with ⟨live, -⟩ | ⟨-, overtaken, -⟩
  · exact absurd (stale.symm.trans live) Bool.false_ne_true
  · exact ⟨_, _, comesUp, stale, overtaken⟩

end GatherFusion.Fusion

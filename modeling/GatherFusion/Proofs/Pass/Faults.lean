import GatherFusion.Proofs.Pass.Overtaking

/-!
# The one fault of a fusion

A fusion reads a graph by many promises: that the nodes of a chain are live, that each of them
offers an output, that a table has the dimensions its layout speaks of, that a row is not split into
no groups. In a graph that can be reached they are all kept, at the start and after every turn, but
for one: a lookup may have been built without an output. A fusion stops when such a lookup is
recognized and is still live on its turn, and for no other reason.
-/
namespace GatherFusion

/-- A node carries nothing on its first output when it has none. -/
theorem Graph.info?_first_eq_none_iff {graph : Graph} {id : Nat} {node : Node}
    (found : graph.node? id = some node) :
    graph.info? (.first id) = none ↔ node.outputs = [] := by
  have there : graph.frame? (Port.first id).node = some node.frame := Graph.frame?_of_node? found
  rw [Graph.info?_eq, there, Option.bind_some]
  simp [Node.frame, Port.first]

/-- The table of a recognized lookup is live. -/
theorem Candidate.Fits.contains_weight {candidate : Candidate} {graph : Graph}
    (fits : candidate.Fits graph) : graph.contains candidate.chain.weight = true := by
  obtain ⟨frame, payload, info, found, -⟩ := Graph.holds_iff.mp fits.holds_weight
  exact Graph.contains_iff.mpr ⟨frame, found⟩

namespace Fusion

variable {config : FusionConfig}

/-- The turn of a candidate stops when it is live and its lookup offers no output. -/
theorem takeTurn_eq_fault_iff {graph : Graph} {candidate : Candidate} {fault : Fault}
    (mirrored : graph.Mirrored) (fitting : candidate.isLive graph = true → candidate.Fits graph) :
    (takeTurn config graph candidate).1 = .error fault ↔ candidate.isLive graph = true ∧
      graph.info? (.first candidate.gather) = none ∧
        fault = .missingOutput (.first candidate.gather) := by
  constructor
  · intro stops
    have outcome := outcome_takeTurn config mirrored fitting
    rw [stops] at outcome
    generalize (takeTurn config graph candidate).2 = changed at outcome
    cases outcome with
    | broken fits missing => exact ⟨fits.isLive, missing, rfl⟩
  · rintro ⟨live, missing, rfl⟩
    rw [takeTurn_of_unoffered config mirrored (fitting live) missing]

/-- Turns break off when one of them does, after those before it were taken. -/
theorem takeTurns_fault_iff {candidates : List Candidate} {graph : Graph} {fault : Fault} :
    (takeTurns config graph candidates).fault = some fault ↔
      ∃ earlier candidate later told before, candidates = earlier ++ candidate :: later ∧
        takeTurns config graph earlier = ⟨before, told, none⟩ ∧
          (takeTurn config before candidate).1 = .error fault := by
  induction candidates generalizing graph with
  | nil => simp [takeTurns]
  | cons first rest ih =>
    simp only [takeTurns_cons_fault_iff, ih]
    constructor
    · rintro (stops | ⟨turn, middle, taken, earlier, candidate, later, told, before, rfl, reached,
        stops⟩)
      · exact ⟨[], first, rest, [], graph, rfl, rfl, stops⟩
      · exact ⟨first :: earlier, candidate, later, turn :: told, before, rfl,
          takeTurns_cons_iff.mpr ⟨turn, middle, told, taken, reached, rfl⟩, stops⟩
    · rintro ⟨earlier, candidate, later, told, before, same, reached, stops⟩
      cases earlier with
      | nil =>
        obtain ⟨rfl, -⟩ := List.cons.inj same
        cases reached
        exact .inl stops
      | cons other others =>
        obtain ⟨rfl, rfl⟩ := List.cons.inj same
        obtain ⟨turn, middle, told, taken, reached, -⟩ := takeTurns_cons_iff.mp reached
        exact .inr ⟨turn, middle, taken, others, candidate, later, told, before, rfl, reached, stops⟩

/-- A candidate that comes up fits while it is live, and its lookup offers what it offered when it
was collected. -/
theorem ComesUp.fits_of_isLive {start before : Graph} {earlier : List Candidate} {told : List Turn}
    {candidate : Candidate} (comesUp : ComesUp config start earlier told before candidate)
    (mirrored : start.Mirrored) (live : candidate.isLive before = true) :
    candidate.Fits before ∧
      before.info? (.first candidate.gather) = start.info? (.first candidate.gather) := by
  obtain ⟨-, move, evolves⟩ := comesUp.evolves mirrored
  obtain ⟨fits, -⟩ := comesUp.fits mirrored
  have still := (evolves.fits_of_isLive fits live).1
  obtain ⟨old, _, found, -⟩ := fits.exists_frame
  obtain ⟨new, _, survives, -⟩ := still.exists_frame
  exact ⟨still, evolves.info?_eq_of_frame? found survives 0⟩

/-- In any graph that was reached, collecting the candidates comes to an end and each of them names a
live table. The fusion that gives them their turns breaks off exactly when a candidate comes up live
whose lookup has no outputs, and the fault is that the first of these is missing; no other promise is
found broken in any graph on the way. -/
theorem breaks_off_iff (history : List Action) (config : FusionConfig) :
    (∃ candidates, (Graph.after history).candidates = .ok candidates ∧
      ∀ candidate ∈ candidates,
        (Graph.after history).contains candidate.chain.weight = true) ∧
    ∀ fault, (run config (Graph.after history)).result = .error fault ↔
      ∃ earlier told before candidate gather,
        ComesUp config (Graph.after history) earlier told before candidate ∧
          candidate.isLive before = true ∧
          (Graph.after history).node? candidate.gather = some gather ∧ gather.outputs = [] ∧
          fault = .missingOutput (.first candidate.gather) := by
  have mirrored := Graph.mirrored_after history
  generalize Graph.after history = start at *
  obtain ⟨candidates, collected, members⟩ := mirrored.exists_candidates
  refine ⟨⟨candidates, collected, fun candidate inside =>
    ((members candidate).mp inside).contains_weight⟩, fun fault => ?_⟩
  have result : (run config start).result = .error fault ↔
      (takeTurns config start candidates).fault = some fault := by
    cases ended : (takeTurns config start candidates).fault <;> simp [run, collected, ended]
  rw [result, takeTurns_fault_iff]
  constructor
  · rintro ⟨earlier, candidate, later, told, before, rfl, reached, stops⟩
    have comesUp : ComesUp config start earlier told before candidate :=
      ⟨⟨later, collected⟩, reached⟩
    obtain ⟨mirroredBefore, -⟩ := comesUp.evolves mirrored
    obtain ⟨live, missing, named⟩ := (takeTurn_eq_fault_iff mirroredBefore fun live =>
      (comesUp.fits_of_isLive mirrored live).1).mp stops
    rw [(comesUp.fits_of_isLive mirrored live).2] at missing
    obtain ⟨frame, _, found, -⟩ := (comesUp.fits mirrored).1.exists_frame
    obtain ⟨gather, there, -⟩ := Graph.frame?_eq_some_iff.mp found
    exact ⟨earlier, told, before, candidate, gather, comesUp, live, there,
      (Graph.info?_first_eq_none_iff there).mp missing, named⟩
  · rintro ⟨earlier, told, before, candidate, gather, comesUp, live, there, none, named⟩
    obtain ⟨later, again⟩ := comesUp.collected
    obtain rfl : candidates = earlier ++ candidate :: later :=
      Except.ok.inj (collected.symm.trans again)
    obtain ⟨mirroredBefore, -⟩ := comesUp.evolves mirrored
    have missing : before.info? (.first candidate.gather) = Option.none := by
      rw [(comesUp.fits_of_isLive mirrored live).2]
      exact (Graph.info?_first_eq_none_iff there).mpr none
    refine ⟨earlier, candidate, later, told, before, rfl, comesUp.reached, ?_⟩
    exact (takeTurn_eq_fault_iff mirroredBefore fun live =>
      (comesUp.fits_of_isLive mirrored live).1).mpr ⟨live, missing, named⟩

/-- A lookup that was built without an output stops a fusion. -/
example :
    (run {} (Graph.after [
      .addConstant "weight" (.fixed .u8 [1, 1]) ⟨[5]⟩,
      .addConstant "axis" (.fixed .i64 []) (.ofInt64s [0]),
      .addParameter "indices" (.fixed .i64 [3]),
      .addNode .convert [.first 0] [.fixed .f32 [1, 1]] "table",
      .addNode (.gather 0) [.first 3, .first 2, .first 1] [] "rows"])).result =
      .error (.missingOutput (.first 4)) := by
  decide +kernel

end Fusion

end GatherFusion

import GatherFusion.Proofs.Pass.Overtaking

/-!
# Nothing dead is left of a decompression

The turn that fuses a lookup sheds what only that lookup made use of. What it leaves is read by a
node outside the chain, and a later turn that takes this reader away sheds a chain in which it read
a step, or hands its operand to a fused lookup. So a step that was gone or read at the end of one
turn is gone or read at the end of all.
-/
namespace GatherFusion.Fusion

/-- A step of a decompression that is gone or read. -/
structure Cleared (graph : Graph) (id : Nat) : Prop where
  /-- The handle was given out. -/
  old : id < graph.next
  /-- As long as the node lives it is a step, and no lookup. -/
  step : ∀ frame, graph.frame? id = some frame →
    frame.operation.isStep = true ∧ frame.operation.isGather = false
  /-- The node is gone or read. -/
  goneOrRead : graph.GoneOrRead id

section

variable {config : FusionConfig} {graph changed : Graph} {candidate : Candidate} {id : Nat}

/-- Evolution brings nothing back to life and makes nothing else of a node. -/
theorem Cleared.evolves (cleared : Cleared graph id) {move : Port → Port}
    (evolves : graph.Evolves move changed) {after : Frame}
    (survives : changed.frame? id = some after) :
    ∃ before, graph.frame? id = some before ∧ after.operation = before.operation := by
  cases found : graph.frame? id with
  | none =>
    have fresh := (evolves.born id after found survives).1
    have old := cleared.old
    omega
  | some before =>
    have kept := evolves.kept id before after found survives
    exact ⟨before, rfl, by rw [kept, Frame.rename]⟩

/-- A step is no constant. -/
theorem Cleared.not_holds (cleared : Cleared graph id) {port : Port} (same : port.node = id) :
    ¬graph.Holds port := by
  intro holds
  obtain ⟨frame, found, noStep, -⟩ := holds.exists_frame
  obtain ⟨step, -⟩ := cleared.step frame (same ▸ found)
  rw [noStep] at step
  contradiction

/-- When a lookup is fused and the reader of a step goes, the step belonged to its chain or is read by
the fused lookup. -/
theorem Cleared.fused (cleared : Cleared graph id) (fits : candidate.Fits graph)
    {plan : Candidate.Plan} {granularity : Granularity} {node : Nat}
    (hands : candidate.HandsOver plan granularity graph node changed)
    (shed : ∀ id ∈ candidate.chain.intermediates, changed.GoneOrRead id)
    {reader : Nat} {frame : Frame} (found : graph.frame? reader = some frame) {index : Nat}
    (reads : ⟨id, index⟩ ∈ frame.inputs) (goes : changed.frame? reader = none) :
    changed.GoneOrRead id := by
  by_cases lookup : reader = candidate.gather
  · subst lookup
    obtain ⟨again, axis, foundAgain, operation, inputs, holds⟩ := fits.exists_frame
    rw [found, Option.some.injEq] at foundAgain
    subst foundAgain
    simp only [inputs, List.mem_cons, List.not_mem_nil, or_false] at reads
    rcases reads with top | indices | named
    · obtain rfl : id = candidate.chain.top := congrArg Port.node top
      exact shed _ (Chain.top_mem _)
    · have apart : candidate.indices ≠ .first candidate.gather := by
        intro same
        obtain rfl : id = candidate.gather := congrArg Port.node (indices.trans same)
        have noLookup := (cleared.step frame found).2
        simp [operation, Operation.isGather] at noLookup
      have taken := hands.producer?_fused
      rw [if_neg apart, ← indices] at taken
      exact .inr ⟨index, _, taken⟩
    · exact absurd holds (cleared.not_holds (congrArg Port.node named).symm)
  · by_cases inside : reader ∈ candidate.chain.intermediates
    · rcases (fits.1.steps_of_frame? inside found).2.2 _ reads with ⟨below, member, same⟩ | holds
      · obtain rfl : id = below := congrArg Port.node same
        exact shed _ member
      · exact absurd holds (cleared.not_holds rfl)
    · have survives := hands.survives found lookup inside
      rw [goes] at survives
      contradiction

/-- A step that is gone stays gone. -/
theorem Cleared.stays_gone (cleared : Cleared graph id) {move : Port → Port}
    (evolves : graph.Evolves move changed) (gone : graph.frame? id = none) :
    changed.frame? id = none := by
  cases survives : changed.frame? id with
  | none => rfl
  | some after =>
    obtain ⟨before, found, -⟩ := cleared.evolves evolves survives
    rw [gone] at found
    contradiction

/-- A reader that survives reads a step where it did before: what it reads is no lookup that could
have been taken over. -/
theorem Cleared.stays_read (cleared : Cleared graph id) (mirrored : graph.Mirrored)
    {move : Port → Port} (evolves : graph.Evolves move changed) {index : Nat} {slot : Slot}
    (reads : graph.producer? slot = some ⟨id, index⟩) {after : Frame}
    (survives : changed.frame? slot.node = some after) :
    changed.producer? slot = some ⟨id, index⟩ := by
  obtain ⟨frame, found, position⟩ := Graph.producer?_eq_some_iff.mp reads
  obtain ⟨producer, -, live, -⟩ := mirrored.exists_frame found (List.mem_of_getElem? position)
  have unmoved : move ⟨id, index⟩ = ⟨id, index⟩ :=
    evolves.move_eq_self live (cleared.step producer live).2
  refine Graph.producer?_eq_some_iff.mpr ⟨after, survives, ?_⟩
  rw [evolves.kept _ _ _ found survives, Frame.rename, List.getElem?_map, position,
    Option.map_some, unmoved]

/-- A step that is gone or read before a turn is gone or read after it. -/
theorem Outcome.cleared {result : Except Fault Turn}
    (outcome : Outcome config graph candidate result changed) (mirrored : graph.Mirrored)
    (cleared : Cleared graph id) : Cleared changed id := by
  obtain ⟨move, evolves⟩ := outcome.exists_evolves
  refine ⟨Nat.lt_of_lt_of_le cleared.old evolves.next, fun after survives => ?_, ?_⟩
  · obtain ⟨before, found, same⟩ := cleared.evolves evolves survives
    rw [same]
    exact cleared.step before found
  · rcases cleared.goneOrRead with gone | ⟨index, slot, reads⟩
    · exact .inl (cleared.stays_gone evolves gone)
    · cases survives : changed.frame? slot.node with
      | some after =>
        exact .inr ⟨index, slot, cleared.stays_read mirrored evolves reads survives⟩
      | none =>
        -- Only a turn that fuses takes a node away.
        obtain ⟨frame, found, position⟩ := Graph.producer?_eq_some_iff.mp reads
        cases outcome with
        | stale | broken | rejected | unplanned =>
          rw [survives] at found
          contradiction
        | stuck _ _ _ _ _ retains =>
          obtain ⟨after, still⟩ := retains _ _ found
          rw [survives] at still
          contradiction
        | fused fits _ _ _ _ _ _ hands shed =>
          exact cleared.fused fits hands shed found (List.mem_of_getElem? position) survives

end

/-- A turn that fuses a lookup leaves every step of its chain gone or read. -/
theorem Taken.cleared {config : FusionConfig} {start before after : Graph} {candidate : Candidate}
    {gather : Nat} {name : String} {layout : Layout} {node : Nat}
    (turn : Taken config start before candidate (.ok (.fused gather name layout node)) after)
    {id : Nat} (inside : id ∈ candidate.chain.intermediates) : Cleared after id := by
  cases turn.outcome with
  | fused fits _ _ _ _ _ evolves _ shed =>
    obtain ⟨frame, found⟩ := fits.1.exists_frame inside
    refine ⟨Nat.lt_of_lt_of_le (Graph.lt_next_of_frame? found) evolves.next,
      fun after survives => ?_, shed id inside⟩
    rw [evolves.kept _ _ _ found survives]
    exact ⟨(fits.1.steps_of_frame? inside found).1, (fits.1.steps_of_frame? inside found).2.1⟩

/-- Turns that led to a graph are followed by those of further candidates. -/
theorem graph_takeTurns_append {config : FusionConfig} {graph middle : Graph}
    {first : List Candidate} {told : List Turn} (second : List Candidate)
    (reached : takeTurns config graph first = ⟨middle, told, none⟩) :
    (takeTurns config graph (first ++ second)).graph = (takeTurns config middle second).graph := by
  induction first generalizing graph told with
  | nil =>
    cases reached
    rfl
  | cons candidate rest ih =>
    obtain ⟨turn, start, later, taken, others, rfl⟩ := takeTurns_cons_iff.mp reached
    rw [List.cons_append, takeTurns, taken]
    exact ih others

/-- Of the steps of a candidate that is fused on its turn none is left dead at the end of the
fusion. -/
theorem ComesUp.goneOrRead {config : FusionConfig} {start before after : Graph}
    {earlier : List Candidate} {told : List Turn} {candidate : Candidate}
    (comesUp : ComesUp config start earlier told before candidate) (mirrored : start.Mirrored)
    {gather : Nat} {name : String} {layout : Layout} {node : Nat}
    (taken : takeTurn config before candidate = (.ok (.fused gather name layout node), after)) :
    ∀ id ∈ candidate.chain.intermediates, (run config start).graph.GoneOrRead id := by
  intro id inside
  obtain ⟨later, collected⟩ := comesUp.collected
  obtain ⟨candidates, again, members⟩ := mirrored.exists_candidates
  obtain rfl : candidates = earlier ++ candidate :: later :=
    Except.ok.inj (again.symm.trans collected)
  have turn := comesUp.taken mirrored taken
  have final : (run config start).graph = (takeTurns config after later).graph := by
    simp only [run, collected]
    rw [graph_takeTurns_append _ comesUp.reached, takeTurns, taken]
  rw [final]
  have kept : Cleared (takeTurns config after later).graph id := by
    refine holds_takeTurns (fun other behind => ?_) turn.mirrored_after turn.evolves_after
      (Cleared · id) ?_ (turn.cleared inside)
    · exact (members other).mp (by simp [behind])
    · exact fun _ _ _ _ turn cleared => turn.outcome.cleared turn.mirrored cleared
  exact kept.goneOrRead

end GatherFusion.Fusion

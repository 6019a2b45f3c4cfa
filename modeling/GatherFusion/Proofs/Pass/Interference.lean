import GatherFusion.Proofs.Lookup.Pending
import GatherFusion.Proofs.Pass.Overtaking
import GatherFusion.Proofs.Pass.Report

/-!
# Candidates do not get in each other's way

Turns of other candidates add constants and fused lookups, remove steps that nothing reads any more,
and hand first outputs of lookups over, which carry floating point. A candidate that violates no
constraint looks up at integers and reads constants that only chains and fused lookups read, so none
of this touches it: when it comes up it is accepted with the layout it had from the start.
-/
namespace GatherFusion.Fusion

section

variable {config : FusionConfig} {start before : Graph} {earlier : List Candidate}
  {told : List Turn} {candidate : Candidate}

/-- The lookup of a candidate that comes up is still there. -/
theorem ComesUp.exists_frame (comesUp : ComesUp config start earlier told before candidate)
    (mirrored : start.Mirrored) : ∃ frame, before.frame? candidate.gather = some frame := by
  obtain ⟨fits, others⟩ := comesUp.fits mirrored
  rcases fits_or_overtaken mirrored fits others comesUp.reached with
    still | ⟨_, _, _, _, -, overtaken⟩
  · obtain ⟨frame, _, found, -⟩ := still.exists_frame
    exact ⟨frame, found⟩
  · have reads := overtaken.reads
    rw [Graph.producer?_eq, Option.bind_eq_some_iff] at reads
    obtain ⟨frame, found, -⟩ := reads
    exact ⟨frame, found⟩

/-- A candidate that was accepted at the start is accepted when it comes up, with the same layout. -/
theorem ComesUp.accepted (comesUp : ComesUp config start earlier told before candidate)
    (mirrored : start.Mirrored) (byName : config.SkipsByName) {layout : Layout}
    (accepted : candidate.layout config start = .ok layout) :
    candidate.Fits before ∧ candidate.layout config before = .ok layout := by
  obtain ⟨fits, -⟩ := comesUp.fits mirrored
  obtain ⟨mirroredBefore, move, evolves⟩ := comesUp.evolves mirrored
  have live := evolves.live_of_gather mirroredBefore fits (comesUp.exists_frame mirrored)
  exact evolves.accepted mirrored mirroredBefore byName fits accepted live

/-- A turn fused a lookup as a layout says, or could not replace it. -/
def Turn.Attempts (turn : Turn) (gather : Nat) (layout : Layout) : Prop :=
  (∃ name node, turn = .fused gather name layout node) ∨ ∃ name cause, turn = .failed gather name cause

/-- The turn of an accepted candidate comes to an end, and is an attempt to replace its lookup. -/
theorem Outcome.attempts {result : Except Fault Turn} {after : Graph} {layout : Layout}
    (outcome : Outcome config before candidate result after) (live : candidate.isLive before = true)
    (accepted : candidate.layout config before = .ok layout) :
    ∃ turn, result = .ok turn ∧ turn.Attempts candidate.gather layout := by
  cases outcome with
  | stale overtaken =>
    rw [live] at overtaken
    contradiction
  | broken _ missing =>
    obtain ⟨carried, table, found, read, -⟩ :=
      Candidate.described_eq_ok_iff.mp (Candidate.layout_eq_ok_iff.mp accepted).1
    rw [(Candidate.carried_eq_ok_iff.mp read).2.2.1] at missing
    contradiction
  | rejected _ declined =>
    rw [accepted] at declined
    contradiction
  | unplanned | stuck => exact ⟨_, rfl, .inr ⟨_, _, rfl⟩⟩
  | fused _ again =>
    obtain rfl := Except.ok.inj (accepted.symm.trans again)
    exact ⟨_, rfl, .inl ⟨_, _, rfl⟩⟩

end

/-- A candidate that is accepted at the start of a fusion of any graph is live when it comes up, and
accepted with the same layout, whatever happened on earlier turns, provided the configuration chooses
lookups by their names. Its turn fuses the lookup or fails to; the report lists that turn, and no
rejection of the lookup. -/
theorem accepted_on_turn (history : List Action) (config : FusionConfig)
    (byName : config.SkipsByName) (earlier : List Candidate) (told : List Turn) (before : Graph)
    (candidate : Candidate)
    (comesUp : ComesUp config (Graph.after history) earlier told before candidate) (layout : Layout)
    (accepted : candidate.layout config (Graph.after history) = .ok layout) :
    candidate.isLive before = true ∧ candidate.layout config before = .ok layout ∧
      ∃ turn after, takeTurn config before candidate = (.ok turn, after) ∧
        turn.Attempts candidate.gather layout ∧
        ∀ report, (run config (Graph.after history)).result = .ok report →
          (∃ rest, report = .ofTurns (told ++ turn :: rest)) ∧
          ∀ reason, (candidate.gather, reason) ∉ report.rejected := by
  have mirrored := Graph.mirrored_after history
  obtain ⟨mirroredBefore, -⟩ := comesUp.evolves mirrored
  obtain ⟨fits, acceptedStill⟩ := comesUp.accepted mirrored byName accepted
  have outcome := outcome_takeTurn config mirroredBefore fun _ => fits
  obtain ⟨turn, ended, attempts⟩ := outcome.attempts fits.isLive acceptedStill
  refine ⟨fits.isLive, acceptedStill, turn, _, Prod.ext ended rfl, attempts, ?_⟩
  intro report returned
  obtain ⟨again, after, rest, taken, rfl, others⟩ := comesUp.exists_turn mirrored returned
  rw [taken, Except.ok.injEq] at ended
  subst ended
  refine ⟨⟨rest, rfl⟩, fun reason rejected => ?_⟩
  obtain ⟨name, inside⟩ := Report.mem_rejected_ofTurns.mp rejected
  -- Another turn would tell of another lookup, and this one is no rejection.
  rcases List.mem_append.mp inside with early | late
  · exact others _ (List.mem_append_left _ early) rfl
  · rcases List.mem_cons.mp late with rfl | late
    · rcases attempts with ⟨_, _, same⟩ | ⟨_, _, same⟩ <;> cases same
    · exact others _ (List.mem_append_right _ late) rfl

/-- The third lookup shares its table with the first two. When it comes up the first one has been
fused and the second one passed over, and it is accepted as before. -/
theorem accepted_of_lookupOfLookup : ∃ told before,
    (FusionConfig.SkipsByName {}) ∧
      ComesUp {} (Graph.after lookupOfLookup) [lookupAt 4 2, lookupAt 5 4] told before
        (lookupAt 6 2) ∧
      (lookupAt 6 2).layout {} (Graph.after lookupOfLookup) = .ok ⟨.symmetric, .perTensor⟩ ∧
      (lookupAt 6 2).layout {} before = .ok ⟨.symmetric, .perTensor⟩ := by
  have byName : FusionConfig.SkipsByName {} := fun _ _ _ => rfl
  have collected : (Graph.after lookupOfLookup).candidates =
      .ok [lookupAt 4 2, lookupAt 5 4, lookupAt 6 2] := by
    decide +kernel
  have finished : (takeTurns {} (Graph.after lookupOfLookup)
      [lookupAt 4 2, lookupAt 5 4]).fault = none := by
    decide +kernel
  have accepted : (lookupAt 6 2).layout {} (Graph.after lookupOfLookup) =
      .ok ⟨.symmetric, .perTensor⟩ := by
    decide +kernel
  have comesUp : ComesUp {} (Graph.after lookupOfLookup) [lookupAt 4 2, lookupAt 5 4] _ _
      (lookupAt 6 2) := ⟨⟨[], collected⟩, takeTurns_eq finished⟩
  obtain ⟨-, still, -⟩ := accepted_on_turn lookupOfLookup {} byName _ _ _ _ comesUp _ accepted
  exact ⟨_, _, byName, comesUp, accepted, still⟩

end GatherFusion.Fusion

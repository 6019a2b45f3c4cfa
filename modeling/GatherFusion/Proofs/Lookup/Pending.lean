import GatherFusion.Proofs.Lookup.Acceptance
import GatherFusion.Proofs.Lookup.Readers
import GatherFusion.Proofs.Lookup.Replacement

/-!
# Candidates that could be replaced

A candidate is pending when it is recognized, accepted, and its replacement can be planned. While a
graph evolves a pending candidate keeps its indices, since indices are integers and only ports that
carry floating point are taken over. As long as no node goes it stays pending, and one that is
pending was so before, provided the configuration chooses lookups by their names.
-/
namespace GatherFusion

/-- The configuration leaves lookups alone by their names only. -/
def FusionConfig.SkipsByName (config : FusionConfig) : Prop :=
  ∀ left right : Node, left.name = right.name → config.skips left = config.skips right

/-- A candidate that is accepted and whose replacement can be planned. -/
structure Candidate.Pending (candidate : Candidate) (config : FusionConfig) (graph : Graph) :
    Prop where
  /-- It is recognized. -/
  fits : candidate.Fits graph
  /-- No constraint is violated. -/
  accepted : ∃ layout, candidate.layout config graph = .ok layout
  /-- The replacement is planned. -/
  planned : ∃ plan, candidate.plan graph = .ok plan

namespace Graph

/-- In a mirrored graph a candidate is accepted when its table is described, its constants are read
along the chain only and the configuration does not object. -/
theorem Mirrored.layout_eq_ok_iff {graph : Graph} (mirrored : graph.Mirrored)
    {candidate : Candidate} {config : FusionConfig} {layout : Layout} :
    candidate.layout config graph = .ok layout ↔
      candidate.described config graph = .ok layout ∧ candidate.chain.Private graph ∧
        ∃ node, graph.node? candidate.gather = some node ∧ config.skips node = false := by
  have readers : candidate.chain.dequantization.forM (Candidate.checkReaders graph) = .ok () ↔
      candidate.chain.Private graph := by
    rcases mirrored.checkReaders candidate.chain with ⟨done, only⟩ | ⟨part, done, shared⟩
    · simp [done, only]
    · simp [done, shared, refuse]
  rw [Candidate.layout_eq_ok_iff, readers]

namespace Evolves

variable {old new : Graph} {move : Port → Port} (evolves : old.Evolves move new)
  {candidate : Candidate} {config : FusionConfig}
include evolves

/-- A node that is there now and has an old handle was there before. -/
theorem exists_before {id : Nat} {after : Frame} (found : new.frame? id = some after)
    (below : id < old.next) : ∃ before, old.frame? id = some before := by
  cases there : old.frame? id with
  | some before => exact ⟨before, rfl⟩
  | none =>
    have fresh := (evolves.born id after there found).1
    omega

/-- The indices of a described candidate are not taken over. -/
theorem rename_eq {layout : Layout} (described : candidate.described config old = .ok layout) :
    candidate.rename move = candidate := by
  have same : move candidate.indices = candidate.indices := by
    rcases evolves.moved candidate.indices with same | taken
    · exact same
    · obtain ⟨info, carries, integer⟩ := Candidate.isInteger_of_described described
      obtain ⟨other, again, -, float⟩ := taken.carried
      rw [carries, Option.some.injEq] at again
      rw [← again, ElementType.not_isFloat_of_isInteger integer] at float
      contradiction
  simp [Candidate.rename, same]

/-- A surviving node is skipped by its name or not at all. -/
theorem skips_eq (byName : config.SkipsByName) {id : Nat} {before after : Node}
    (found : old.node? id = some before) (survives : new.node? id = some after) :
    config.skips after = config.skips before := by
  have kept := evolves.kept id _ _ (frame?_of_node? found) (frame?_of_node? survives)
  exact byName after before (congrArg Frame.name kept)

variable (mirrored : old.Mirrored) (mirroredStill : new.Mirrored)
include mirrored mirroredStill

/-- A described candidate whose nodes survive still fits, and its description is the same. -/
theorem fits_of_described {layout : Layout} (fits : candidate.Fits old)
    (described : candidate.described config old = .ok layout)
    (live : ∀ id ∈ candidate.gather :: candidate.chain.intermediates,
      ∃ frame, new.frame? id = some frame) :
    candidate.Fits new ∧ candidate.described config new = .ok layout := by
  have still := evolves.fits fits live
  have same := evolves.described_eq fits still mirrored mirroredStill config
  rw [evolves.rename_eq described] at still same
  exact ⟨still, same.trans described⟩

/-- A described candidate fitted before, with the same description. -/
theorem fits_before_of_described {layout : Layout} (fits : candidate.Fits new)
    (described : candidate.described config new = .ok layout) :
    candidate.Fits old ∧ candidate.described config old = .ok layout := by
  obtain ⟨before, fitsBefore, rfl⟩ := evolves.exists_fits mirrored fits
  have same := evolves.described_eq fitsBefore fits mirrored mirroredStill config
  rw [described] at same
  rw [evolves.rename_eq same.symm]
  exact ⟨fitsBefore, same.symm⟩

/-- The plan of a described candidate does not change. -/
theorem plan_iff_of_described {layout : Layout} (fits : candidate.Fits old)
    (still : candidate.Fits new) (described : candidate.described config old = .ok layout)
    {plan : Candidate.Plan} : candidate.plan new = .ok plan ↔ candidate.plan old = .ok plan := by
  have unmoved := evolves.rename_eq described
  have same : (candidate.rename move).plan new = .ok plan ↔ candidate.plan old = .ok plan :=
    evolves.plan_eq_ok_iff mirrored mirroredStill fits (by rwa [unmoved])
  rwa [unmoved] at same

/-- An accepted candidate whose nodes survive is accepted again, with the same layout. -/
theorem accepted (byName : config.SkipsByName) {layout : Layout} (fits : candidate.Fits old)
    (accepted : candidate.layout config old = .ok layout)
    (live : ∀ id ∈ candidate.gather :: candidate.chain.intermediates,
      ∃ frame, new.frame? id = some frame) :
    candidate.Fits new ∧ candidate.layout config new = .ok layout := by
  obtain ⟨described, only, node, found, unskipped⟩ := mirrored.layout_eq_ok_iff.mp accepted
  obtain ⟨still, describedStill⟩ :=
    evolves.fits_of_described mirrored mirroredStill fits described live
  have onlyStill : candidate.chain.Private new :=
    only.transport fits.1 fun value reader frame found _ noFused only =>
      evolves.readOnlyBy found noFused only
  obtain ⟨frame, survives⟩ := live _ List.mem_cons_self
  obtain ⟨after, survivesNode, -⟩ := frame?_eq_some_iff.mp survives
  have unskippedStill : config.skips after = false :=
    (evolves.skips_eq byName found survivesNode).trans unskipped
  exact ⟨still, mirroredStill.layout_eq_ok_iff.mpr
    ⟨describedStill, onlyStill, after, survivesNode, unskippedStill⟩⟩

/-- As long as no node goes a pending candidate stays pending. -/
theorem pending (byName : config.SkipsByName) (retains : old.Retains new)
    (pending : candidate.Pending config old) : candidate.Pending config new := by
  obtain ⟨fits, ⟨layout, accepted⟩, plan, planned⟩ := pending
  have described := (mirrored.layout_eq_ok_iff.mp accepted).1
  have live : ∀ id ∈ candidate.gather :: candidate.chain.intermediates,
      ∃ frame, new.frame? id = some frame := by
    intro id inside
    obtain ⟨frame, there⟩ := fits.exists_frame_of_mem inside
    exact retains _ _ there
  obtain ⟨still, acceptedStill⟩ :=
    evolves.accepted mirrored mirroredStill byName fits accepted live
  exact ⟨still, ⟨layout, acceptedStill⟩, plan,
    (evolves.plan_iff_of_described mirrored mirroredStill fits still described).mpr planned⟩

/-- As long as no node goes a candidate that is pending was pending before. -/
theorem pending_before (byName : config.SkipsByName) (retains : old.Retains new)
    (pending : candidate.Pending config new) : candidate.Pending config old := by
  obtain ⟨fits, ⟨layout, accepted⟩, plan, planned⟩ := pending
  obtain ⟨described, only, after, survives, unskipped⟩ := mirroredStill.layout_eq_ok_iff.mp accepted
  obtain ⟨fitsBefore, describedBefore⟩ :=
    evolves.fits_before_of_described mirrored mirroredStill fits described
  have onlyBefore : candidate.chain.Private old :=
    only.transport fitsBefore.1 fun value reader frame found noLookup _ only =>
      evolves.readOnlyBy_before retains found noLookup only
  obtain ⟨_, _, readsBefore, -⟩ := fitsBefore.2
  obtain ⟨before, found, -⟩ := reads_iff.mp readsBefore
  have unskippedBefore : config.skips before = false :=
    (evolves.skips_eq byName found survives).symm.trans unskipped
  exact ⟨fitsBefore, ⟨layout, mirrored.layout_eq_ok_iff.mpr
      ⟨describedBefore, onlyBefore, before, found, unskippedBefore⟩⟩, plan,
    (evolves.plan_iff_of_described mirrored mirroredStill fitsBefore fits describedBefore).mp
      planned⟩

end Evolves

end Graph

end GatherFusion

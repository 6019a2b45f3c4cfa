import GatherFusion.Proofs.Graph.Commutation
import GatherFusion.Proofs.Lookup.Pending
import GatherFusion.Proofs.Lookup.Performance

/-!
# Lookups in twins

A table times its scale is the scale times the table, and at most one of the two readings of a
product finds a table where the other finds the scale. So a lookup that fits a graph fits its twin,
recognition finds the same in both, and the constraints, which look at tensors and at the nodes that
read a value but never at slots, come to the same verdict. A replacement then does the same to both.
-/
namespace GatherFusion

namespace Graph.Twins

variable {nodes : Nat → Bool} {left right : Graph} (twins : Twins nodes left right)
include twins

/-! ## Recognition -/

/-- A port holds a constant in one twin if it does in the other. -/
theorem holds {port : Port} (holds : left.Holds port) : right.Holds port := by
  unfold Holds
  rwa [twins.constant?_eq]

/-- A node that does not multiply reads the same ports in twins. -/
theorem reads {id : Nat} {operation : Operation} {inputs : List Port}
    (other : operation ≠ .multiply) (reads : left.Reads id operation inputs) :
    right.Reads id operation inputs := by
  obtain ⟨frame, found, rfl, rfl⟩ := reads
  have same : frame.swapped (nodes id) = frame := Frame.swapped_of_operation _ other
  exact ⟨frame, same ▸ twins.frame?_eq_some found, rfl, rfl⟩

/-- A product of two factors reads them in either order in the twin. -/
theorem reads_factors {id : Nat} {first second : Port}
    (reads : left.Reads id .multiply [first, second]) :
    right.Reads id .multiply [first, second] ∨ right.Reads id .multiply [second, first] := by
  obtain ⟨frame, found, operation, inputs⟩ := reads
  have there := twins.frame?_eq_some found
  have same : (frame.swapped (nodes id)).operation = .multiply := by
    rw [Frame.swapped_operation, operation]
  by_cases swaps : frame.Swaps (nodes id)
  · apply Or.inr
    refine ⟨_, there, same, ?_⟩
    simp [Frame.swapped, swaps, inputs]
  · apply Or.inl
    refine ⟨_, there, same, ?_⟩
    simp [Frame.swapped, swaps, inputs]

/-- A chain that fits a graph fits its twin. -/
theorem chain_fits {chain : Chain} (fits : chain.Fits left) : chain.Fits right := by
  exact fits.transport_eitherOrder fun _ _ =>
    { reads := fun _ _ other reads => twins.reads other reads
      factors := fun _ _ reads => twins.reads_factors reads
      holds := fun _ _ _ _ _ holds => twins.holds holds }

/-- A candidate that fits a graph fits its twin. -/
theorem fits {candidate : Candidate} (fits : candidate.Fits left) : candidate.Fits right := by
  obtain ⟨chainFits, axis, info, reads, axisNode, axisRead, carries, front⟩ := fits
  refine ⟨twins.chain_fits chainFits, axis, info, twins.reads (by simp) reads, axisNode, ?_, ?_,
    front⟩
  · rw [twins.integers?_eq, axisRead]
  · rw [twins.info?_eq, carries]

/-- The search for a chain finds the same in twins. -/
theorem chain_eq (id : Nat) : right.chain id = left.chain id := by
  rcases twins.node?_cases id with ⟨dead, deadToo⟩ | ⟨one, two, found, there, -⟩
  · have stops {graph : Graph} (dead : graph.node? id = none) :
        graph.chain id = OptionT.mk (.error (.deadHandle id)) := by
      unfold Graph.chain
      rw [node_eq_error dead]
      rfl
    rw [stops dead, stops deadToo]
  · obtain ⟨own, done⟩ := safe_chain twins.mirrored found
    obtain ⟨other, doneToo⟩ := safe_chain twins.still there
    have same : other = own := by
      apply Option.ext
      intro chain
      have finds : (right.chain id).Finds chain ↔ (left.chain id).Finds chain := by
        rw [twins.still.finds_chain_iff, twins.mirrored.finds_chain_iff]
        exact and_congr_right fun _ => ⟨twins.symm.chain_fits, twins.chain_fits⟩
      unfold Search.Finds at finds
      rw [done, doneToo] at finds
      simpa using finds
    exact doneToo.trans (same ▸ done.symm)

/-- Recognition comes to the same result in twins. -/
theorem recognize_eq (gather : Nat) : right.recognize gather = left.recognize gather := by
  unfold recognize
  rcases twins.node?_cases gather with ⟨dead, deadToo⟩ | ⟨one, two, found, there, frame⟩
  · rw [dead, deadToo]
  · obtain ⟨-, operation, inputs⟩ := Node.alike_of_swapped frame
    by_cases product : one.operation = .multiply
    · simp only [found, there, operation, product]
    · simp only [found, there, operation, inputs product, twins.integers?_eq, twins.info?_eq,
        twins.chain_eq]

/-- Twins have the same lookups. -/
theorem gathers_eq : right.gathers = left.gathers := by
  apply OrderedSet.eq_of_mem_iff right.increasing_gathers left.increasing_gathers
  intro id
  rw [mem_gathers, mem_gathers, twins.frames]
  cases left.frame? id <;> simp

/-- Twins have the same candidates. -/
theorem candidates_eq : right.candidates = left.candidates := by
  have recognized : right.recognize = left.recognize := funext twins.recognize_eq
  simp only [candidates, twins.gathers_eq, recognized]

/-- A candidate is live in both twins or in neither. -/
theorem isLive_eq (candidate : Candidate) : candidate.isLive right = candidate.isLive left := by
  have contained : right.contains = left.contains := funext twins.contains_eq
  unfold Candidate.isLive
  rcases twins.node?_cases candidate.gather with ⟨dead, deadToo⟩ | ⟨one, two, found, there, frame⟩
  · rw [dead, deadToo]
  · obtain ⟨-, operation, inputs⟩ := Node.alike_of_swapped frame
    simp only [found, there, operation, contained, Node.input?]
    by_cases product : one.operation = .multiply
    · simp [product, Operation.isGather]
    · rw [inputs product]

/-! ## Constraints -/

/-- Ports of twins carry the same, and the same ports are missing. -/
theorem carried_eq (port : Port) : right.carried port = left.carried port := by
  rw [Graph.carried_eq, Graph.carried_eq, twins.frames]
  cases left.frame? port.node <;> simp

/-- A value is read by the same nodes in twins. -/
theorem readOnlyBy {value reader : Nat} (only : left.ReadOnlyBy value reader) :
    right.ReadOnlyBy value reader := by
  intro slot reads
  rw [producer?_of_frames twins.frames] at reads
  rcases only _ reads with own | ⟨frame, found, fused⟩
  · rw [turn_node] at own
    exact .inl own
  · rw [turn_node] at found
    exact .inr ⟨_, twins.frame?_eq_some found, by rwa [Frame.swapped_operation]⟩

/-- The question for other readers has the same answer in twins. -/
theorem privateTo_eq (value reader : Nat) :
    Candidate.privateTo right value reader = Candidate.privateTo left value reader := by
  obtain ⟨own, done, iff⟩ := twins.mirrored.exists_privateTo value reader
  obtain ⟨other, doneToo, iffToo⟩ := twins.still.exists_privateTo value reader
  have same : other = own := by
    rw [Bool.eq_iff_iff, iff, iffToo]
    exact ⟨twins.symm.readOnlyBy, twins.readOnlyBy⟩
  rw [done, doneToo, same]

/-- The readers of scale and zero point pass the check in both twins or in neither. -/
theorem checkReaders_eq : Candidate.checkReaders right = Candidate.checkReaders left := by
  funext dequantization
  unfold Candidate.checkReaders Candidate.zeroPointPrivate
  simp only [twins.privateTo_eq]

/-- A check that asks a node for its name only goes on in the same way in twins. -/
theorem bind_node_eq {ε α : Type} {own other : Node → Except (Failure ε) α} (id : Nat)
    (alike : ∀ one two : Node, two.name = one.name → other two = own one) :
    (liftM (right.node id) >>= other) = (liftM (left.node id) >>= own) := by
  rcases twins.node?_cases id with ⟨dead, deadToo⟩ | ⟨one, two, found, there, frame⟩
  · rw [node_eq_error dead, node_eq_error deadToo]
    rfl
  · have read : (liftM (left.node id) : Except (Failure ε) Node) = .ok one :=
      monadLift_eq_ok_iff.mpr (node_eq_ok_iff.mpr found)
    have readToo : (liftM (right.node id) : Except (Failure ε) Node) = .ok two :=
      monadLift_eq_ok_iff.mpr (node_eq_ok_iff.mpr there)
    rw [read, readToo]
    exact alike one two (Node.alike_of_swapped frame).1

/-- A candidate that fits is accepted with the same layout in twins, or rejected for the same
reason. -/
theorem layout_eq {config : FusionConfig} (byName : config.SkipsByName) {candidate : Candidate}
    (fits : candidate.Fits left) :
    candidate.layout config right = candidate.layout config left := by
  have described :
      (candidate.rename id).described config right = candidate.described config left :=
    Candidate.described_congr fits.1 (twins.chain_fits fits.1) (fun _ _ => twins.carried_eq _)
      (fun _ _ => twins.carried_eq _) (twins.carried_eq _)
  have unmoved : candidate.rename id = candidate := rfl
  rw [unmoved] at described
  rw [Candidate.layout_eq, Candidate.layout_eq, described, twins.checkReaders_eq]
  apply bind_congr
  intro layout
  apply bind_congr
  intro _
  apply twins.bind_node_eq
  intro one two name
  rw [byName two one name]

/-! ## Replacements -/

/-- The fused lookup would yield the same in twins. -/
theorem fusedInfo_eq (candidate : Candidate) :
    candidate.fusedInfo right = candidate.fusedInfo left := by
  unfold Candidate.fusedInfo
  rcases twins.output_cases candidate.indices with
    ⟨cause, missing, missingToo⟩ | ⟨indices, indicesToo, found, there, same⟩
  · rw [missing, missingToo]
    rfl
  · rw [found, there]
    rcases twins.output_cases (.first candidate.chain.top) with
      ⟨cause, missing, missingToo⟩ | ⟨top, topToo, offered, offers, sameTop⟩
    · rw [missing, missingToo]
      rfl
    · rw [offered, offers]
      simp only [mapError_ok, bind, Except.bind, same, sameTop]

/-- A replacement is planned in the same way in twins, or cannot be planned for the same reason. -/
theorem plan_eq (candidate : Candidate) : candidate.plan right = candidate.plan left := by
  have carried : right.firstInfo = left.firstInfo := funext fun id => twins.carried_eq (.first id)
  have scale : candidate.missingScale right = candidate.missingScale left := by
    simp only [Candidate.missingScale, Candidate.unitScale, carried]
  unfold Candidate.plan
  rw [twins.isLive_eq, twins.fusedInfo_eq, carried, scale]
  apply bind_congr
  intro _
  apply twins.bind_node_eq
  intro one two name
  rw [name]

end Graph.Twins

namespace Candidate

open GatherFusion.Graph (Twins)

variable {nodes : Nat → Bool}

/-- Twins are stripped of the same superfluous nodes. -/
theorem respects_removeUnused (id : Nat) : Edit.Respects (Twins nodes) (removeUnused id) := by
  intro left right twins
  -- The node that is looked at differs in the twins, whether it is unused does not.
  have unused : (right.node? id).any Node.isUnused = (left.node? id).any Node.isUnused := by
    rcases twins.node?_cases id with ⟨dead, deadToo⟩ | ⟨one, two, found, there, -⟩
    · rw [dead, deadToo]
    · rw [found, there, Option.any_some, Option.any_some, Bool.eq_iff_iff, Graph.isUnused_iff,
        Graph.isUnused_iff, twins.readerCount_node_eq found there]
  rw [runOn_removeUnused_eq, runOn_removeUnused_eq, unused]
  split
  · exact Graph.respects_removeNode id left right twins
  · exact ⟨rfl, twins⟩

/-- A plan is carried out in the same way in twins. -/
theorem respects_perform (plan : Plan) (candidate : Candidate) (granularity : Granularity) :
    Edit.Respects (Twins nodes) (plan.perform candidate granularity) := by
  have constant (name : String) (info : TensorInfo) (payload : Payload) :
      Edit.Respects (Twins nodes) (Graph.addConstant name info payload) :=
    Graph.respects_addNode _ _ _ (by simp)
  have axis : Edit.Respects (Twins nodes) (candidate.fusedAxis plan.name) := by
    unfold fusedAxis
    split
    · exact Edit.respects_pure _
    · exact Edit.respects_bind (constant _ _ _) fun _ => Edit.respects_pure _
  have scale : Edit.Respects (Twins nodes) (fusedScale plan.name plan.scale) := by
    unfold fusedScale
    split
    · exact Edit.respects_pure _
    · exact Edit.respects_bind (constant _ _ _) fun _ => Edit.respects_pure _
  refine Edit.respects_bind axis fun axis => Edit.respects_bind scale fun scale => ?_
  refine Edit.respects_bind (Graph.respects_addNode _ _ _ (by simp)) fun fused => ?_
  refine Edit.respects_bind (Edit.respects_discard (Graph.respects_replaceAllUses _ _)) fun _ => ?_
  refine Edit.respects_bind (Graph.respects_removeNode _) fun _ => ?_
  exact Edit.respects_bind (Edit.respects_forM respects_removeUnused) fun _ => Edit.respects_pure _

/-- A lookup is replaced in the same way in twins. -/
theorem respects_replace (candidate : Candidate) (layout : Layout) :
    Edit.Respects (Twins nodes) (candidate.replace layout) :=
  Edit.respects_bind (Edit.respects_attempt fun _ _ twins => twins.plan_eq candidate) fun plan =>
    Edit.respects_mapCause _ (respects_perform plan candidate layout.granularity)

end Candidate

end GatherFusion

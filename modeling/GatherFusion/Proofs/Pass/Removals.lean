import GatherFusion.Proofs.Graph.Recording
import GatherFusion.Proofs.Pass.Clearance

/-!
# What a fusion removes

A fusion is recorded here: `Fusion.removals` lists the nodes it removes, each with the graph as it
was at that moment. The record is complete, since the handles in it are those that died, and every
removal in it took away a step that nothing read at that moment. Together with the steps of fused
candidates, none of which is left dead, this says that a fusion removes what it has made superfluous
and nothing else.
-/
namespace GatherFusion

/-! ## One replacement -/

namespace Candidate

/-- Remove a node if it is there and nothing reads it, with a record. -/
def recordUnused (id : Nat) : Recording GraphError Unit := do
  let node ← .ofEdit (Edit.inspect fun graph => .ok (graph.node? id))
  if node.any Node.isUnused then discard (Recording.removeNode id) else pure ()

/-- Carry a plan out, with a record of what is removed. -/
def Plan.record (plan : Plan) (candidate : Candidate) (granularity : Granularity) :
    Recording GraphError Nat := do
  let axis ← .ofEdit (candidate.fusedAxis plan.name)
  let scale ← .ofEdit (fusedScale plan.name plan.scale)
  let inputs := .first candidate.chain.weight :: candidate.indices :: axis ::
    (candidate.constants ++ scale)
  let fused ← .ofEdit
    (Graph.addNode (.gatherCompressed granularity 0) inputs [plan.info] plan.name)
  discard (.ofEdit (Graph.replaceAllUses (.first candidate.gather) (.first fused)))
  discard (Recording.removeNode candidate.gather)
  candidate.chain.intermediates.forM recordUnused
  pure fused

variable {list : List Nat}

/-- Reading records nothing. -/
theorem tells_inspect {α : Type} (reading : Graph → Except Fault α) :
    Recording.Tells (Graph.StepsLive list) (.ofEdit (Edit.inspect reading : Edit GraphError α))
      (Edit.inspect reading) := by
  refine Recording.tells_ofEdit (Edit.keeps_inspect reading) fun graph _ => ?_
  have same : ((Edit.inspect reading : Edit GraphError α).runOn graph).2 = graph := by
    unfold Edit.runOn Edit.inspect
    split <;> rfl
  rw [same]
  exact .refl graph

/-- Adding a constant under a name of its own records nothing. -/
theorem tells_addConstant {α : Type} (name : String) (info : TensorInfo) (payload : Payload)
    (port : Nat → α) :
    Recording.Tells (Graph.StepsLive list)
      (.ofEdit (do pure (port (← Graph.addConstant name info payload))))
      (do pure (port (← Graph.addConstant name info payload))) := by
  have added := (Graph.stable_stepsLive list).addNode (.constant payload) [] [info] name
  refine Recording.tells_ofEdit (Edit.keeps_bind added fun _ => Edit.keeps_pure _) fun graph holds => ?_
  have same : ((do pure (port (← Graph.addConstant name info payload)) :
      Edit GraphError α).runOn graph).2 =
        ((Graph.addNode (.constant payload) [] [info] name).runOn graph).2 := by
    rw [Edit.runOn_bind, Graph.addConstant]
    split <;> rename_i done <;> rw [done]
    rfl
  rw [same]
  exact holds.1.accounts_addNode _ _ _ _

/-- Removing an unused node of a list is recorded. -/
theorem tells_removeUnused {id : Nat} (inside : id ∈ list) :
    Recording.Tells (Graph.StepsLive list) (recordUnused id) (removeUnused id) := by
  refine Recording.tells_bind (tells_inspect _) fun node => ?_
  split
  · exact Recording.tells_discard (Graph.tells_removeNode inside)
  · exact Recording.tells_pure ()

/-- Carrying a plan out with a record is carrying it out, and the record accounts for what goes. -/
theorem tells_perform (plan : Plan) (candidate : Candidate) (granularity : Granularity) :
    Recording.Tells (Graph.StepsLive (candidate.gather :: candidate.chain.intermediates))
      (plan.record candidate granularity) (plan.perform candidate granularity) := by
  have axis : Recording.Tells (Graph.StepsLive (candidate.gather :: candidate.chain.intermediates))
      (.ofEdit (candidate.fusedAxis plan.name)) (candidate.fusedAxis plan.name) := by
    unfold fusedAxis
    split
    · exact Recording.tells_pure _
    · exact tells_addConstant _ _ _ _
  have scale : Recording.Tells (Graph.StepsLive (candidate.gather :: candidate.chain.intermediates))
      (.ofEdit (fusedScale plan.name plan.scale)) (fusedScale plan.name plan.scale) := by
    unfold fusedScale
    split
    · exact Recording.tells_pure _
    · exact tells_addConstant _ _ _ _
  refine Recording.tells_bind axis fun axis => Recording.tells_bind scale fun scale => ?_
  refine Recording.tells_bind (Graph.tells_addNode _ _ _ _) fun fused => ?_
  refine Recording.tells_bind (Recording.tells_discard (Graph.tells_replaceAllUses _ _)) fun _ => ?_
  refine Recording.tells_bind
    (Recording.tells_discard (Graph.tells_removeNode List.mem_cons_self)) fun _ => ?_
  refine Recording.tells_bind (Recording.tells_forM fun id inside => ?_) fun _ =>
    Recording.tells_pure _
  exact tells_removeUnused (List.mem_cons_of_mem _ inside)

/-- The lookup of a fitting candidate and the steps of its chain are live steps. -/
theorem Fits.stepsLive {candidate : Candidate} {graph : Graph} (fits : candidate.Fits graph)
    (mirrored : graph.Mirrored) :
    graph.StepsLive (candidate.gather :: candidate.chain.intermediates) := by
  refine ⟨mirrored, fun id inside => ?_⟩
  obtain ⟨frame, found⟩ := fits.exists_frame_of_mem inside
  refine ⟨Graph.lt_next_of_frame? found, fun again foundAgain => ?_⟩
  rcases List.mem_cons.mp inside with rfl | inside
  · obtain ⟨lookup, axis, there, operation, -⟩ := fits.exists_frame
    rw [foundAgain, Option.some.injEq] at there
    rw [there, operation]
    rfl
  · exact (fits.1.steps_of_frame? inside foundAgain).1

end Candidate

/-! ## A fusion -/

namespace Fusion

/-- The removals on the turn of a candidate: those of carrying its plan out, if it has its turn at
all, is accepted and can be planned for. -/
def removalsOnTurn (config : FusionConfig) (graph : Graph) (candidate : Candidate) : List Removal :=
  if !candidate.isLive graph then []
  else
    match candidate.layout config graph, candidate.plan graph with
    | .ok layout, .ok plan => ((plan.record candidate layout.granularity).runOn graph []).2.2
    | _, _ => []

/-- The removals on the turns of candidates, up to a fault. -/
def removalsOnTurns (config : FusionConfig) (graph : Graph) : List Candidate → List Removal
  | [] => []
  | candidate :: rest =>
    removalsOnTurn config graph candidate ++
      match takeTurn config graph candidate with
      | (.error _, _) => []
      | (.ok _, changed) => removalsOnTurns config changed rest

/-- The removals of a fusion, in order. -/
def removals (config : FusionConfig) (graph : Graph) : List Removal :=
  match graph.candidates with
  | .error _ => []
  | .ok candidates => removalsOnTurns config graph candidates

variable {config : FusionConfig} {graph : Graph}

/-- A replacement leaves the graph as it was, or as carrying out its plan leaves it. -/
theorem graph_replace (candidate : Candidate) (layout : Layout) :
    ((candidate.replace layout).runOn graph).2 =
      match candidate.plan graph with
      | .error _ => graph
      | .ok plan => ((plan.perform candidate layout.granularity).runOn graph).2 := by
  cases planned : candidate.plan graph with
  | error failure => rw [Candidate.runOn_replace_of_unplanned planned]
  | ok plan =>
    rw [Candidate.runOn_replace_of_planned planned]
    show _ = ((plan.perform candidate layout.granularity).runOn graph).2
    cases done : (plan.perform candidate layout.granularity).runOn graph with
    | mk result changed =>
      cases result with
      | ok fused => rw [Edit.runOn_mapCause_ok _ done]
      | error failure => rw [Edit.runOn_mapCause_error _ done]

/-- The turn of a live candidate leaves the graph as it was, or as the replacement leaves it. -/
theorem graph_takeTurn {candidate : Candidate} (live : candidate.isLive graph = true)
    (fits : candidate.Fits graph) :
    (takeTurn config graph candidate).2 =
      match candidate.layout config graph with
      | .error _ => graph
      | .ok layout => ((candidate.replace layout).runOn graph).2 := by
  obtain ⟨frame, axis, found, -⟩ := fits.exists_frame
  obtain ⟨node, there, -⟩ := Graph.frame?_eq_some_iff.mp found
  simp only [takeTurn, live, Bool.not_true, Bool.false_eq_true, ↓reduceIte,
    Graph.node_eq_ok_iff.mpr there]
  cases candidate.layout config graph with
  | error failure => cases failure <;> rfl
  | ok layout =>
    simp only
    split <;> rename_i done <;> rw [done]

/-- The record of a turn accounts for what goes on it. -/
theorem accounts_takeTurn (config : FusionConfig) {candidate : Candidate} (mirrored : graph.Mirrored)
    (fitting : candidate.isLive graph = true → candidate.Fits graph) :
    graph.Accounts (removalsOnTurn config graph candidate)
      (takeTurn config graph candidate).2 := by
  cases live : candidate.isLive graph with
  | false =>
    simp only [removalsOnTurn, takeTurn, live, Bool.not_false, ↓reduceIte]
    exact .refl graph
  | true =>
    have fits := fitting live
    rw [graph_takeTurn live fits]
    simp only [removalsOnTurn, live, Bool.not_true, Bool.false_eq_true, ↓reduceIte]
    cases candidate.layout config graph with
    | error failure => exact .refl graph
    | ok layout =>
      simp only [graph_replace]
      cases candidate.plan graph with
      | error failure => exact .refl graph
      | ok plan =>
        obtain ⟨record, run, -, accounts⟩ := Candidate.tells_perform plan candidate
          layout.granularity graph [] (fits.stepsLive mirrored)
        simp only [run, List.nil_append]
        exact accounts

/-- The record of the turns of fitting candidates accounts for what goes on them. -/
theorem accounts_takeTurns {start : Graph} {candidates : List Candidate}
    (fit : ∀ candidate ∈ candidates, candidate.Fits start) (mirrored : graph.Mirrored)
    (evolves : ∃ move, start.Evolves move graph) :
    graph.Accounts (removalsOnTurns config graph candidates)
      (takeTurns config graph candidates).graph := by
  refine takeTurns_induction (motive := fun candidates before session =>
    before.Accounts (removalsOnTurns config before candidates) session.graph)
    .refl ?_ ?_ fit mirrored evolves
  · intro candidate rest before fault after turn
    have first := accounts_takeTurn config turn.mirrored turn.fitting
    rw [turn.taken] at first
    rw [removalsOnTurns, turn.taken, List.append_nil]
    exact first
  · intro candidate rest before told after later turn others
    have first := accounts_takeTurn config turn.mirrored turn.fitting
    rw [turn.taken] at first
    rw [removalsOnTurns, turn.taken]
    exact first.trans others

/-- The record of a fusion accounts for what goes in it. -/
theorem accounts_run (config : FusionConfig) (mirrored : graph.Mirrored) :
    graph.Accounts (removals config graph) (run config graph).graph := by
  obtain ⟨candidates, collected, members⟩ := mirrored.exists_candidates
  simp only [removals, run, collected]
  exact accounts_takeTurns (fun candidate inside => (members candidate).mp inside) mirrored
    ⟨id, Graph.Evolves.refl graph⟩

/-- A fusion of any graph that was reached leaves no step of a decompression dead that it has fused a
lookup in: each of them is gone or one of its outputs is read by a live node, whoever else made use of
the chain and in whatever order the lookups came. The nodes it removed on the way are those whose
handles died, and each of them was a step that nothing read at that moment. -/
theorem removes_what_is_superfluous (history : List Action) (config : FusionConfig) :
    (∀ earlier told before candidate gather name layout node after,
      ComesUp config (Graph.after history) earlier told before candidate →
      takeTurn config before candidate = (.ok (.fused gather name layout node), after) →
      ∀ id ∈ candidate.chain.intermediates,
        (run config (Graph.after history)).graph.contains id = false ∨
          ∃ index, ∃ slot ∈ (run config (Graph.after history)).graph.readers ⟨id, index⟩,
            (run config (Graph.after history)).graph.contains slot.node = true) ∧
    (∀ id, id ∈ (removals config (Graph.after history)).map Removal.id ↔
      (run config (Graph.after history)).graph.Retired id ∧ ¬(Graph.after history).Retired id) ∧
    ∀ removal ∈ removals config (Graph.after history), ∃ node,
      removal.graph.node? removal.id = some node ∧ node.operation.isStep = true ∧
        node.isUnused = true := by
  have mirrored := Graph.mirrored_after history
  generalize Graph.after history = start at *
  have accounts := accounts_run config mirrored
  refine ⟨?_, accounts.removed, accounts.proper⟩
  intro earlier told before candidate gather name layout node after comesUp taken id inside
  have mirroredLast : (run config start).graph.Mirrored :=
    Graph.stable_mirrored.fusion config mirrored
  rcases comesUp.goneOrRead mirrored taken id inside with gone | ⟨index, slot, reads⟩
  · left
    rw [Bool.eq_false_iff, ne_eq, Graph.contains_iff]
    simp [gone]
  · refine .inr ⟨index, slot, mirroredLast.mem_readers_iff.mpr reads, ?_⟩
    obtain ⟨frame, found, -⟩ := Graph.producer?_eq_some_iff.mp reads
    exact Graph.contains_iff.mpr ⟨frame, found⟩

/-- Two lookups share a scaled table. The turn of the first leaves the chain to the second, whose turn
removes all of it. -/
example :
    (removals {} (Graph.after [
      .addConstant "weight" (.fixed .u8 [1, 1]) ⟨[5]⟩,
      .addConstant "scale" (.fixed .f32 []) (.ofSingles [.one]),
      .addConstant "axis" (.fixed .i64 []) (.ofInt64s [0]),
      .addParameter "indices" (.fixed .i64 [3]),
      .addNode .convert [.first 0] [.fixed .f32 [1, 1]] "table",
      .addNode .multiply [.first 4, .first 1] [.fixed .f32 [1, 1]] "scaled",
      .addNode (.gather 0) [.first 5, .first 3, .first 2] [.fixed .f32 [3, 1]] "first",
      .addNode (.gather 0) [.first 5, .first 3, .first 2] [.fixed .f32 [3, 1]] "second"])).map
      Removal.id = [6, 7, 5, 4] := by
  decide +kernel

end Fusion

end GatherFusion

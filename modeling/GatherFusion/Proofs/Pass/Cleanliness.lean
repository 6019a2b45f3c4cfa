import GatherFusion.Proofs.Graph.Order
import GatherFusion.Proofs.Lookup.Ancestry
import GatherFusion.Proofs.Pass.Tidiness
import GatherFusion.Proofs.Pass.Turn

/-!
# Passes keep a clean graph clean

The inspection finds nothing wrong with a graph of the library just where the graph is acyclic and
every node has a number of operands that its operation takes. Every turn of a fusion keeps that,
however it goes: replacements close no cycle, and a fused lookup reads four or five ports. The
clean-up only removes nodes.
-/
namespace GatherFusion

/-- An operation takes so many operands. -/
def Operation.Takes (operation : Operation) (count : Nat) : Prop :=
  ∀ least greatest, operation.arity? = some (least, greatest) → least ≤ count ∧ count ≤ greatest

/-- Every node has a number of operands that its operation takes. -/
def Graph.RightArity (graph : Graph) : Prop :=
  ∀ id frame, graph.frame? id = some frame → frame.operation.Takes frame.inputs.length

/-- A graph in which nothing is wrong. -/
structure Graph.Clean (graph : Graph) : Prop where
  /-- No node reads itself, directly or through others. -/
  acyclic : graph.Acyclic
  /-- Every node has a number of operands that its operation takes. -/
  arity : graph.RightArity

namespace Inspection

/-- A node is no problem when its operation takes its operands. -/
theorem arityProblem?_eq_none_iff {id : Nat} {node : Node} :
    arityProblem? id node = none ↔ node.operation.Takes node.inputs.length := by
  unfold arityProblem? Operation.Takes
  cases node.operation.arity? with
  | none => simp
  | some range =>
    obtain ⟨least, greatest⟩ := range
    simp

/-- The inspection finds nothing wrong with a mirrored graph when it is clean. -/
theorem problems_eq_nil_iff {graph : Graph} (mirrored : graph.Mirrored) :
    problems graph = .ok [] ↔ graph.Clean := by
  have arity : arityProblems graph = [] ↔ graph.RightArity := by
    simp only [arityProblems, List.filterMap_eq_nil_iff, Prod.forall, arityProblem?_eq_none_iff,
      Graph.entries, Store.mem_entries, Graph.RightArity, Graph.frame?_eq_some_iff]
    constructor
    · rintro takes id _ ⟨node, found, rfl⟩
      exact takes id node found
    · intro takes id node found
      exact takes id _ ⟨node, found, rfl⟩
  obtain ⟨order, -, ⟨acyclic, ordered⟩ | ⟨cyclic, refused⟩⟩ := mirrored.topologicalOrder_cases
  · have found : problems graph = .ok (arityProblems graph) := by
      simp [problems, orderProblems, ordered, edgeProblems, mirrored.audit, bind, Except.bind, pure,
        Except.pure]
    rw [found, Except.ok.injEq, arity]
    exact ⟨fun right => ⟨acyclic, right⟩, Graph.Clean.arity⟩
  · have found : problems graph =
        .ok (.notOrdered (.cycle order.length graph.nodeCount) :: arityProblems graph) := by
      simp [problems, orderProblems, refused, refuse, edgeProblems, mirrored.audit, bind, Except.bind,
        pure, Except.pure]
    simp only [found, Except.ok.injEq, reduceCtorEq, false_iff]
    exact fun clean => cyclic clean.acyclic

end Inspection

namespace Graph

variable {graph changed : Graph}

/-! ## Operands after a change -/

/-- Adding a node keeps arities right if its own is. -/
theorem Adds.rightArity {frame : Frame} (adds : Adds graph frame changed)
    (takes : frame.operation.Takes frame.inputs.length) (right : graph.RightArity) :
    changed.RightArity := by
  intro id found live
  rcases adds.frame?_cases live with ⟨-, rfl⟩ | old
  · exact takes
  · exact right id found old

/-- A scalar constant takes no operands, so that adding one keeps arities right. -/
theorem Gains.rightArity {fresh : List Port} (gains : graph.Gains fresh changed)
    (right : graph.RightArity) : changed.RightArity := by
  cases gains with
  | nothing => exact right
  | scalar scalar adds =>
    obtain ⟨name, payload, element, rfl⟩ := scalar
    exact adds.rightArity (by simp [Operation.Takes, Operation.arity?]) right

/-- Redirecting readers keeps arities right. -/
theorem Redirects.rightArity {source target : Port} (redirects : Redirects graph source target changed)
    (right : graph.RightArity) : changed.RightArity := by
  intro id found live
  obtain ⟨before, there, rfl⟩ := redirects.exists_frame live
  simpa [Frame.redirect] using right id before there

/-- Losing nodes keeps a graph clean. -/
theorem Thins.clean (thins : graph.Thins changed) (clean : graph.Clean) : changed.Clean where
  acyclic := clean.acyclic.of_feeds fun _ _ ⟨frame, port, found, inside, same⟩ =>
    ⟨frame, port, thins _ _ found, inside, same⟩
  arity := fun id frame survives => clean.arity id frame (thins id frame survives)

end Graph

namespace Candidate

variable {candidate : Candidate} {graph : Graph} {plan : Plan} {granularity : Granularity}

/-- Beside table, indices and axis the fused lookup reads a scale and at most a zero point. -/
theorem length_fusedInputs {axis : Port} {scale : List Port} {withAxis prepared : Graph}
    (missing : candidate.missingScale graph = .ok plan.scale)
    (ready : ScaleReady plan.name plan.scale withAxis scale prepared) :
    4 ≤ (candidate.fusedInputs axis scale).length ∧
      (candidate.fusedInputs axis scale).length ≤ 5 := by
  unfold ScaleReady at ready
  simp only [fusedInputs, List.length_cons, List.length_append, constants]
  rcases missingScale_eq_ok_iff.mp missing with ⟨scaled, none⟩ | ⟨bare, info, payload, -, -, fresh⟩
  · obtain ⟨dequantization, scaled⟩ := Option.ne_none_iff_exists'.mp scaled
    simp only [none] at ready
    obtain ⟨rfl, -⟩ := ready
    cases shifted : dequantization.shift <;> simp [scaled, shifted]
  · simp only [fresh] at ready
    obtain ⟨rfl, -⟩ := ready
    simp [bare]

/-- However a planned replacement ends, it keeps a graph clean. -/
theorem HandsOver.clean {fused : Nat} {changed : Graph}
    (hands : candidate.HandsOver plan granularity graph fused changed) (mirrored : graph.Mirrored)
    (fits : candidate.Fits graph) (planned : candidate.plan graph = .ok plan)
    (clean : graph.Clean) : changed.Clean := by
  obtain ⟨axis, scale, withAxis, prepared, added, moved, replaced, -, thins, -⟩ := hands
  obtain ⟨-, -, missing⟩ := reads_of_plan planned
  have takes : (Operation.gatherCompressed granularity 0).Takes
      (candidate.fusedInputs axis scale).length := by
    intro least greatest range
    simp only [Operation.arity?, Option.some.injEq, Prod.mk.injEq] at range
    obtain ⟨rfl, rfl⟩ := range
    exact length_fusedInputs missing replaced.scaleReady
  have arityPrepared :=
    replaced.scaleReady.gains.rightArity (replaced.axisReady.gains.rightArity clean.arity)
  have arityMoved := replaced.redirects.rightArity (replaced.adds.rightArity takes arityPrepared)
  exact Graph.Thins.clean thins ⟨replaced.acyclic mirrored fits clean.acyclic, arityMoved⟩

end Candidate

/-! ## Passes -/

/-- However a turn goes, it keeps a graph clean. -/
theorem Fusion.Outcome.clean {config : FusionConfig} {graph changed : Graph}
    {candidate : Candidate} {result : Except Fault Turn}
    (outcome : Outcome config graph candidate result changed) (mirrored : graph.Mirrored)
    (clean : graph.Clean) : changed.Clean := by
  cases outcome with
  | stale | broken | rejected | unplanned => exact clean
  | fused fits _ planned _ _ _ _ hands => exact hands.clean mirrored fits planned clean
  | stuck fits _ planned _ _ _ _ hands => exact hands.clean mirrored fits planned clean

/-- Any turns of fitting candidates keep a graph clean. -/
theorem Fusion.clean_takeTurns (config : FusionConfig) {graph : Graph} {candidates : List Candidate}
    (fit : ∀ candidate ∈ candidates, candidate.Fits graph) (mirrored : graph.Mirrored)
    (clean : graph.Clean) : (takeTurns config graph candidates).graph.Clean := by
  refine holds_takeTurns fit mirrored ⟨id, Graph.Evolves.refl graph⟩ Graph.Clean ?_ clean
  exact fun _ _ _ _ turn cleanBefore => turn.outcome.clean turn.mirrored cleanBefore

/-- Every pass keeps a clean graph clean. -/
theorem Pass.clean_run (pass : Pass) {graph : Graph} (holds : graph.Mirrored ∧ graph.Clean) :
    (pass.run graph).graph.Mirrored ∧ (pass.run graph).graph.Clean := by
  refine ⟨pass.mirrored_run holds.1, ?_⟩
  obtain ⟨mirrored, clean⟩ := holds
  cases pass with
  | fusion config =>
    have kept : (Fusion.run config graph).graph.Clean := by
      obtain ⟨candidates, collected, members⟩ := mirrored.exists_candidates
      have turns := Fusion.clean_takeTurns config
        (fun candidate inside => (members candidate).mp inside) mirrored clean
      simpa only [Fusion.run, collected] using turns
    exact Run.holds_andThen kept fun _ => kept
  | cleanup => exact Graph.Thins.clean (Cleanup.thins_sweep mirrored 0 _) clean
  | inspection =>
    simp only [Pass.run, Inspection.run]
    split <;> exact clean

/-- Where the inspection finds nothing wrong after a history of actions it finds nothing wrong after
any turns of a fusion, after any passes and after any pipeline either; in particular no replacement
closes a cycle. -/
theorem inspection_stays_clean (history : List Action)
    (clean : Inspection.problems (Graph.after history) = .ok []) :
    (∀ config first rest, (Graph.after history).candidates = .ok (first ++ rest) →
      (Fusion.takeTurns config (Graph.after history) first).graph.Acyclic ∧
      Inspection.problems (Fusion.takeTurns config (Graph.after history) first).graph = .ok []) ∧
    (∀ passes : List Pass, Inspection.problems
      (passes.foldl (fun graph pass => (pass.run graph).graph) (Graph.after history)) = .ok []) ∧
    ∀ pipeline : Pipeline, Inspection.problems (pipeline.run (Graph.after history)).graph = .ok [] := by
  have mirrored := Graph.mirrored_after history
  rw [Inspection.problems_eq_nil_iff mirrored] at clean
  generalize Graph.after history = start at *
  have unproblematic {graph : Graph} (holds : graph.Mirrored ∧ graph.Clean) :
      Inspection.problems graph = .ok [] := (Inspection.problems_eq_nil_iff holds.1).mpr holds.2
  refine ⟨fun config first rest collected => ?_, fun passes => ?_, fun pipeline => ?_⟩
  · obtain ⟨candidates, again, members⟩ := mirrored.exists_candidates
    rw [collected, Except.ok.injEq] at again
    have fit : ∀ candidate ∈ first, candidate.Fits start := fun candidate inside =>
      (members candidate).mp (again ▸ List.mem_append_left rest inside)
    have kept := Fusion.clean_takeTurns config fit mirrored clean
    exact ⟨kept.acyclic, unproblematic ⟨Graph.stable_mirrored.takeTurns config first mirrored, kept⟩⟩
  · exact unproblematic (Pipeline.holds_foldl Pass.clean_run passes ⟨mirrored, clean⟩)
  · exact unproblematic (Pipeline.holds_rounds Pass.clean_run pipeline.passes Pipeline.maxRounds
      ⟨mirrored, clean⟩)

/-- A lookup whose indices are converted rows of another lookup in the same table. -/
def lookupThroughLookup : List Action := [
  .addConstant "weight" (.fixed .u8 [1, 1]) ⟨[5]⟩,
  .addConstant "axis" (.fixed .i64 []) (.ofInt64s [0]),
  .addParameter "indices" (.fixed .i64 [3]),
  .addNode .convert [.first 0] [.fixed .f32 [1, 1]] "table",
  .addNode (.gather 0) [.first 3, .first 2, .first 1] [.fixed .f32 [3, 1]] "inner",
  .addNode .convert [.first 4] [.fixed .i64 [3, 1]] "rounded",
  .addNode (.gather 0) [.first 3, .first 5, .first 1] [.fixed .f32 [3, 1, 1]] "outer",
  .addResult "rows" (.first 6)]

/-- Both lookups are fused, so the conversion in between reads a node that is newer than itself, and
the inspection still finds nothing wrong. -/
theorem stays_clean_of_lookupThroughLookup :
    Inspection.problems (Graph.after lookupThroughLookup) = .ok [] ∧
      (Fusion.run {} (Graph.after lookupThroughLookup)).result = .ok ⟨2, [9, 11], [], []⟩ ∧
      Inspection.problems ((Pass.fusion {}).run (Graph.after lookupThroughLookup)).graph = .ok [] := by
  have clean : Inspection.problems (Graph.after lookupThroughLookup) = .ok [] := by
    decide +kernel
  have fused : (Fusion.run {} (Graph.after lookupThroughLookup)).result =
      .ok ⟨2, [9, 11], [], []⟩ := by
    decide +kernel
  exact ⟨clean, fused, (inspection_stays_clean lookupThroughLookup clean).2.1 [.fusion {}]⟩

end GatherFusion

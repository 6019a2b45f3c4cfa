import GatherFusion.Proofs.Lookup.Shedding

/-!
# Replacements as evolution

Adding constants and a fused lookup, handing it the readers of a lookup and shedding that lookup with
its chain are steps of evolution. A replacement is therefore evolution whether it succeeds or stops
at the removal of the lookup, and in either case it has used up handles.
-/
namespace GatherFusion

/-- Shedding steps that read first outputs and constants is evolution. -/
theorem Graph.Sheds.evolves {graph changed : Graph} {list : List Nat}
    (sheds : graph.Sheds list changed)
    (steps : ∀ id ∈ list, ∀ frame, graph.frame? id = some frame →
      frame.operation.isStep = true ∧ ∀ port ∈ frame.inputs, port.index ≠ 0 → graph.Holds port) :
    graph.Evolves id changed := by
  induction sheds with
  | done graph => exact Graph.Evolves.refl graph
  | keep kept later ih => exact ih fun id inside => steps id (List.mem_cons_of_mem _ inside)
  | @drop graph middle changed dead rest live drops later ih =>
    obtain ⟨frame, found⟩ := live
    obtain ⟨step, constants⟩ := steps dead List.mem_cons_self frame found
    have first : graph.Evolves id middle := by
      refine drops.evolves found step fun port operand later => .inl ?_
      obtain ⟨producer, there, -, noLookup, -⟩ := (constants port operand later).exists_frame
      exact ⟨producer, there, noLookup⟩
    refine first.trans (ih fun other inside frame still => ?_)
    have before := drops.thins other frame still
    obtain ⟨step, constants⟩ := steps other (List.mem_cons_of_mem _ inside) frame before
    exact ⟨step, fun port operand later => first.holds (constants port operand later)⟩

/-- Shedding a chain is evolution. -/
theorem Chain.Fits.evolves_sheds {chain : Chain} {graph changed : Graph} (fits : chain.Fits graph)
    (sheds : graph.Sheds chain.intermediates changed) : graph.Evolves id changed := by
  refine sheds.evolves fun id inside frame found => ?_
  obtain ⟨step, -, operands⟩ := fits.steps_of_frame? inside found
  refine ⟨step, fun port operand later => ?_⟩
  rcases operands port operand with ⟨below, -, rfl⟩ | holds
  · exact absurd rfl later
  · exact holds

/-- Adding at most a scalar constant is evolution. -/
theorem Graph.Gains.evolves {graph changed : Graph} {fresh : List Port}
    (gains : graph.Gains fresh changed) : graph.Evolves id changed := by
  cases gains with
  | nothing => exact Graph.Evolves.refl _
  | scalar scalar adds =>
    obtain ⟨name, payload, element, rfl⟩ := scalar
    exact adds.evolves (.inl ⟨rfl, rfl⟩) (by simp)

namespace Candidate

variable {candidate : Candidate} {graph : Graph} {plan : Plan} {granularity : Granularity}

/-- The lookup of a fitting candidate is a live lookup. -/
theorem Fits.exists_frame (fits : candidate.Fits graph) : ∃ frame axis,
    graph.frame? candidate.gather = some frame ∧ frame.operation = .gather 0 ∧
      frame.inputs = [.first candidate.chain.top, candidate.indices, axis] ∧
      graph.Holds axis := by
  obtain ⟨-, axis, info, ⟨frame, found, operation, inputs⟩, -, axisRead, -⟩ := fits
  exact ⟨frame, axis, found, operation, inputs, Graph.holds_of_integers? axisRead⟩

/-- The lookup is no part of its chain. -/
theorem Fits.gather_not_mem (fits : candidate.Fits graph) :
    candidate.gather ∉ candidate.chain.intermediates := by
  obtain ⟨frame, axis, found, operation, -⟩ := fits.exists_frame
  exact fits.1.not_mem_of_isGather found (by simp [operation, Operation.isGather])

namespace Replaced

variable {axis : Port} {scale : List Port} {withAxis prepared added moved : Graph}
  (replaced : Replaced candidate plan granularity graph axis scale withAxis prepared added moved)
include replaced

/-- The fused lookup reads no further outputs but possibly the indices. -/
theorem eq_indices {port : Port} (operand : port ∈ candidate.fusedInputs axis scale)
    (later : port.index ≠ 0) : port = candidate.indices := by
  simp only [fusedInputs, List.mem_cons, List.mem_append] at operand
  rcases operand with rfl | rfl | rfl | constant | fresh
  · exact absurd rfl later
  · rfl
  · rcases replaced.axisReady.cases with rfl | made
    · exact absurd rfl later
    · obtain ⟨rfl, -⟩ := replaced.axisReady.gains.exists_frame made
      exact absurd rfl later
  · obtain ⟨id, rfl⟩ : ∃ id, port = .first id := by
      unfold constants at constant
      cases scaled : candidate.chain.dequantization with
      | none => simp [scaled] at constant
      | some dequantization =>
        simp only [scaled, List.mem_cons, Option.mem_toList, Option.map_eq_some_iff] at constant
        rcases constant with rfl | ⟨shift, -, rfl⟩
        · exact ⟨_, rfl⟩
        · exact ⟨_, rfl⟩
    exact absurd rfl later
  · obtain ⟨rfl, -⟩ := replaced.scaleReady.gains.exists_frame fresh
    exact absurd rfl later

/-- Adding the fused lookup behind the constants it lacks is evolution. -/
theorem evolves_added (fits : candidate.Fits graph) : graph.Evolves id added := by
  have toAxis : graph.Evolves id withAxis := replaced.axisReady.gains.evolves
  have toPrepared : withAxis.Evolves id prepared := replaced.scaleReady.gains.evolves
  obtain ⟨frame, axisPort, found, operation, inputs, -⟩ := fits.exists_frame
  have there : prepared.frame? candidate.gather = some frame :=
    replaced.scaleReady.gains.frame?_eq_some (replaced.axisReady.gains.frame?_eq_some found)
  have toAdded : prepared.Evolves id added := by
    refine replaced.adds.evolves (.inr rfl) fun port operand later => ?_
    obtain rfl := replaced.eq_indices operand later
    exact ⟨⟨candidate.gather, 1⟩, by simp [Graph.producer?_eq, there, inputs]⟩
  exact (toAxis.trans toPrepared).trans toAdded

/-- Handing the readers of the lookup to the fused lookup is evolution. -/
theorem evolves_moved (fits : candidate.Fits graph)
    (carries : graph.info? (.first candidate.gather) = some plan.info)
    (float : plan.info.element.isFloat = true) :
    added.Evolves (fun port => if port = .first candidate.gather then .first prepared.next else port)
      moved := by
  obtain ⟨frame, axisPort, found, operation, -⟩ := fits.exists_frame
  have gatherAdded : added.frame? candidate.gather = some frame := replaced.frame?_added found
  have fusedAdded := replaced.adds.frame?_next
  have carriesAdded : added.info? (.first candidate.gather) = some plan.info :=
    replaced.adds.info?_eq_some (replaced.scaleReady.gains.info?_eq_some
      (replaced.axisReady.gains.info?_eq_some carries))
  have lookup : frame.operation.isGather = true := by
    rw [operation]
    rfl
  exact replaced.redirects.evolves gatherAdded lookup fusedAdded rfl carriesAdded float

/-- Before the lookup is removed its replacement is evolution. -/
theorem evolves (fits : candidate.Fits graph)
    (carries : graph.info? (.first candidate.gather) = some plan.info)
    (float : plan.info.element.isFloat = true) :
    graph.Evolves (fun port => if port = .first candidate.gather then .first prepared.next else port)
      moved :=
  (replaced.evolves_added fits).trans (replaced.evolves_moved fits carries float)

/-- Before the lookup is removed no node has gone. -/
theorem retains : graph.Retains moved :=
  fun _ _ found => ⟨_, replaced.frame?_eq_some found⟩

/-- Removing the lookup is evolution, since the fused lookup reads what the lookup read. -/
theorem evolves_drops (fits : candidate.Fits graph)
    (toMoved : graph.Evolves
      (fun port => if port = .first candidate.gather then .first prepared.next else port) moved)
    {lightened : Graph} (drops : moved.Drops candidate.gather lightened) :
    moved.Evolves id lightened := by
  obtain ⟨frame, axisPort, found, operation, inputs, holds⟩ := fits.exists_frame
  have there := replaced.frame?_eq_some found
  refine drops.evolves there (by simp [Frame.redirect, operation, Operation.isStep])
    fun port operand later => ?_
  simp only [Frame.redirect, inputs, List.mem_map] at operand
  obtain ⟨source, inside, same⟩ := operand
  split at same
  · exact absurd (congrArg Port.index same).symm later
  · rename_i apart
    subst same
    simp only [List.mem_cons, List.not_mem_nil, or_false] at inside
    rcases inside with rfl | rfl | rfl
    · exact absurd rfl later
    · have fresh : prepared.next ≠ candidate.gather := by
        have below := Graph.lt_next_of_frame? found
        have grown := replaced.next_le.1
        omega
      refine .inr ⟨⟨prepared.next, 1⟩, ?_⟩
      rw [drops.producer?, if_neg fresh, Graph.producer?_eq,
        replaced.redirects.frame?_eq_some replaced.adds.frame?_next]
      simp [Frame.redirect, fusedInputs, apart]
    · obtain ⟨producer, live, -, noLookup, -⟩ := (toMoved.holds holds).exists_frame
      exact .inl ⟨producer, live, noLookup⟩

/-- The chain still fits when the lookup is gone. -/
theorem chain_fits (fits : candidate.Fits graph) {move : Port → Port} {lightened : Graph}
    (toLightened : graph.Evolves move lightened) (drops : moved.Drops candidate.gather lightened) :
    candidate.chain.Fits lightened := by
  refine toLightened.chain_fits fits.1 fun id inside => ?_
  obtain ⟨frame, found⟩ := fits.1.exists_frame inside
  have apart : id ≠ candidate.gather := fun same => fits.gather_not_mem (same ▸ inside)
  exact ⟨_, drops.frame?_eq_some_iff.mpr ⟨apart, replaced.frame?_eq_some found⟩⟩

end Replaced

/-- Whether the lookup can be removed does not change while a graph evolves and the lookup lives. -/
theorem removable_iff {old new : Graph} {move : Port → Port} (evolves : old.Evolves move new)
    {frame : Frame} (found : new.frame? candidate.gather = some frame)
    (lookup : frame.operation.isGather = true) :
    candidate.Removable old ↔ candidate.Removable new := by
  refine forall₂_congr fun index later => not_congr ?_
  exact evolves.spare candidate.gather frame index found lookup later

/-- What a replacement leaves behind, however it ends: the fused lookup took over, and then nothing
but the lookup and steps of its chain went. -/
def HandsOver (candidate : Candidate) (plan : Plan) (granularity : Granularity)
    (graph : Graph) (fused : Nat) (changed : Graph) : Prop :=
  ∃ axis scale withAxis prepared added moved,
    Replaced candidate plan granularity graph axis scale withAxis prepared added moved ∧
    fused = prepared.next ∧ moved.Thins changed ∧
    moved.KeepsOutside (candidate.gather :: candidate.chain.intermediates) changed ∧
    moved.Evolves id changed ∧ changed.Mirrored

/-- Where the lookup and then its chain are shed, the fused lookup took over, the lookup is gone and
nothing of its chain is left dead. -/
theorem Replaced.handsOver {axis : Port} {scale : List Port}
    {withAxis prepared added moved lightened changed : Graph}
    (replaced : Replaced candidate plan granularity graph axis scale withAxis prepared added moved)
    (fits : candidate.Fits graph)
    (carries : graph.info? (.first candidate.gather) = some plan.info)
    (float : plan.info.element.isFloat = true) (drops : moved.Drops candidate.gather lightened)
    (sheds : lightened.Sheds candidate.chain.intermediates changed) (kept : changed.Mirrored) :
    candidate.HandsOver plan granularity graph prepared.next changed ∧ moved.next ≤ changed.next ∧
      changed.frame? candidate.gather = none ∧
      (∀ id ∈ candidate.chain.intermediates, changed.GoneOrRead id) ∧
      ∃ move, graph.Evolves move changed := by
  have toMoved := replaced.evolves fits carries float
  have dropping := replaced.evolves_drops fits toMoved drops
  have toLightened := toMoved.trans dropping
  have still := replaced.chain_fits fits toLightened drops
  have toChanged := still.evolves_sheds sheds
  have thins : moved.Thins changed := by
    intro id frame survives
    exact drops.thins id frame (sheds.thins id frame survives)
  have others : moved.KeepsOutside (candidate.gather :: candidate.chain.intermediates) changed := by
    intro id outside frame found
    rw [List.mem_cons, not_or] at outside
    exact sheds.keepsOutside id outside.2 frame
      (drops.frame?_eq_some_iff.mpr ⟨outside.1, found⟩)
  refine ⟨⟨axis, scale, withAxis, prepared, added, moved, replaced, rfl, thins, others,
    dropping.trans toChanged, kept⟩, (dropping.trans toChanged).next,
    sheds.thins.frame?_eq_none drops.frame?_eq_none, still.goneOrRead sheds, _,
    toLightened.trans toChanged⟩

/-- Whether the lookup can be removed does not change up to its removal. -/
theorem Replaced.removable_iff {axis : Port} {scale : List Port}
    {withAxis prepared added moved : Graph}
    (replaced : Replaced candidate plan granularity graph axis scale withAxis prepared added moved)
    (fits : candidate.Fits graph) : candidate.Removable graph ↔ candidate.Removable moved := by
  obtain ⟨frame, _, found, operation, -⟩ := fits.exists_frame
  have there : added.frame? candidate.gather = some frame := replaced.frame?_added found
  have lookup : frame.operation.isGather = true := by simp [operation, Operation.isGather]
  rw [Candidate.removable_iff (replaced.evolves_added fits) there lookup]
  refine forall₂_congr fun index later => not_congr (exists_congr fun slot => ?_)
  have further {id : Nat} : (⟨candidate.gather, index⟩ : Port) ≠ .first id :=
    fun same => later (congrArg Port.index same)
  exact (replaced.redirects.reads_other further further slot).symm

/-- A planned replacement of a fitting candidate runs through if nothing reads a further output of
the lookup, and stops at the removal of the lookup otherwise. -/
theorem runOn_replace_cases (mirrored : graph.Mirrored) (fits : candidate.Fits graph)
    (planned : candidate.plan graph = .ok plan) (layout : Layout) :
    ∃ axis scale withAxis prepared added moved,
      Replaced candidate plan layout.granularity graph axis scale withAxis prepared added moved ∧
      ((candidate.Removable graph ∧ ∃ lightened changed,
        (candidate.replace layout).runOn graph = (.ok prepared.next, changed) ∧
        moved.Drops candidate.gather lightened ∧
        lightened.Sheds candidate.chain.intermediates changed ∧ changed.Mirrored) ∨
      (¬candidate.Removable graph ∧ ∃ node, moved.node? candidate.gather = some node ∧
        0 < node.readerCount ∧ (candidate.replace layout).runOn graph =
          (.error (.refusal (.graph (.nodeInUse node.name node.readerCount))), moved))) := by
  obtain ⟨axis, scale, withAxis, prepared, added, moved, replaced, run⟩ :=
    exists_replaced mirrored fits planned layout.granularity
  refine ⟨axis, scale, withAxis, prepared, added, moved, replaced, ?_⟩
  obtain ⟨frame, _, found, -⟩ := fits.exists_frame
  have there := replaced.frame?_eq_some found
  rw [replaced.removable_iff fits]
  rcases runOn_tidy replaced.movedMirrored ⟨_, there⟩ (replaced.not_reads_first ⟨frame, found⟩)
    prepared.next with ⟨removable, lightened, changed, tidied, drops, sheds, kept⟩ |
      ⟨stuck, node, live, used, tidied⟩
  · refine .inl ⟨removable, lightened, changed, ?_, drops, sheds, kept⟩
    rw [runOn_replace_of_planned planned]
    exact Edit.runOn_mapCause_ok _ (run.trans tidied)
  · refine .inr ⟨stuck, node, live, used, ?_⟩
    rw [runOn_replace_of_planned planned]
    exact Edit.runOn_mapCause_error _ (run.trans tidied)

/-- A planned replacement of a candidate whose lookup yields floating point succeeds exactly if
nothing reads a further output of the lookup, and leaves nothing of the chain dead; otherwise the
graph declines. It is evolution in either case. -/
theorem runOn_replace (mirrored : graph.Mirrored) (fits : candidate.Fits graph)
    (planned : candidate.plan graph = .ok plan) (float : plan.info.element.isFloat = true)
    (layout : Layout) :
    (candidate.Removable graph ∧ ∃ fused changed,
      (candidate.replace layout).runOn graph = (.ok fused, changed) ∧
      candidate.HandsOver plan layout.granularity graph fused changed ∧
      graph.next < changed.next ∧ changed.frame? candidate.gather = none ∧
      (∀ id ∈ candidate.chain.intermediates, changed.GoneOrRead id) ∧
      ∃ move, graph.Evolves move changed) ∨
    (¬candidate.Removable graph ∧ ∃ error fused changed,
      (candidate.replace layout).runOn graph = (.error (.refusal (.graph error)), changed) ∧
      candidate.HandsOver plan layout.granularity graph fused changed ∧
      graph.next < changed.next ∧ graph.Retains changed ∧
      ∃ move, graph.Evolves move changed) := by
  obtain ⟨-, carries, -⟩ := reads_of_plan planned
  obtain ⟨axis, scale, withAxis, prepared, added, moved, replaced, outcome⟩ :=
    runOn_replace_cases mirrored fits planned layout
  have grown := replaced.next_le
  rcases outcome with ⟨removable, lightened, changed, run, drops, sheds, kept⟩ |
    ⟨stuck, node, -, -, run⟩
  · obtain ⟨hands, later, gone, cleared, evolves⟩ :=
      replaced.handsOver fits carries float drops sheds kept
    exact .inl ⟨removable, prepared.next, changed, run, hands, by omega, gone, cleared, evolves⟩
  · have hands : candidate.HandsOver plan layout.granularity graph prepared.next moved :=
      ⟨axis, scale, withAxis, prepared, added, moved, replaced, rfl, fun _ _ survives => survives,
        fun _ _ _ found => found, Graph.Evolves.refl moved, replaced.movedMirrored⟩
    exact .inr ⟨stuck, _, _, moved, run, hands, by omega, replaced.retains, _,
      replaced.evolves fits carries float⟩

end Candidate

end GatherFusion

import GatherFusion.Proofs.Graph.Acyclic
import GatherFusion.Proofs.Lookup.Progress

/-!
# Replacements close no cycle

Handing readers to another port closes a cycle where one of the readers leads to that port. A fused
lookup reads the constants and the indices that the lookup reads, along its chain or itself, and
fresh constants that read nothing. Whatever leads to the fused lookup therefore leads to the lookup,
so in an acyclic graph none of the readers of the lookup does.
-/
namespace GatherFusion

/-- Adding at most a scalar constant closes no cycle. -/
theorem Graph.Gains.acyclic {graph changed : Graph} {fresh : List Port}
    (gains : graph.Gains fresh changed) (given : graph.ReadsGiven) (acyclic : graph.Acyclic) :
    changed.ReadsGiven ∧ changed.Acyclic := by
  cases gains with
  | nothing => exact ⟨given, acyclic⟩
  | scalar _ adds => exact ⟨adds.readsGiven given, adds.acyclic given acyclic⟩

namespace Candidate

variable {candidate : Candidate} {graph : Graph} {plan : Plan} {granularity : Granularity}

/-- The nodes of a fitting chain lead to the lookup. -/
theorem Fits.leads_of_mem (fits : candidate.Fits graph) {changed : Graph}
    (kept : ∀ id frame, graph.frame? id = some frame → changed.frame? id = some frame) :
    ∀ id ∈ candidate.chain.intermediates, Relation.TransGen changed.Feeds id candidate.gather := by
  obtain ⟨frame, axis, found, -, inputs, -⟩ := fits.exists_frame
  refine fits.1.forall_of_top _ ?_ fun reader _ leads operation inputs reads id operand => ?_
  · exact .single ⟨frame, .first candidate.chain.top, kept _ _ found, by simp [inputs], rfl⟩
  · obtain ⟨frame, found, -, rfl⟩ := reads
    exact .head ⟨frame, .first id, kept _ _ found, operand, rfl⟩ leads

/-- So do the constants that its nodes read. -/
theorem Fits.leads_of_constant (fits : candidate.Fits graph) {changed : Graph}
    (kept : ∀ id frame, graph.frame? id = some frame → changed.frame? id = some frame)
    {port : Port} (inside : port ∈ .first candidate.chain.weight :: candidate.constants) :
    Relation.TransGen changed.Feeds port.node candidate.gather := by
  obtain ⟨reader, step, _, _, ⟨frame, found, -, rfl⟩, operand⟩ :=
    fits.exists_reader_of_constant inside
  exact .head ⟨frame, port, kept _ _ found, operand, rfl⟩ (fits.leads_of_mem kept reader step)

/-- The indices and the constant that names the axis lead to the lookup as well, which reads them
itself. -/
theorem Fits.leads_of_own (fits : candidate.Fits graph) {changed : Graph}
    (kept : ∀ id frame, graph.frame? id = some frame → changed.frame? id = some frame) :
    Relation.TransGen changed.Feeds candidate.indices.node candidate.gather ∧
      Relation.TransGen changed.Feeds candidate.axis candidate.gather := by
  obtain ⟨-, axisPort, info, ⟨lookup, found, -, inputs⟩, axisNode, -⟩ := id fits
  have leads (port : Port) (operand : port ∈ lookup.inputs) :
      Relation.TransGen changed.Feeds port.node candidate.gather :=
    .single ⟨lookup, port, kept _ _ found, operand, rfl⟩
  exact ⟨leads _ (by simp [inputs]), axisNode ▸ leads axisPort (by simp [inputs])⟩

namespace Replaced

variable {axis : Port} {scale : List Port} {withAxis prepared added moved : Graph}
  (replaced : Replaced candidate plan granularity graph axis scale withAxis prepared added moved)
include replaced

/-- The fused lookup reads nodes that lead to the lookup, and new nodes that read nothing. -/
theorem leads_or_fresh (fits : candidate.Fits graph) {port : Port}
    (operand : port ∈ candidate.fusedInputs axis scale) :
    Relation.TransGen added.Feeds port.node candidate.gather ∨
      graph.next ≤ port.node ∧ ∀ producer, ¬added.Feeds producer port.node := by
  have kept (id : Nat) (frame : Frame) (found : graph.frame? id = some frame) :
      added.frame? id = some frame := replaced.frame?_added found
  obtain ⟨indices, named⟩ := fits.leads_of_own kept
  have unfed {id : Nat} {frame : Frame} (there : prepared.frame? id = some frame)
      (scalar : frame.IsScalar) (producer : Nat) : ¬added.Feeds producer id := by
    rintro ⟨again, port, foundAgain, inside, -⟩
    rw [replaced.adds.frame?_eq_some there, Option.some.injEq] at foundAgain
    simp [← foundAgain, scalar.inputs] at inside
  have axisGains := replaced.axisReady.gains
  have scaleGains := replaced.scaleReady.gains
  simp only [fusedInputs, List.mem_cons, List.mem_append] at operand
  rcases operand with rfl | rfl | rfl | inside | missing
  · exact .inl (fits.leads_of_constant kept List.mem_cons_self)
  · exact .inl indices
  · rcases replaced.axisReady.cases with rfl | made
    · exact .inl named
    · obtain ⟨rfl, frame, there, scalar⟩ := axisGains.exists_frame made
      exact .inr ⟨Nat.le_refl _, unfed (scaleGains.frame?_eq_some there) scalar⟩
  · exact .inl (fits.leads_of_constant kept (List.mem_cons_of_mem _ inside))
  · obtain ⟨rfl, frame, there, scalar⟩ := scaleGains.exists_frame missing
    exact .inr ⟨axisGains.next_le, unfed there scalar⟩

/-- Nothing leads from the lookup to the fused lookup. -/
theorem not_leads (fits : candidate.Fits graph) (acyclic : added.Acyclic) :
    ¬Relation.TransGen added.Feeds candidate.gather prepared.next := by
  intro leads
  obtain ⟨producer, path, frame, port, found, operand, rfl⟩ := Relation.TransGen.tail'_iff.mp leads
  rw [replaced.adds.frame?_next, Option.some.injEq] at found
  subst found
  rcases replaced.leads_or_fresh fits operand with back | ⟨newer, unfed⟩
  · exact acyclic candidate.gather (.trans_right path back)
  · rcases Relation.ReflTransGen.cases_tail path with same | ⟨last, -, feeds⟩
    · obtain ⟨lookup, -, there, -⟩ := fits.exists_frame
      have older := Graph.lt_next_of_frame? there
      omega
    · exact unfed last feeds

/-- Adding the fused lookup behind the constants it lacks closes no cycle. -/
theorem acyclic_added (mirrored : graph.Mirrored) (acyclic : graph.Acyclic) :
    prepared.ReadsGiven ∧ added.Acyclic := by
  obtain ⟨givenAxis, acyclicAxis⟩ := replaced.axisReady.gains.acyclic mirrored.readsGiven acyclic
  obtain ⟨givenScale, acyclicScale⟩ := replaced.scaleReady.gains.acyclic givenAxis acyclicAxis
  exact ⟨givenScale, replaced.adds.acyclic givenScale acyclicScale⟩

/-- Up to the removal of the lookup a replacement closes no cycle. -/
theorem acyclic (mirrored : graph.Mirrored) (fits : candidate.Fits graph)
    (acyclic : graph.Acyclic) : moved.Acyclic := by
  obtain ⟨-, acyclicAdded⟩ := replaced.acyclic_added mirrored acyclic
  refine replaced.redirects.acyclic acyclicAdded fun slot reads leads => ?_
  have first : added.Feeds candidate.gather slot.node := by
    rw [Graph.producer?_eq, Option.bind_eq_some_iff] at reads
    obtain ⟨frame, found, position⟩ := reads
    exact ⟨frame, _, found, List.mem_of_getElem? position, rfl⟩
  exact replaced.not_leads fits acyclicAdded (.head' first leads)

end Replaced

end Candidate

end GatherFusion

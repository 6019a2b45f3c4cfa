import GatherFusion.Proofs.Graph.Atomicity

/-!
# What the check of edges decides

The check makes two one-sided tests: at a node that reads, whether the ports it reads list its
slots, and at a node that offers, whether the slots it lists read its ports. Over all nodes that
comes to an equality, port by port, of the slots listed and the slots that read
(`audit_eq_ok_iff`). Nothing is assumed of the graph: ports may be missing, lists may lack slots,
and they may name dead nodes or slots that no node has. Positions are unbounded numbers, so no two
inputs or outputs of a node share one.

The check stops at the first disagreement it meets, and what it then reports is one
(`disagrees_of_audit`).
-/
namespace GatherFusion.Graph

/-- Something is wrong with the edges of a graph, and an error says what. -/
inductive Disagrees (graph : Graph) : GraphError → Prop where
  /-- A slot reads a port that does not exist. -/
  | dangling {slot : Slot} {port : Port} (reads : graph.producer? slot = some port)
    (missing : ¬graph.HasPort port) : Disagrees graph (.danglingInput slot port)
  /-- A port lists a slot that does not read it, or fails to list one that does. -/
  | mismatch {port : Port} (offered : graph.HasPort port) (slot : Slot)
    (differs : ¬(slot ∈ graph.readers port ↔ graph.producer? slot = some port)) :
    Disagrees graph (.readersMismatch port)

section

variable {graph : Graph} {error : GraphError}

/-- A port exists when there is an output to be found behind it. -/
theorem hasPort_iff_output? {port : Port} :
    graph.HasPort port ↔ ∃ output, graph.output? port = some output := by
  simp only [hasPort_iff, output_eq_ok_iff]

/-- The two records of every edge agree when every port that is read exists, and every port that
exists lists exactly the slots that read it. -/
theorem mirrored_iff : graph.Mirrored ↔
    (∀ slot port, graph.producer? slot = some port → graph.HasPort port) ∧
      ∀ port, graph.HasPort port → ∀ slot,
        slot ∈ graph.readers port ↔ graph.producer? slot = some port := by
  constructor
  · intro mirrored
    exact ⟨fun slot port reads => hasPort_iff_output?.mpr (mirrored.exists_output reads),
      fun port _ slot => mirrored.mem_readers_iff⟩
  · rintro ⟨exist, agree⟩ slot port
    rw [← mem_readers_iff_lists]
    constructor
    · intro reads
      exact (agree port (exist slot port reads) slot).mpr reads
    · intro listed
      obtain ⟨output, offered, -⟩ := mem_readers_iff_lists.mp listed
      exact (agree port (hasPort_iff_output?.mpr ⟨output, offered⟩) slot).mp listed

/-- What is reported at a slot is wrong there. -/
theorem disagrees_of_auditInput {slot : Slot} {port : Port}
    (reads : graph.producer? slot = some port)
    (failed : graph.auditInput slot port = .error error) : graph.Disagrees error := by
  unfold auditInput at failed
  split at failed
  · rename_i missing
    obtain rfl := Except.error.inj failed
    exact .dangling reads fun exist => by simp [hasPort_iff_output?, missing] at exist
  · rename_i output offered
    split at failed
    · contradiction
    · rename_i unlisted
      obtain rfl := Except.error.inj failed
      refine .mismatch (hasPort_iff_output?.mpr ⟨output, offered⟩) slot fun agree => unlisted ?_
      obtain ⟨_, again, listed⟩ := mem_readers_iff_lists.mp (agree.mpr reads)
      rw [offered, Option.some.injEq] at again
      exact again ▸ listed

/-- What is reported at an output is wrong there. -/
theorem disagrees_of_auditOutput {port : Port} {output : Output}
    (offered : graph.output? port = some output)
    (failed : graph.auditOutput port output = .error error) : graph.Disagrees error := by
  have astray : ¬∀ slot ∈ output.readers, graph.producer? slot = some port := by
    rw [← auditOutput_eq_ok_iff, failed]
    simp
  obtain ⟨slot, listed⟩ := not_forall.mp astray
  obtain ⟨inside, elsewhere⟩ := Classical.not_imp.mp listed
  unfold auditOutput at failed
  split at failed
  · contradiction
  · obtain rfl := Except.error.inj failed
    exact .mismatch (hasPort_iff_output?.mpr ⟨output, offered⟩) slot fun agree =>
      elsewhere (agree.mp (mem_readers_iff_lists.mpr ⟨output, offered, inside⟩))

/-- What the check of edges reports is wrong with the graph. -/
theorem disagrees_of_audit (failed : graph.audit = .error error) : graph.Disagrees error := by
  obtain ⟨⟨id, node⟩, inside, broken⟩ := exists_of_forM_eq_error failed
  have found : graph.node? id = some node := Store.mem_entries.mp inside
  rcases bind_eq_error_iff.mp broken with atInputs | ⟨_, -, atOutputs⟩
  · obtain ⟨⟨port, index⟩, position, wrong⟩ := exists_of_forM_eq_error atInputs
    refine disagrees_of_auditInput (show graph.producer? ⟨id, index⟩ = some port from ?_) wrong
    simpa [producer?, found, Node.input?] using List.mem_zipIdx_iff_getElem?.mp position
  · obtain ⟨⟨output, index⟩, position, wrong⟩ := exists_of_forM_eq_error atOutputs
    refine disagrees_of_auditOutput (show graph.output? ⟨id, index⟩ = some output from ?_) wrong
    simpa [output?_eq, found] using List.mem_zipIdx_iff_getElem?.mp position

end

/-- Of any graph, however it came about, the check of edges finds nothing wrong exactly where every
port that is read exists and every port that exists lists exactly the slots that read it. Otherwise
it reports a slot that reads a missing port, or a port whose list is not that of its readers; it
ends in no other way. The inspection, which runs the check on a graph it could change, leaves the
graph as it is. -/
theorem audit_decides_agreement (graph : Graph) :
    (graph.audit = .ok () ↔
      (∀ slot port, graph.producer? slot = some port → graph.HasPort port) ∧
        ∀ port, graph.HasPort port → ∀ slot,
          slot ∈ graph.readers port ↔ graph.producer? slot = some port) ∧
    (∀ error, graph.audit = .error error → graph.Disagrees error) ∧
    (Inspection.run graph).graph = graph := by
  refine ⟨audit_eq_ok_iff.trans mirrored_iff, fun error => disagrees_of_audit, ?_⟩
  unfold Inspection.run
  split <;> rfl

/-- A graph whose one node is listed as read by a slot of a node that was never there. -/
example : (Graph.mk (Store.empty.push ⟨"input", .parameter, [],
    [⟨.fixed .f32 [1], OrderedSet.empty.insert ⟨7, 3⟩⟩]⟩).2).audit =
      .error (.readersMismatch (.first 0)) := by
  decide +kernel

/-- A graph whose one node reads its own output, which does not list it, and an output it lacks. -/
example : (Graph.mk (Store.empty.push ⟨"loop", .custom "mix", [⟨0, 1⟩, ⟨0, 0⟩],
    [⟨.fixed .f32 [1], .empty⟩]⟩).2).audit = .error (.danglingInput ⟨0, 0⟩ ⟨0, 1⟩) := by
  decide +kernel

end GatherFusion.Graph

import GatherFusion.Pass.Pipeline
import GatherFusion.Proofs.Lookup.Replacement

/-!
# Graphs that can be reached

A graph is reached from the empty one by building, editing, replacing lookups and running passes, in
any order and with any arguments. What was done before a failure stays, so an action is described by
the graph it leaves, however it ends. What the four changes of a graph keep, everything else keeps
too, and what holds of the empty graph besides holds of every graph reached; that the edges agree is
the first such property.
-/
namespace GatherFusion

/-- Something that can be done to a graph. -/
inductive Action where
  /-- Add a node. -/
  | addNode (operation : Operation) (inputs : List Port) (outputs : List TensorInfo) (name : String)
  /-- Add an input of the graph. -/
  | addParameter (name : String) (info : TensorInfo)
  /-- Add a constant tensor. -/
  | addConstant (name : String) (info : TensorInfo) (payload : Payload)
  /-- Add an output of the graph. -/
  | addResult (name : String) (source : Port)
  /-- Redirect every reader of one port to another. -/
  | replaceAllUses (source target : Port)
  /-- Remove a node that nothing reads. -/
  | removeNode (id : Nat)
  /-- Replace a lookup, whether or not the candidate fits the graph. -/
  | replace (candidate : Candidate) (layout : Layout)
  /-- Run one pass. -/
  | runPass (pass : Pass)
  /-- Run a pipeline of passes. -/
  | runPipeline (pipeline : Pipeline)

/-- The graph an action leaves behind, also when it fails. -/
def Action.leave (graph : Graph) : Action → Graph
  | addNode operation inputs outputs name =>
    ((Graph.addNode operation inputs outputs name).runOn graph).2
  | addParameter name info => ((Graph.addParameter name info).runOn graph).2
  | addConstant name info payload => ((Graph.addConstant name info payload).runOn graph).2
  | addResult name source => ((Graph.addResult name source).runOn graph).2
  | replaceAllUses source target => ((Graph.replaceAllUses source target).runOn graph).2
  | removeNode id => ((Graph.removeNode id).runOn graph).2
  | replace candidate layout => ((candidate.replace layout).runOn graph).2
  | runPass pass => (pass.run graph).graph
  | runPipeline pipeline => (pipeline.run graph).graph

/-- The graph after a history of actions. -/
def Graph.after (history : List Action) : Graph := history.foldl Action.leave .empty

/-- The constants that replacements add: a zero, for the axis counted from the front, and a one in
a floating-point type, for the scale of a table that is not scaled. -/
inductive Candidate.FreshConstant : Payload → TensorInfo → Prop where
  /-- A fresh axis. -/
  | axis : FreshConstant (.ofInt64s [0]) (.fixed .i64 [])
  /-- A fresh scale. -/
  | scale {element : ElementType} {payload : Payload}
    (written : Payload.ofFloats? element [.one] = some payload) :
    FreshConstant payload ⟨element, .scalar⟩

/-- A property of graphs that the changes which replacements and passes make keep, however they
end. -/
structure Graph.Lasting (property : Graph → Prop) : Prop where
  /-- Adding a fresh constant of a replacement keeps it. -/
  addFresh : ∀ name info payload, Candidate.FreshConstant payload info →
    Edit.Keeps property (Graph.addConstant name info payload)
  /-- Adding a fused lookup keeps it. -/
  addFused : ∀ granularity inputs info name,
    Edit.Keeps property (Graph.addNode (.gatherCompressed granularity 0) inputs [info] name)
  /-- Redirecting the readers of a port keeps it. -/
  replaceAllUses : ∀ source target, Edit.Keeps property (Graph.replaceAllUses source target)
  /-- Removing a node keeps it. -/
  removeNode : ∀ id, Edit.Keeps property (Graph.removeNode id)

/-- A property of graphs that every change of a graph keeps, however it ends. -/
structure Graph.Stable (property : Graph → Prop) : Prop extends Lasting property where
  /-- Adding a node keeps it. -/
  addNode : ∀ operation inputs outputs name,
    Edit.Keeps property (Graph.addNode operation inputs outputs name)
  /-- Adding an input of the graph keeps it. -/
  addParameter : ∀ name info, Edit.Keeps property (Graph.addParameter name info)
  addFresh := fun name info payload _ => addNode (.constant payload) [] [info] name
  addFused := fun _ inputs info name => addNode _ inputs [info] name

namespace Graph.Lasting

variable {property : Graph → Prop} (lasting : Lasting property)
include lasting

/-! ## Replacements -/

/-- Removing a node that nothing reads is a change or none. -/
theorem removeUnused (id : Nat) : Edit.Keeps property (Candidate.removeUnused id) := by
  refine Edit.keeps_bind (Edit.keeps_inspect _) fun node => ?_
  split
  · exact Edit.keeps_discard (lasting.removeNode id)
  · exact Edit.keeps_pure ()

/-- Carrying a plan out is a sequence of changes, whatever candidate the plan was made for. -/
theorem perform {plan : Candidate.Plan}
    (written : ∀ element payload, plan.scale = some (element, payload) →
      Payload.ofFloats? element [.one] = some payload)
    (candidate : Candidate) (granularity : Granularity) :
    Edit.Keeps property (plan.perform candidate granularity) := by
  have axis : Edit.Keeps property (candidate.fusedAxis plan.name) := by
    unfold Candidate.fusedAxis
    split
    · exact Edit.keeps_pure _
    · exact Edit.keeps_bind (lasting.addFresh _ _ _ .axis) fun _ => Edit.keeps_pure _
  have scale : Edit.Keeps property (Candidate.fusedScale plan.name plan.scale) := by
    unfold Candidate.fusedScale
    split
    · exact Edit.keeps_pure _
    · rename_i element payload missing
      exact Edit.keeps_bind (lasting.addFresh _ _ _ (.scale (written element payload missing)))
        fun _ => Edit.keeps_pure _
  refine Edit.keeps_bind axis fun axis => Edit.keeps_bind scale fun scale => ?_
  refine Edit.keeps_bind (lasting.addFused _ _ _ _) fun fused => ?_
  refine Edit.keeps_bind (Edit.keeps_discard (lasting.replaceAllUses _ _)) fun _ => ?_
  refine Edit.keeps_bind (Edit.keeps_discard (lasting.removeNode _)) fun _ => ?_
  exact Edit.keeps_bind (Edit.keeps_forM lasting.removeUnused) fun _ => Edit.keeps_pure _

/-- Replacing a lookup is a sequence of changes. -/
theorem replace (candidate : Candidate) (layout : Layout) :
    Edit.Keeps property (candidate.replace layout) :=
  Edit.keeps_attempt_bind fun _ _ planned => Edit.keeps_mapCause _
    (lasting.perform (Candidate.written_of_plan planned) candidate layout.granularity)

/-! ## Passes -/

/-- A turn is a sequence of changes. -/
theorem takeTurn (config : FusionConfig) {graph : Graph} (holds : property graph)
    (candidate : Candidate) : property (Fusion.takeTurn config graph candidate).2 := by
  unfold Fusion.takeTurn
  split
  · exact holds
  · split
    · exact holds
    · split
      · exact holds
      · exact holds
      · rename_i layout _
        have kept := lasting.replace candidate layout graph holds
        split <;> (rename_i done; rwa [done] at kept)

/-- Any number of turns is a sequence of changes. -/
theorem takeTurns (config : FusionConfig) (candidates : List Candidate) {graph : Graph}
    (holds : property graph) : property (Fusion.takeTurns config graph candidates).graph := by
  induction candidates generalizing graph with
  | nil => exact holds
  | cons candidate rest ih =>
    have first := lasting.takeTurn config holds candidate
    unfold Fusion.takeTurns
    split
    · rename_i done
      rwa [done] at first
    · rename_i done
      rw [done] at first
      exact ih first

/-- Fusion is a sequence of changes. -/
theorem fusion (config : FusionConfig) {graph : Graph} (holds : property graph) :
    property (Fusion.run config graph).graph := by
  unfold Fusion.run
  split
  · exact holds
  · exact lasting.takeTurns config _ holds

/-- Working off a stack of dead nodes is a sequence of changes. -/
theorem sweep {graph : Graph} (holds : property graph) (removed : Nat) (stack : List Nat) :
    property (Cleanup.sweep graph removed stack).1 := by
  fun_induction Cleanup.sweep graph removed stack with
  | case1 => exact holds
  | case2 graph removed id rest dead node changed step ih =>
    have kept := lasting.removeNode id graph holds
    rw [step] at kept
    exact ih kept
  | case3 graph removed id rest dead failure left step ih => exact ih holds
  | case4 graph removed id rest alive ih => exact ih holds

/-- Every pass is a sequence of changes. -/
theorem pass (pass : Pass) {graph : Graph} (holds : property graph) :
    property (pass.run graph).graph := by
  cases pass with
  | fusion config =>
    have kept := lasting.fusion config holds
    exact Run.holds_andThen kept fun _ => kept
  | cleanup => exact lasting.sweep holds 0 _
  | inspection =>
    simp only [Pass.run, Inspection.run]
    split <;> exact holds

end Graph.Lasting

namespace Pipeline

variable {property : Graph → Prop}
  (kept : ∀ (pass : Pass) {graph : Graph}, property graph → property (pass.run graph).graph)
include kept

/-- What every pass keeps any passes one after the other keep. -/
theorem holds_foldl (passes : List Pass) {graph : Graph} (holds : property graph) :
    property (passes.foldl (fun graph pass => (pass.run graph).graph) graph) := by
  induction passes generalizing graph with
  | nil => exact holds
  | cons pass rest ih => exact ih (kept pass holds)

/-- What every pass keeps one round of passes keeps. -/
theorem holds_round (passes : List Pass) {graph : Graph} (holds : property graph) :
    property (round graph passes).graph := by
  induction passes generalizing graph with
  | nil => exact holds
  | cons pass rest ih =>
    have first := kept pass holds
    have later := ih first
    refine Run.holds_andThen first fun _ => Run.holds_andThen first fun _ => ?_
    exact Run.holds_andThen later fun _ => later

/-- What every pass keeps any number of rounds keeps. -/
theorem holds_rounds (passes : List Pass) (left : Nat) {graph : Graph} (holds : property graph) :
    property (rounds passes graph left).graph := by
  induction left generalizing graph with
  | zero => exact holds
  | succ left ih =>
    have first := holds_round kept passes holds
    have later := ih first
    refine Run.holds_andThen first fun changed => ?_
    split
    · exact Run.holds_andThen later fun _ => later
    · exact first

end Pipeline

namespace Graph

/-! ## Reachable graphs -/

/-- What every change keeps every action keeps. -/
theorem Stable.leave {property : Graph → Prop} (stable : Stable property) {graph : Graph}
    (holds : property graph) (action : Action) : property (action.leave graph) := by
  cases action with
  | addNode operation inputs outputs name =>
    exact stable.addNode operation inputs outputs name graph holds
  | addParameter name info => exact stable.addParameter name info graph holds
  | addConstant name info payload =>
    exact stable.addNode (.constant payload) [] [info] name graph holds
  | addResult name source => exact stable.addNode .result [source] [] name graph holds
  | replaceAllUses source target => exact stable.replaceAllUses source target graph holds
  | removeNode id => exact stable.removeNode id graph holds
  | replace candidate layout => exact stable.replace candidate layout graph holds
  | runPass pass => exact stable.pass pass holds
  | runPipeline pipeline => exact Pipeline.holds_rounds stable.pass pipeline.passes _ holds

/-- What every change keeps any actions one after the other keep. -/
theorem Stable.leaveAll {property : Graph → Prop} (stable : Stable property)
    (actions : List Action) {graph : Graph} (holds : property graph) :
    property (actions.foldl Action.leave graph) := by
  induction actions generalizing graph with
  | nil => exact holds
  | cons action rest ih => exact ih (stable.leave holds action)

/-- What holds of the empty graph and every change keeps holds after every history. -/
theorem Stable.after {property : Graph → Prop} (stable : Stable property)
    (start : property .empty) (history : List Action) : property (after history) :=
  stable.leaveAll history start

/-- A history goes on from the graph that its beginning left. -/
theorem after_append (first second : List Action) :
    after (first ++ second) = second.foldl Action.leave (after first) :=
  List.foldl_append

/-- Adding an input of the graph is a change. -/
theorem Mirrored.changes_addParameter {graph : Graph} (mirrored : graph.Mirrored) (name : String)
    (info : TensorInfo) : graph.Changes ((addParameter name info).runOn graph).2 := by
  obtain ⟨changed, run, adds, kept⟩ := runOn_addParameter mirrored
  rw [run]
  exact .adds adds (by simp) kept

/-- What changes keep is stable together with the agreement of edges. -/
theorem stable_of_changes {property : Graph → Prop}
    (kept : ∀ graph changed, property graph → graph.Changes changed → property changed) :
    Stable fun graph => graph.Mirrored ∧ property graph := by
  have keeps {graph changed : Graph} (holds : graph.Mirrored ∧ property graph)
      (changes : graph.Changes changed) : changed.Mirrored ∧ property changed :=
    ⟨changes.mirrored, kept graph changed holds.2 changes⟩
  exact {
    addNode := fun operation inputs outputs name graph holds =>
      keeps holds (holds.1.changes_addNode operation inputs outputs name)
    addParameter := fun name info graph holds => keeps holds (holds.1.changes_addParameter name info)
    replaceAllUses := fun source target graph holds =>
      keeps holds (holds.1.changes_replaceAllUses source target)
    removeNode := fun id graph holds => keeps holds (holds.1.changes_removeNode id) }

/-- Every change keeps a graph mirrored. -/
theorem stable_mirrored : Stable Mirrored where
  addNode operation inputs outputs name _ mirrored :=
    (mirrored.changes_addNode operation inputs outputs name).mirrored
  addParameter name info _ mirrored := (mirrored.changes_addParameter name info).mirrored
  replaceAllUses source target _ mirrored :=
    (mirrored.changes_replaceAllUses source target).mirrored
  removeNode id _ mirrored := (mirrored.changes_removeNode id).mirrored

/-- Every history leaves a mirrored graph behind. -/
theorem mirrored_after (history : List Action) : (after history).Mirrored :=
  stable_mirrored.after mirrored_empty history

/-- A constant offers one output. -/
def SingleConstants (graph : Graph) : Prop :=
  ∀ id frame, graph.frame? id = some frame → frame.operation.isConstant = true →
    frame.infos.length = 1

/-- A constant that passes its check offers one output. -/
theorem length_of_checkConstant {name : String} {payload : Payload} {outputs : List TensorInfo}
    (fits : checkConstant name payload outputs = .ok ()) : outputs.length = 1 := by
  unfold checkConstant at fits
  split at fits
  · rfl
  · contradiction

/-- A graph as every history leaves it. -/
def WellFormed (graph : Graph) : Prop := graph.Mirrored ∧ graph.SingleConstants

/-- What holds of every node that passed its check, whatever ports it reads, is stable together with
the agreement of edges. -/
theorem stable_of_checked {property : Frame → Prop}
    (checked : ∀ frame : Frame, (∀ payload, frame.operation = .constant payload →
      checkConstant frame.name payload frame.infos = .ok ()) → property frame)
    (redirected : ∀ frame source target, property frame → property (frame.redirect source target)) :
    Stable fun graph =>
      graph.Mirrored ∧ ∀ id frame, graph.frame? id = some frame → property frame := by
  refine stable_of_changes fun graph changed holds changes id frame found => ?_
  cases changes with
  | stays => exact holds id frame found
  | adds adds fits =>
    rcases adds.frame?_cases found with ⟨-, rfl⟩ | old
    · exact checked _ fits
    · exact holds id frame old
  | redirects redirects =>
    obtain ⟨before, there, rfl⟩ := redirects.exists_frame found
    exact redirected before _ _ (holds id before there)
  | drops drops => exact holds id frame (drops.frame?_eq_some_iff.mp found).2

/-- Every change keeps a graph well-formed. -/
theorem stable_wellFormed : Stable WellFormed := by
  refine stable_of_checked (fun frame fits constant => ?_) fun _ _ _ single => single
  cases operation : frame.operation with
  | constant payload => exact length_of_checkConstant (fits payload operation)
  | _ => simp [operation, Operation.isConstant] at constant

/-- Every history leaves a well-formed graph behind. -/
theorem wellFormed_after (history : List Action) : (after history).WellFormed := by
  refine stable_wellFormed.after ⟨mirrored_empty, fun id frame found => ?_⟩ history
  simp [frame?, node?, empty] at found

/-- After any history of actions every slot reads a port that exists, every port lists exactly the
slots that read it, and the check of edges finds nothing wrong. -/
theorem edges_agree_after (history : List Action) :
    (∀ slot port, (after history).producer? slot = some port →
        ∃ output, (after history).output? port = some output) ∧
      (∀ port slot, slot ∈ (after history).readers port ↔
        (after history).producer? slot = some port) ∧
      (after history).audit = .ok () := by
  have mirrored := mirrored_after history
  refine ⟨fun slot port reads => mirrored.exists_output reads, fun port slot => ?_, mirrored.audit⟩
  exact mirrored.mem_readers_iff

end Graph

/-- Every pass keeps a graph mirrored. -/
theorem Pass.mirrored_run (pass : Pass) {graph : Graph} (mirrored : graph.Mirrored) :
    (pass.run graph).graph.Mirrored :=
  Graph.stable_mirrored.pass pass mirrored

end GatherFusion

import GatherFusion.Proofs.Meaning.Lookup
import GatherFusion.Proofs.Pass.Turn

/-!
# What passes keep of the meaning of a graph

A graph stands for an earlier one when it delivers at its outputs what the earlier one delivered and
every port carries what it promises. A turn of a candidate leaves a graph that stands for the one
before it: first the fused lookup is added, which carries the tensor of the lookup, then it takes
over the readers, and then nodes are removed that no output of the graph needs. Removing dead nodes
leaves such a graph as well, and so does every sequence of passes.
-/
namespace GatherFusion

variable {V : Type} {meaning : Interpretation V}

namespace Graph

/-- A node is an output of the graph. -/
def IsResult (graph : Graph) (id : Nat) : Prop := ∃ inputs, graph.Reads id .result inputs

/-- A graph delivers what an earlier graph delivered, and every port carries what it promises. -/
structure StandsFor (meaning : Interpretation V) (old new : Graph) : Prop where
  /-- Every port carries what it promises. -/
  sound : new.Sound meaning
  /-- The outputs of the graph are the same. -/
  results : ∀ id, new.IsResult id ↔ old.IsResult id
  /-- What was delivered is delivered. -/
  delivers : ∀ id tensors, old.Delivers meaning id tensors → new.Delivers meaning id tensors

/-- A sound graph stands for itself. -/
theorem Sound.standsFor {graph : Graph} (sound : graph.Sound meaning) :
    StandsFor meaning graph graph where
  sound := sound
  results _ := Iff.rfl
  delivers _ _ delivered := delivered

/-- A graph that stands for a graph that stands for a third one stands for the third. -/
theorem StandsFor.trans {old middle new : Graph} (first : StandsFor meaning old middle)
    (second : StandsFor meaning middle new) : StandsFor meaning old new where
  sound := second.sound
  results id := (second.results id).trans (first.results id)
  delivers id tensors delivered := second.delivers id tensors (first.delivers id tensors delivered)

/-- Only an output of the graph delivers anything. -/
theorem Delivers.isResult {graph : Graph} {id : Nat} {tensors : List (Tensor V)}
    (delivered : graph.Delivers meaning id tensors) : graph.IsResult id := by
  obtain ⟨inputs, reads, -⟩ := delivered
  exact ⟨inputs, reads⟩

/-- An output of the graph is a live node. -/
theorem IsResult.exists_frame {graph : Graph} {id : Nat} (result : graph.IsResult id) :
    ∃ frame, graph.frame? id = some frame ∧ frame.operation = .result := by
  obtain ⟨inputs, frame, found, operation, -⟩ := result
  exact ⟨frame, found, operation⟩

/-- A live node whose operation is that of an output of the graph is one. -/
theorem isResult_of_frame? {graph : Graph} {id : Nat} {frame : Frame}
    (found : graph.frame? id = some frame) (operation : frame.operation = .result) :
    graph.IsResult id :=
  ⟨frame.inputs, frame, found, operation, rfl⟩

/-- Every output of a sound graph delivers tensors. -/
theorem Sound.exists_delivers {graph : Graph} (sound : graph.Sound meaning)
    (mirrored : graph.Mirrored) {id : Nat} (result : graph.IsResult id) :
    ∃ tensors, graph.Delivers meaning id tensors := by
  obtain ⟨inputs, frame, found, operation, rfl⟩ := result
  obtain ⟨depth, operands, supplied⟩ := exists_supplies fun input reads => by
    obtain ⟨producer, info, live, offered⟩ := mirrored.exists_frame found reads
    have carries : graph.info? input = some info := by rw [info?_eq, live, Option.bind_some, offered]
    obtain ⟨tensor, denotes, -⟩ := sound input info carries
    exact ⟨tensor, denotes⟩
  refine ⟨operands.map Operand.tensor, frame.inputs, ⟨frame, found, operation, rfl⟩, ?_⟩
  rw [List.forall₂_map_right_iff]
  exact supplied.imp fun _ _ supply => supply.denotes

/-- A graph that follows a sound one stands for it if the outputs of the graph are the same and its
new ports carry what they promise. -/
theorem Follows.standsFor {old new : Graph} {move : Port → Port} (follows : Follows move old new)
    (mirrored : new.Mirrored) (agrees : old.Agrees meaning move) (sound : old.Sound meaning)
    (results : ∀ id, new.IsResult id ↔ old.IsResult id)
    (born : ∀ port info, old.frame? port.node = none → new.info? port = some info →
      ∃ tensor, new.Denotes meaning port tensor ∧ tensor.Conforms info) :
    StandsFor meaning old new where
  sound := follows.sound mirrored agrees sound born
  results := results
  delivers id tensors delivered := by
    obtain ⟨frame, found, -⟩ := ((results id).mpr delivered.isResult).exists_frame
    exact follows.delivers mirrored agrees delivered ⟨frame, found⟩

/-- Evolution keeps the outputs of a graph. -/
theorem Evolves.isResult_iff {old new : Graph} {move : Port → Port}
    (evolves : Evolves move old new) (id : Nat) : new.IsResult id ↔ old.IsResult id := by
  constructor
  · intro result
    obtain ⟨after, survives, operation⟩ := result.exists_frame
    cases found : old.frame? id with
    | none =>
      obtain ⟨-, kind⟩ := evolves.born id after found survives
      simp [operation, Operation.isConstant, Operation.isGatherCompressed] at kind
    | some before =>
      rw [evolves.kept id before after found survives] at operation
      exact isResult_of_frame? found operation
  · intro result
    obtain ⟨before, found, operation⟩ := result.exists_frame
    have stays : before.operation.isStep = false := by rw [operation]; rfl
    obtain ⟨after, survives, same⟩ := evolves.exists_of_not_isStep found stays
    rw [same] at survives
    exact isResult_of_frame? survives operation

/-- Losing nodes other than outputs of the graph leaves a graph that stands for the one before. -/
theorem Thins.standsFor {old new : Graph} (thins : old.Thins new) (mirrored : new.Mirrored)
    (sound : old.Sound meaning) (results : ∀ id, new.IsResult id ↔ old.IsResult id) :
    StandsFor meaning old new := by
  refine thins.follows.standsFor mirrored (agrees_id old meaning) sound results ?_
  intro port info gone carries
  rw [info?_eq, Option.bind_eq_some_iff] at carries
  obtain ⟨frame, survives, -⟩ := carries
  have there := thins port.node frame survives
  rw [gone] at there
  contradiction

end Graph

/-! ## Replacements -/

/-- A scalar constant carries what it promises. -/
theorem Graph.exists_denotes_of_isScalar {graph : Graph} {port : Port} {frame : Frame}
    {info : TensorInfo} (found : graph.frame? port.node = some frame) (scalar : frame.IsScalar)
    (carries : graph.info? port = some info) :
    ∃ tensor, graph.Denotes meaning port tensor ∧ tensor.Conforms info := by
  obtain ⟨name, payload, element, rfl⟩ := scalar
  rw [info?_eq, found, Option.bind_some, List.getElem?_singleton] at carries
  obtain ⟨node, index⟩ := port
  by_cases first : index = 0
  · subst first
    rw [if_pos rfl, Option.some.injEq] at carries
    subst carries
    have known : Shape.extents? .scalar = some [] := rfl
    obtain ⟨operand, supplied, extents⟩ : ∃ operand : Operand V,
        graph.Supplies meaning 1 (.first node) operand ∧ operand.tensor.extents = [] :=
      ⟨_, supplies_constant found known 0, rfl⟩
    refine ⟨operand.tensor, supplied.denotes, ?_⟩
    rw [Tensor.Conforms, extents]
    rfl
  · rw [if_neg first] at carries
    contradiction

namespace Candidate

variable {candidate : Candidate} {graph : Graph} {plan : Plan} {granularity : Granularity}

namespace Replaced

variable {axis : Port} {scale : List Port} {withAxis prepared added moved : Graph}
  (replaced : Replaced candidate plan granularity graph axis scale withAxis prepared added moved)
include replaced

variable {table : List Nat} {float : ElementType} (lawful : meaning.Lawful)
  (sound : graph.Sound meaning) (wellFormed : graph.WellFormed)
  (calibration : candidate.Calibration graph granularity table float)
  (fits : candidate.Fits graph) (planned : candidate.plan graph = .ok plan)
  (carries : graph.info? (.first candidate.gather) = some plan.info)
include lawful sound wellFormed calibration fits planned carries

/-- With the fused lookup added a graph stands for the one before. -/
theorem standsFor_added : graph.StandsFor meaning added := by
  have evolves := replaced.evolves_added fits
  refine evolves.follows.standsFor replaced.addedMirrored (Graph.agrees_id graph meaning) sound
    evolves.isResult_iff fun port info gone offered => ?_
  have promised := offered
  rw [Graph.info?_eq, Option.bind_eq_some_iff] at promised
  obtain ⟨frame, found, position⟩ := promised
  -- A node that is new is the fused lookup, which carries what the lookup carried, or a constant.
  rcases replaced.frame?_added_cases found with there | ⟨fused, rfl⟩ | ⟨-, scalar⟩
  · rw [gone] at there
    contradiction
  · rw [List.getElem?_singleton] at position
    split at position
    · rename_i first
      obtain rfl := Option.some.inj position
      obtain ⟨tensor, ⟨depth, denotes⟩, conforms⟩ := sound _ _ carries
      have same := replaced.denote?_fused lawful sound calibration fits wellFormed.2 wellFormed.1
        planned denotes
      have taker : port = .first prepared.next := by
        obtain ⟨node, index⟩ := port
        simp only at fused first
        rw [fused, first]
        rfl
      rw [taker]
      exact ⟨tensor, ⟨depth, same⟩, conforms⟩
    · contradiction
  · exact Graph.exists_denotes_of_isScalar found scalar offered

/-- Once the fused lookup took over the readers a graph stands for the one before. -/
theorem standsFor_moved (yields : plan.info.element.isFloat = true) :
    added.StandsFor meaning moved := by
  have toAdded := replaced.evolves_added fits
  have evolves := replaced.evolves_moved fits carries yields
  have soundAdded := (replaced.standsFor_added lawful sound wellFormed calibration fits planned
    carries).sound
  refine evolves.follows.standsFor replaced.movedMirrored ?_ soundAdded evolves.isResult_iff ?_
  · intro depth port tensor denotes
    dsimp only
    -- Of the ports that are read only the first output of the lookup was exchanged for another.
    by_cases taken : port = .first candidate.gather
    · rw [if_pos taken]
      rw [taken] at denotes
      obtain ⟨frame, axisPort, found, -⟩ := fits.exists_frame
      have before := toAdded.follows_back.denote?_eq_some wellFormed.1
        (Graph.agrees_id added meaning) denotes ⟨frame, found⟩
      exact replaced.denote?_fused lawful sound calibration fits wellFormed.2 wellFormed.1 planned
        before
    · rw [if_neg taken]
      exact denotes
  · intro port info gone offered
    rw [Graph.info?_eq, replaced.redirects.frames, gone] at offered
    contradiction

end Replaced

/-- However a replacement ends, it leaves a graph that stands for the one before. -/
theorem HandsOver.standsFor {fused : Nat} {changed : Graph}
    (hands : candidate.HandsOver plan granularity graph fused changed) (lawful : meaning.Lawful)
    (sound : graph.Sound meaning) (wellFormed : graph.WellFormed) {table : List Nat}
    {float : ElementType} (calibration : candidate.Calibration graph granularity table float)
    (fits : candidate.Fits graph) (planned : candidate.plan graph = .ok plan)
    (yields : plan.info.element.isFloat = true) : graph.StandsFor meaning changed := by
  obtain ⟨axis, scale, withAxis, prepared, added, moved, replaced, -, thins, -, evolves, mirrored⟩ :=
    hands
  obtain ⟨-, carries, -⟩ := reads_of_plan planned
  have onAdded := replaced.standsFor_added lawful sound wellFormed calibration fits planned carries
  have onMoved := replaced.standsFor_moved lawful sound wellFormed calibration fits planned carries
    yields
  have onChanged := thins.standsFor mirrored onMoved.sound evolves.isResult_iff
  exact (onAdded.trans onMoved).trans onChanged

end Candidate

/-! ## Passes -/

/-- However a turn goes, it leaves a graph that stands for the one before. -/
theorem Fusion.Outcome.standsFor {config : FusionConfig} {graph changed : Graph}
    {candidate : Candidate} {result : Except Fault Turn}
    (outcome : Outcome config graph candidate result changed) (lawful : meaning.Lawful)
    (wellFormed : graph.WellFormed) (sound : graph.Sound meaning) :
    graph.StandsFor meaning changed := by
  have handed {layout : Layout} {plan : Candidate.Plan} {fused : Nat} (fits : candidate.Fits graph)
      (accepted : candidate.layout config graph = .ok layout)
      (planned : candidate.plan graph = .ok plan)
      (hands : candidate.HandsOver plan layout.granularity graph fused changed) :
      graph.StandsFor meaning changed := by
    have described := (Candidate.layout_eq_ok_iff.mp accepted).1
    obtain ⟨table, float, calibration⟩ := Candidate.exists_calibration described
    exact hands.standsFor lawful sound wellFormed calibration fits planned
      (Candidate.isFloat_of_planned planned described)
  cases outcome with
  | stale | broken | rejected | unplanned => exact sound.standsFor
  | fused fits accepted planned _ _ _ _ hands => exact handed fits accepted planned hands
  | stuck fits accepted planned _ _ _ _ hands => exact handed fits accepted planned hands

/-- Any number of turns leaves a graph that stands for the one before. -/
theorem Fusion.standsFor_takeTurns (lawful : meaning.Lawful) (config : FusionConfig)
    {start : Graph} {candidates : List Candidate}
    (fit : ∀ candidate ∈ candidates, candidate.Fits start) (wellFormed : start.WellFormed)
    (sound : start.Sound meaning) :
    start.StandsFor meaning (takeTurns config start candidates).graph := by
  let stands (graph : Graph) : Prop := graph.WellFormed ∧ start.StandsFor meaning graph
  have kept : stands (takeTurns config start candidates).graph := by
    refine holds_takeTurns fit wellFormed.1 ⟨id, Graph.Evolves.refl start⟩ stands ?_
      ⟨wellFormed, sound.standsFor⟩
    rintro before candidate result after turn ⟨wellFormedBefore, toBefore⟩
    have wellFormedAfter := Graph.stable_wellFormed.takeTurn config wellFormedBefore candidate
    rw [turn.taken] at wellFormedAfter
    exact ⟨wellFormedAfter,
      toBefore.trans (turn.outcome.standsFor lawful wellFormedBefore toBefore.sound)⟩
  exact kept.2

/-- Removing a dead node leaves a graph that stands for the one before. -/
theorem Graph.standsFor_removeNode {graph : Graph} (mirrored : graph.Mirrored)
    (sound : graph.Sound meaning) {id : Nat}
    (dead : (graph.node? id).any Node.isDead = true) :
    graph.StandsFor meaning ((removeNode id).runOn graph).2 := by
  obtain ⟨node, found, dead⟩ := (Option.any_eq_true _ _).mp dead
  have free : node.isUnused = true ∧ node.operation ≠ .result := by
    unfold Node.isDead at dead
    split at dead
    · contradiction
    · contradiction
    · rename_i other
      exact ⟨dead, other⟩
  have unread := (mirrored.readerCount_eq_zero_iff found).mp (isUnused_iff.mp free.1)
  obtain ⟨changed, run, drops, kept⟩ := runOn_removeNode mirrored found unread
  rw [run]
  refine drops.thins.standsFor kept sound fun other => ?_
  constructor
  · intro result
    obtain ⟨frame, survives, operation⟩ := result.exists_frame
    exact isResult_of_frame? (drops.thins other frame survives) operation
  · intro result
    obtain ⟨frame, there, operation⟩ := result.exists_frame
    have apart : other ≠ id := by
      rintro rfl
      rw [frame?_of_node? found, Option.some.injEq] at there
      rw [← there] at operation
      exact free.2 operation
    exact isResult_of_frame? (drops.frame?_eq_some_iff.mpr ⟨apart, there⟩) operation

/-- Working off a stack of dead nodes leaves a graph that stands for the one before. -/
theorem Cleanup.standsFor_sweep {graph : Graph} (mirrored : graph.Mirrored)
    (sound : graph.Sound meaning) (removed : Nat) (stack : List Nat) :
    graph.StandsFor meaning (sweep graph removed stack).1 := by
  fun_induction sweep graph removed stack with
  | case1 => exact sound.standsFor
  | case2 graph removed id rest dead node changed step ih =>
    have first := Graph.standsFor_removeNode mirrored sound dead
    have kept := (mirrored.changes_removeNode id).mirrored
    rw [step] at first kept
    exact first.trans (ih kept first.sound)
  | case3 graph removed id rest dead failure left step ih => exact ih mirrored sound
  | case4 graph removed id rest alive ih => exact ih mirrored sound

/-- Every pass leaves a graph that stands for the one before. -/
theorem Pass.standsFor_run (lawful : meaning.Lawful) (pass : Pass) {graph : Graph}
    (wellFormed : graph.WellFormed) (sound : graph.Sound meaning) :
    graph.StandsFor meaning (pass.run graph).graph := by
  cases pass with
  | fusion config =>
    have kept : graph.StandsFor meaning (Fusion.run config graph).graph := by
      obtain ⟨candidates, collected, members⟩ := wellFormed.1.exists_candidates
      have turns := Fusion.standsFor_takeTurns lawful config
        (fun candidate inside => (members candidate).mp inside) wellFormed sound
      simpa only [Fusion.run, collected] using turns
    exact Run.holds_andThen kept fun _ => kept
  | cleanup => exact Cleanup.standsFor_sweep wellFormed.1 sound 0 _
  | inspection =>
    simp only [Pass.run, Inspection.run]
    split <;> exact sound.standsFor

/-- What every pass keeps of a graph it stands for. -/
theorem Pass.standsFor_step (lawful : meaning.Lawful) {start : Graph} (pass : Pass) {graph : Graph}
    (holds : graph.WellFormed ∧ start.StandsFor meaning graph) :
    (pass.run graph).graph.WellFormed ∧ start.StandsFor meaning (pass.run graph).graph :=
  ⟨Graph.stable_wellFormed.pass pass holds.1,
    holds.2.trans (pass.standsFor_run lawful holds.1 holds.2.sound)⟩

/-! ## The outputs of a graph -/

/-- Two graphs have the same outputs, each of which delivers something, and deliver the same. -/
structure Graph.SameResults (meaning : Interpretation V) (old new : Graph) : Prop where
  /-- The outputs are the same. -/
  results : ∀ id, new.IsResult id ↔ old.IsResult id
  /-- Each of them delivers tensors. -/
  delivers : ∀ id, old.IsResult id → ∃ tensors, old.Delivers meaning id tensors
  /-- The tensors are the same. -/
  same : ∀ id tensors, new.Delivers meaning id tensors ↔ old.Delivers meaning id tensors

/-- A graph that stands for another has the same outputs. -/
theorem Graph.StandsFor.sameResults {old new : Graph} (stands : old.StandsFor meaning new)
    (mirrored : old.Mirrored) (sound : old.Sound meaning) : old.SameResults meaning new where
  results := stands.results
  delivers _ result := sound.exists_delivers mirrored result
  same id tensors := by
    constructor
    · intro delivered
      have result := (stands.results id).mp delivered.isResult
      obtain ⟨before, deliveredBefore⟩ := sound.exists_delivers mirrored result
      rwa [delivered.unique (stands.delivers id before deliveredBefore)]
    · exact stands.delivers id tensors

/-- Passes and pipelines keep the outputs of an acyclic graph that keeps its promises, and the
tensors delivered there, whatever the configuration and the order. -/
theorem results_kept (lawful : meaning.Lawful) (history : List Action)
    (acyclic : (Graph.after history).Acyclic)
    (keeps : (Graph.after history).KeepsPromises meaning) :
    (∀ passes : List Pass, (Graph.after history).SameResults meaning
      (passes.foldl (fun graph pass => (pass.run graph).graph) (Graph.after history))) ∧
    ∀ pipeline : Pipeline, (Graph.after history).SameResults meaning
      (pipeline.run (Graph.after history)).graph := by
  have wellFormed := Graph.wellFormed_after history
  have sound := acyclic.sound wellFormed.1 keeps
  generalize Graph.after history = start at *
  constructor
  · intro passes
    have folded (passes : List Pass) {graph : Graph}
        (holds : graph.WellFormed ∧ start.StandsFor meaning graph) :
        start.StandsFor meaning (passes.foldl (fun graph pass => (pass.run graph).graph) graph) := by
      induction passes generalizing graph with
      | nil => exact holds.2
      | cons pass rest ih => exact ih (pass.standsFor_step lawful holds)
    exact (folded passes ⟨wellFormed, sound.standsFor⟩).sameResults wellFormed.1 sound
  · intro pipeline
    have stands := Pipeline.holds_rounds (Pass.standsFor_step lawful) pipeline.passes
      Pipeline.maxRounds ⟨wellFormed, sound.standsFor⟩
    exact stands.2.sameResults wellFormed.1 sound

/-- Bytes read as numbers, and the arithmetic of integers. -/
def Interpretation.plain : Interpretation Int where
  parameter _ := .tabulate [3] fun position => some (position % 2 : Nat)
  element element payload position :=
    if Payload.ofFloats? element [.one] = some payload then 1
    else ((payload.bytes[position]?.map UInt8.toNat).getD 0 : Nat)
  row _ index rows := if 0 ≤ index ∧ index < rows then some index.toNat else none
  convert _ _ value := value
  subtract _ left right := left - right
  multiply _ left right := left * right
  reshape _ _ target := (target.integers?.getD []).map Int.toNat
  other _ _ _ _ := .tabulate [] fun _ => none

/-- The arithmetic of integers is lawful. -/
theorem Interpretation.lawful_plain : plain.Lawful where
  convert_self _ _ := rfl
  multiply_comm _ left right := Int.mul_comm left right
  multiply_one element payload value one := by simp [plain, one]

/-- A lookup along a negative axis in a table with a scale and a zero point for every row. -/
def shiftedLookup : List Action := [
  .addConstant "weight" (.fixed .u8 [2, 2]) ⟨[5, 6, 7, 8]⟩,
  .addConstant "zero" (.fixed .u8 [2, 1]) ⟨[1, 2]⟩,
  .addConstant "scale" (.fixed .f16 [2, 1]) ⟨[3, 4, 0, 0]⟩,
  .addConstant "axis" (.fixed .i64 []) (.ofInt64s [-2]),
  .addParameter "indices" (.fixed .i64 [3]),
  .addNode .convert [.first 0] [.fixed .f16 [2, 2]] "weight_convert",
  .addNode .convert [.first 1] [.fixed .f16 [2, 1]] "zero_convert",
  .addNode .subtract [.first 5, .first 6] [.fixed .f16 [2, 2]] "shift",
  .addNode .multiply [.first 2, .first 7] [.fixed .f16 [2, 2]] "scaled",
  .addNode (.gather 0) [.first 8, .first 4, .first 3] [.fixed .f16 [3, 2]] "lookup",
  .addResult "result" (.first 9)]

/-- The lookup is fused, and the output delivers what it delivered, also after the clean-up. -/
theorem results_kept_of_shiftedLookup :
    (Fusion.run {} (Graph.after shiftedLookup)).result = .ok ⟨1, [12], [], []⟩ ∧
      (Graph.after shiftedLookup).SameResults .plain (optimize (Graph.after shiftedLookup)).graph := by
  have acyclic : (Graph.after shiftedLookup).Acyclic := Graph.acyclic_of_older (by decide +kernel)
  have keeps : (Graph.after shiftedLookup).KeepsPromises .plain :=
    Graph.keepsPromises_of_seen 6 (by decide +kernel)
  have fused : (Fusion.run {} (Graph.after shiftedLookup)).result = .ok ⟨1, [12], [], []⟩ := by
    decide +kernel
  have kept := results_kept Interpretation.lawful_plain shiftedLookup acyclic keeps
  exact ⟨fused, kept.2 (.ofLevel .standard)⟩

end GatherFusion

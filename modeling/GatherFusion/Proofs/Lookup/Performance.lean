import GatherFusion.Proofs.Lookup.Readers
import GatherFusion.Proofs.Lookup.Replacement

/-!
# Carrying a replacement out

The fused lookup is added behind the constants it lacks, takes the readers of the lookup it
replaces, and then the lookup and its chain are shed. `Replaced` tells the graphs in between by
their frames; `runOn_replace` says that a planned replacement of a fitting candidate goes exactly
this way, and that the only thing that can stop it is a reader of a further output of the lookup.
-/
namespace GatherFusion

/-! ## Fresh constants -/

/-- A node that holds a single value. -/
def Frame.IsScalar (frame : Frame) : Prop :=
  ∃ name payload element, frame = ⟨name, .constant payload, [], [⟨element, .scalar⟩]⟩

/-- A scalar constant reads nothing. -/
theorem Frame.IsScalar.inputs {frame : Frame} (scalar : frame.IsScalar) : frame.inputs = [] := by
  obtain ⟨name, payload, element, rfl⟩ := scalar
  rfl

/-- A payload that holds a single value in a floating-point type has the length of one element. -/
theorem Payload.size_ofFloats? {element : ElementType} {payload : Payload}
    (written : ofFloats? element [.one] = some payload) : payload.size = element.byteLength 1 := by
  obtain ⟨kind, bits⟩ := element
  unfold ofFloats? at written
  split at written
  all_goals simp_all only [Option.some.injEq, reduceCtorEq]
  all_goals
    subst written
    decide

/-- At most one scalar constant was added, and if so its port is listed. -/
inductive Graph.Gains (graph : Graph) : List Port → Graph → Prop where
  /-- Nothing was missing. -/
  | nothing : graph.Gains [] graph
  /-- A scalar was missing. -/
  | scalar {frame : Frame} {changed : Graph} (scalar : frame.IsScalar)
    (adds : graph.Adds frame changed) : graph.Gains [.first graph.next] changed

namespace Graph.Gains

variable {graph changed : Graph} {fresh : List Port} (gains : graph.Gains fresh changed)
include gains

/-- Handles are used up at most. -/
theorem next_le : graph.next ≤ changed.next := by
  cases gains with
  | nothing => exact Nat.le_refl _
  | scalar _ adds => exact Nat.le_of_lt (adds.next ▸ Nat.lt_succ_self _)

/-- A node that was there stays as it is. -/
theorem frame?_eq_some {id : Nat} {frame : Frame} (found : graph.frame? id = some frame) :
    changed.frame? id = some frame := by
  cases gains with
  | nothing => exact found
  | scalar _ adds => exact adds.frame?_eq_some found

/-- A port that was there carries what it carried. -/
theorem info?_eq_some {port : Port} {info : TensorInfo} (carries : graph.info? port = some info) :
    changed.info? port = some info := by
  cases gains with
  | nothing => exact carries
  | scalar _ adds => exact adds.info?_eq_some carries

/-- A node that is there was there before, or is a scalar whose port is listed. -/
theorem frame?_cases {id : Nat} {frame : Frame} (found : changed.frame? id = some frame) :
    graph.frame? id = some frame ∨ .first id ∈ fresh ∧ frame.IsScalar := by
  cases gains with
  | nothing => exact .inl found
  | scalar scalar adds =>
    rcases adds.frame?_cases found with ⟨rfl, rfl⟩ | old
    · exact .inr ⟨List.mem_singleton_self _, scalar⟩
    · exact .inl old

/-- A port that is listed is the first one of a new scalar. -/
theorem exists_frame {port : Port} (inside : port ∈ fresh) :
    port = .first graph.next ∧ ∃ frame, changed.frame? graph.next = some frame ∧ frame.IsScalar := by
  cases gains with
  | nothing => contradiction
  | scalar scalar adds => exact ⟨List.mem_singleton.mp inside, _, adds.frame?_next, scalar⟩

/-- A port that is listed carries a tensor. -/
theorem exists_info {port : Port} (inside : port ∈ fresh) :
    ∃ info, changed.info? port = some info := by
  obtain ⟨rfl, _, found, name, payload, element, rfl⟩ := gains.exists_frame inside
  exact ⟨⟨element, .scalar⟩, by rw [Graph.info?_eq, Port.first, found]; rfl⟩

end Graph.Gains

/-- A single element fits a payload of its length. -/
theorem Graph.checkConstant_scalar (name : String) {element : ElementType} {payload : Payload}
    (length : payload.size = element.byteLength 1) :
    checkConstant name payload [⟨element, .scalar⟩] = .ok () := by
  simp [checkConstant, Shape.count?_scalar, length]

namespace Candidate

variable {candidate : Candidate} {graph : Graph}

/-- The axis of the fused lookup: the constant at hand, or a fresh zero. -/
def AxisReady (candidate : Candidate) (name : String) (graph : Graph) (axis : Port)
    (changed : Graph) : Prop :=
  if candidate.axisValue = 0 then axis = .first candidate.axis ∧ changed = graph
  else axis = .first graph.next ∧ graph.Adds
    ⟨name ++ "/axis", .constant (.ofInt64s [0]), [], [.fixed .i64 []]⟩ changed

/-- The scale of the fused lookup, if the candidate has none: a fresh one. -/
def ScaleReady (name : String) (scale : Option (ElementType × Payload)) (graph : Graph)
    (ports : List Port) (changed : Graph) : Prop :=
  match scale with
  | none => ports = [] ∧ changed = graph
  | some (element, payload) => ports = [.first graph.next] ∧ graph.Adds
      ⟨name ++ "/scale", .constant payload, [], [⟨element, .scalar⟩]⟩ changed

/-- The axis can be made ready in a mirrored graph. -/
theorem runOn_fusedAxis (mirrored : graph.Mirrored) (candidate : Candidate) (name : String) :
    ∃ axis changed, (candidate.fusedAxis name).runOn graph = (.ok axis, changed) ∧
      candidate.AxisReady name graph axis changed ∧ changed.Mirrored := by
  unfold fusedAxis AxisReady
  split
  · exact ⟨_, graph, rfl, ⟨rfl, rfl⟩, mirrored⟩
  · obtain ⟨changed, run, adds, kept⟩ := Graph.runOn_addConstant mirrored
      (Graph.checkConstant_scalar (name ++ "/axis") (show (Payload.ofInt64s [0]).size =
        ElementType.i64.byteLength 1 by decide))
    exact ⟨_, changed, Edit.runOn_bind_ok run, ⟨rfl, adds⟩, kept⟩

/-- The scale can be made ready in a mirrored graph. -/
theorem runOn_fusedScale (mirrored : graph.Mirrored) (name : String)
    {scale : Option (ElementType × Payload)}
    (written : ∀ element payload, scale = some (element, payload) →
      Payload.ofFloats? element [.one] = some payload) :
    ∃ ports changed, (fusedScale name scale).runOn graph = (.ok ports, changed) ∧
      ScaleReady name scale graph ports changed ∧ changed.Mirrored := by
  unfold fusedScale ScaleReady
  split
  · exact ⟨_, graph, rfl, ⟨rfl, rfl⟩, mirrored⟩
  · rename_i element payload
    have fits := Graph.checkConstant_scalar (name ++ "/scale")
      (Payload.size_ofFloats? (written element payload rfl))
    obtain ⟨changed, run, adds, kept⟩ := Graph.runOn_addConstant mirrored fits
    exact ⟨_, changed, Edit.runOn_bind_ok run, ⟨rfl, adds⟩, kept⟩

end Candidate

/-! ## Shedding nodes -/

namespace Graph

/-- A node is gone, or one of its outputs is read. -/
def GoneOrRead (graph : Graph) (id : Nat) : Prop :=
  graph.frame? id = none ∨ ∃ index, graph.IsRead ⟨id, index⟩

/-- Nodes of a list are dropped one after the other where nothing reads them, and kept where they
are read or gone. -/
inductive Sheds : Graph → List Nat → Graph → Prop where
  /-- Nothing is left to shed. -/
  | done (graph : Graph) : Sheds graph [] graph
  /-- The first node stays. -/
  | keep {graph changed : Graph} {id : Nat} {rest : List Nat} (kept : graph.GoneOrRead id)
    (later : Sheds graph rest changed) : Sheds graph (id :: rest) changed
  /-- The first node goes. -/
  | drop {graph middle changed : Graph} {id : Nat} {rest : List Nat}
    (live : ∃ frame, graph.frame? id = some frame) (drops : Drops graph id middle)
    (later : Sheds middle rest changed) : Sheds graph (id :: rest) changed

end Graph

/-- Nodes are at most lost. -/
def Graph.Thins (graph changed : Graph) : Prop :=
  ∀ id frame, changed.frame? id = some frame → graph.frame? id = some frame

/-- A node that is gone stays gone where nodes are at most lost. -/
theorem Graph.Thins.frame?_eq_none {graph changed : Graph} (thins : graph.Thins changed) {id : Nat}
    (gone : graph.frame? id = none) : changed.frame? id = none := by
  cases still : changed.frame? id with
  | none => rfl
  | some frame =>
    have before := thins id frame still
    rw [gone] at before
    contradiction

/-- A node that is left where nodes are at most lost reads what it read. -/
theorem Graph.Thins.producer?_eq {graph changed : Graph} (thins : graph.Thins changed) {slot : Slot}
    {frame : Frame} (left : changed.frame? slot.node = some frame) :
    changed.producer? slot = graph.producer? slot := by
  rw [Graph.producer?_eq, Graph.producer?_eq, left, thins _ _ left]

/-- Dropping a node loses at most nodes. -/
theorem Graph.Drops.thins {graph changed : Graph} {dead : Nat} (drops : Drops graph dead changed) :
    graph.Thins changed :=
  fun _ _ survives => (drops.frame?_eq_some_iff.mp survives).2

/-- Nodes outside a list stay as they are. -/
def Graph.KeepsOutside (graph : Graph) (list : List Nat) (changed : Graph) : Prop :=
  ∀ id ∉ list, ∀ frame, graph.frame? id = some frame → changed.frame? id = some frame

/-- Shedding nodes keeps all others. -/
theorem Graph.Sheds.keepsOutside {graph changed : Graph} {list : List Nat}
    (sheds : graph.Sheds list changed) : graph.KeepsOutside list changed := by
  induction sheds with
  | done graph => exact fun _ _ _ found => found
  | keep kept later ih =>
    exact fun id outside frame found =>
      ih id (fun inside => outside (List.mem_cons_of_mem _ inside)) frame found
  | drop live drops later ih =>
    intro id outside frame found
    rw [List.mem_cons, not_or] at outside
    exact ih id outside.2 frame (drops.frame?_eq_some_iff.mpr ⟨outside.1, found⟩)

/-- Shedding nodes loses at most nodes. -/
theorem Graph.Sheds.thins {graph changed : Graph} {list : List Nat}
    (sheds : graph.Sheds list changed) : graph.Thins changed := by
  induction sheds with
  | done graph => exact fun _ _ survives => survives
  | keep kept later ih => exact ih
  | drop live drops later ih =>
    intro id frame survives
    exact drops.thins id frame (ih id frame survives)

/-- Shedding nodes uses up no handle. -/
theorem Graph.Sheds.next {graph changed : Graph} {list : List Nat}
    (sheds : graph.Sheds list changed) : changed.next = graph.next := by
  induction sheds with
  | done graph => rfl
  | keep kept later ih => exact ih
  | drop live drops later ih => exact ih.trans drops.next

/-- A node that is shed is in the list, and had no reader left when it went. -/
theorem Graph.Sheds.of_lost {graph changed : Graph} {list : List Nat}
    (sheds : graph.Sheds list changed) {id : Nat} {frame : Frame}
    (found : graph.frame? id = some frame) (gone : changed.frame? id = none) :
    id ∈ list ∧ ∃ middle : Graph, graph.Thins middle ∧ middle.Thins changed ∧
      graph.KeepsOutside list middle ∧
      ∀ slot port, middle.producer? slot = some port → port.node ≠ id := by
  induction sheds with
  | done graph =>
    rw [found] at gone
    contradiction
  | keep kept later ih =>
    obtain ⟨inside, middle, thins, rest, keeps, unread⟩ := ih found gone
    exact ⟨List.mem_cons_of_mem _ inside, middle, thins, rest, fun other outside =>
      keeps other fun inside => outside (List.mem_cons_of_mem _ inside), unread⟩
  | @drop graph next changed dead list live drops later ih =>
    by_cases here : id = dead
    · subst here
      refine ⟨List.mem_cons_self, graph, fun _ _ there => there, ?_, fun _ _ _ there => there,
        drops.unread⟩
      exact fun other frame survives => drops.thins other frame (later.thins other frame survives)
    · have still := drops.frame?_eq_some_iff.mpr ⟨here, found⟩
      obtain ⟨inside, middle, thins, rest, keeps, unread⟩ := ih still gone
      refine ⟨List.mem_cons_of_mem _ inside, middle, fun other frame survives =>
        drops.thins other frame (thins other frame survives), rest, ?_, unread⟩
      intro other outside frame there
      rw [List.mem_cons, not_or] at outside
      exact keeps other outside.2 frame (drops.frame?_eq_some_iff.mpr ⟨outside.1, there⟩)

/-- What is not there as an unused node is gone or read. -/
theorem Graph.Mirrored.goneOrRead {graph : Graph} (mirrored : graph.Mirrored) {id : Nat}
    (used : ¬(graph.node? id).any Node.isUnused = true) : graph.GoneOrRead id := by
  cases found : graph.node? id with
  | none => exact .inl (by simp [Graph.frame?, found])
  | some node =>
    have read : ¬node.readerCount = 0 := by
      rw [found, Option.any_some] at used
      exact fun none => used (Graph.isUnused_iff.mpr none)
    simp only [mirrored.readerCount_eq_zero_iff found, Classical.not_forall, Decidable.not_not]
      at read
    obtain ⟨slot, port, reads, same⟩ := read
    exact .inr ⟨port.index, slot, reads.trans (congrArg some (Port.ext same rfl))⟩

/-- A node is removed if it is unused, otherwise nothing happens. -/
theorem Candidate.runOn_removeUnused_eq (id : Nat) (graph : Graph) :
    (removeUnused id).runOn graph =
      if (graph.node? id).any Node.isUnused then (discard (Graph.removeNode id)).runOn graph
      else (.ok (), graph) := by
  have read : (Edit.inspect fun graph => .ok (graph.node? id) : Edit GraphError _).runOn graph =
      (.ok (graph.node? id), graph) := rfl
  refine (Edit.runOn_bind_ok read).trans ?_
  split <;> rfl

/-- Removing what nothing reads sheds nodes and does not fail. -/
theorem Candidate.runOn_removeUnused {graph : Graph} (mirrored : graph.Mirrored) (list : List Nat) :
    ∃ changed, Edit.runOn (list.forM removeUnused) graph = (.ok (), changed) ∧
      graph.Sheds list changed ∧ changed.Mirrored := by
  induction list generalizing graph with
  | nil => exact ⟨graph, rfl, .done graph, mirrored⟩
  | cons id rest ih =>
    have first := runOn_removeUnused_eq id graph
    by_cases unused : (graph.node? id).any Node.isUnused = true
    · obtain ⟨node, found, free⟩ := (Option.any_eq_true _ _).mp unused
      obtain ⟨middle, run, drops, kept⟩ := Graph.runOn_removeNode mirrored found
        ((mirrored.readerCount_eq_zero_iff found).mp (Graph.isUnused_iff.mp free))
      obtain ⟨changed, later, sheds, keptLater⟩ := ih kept
      refine ⟨changed, ?_, .drop ⟨_, Graph.frame?_of_node? found⟩ drops sheds, keptLater⟩
      have removes : (discard (Graph.removeNode id)).runOn graph = (.ok (), middle) :=
        Edit.runOn_bind_ok run
      rw [if_pos unused, removes] at first
      exact (Edit.runOn_bind_ok first).trans later
    · obtain ⟨changed, later, sheds, keptLater⟩ := ih mirrored
      refine ⟨changed, ?_, .keep (mirrored.goneOrRead unused) sheds, keptLater⟩
      rw [if_neg unused] at first
      exact (Edit.runOn_bind_ok first).trans later

namespace Candidate

variable {candidate : Candidate} {graph : Graph} {plan : Plan} {granularity : Granularity}

/-- The port of the axis, if the axis is a fresh one. -/
def freshAxis (candidate : Candidate) (axis : Port) : List Port :=
  if candidate.axisValue = 0 then [] else [axis]

/-- Making the axis ready adds at most a scalar, whose port is the axis then. -/
theorem AxisReady.gains {name : String} {axis : Port} {changed : Graph}
    (ready : candidate.AxisReady name graph axis changed) :
    graph.Gains (candidate.freshAxis axis) changed := by
  by_cases front : candidate.axisValue = 0
  · rw [AxisReady, if_pos front] at ready
    obtain ⟨-, rfl⟩ := ready
    rw [freshAxis, if_pos front]
    exact .nothing
  · rw [AxisReady, if_neg front] at ready
    obtain ⟨rfl, adds⟩ := ready
    rw [freshAxis, if_neg front]
    exact .scalar ⟨_, _, .i64, rfl⟩ adds

/-- The axis is the constant at hand or a fresh one. -/
theorem AxisReady.cases {name : String} {axis : Port} {changed : Graph}
    (ready : candidate.AxisReady name graph axis changed) :
    axis = .first candidate.axis ∨ axis ∈ candidate.freshAxis axis := by
  by_cases front : candidate.axisValue = 0
  · rw [AxisReady, if_pos front] at ready
    exact .inl ready.1
  · rw [freshAxis, if_neg front]
    exact .inr (List.mem_singleton_self _)

/-- A fresh axis is the axis. -/
theorem eq_of_mem_freshAxis {axis port : Port} (inside : port ∈ candidate.freshAxis axis) :
    port = axis := by
  unfold freshAxis at inside
  split at inside
  · contradiction
  · exact List.mem_singleton.mp inside

/-- Making the scale ready adds at most a scalar. -/
theorem ScaleReady.gains {name : String} {scale : Option (ElementType × Payload)}
    {ports : List Port} {changed : Graph} (ready : ScaleReady name scale graph ports changed) :
    graph.Gains ports changed := by
  unfold ScaleReady at ready
  split at ready
  · obtain ⟨rfl, rfl⟩ := ready
    exact .nothing
  · obtain ⟨rfl, adds⟩ := ready
    exact .scalar ⟨_, _, _, rfl⟩ adds

/-- The ports the fused lookup reads. -/
def fusedInputs (candidate : Candidate) (axis : Port) (scale : List Port) : List Port :=
  .first candidate.chain.weight :: candidate.indices :: axis :: (candidate.constants ++ scale)

/-- A graph in which a lookup was replaced but not yet removed: the constants that were missing and
the fused lookup were added, and the fused lookup took over the readers of the lookup. -/
structure Replaced (candidate : Candidate) (plan : Plan) (granularity : Granularity)
    (graph : Graph) (axis : Port) (scale : List Port) (withAxis prepared added moved : Graph) :
    Prop where
  /-- The axis was made ready. -/
  axisReady : candidate.AxisReady plan.name graph axis withAxis
  /-- The scale was made ready. -/
  scaleReady : ScaleReady plan.name plan.scale withAxis scale prepared
  /-- The fused lookup was added. -/
  adds : prepared.Adds ⟨plan.name, .gatherCompressed granularity 0,
    candidate.fusedInputs axis scale, [plan.info]⟩ added
  /-- Its edges agree. -/
  addedMirrored : added.Mirrored
  /-- It took over the readers of the lookup. -/
  redirects : added.Redirects (.first candidate.gather) (.first prepared.next) moved
  /-- The edges still agree. -/
  movedMirrored : moved.Mirrored

/-- The constant that names the axis offers an output. -/
theorem Fits.exists_info_axis (fits : candidate.Fits graph) :
    ∃ info, graph.info? (.first candidate.axis) = some info := by
  obtain ⟨-, axis, -, -, axisNode, axisRead, -⟩ := fits
  obtain ⟨frame, _, info, found, -, position⟩ :=
    Graph.holds_iff.mp (Graph.holds_of_integers? axisRead)
  have first : 0 < frame.infos.length := by
    have inside := (List.getElem?_eq_some_iff.mp position).1
    omega
  refine ⟨frame.infos[0], ?_⟩
  rw [Graph.info?_eq, Port.first, ← axisNode, found, Option.bind_some]
  exact List.getElem?_eq_getElem first

/-- The output behind a port that carries a tensor. -/
theorem exists_output_of_info? {port : Port} {info : TensorInfo}
    (carries : graph.info? port = some info) :
    ∃ output, graph.output? port = some output ∧ output.info = info :=
  Option.map_eq_some_iff.mp carries

/-- The ports the fused lookup reads exist once axis and scale are ready. -/
theorem exists_output_fusedInputs (mirrored : graph.Mirrored) (fits : candidate.Fits graph)
    {name : String} {scale : Option (ElementType × Payload)} {axis : Port} {ports : List Port}
    {withAxis prepared : Graph} (axisReady : candidate.AxisReady name graph axis withAxis)
    (scaleReady : ScaleReady name scale withAxis ports prepared) :
    ∀ port ∈ candidate.fusedInputs axis ports, ∃ output, prepared.output? port = some output := by
  have later {port : Port} (carries : ∃ info, withAxis.info? port = some info) :
      ∃ output, prepared.output? port = some output := by
    obtain ⟨info, carries⟩ := carries
    obtain ⟨output, there, -⟩ := exists_output_of_info? (scaleReady.gains.info?_eq_some carries)
    exact ⟨output, there⟩
  have old {port : Port} (carries : ∃ info, graph.info? port = some info) :
      ∃ output, prepared.output? port = some output := by
    obtain ⟨info, carries⟩ := carries
    exact later ⟨info, axisReady.gains.info?_eq_some carries⟩
  intro port inside
  simp only [fusedInputs, List.mem_cons, List.mem_append] at inside
  rcases inside with rfl | rfl | rfl | constant | fresh
  · exact old fits.holds_weight.exists_info
  · exact old (fits.exists_info_indices mirrored)
  · rcases axisReady.cases with rfl | made
    · exact old fits.exists_info_axis
    · exact later (axisReady.gains.exists_info made)
  · exact old (fits.holds_constants port constant).exists_info
  · obtain ⟨info, carries⟩ := scaleReady.gains.exists_info fresh
    obtain ⟨output, there, -⟩ := exists_output_of_info? carries
    exact ⟨output, there⟩

/-- Nothing reads a further output of the lookup. -/
def Removable (candidate : Candidate) (graph : Graph) : Prop :=
  ∀ index, index ≠ 0 → ¬graph.IsRead ⟨candidate.gather, index⟩

namespace Replaced

variable {axis : Port} {scale : List Port} {withAxis prepared added moved : Graph}

/-- Every node that was there is still there once the fused lookup was added. -/
theorem frame?_added
    (replaced : Replaced candidate plan granularity graph axis scale withAxis prepared added moved)
    {id : Nat} {frame : Frame} (found : graph.frame? id = some frame) :
    added.frame? id = some frame := by
  have onAxis := replaced.axisReady.gains.frame?_eq_some found
  have onScale := replaced.scaleReady.gains.frame?_eq_some onAxis
  exact replaced.adds.frame?_eq_some onScale

/-- A node that is there once the fused lookup was added was there before, is the fused lookup, or
is a fresh scalar. -/
theorem frame?_added_cases
    (replaced : Replaced candidate plan granularity graph axis scale withAxis prepared added moved)
    {id : Nat} {frame : Frame} (found : added.frame? id = some frame) :
    graph.frame? id = some frame ∨
      (id = prepared.next ∧ frame = ⟨plan.name, .gatherCompressed granularity 0,
        candidate.fusedInputs axis scale, [plan.info]⟩) ∨
      (.first id ∈ axis :: scale ∧ frame.IsScalar) := by
  rcases replaced.adds.frame?_cases found with fused | found
  · exact .inr (.inl fused)
  · rcases replaced.scaleReady.gains.frame?_cases found with older | ⟨fresh, scalar⟩
    · rcases replaced.axisReady.gains.frame?_cases older with old | ⟨fresh, scalar⟩
      · exact .inl old
      · exact .inr (.inr ⟨List.mem_cons.mpr (.inl (eq_of_mem_freshAxis fresh)), scalar⟩)
    · exact .inr (.inr ⟨List.mem_cons_of_mem _ fresh, scalar⟩)

/-- Every node that was there is still there before the lookup is removed, with the readers of the
lookup redirected. -/
theorem frame?_eq_some
    (replaced : Replaced candidate plan granularity graph axis scale withAxis prepared added moved)
    {id : Nat} {frame : Frame} (found : graph.frame? id = some frame) :
    moved.frame? id =
      some (frame.redirect (.first candidate.gather) (.first prepared.next)) :=
  replaced.redirects.frame?_eq_some (replaced.frame?_added found)

/-- The handle of the fused lookup is fresh. -/
theorem next_le
    (replaced : Replaced candidate plan granularity graph axis scale withAxis prepared added moved) :
    graph.next ≤ prepared.next ∧ moved.next = prepared.next + 1 := by
  have onAxis := replaced.axisReady.gains.next_le
  have onScale := replaced.scaleReady.gains.next_le
  have onAdded := replaced.adds.next
  have onMoved := replaced.redirects.next
  omega

/-- The first output of the lookup is read by nobody any more. -/
theorem not_reads_first
    (replaced : Replaced candidate plan granularity graph axis scale withAxis prepared added moved)
    (live : ∃ frame, graph.frame? candidate.gather = some frame) (slot : Slot) :
    moved.producer? slot ≠ some (.first candidate.gather) := by
  obtain ⟨frame, found⟩ := live
  have fresh : candidate.gather ≠ prepared.next := by
    have below := Graph.lt_next_of_frame? found
    have grown := replaced.next_le.1
    omega
  intro reads
  rw [replaced.redirects.producer?, Option.map_eq_some_iff] at reads
  obtain ⟨port, -, same⟩ := reads
  split at same
  · exact fresh (congrArg Port.node same).symm
  · contradiction

end Replaced

/-- What a replacement still has to do once the fused lookup has taken over. -/
def tidy (candidate : Candidate) (fused : Nat) : Edit GraphError Nat := do
  discard (Graph.removeNode candidate.gather)
  candidate.chain.intermediates.forM removeUnused
  pure fused

/-- A planned replacement of a fitting candidate goes its way up to the removal of the lookup. -/
theorem exists_replaced (mirrored : graph.Mirrored) (fits : candidate.Fits graph)
    (planned : candidate.plan graph = .ok plan) (granularity : Granularity) :
    ∃ axis scale withAxis prepared added moved,
      Replaced candidate plan granularity graph axis scale withAxis prepared added moved ∧
      (plan.perform candidate granularity).runOn graph =
        (candidate.tidy prepared.next).runOn moved := by
  obtain ⟨-, carries, -⟩ := reads_of_plan planned
  obtain ⟨axis, withAxis, axisRun, axisReady, axisMirrored⟩ :=
    runOn_fusedAxis mirrored candidate plan.name
  obtain ⟨scale, prepared, scaleRun, scaleReady, scaleMirrored⟩ :=
    runOn_fusedScale axisMirrored plan.name (written_of_plan planned)
  have checked : Graph.checkNode (.gatherCompressed granularity 0)
      (candidate.fusedInputs axis scale) [plan.info] plan.name prepared = .ok () :=
    Graph.checkNode_eq_ok_iff.mpr
      ⟨exists_output_fusedInputs mirrored fits axisReady scaleReady, by simp⟩
  obtain ⟨added, addRun, adds, addLists⟩ := Graph.runOn_addNode checked
  have oldCarries : added.info? (.first candidate.gather) = some plan.info :=
    adds.info?_eq_some (scaleReady.gains.info?_eq_some (axisReady.gains.info?_eq_some carries))
  have newCarries : added.info? (.first prepared.next) = some plan.info := adds.info?_next 0
  obtain ⟨old, oldThere, oldInfo⟩ := exists_output_of_info? oldCarries
  obtain ⟨new, newThere, newInfo⟩ := exists_output_of_info? newCarries
  have addMirrored := adds.mirrored scaleMirrored addLists
  obtain ⟨count, moved, moveRun, redirects, moveMirrored⟩ :=
    Graph.runOn_replaceAllUses oldThere newThere (oldInfo.trans newInfo.symm) addMirrored
  refine ⟨axis, scale, withAxis, prepared, added, moved,
    ⟨axisReady, scaleReady, adds, addMirrored, redirects, moveMirrored⟩, ?_⟩
  refine (Edit.runOn_bind_ok axisRun).trans ?_
  refine (Edit.runOn_bind_ok scaleRun).trans ?_
  refine (Edit.runOn_bind_ok addRun).trans ?_
  exact Edit.runOn_bind_ok (Edit.runOn_bind_ok moveRun)

/-- A lookup whose first output nobody reads can be removed when nobody reads any output of it. -/
theorem removable_iff_of_unread {moved : Graph}
    (unread : ∀ slot, moved.producer? slot ≠ some (.first candidate.gather)) :
    candidate.Removable moved ↔
      ∀ slot port, moved.producer? slot = some port → port.node ≠ candidate.gather := by
  constructor
  · intro removable slot port reads same
    have later : port.index ≠ 0 := fun first =>
      unread slot (reads.trans (congrArg some (Graph.eq_first_iff.mpr ⟨first, same⟩)))
    exact removable port.index later ⟨slot, reads.trans (congrArg some (Port.ext same rfl))⟩
  · rintro apart index - ⟨slot, reads⟩
    exact apart slot _ reads rfl

/-- The lookup and its chain are shed unless a further output of the lookup is read, which stops the
replacement. -/
theorem runOn_tidy {moved : Graph} (mirrored : moved.Mirrored)
    (live : ∃ frame, moved.frame? candidate.gather = some frame)
    (unread : ∀ slot, moved.producer? slot ≠ some (.first candidate.gather)) (fused : Nat) :
    (candidate.Removable moved ∧ ∃ lightened changed,
      (candidate.tidy fused).runOn moved = (.ok fused, changed) ∧
      moved.Drops candidate.gather lightened ∧
      lightened.Sheds candidate.chain.intermediates changed ∧ changed.Mirrored) ∨
    (¬candidate.Removable moved ∧ ∃ node, moved.node? candidate.gather = some node ∧
      0 < node.readerCount ∧ (candidate.tidy fused).runOn moved =
        (.error (.refusal (.nodeInUse node.name node.readerCount)), moved)) := by
  obtain ⟨_, found⟩ := live
  obtain ⟨node, live, -⟩ := Graph.frame?_eq_some_iff.mp found
  have readers := removable_iff_of_unread unread
  by_cases removable : candidate.Removable moved
  · obtain ⟨lightened, removeRun, drops, lightMirrored⟩ :=
      Graph.runOn_removeNode mirrored live (readers.mp removable)
    obtain ⟨changed, shedRun, sheds, kept⟩ :=
      runOn_removeUnused lightMirrored candidate.chain.intermediates
    have removed : Edit.runOn (discard (Graph.removeNode candidate.gather)) moved =
        (.ok (), lightened) := Edit.runOn_bind_ok removeRun
    refine .inl ⟨removable, lightened, changed, ?_, drops, sheds, kept⟩
    exact (Edit.runOn_bind_ok removed).trans (Edit.runOn_bind_ok shedRun)
  · have used : 0 < node.readerCount := Nat.pos_of_ne_zero fun zero =>
      removable (readers.mpr ((mirrored.readerCount_eq_zero_iff live).mp zero))
    have failed := Graph.runOn_removeNode_inUse live used
    exact .inr ⟨removable, node, live, used, Edit.runOn_bind_error (Edit.runOn_bind_error failed)⟩

end Candidate

end GatherFusion

import GatherFusion.Proofs.Lookup.Ancestry
import GatherFusion.Proofs.Reachable

/-!
# The effect of a replacement

What a replacement does to an acyclic graph is told here node by node. It introduces the fused
lookup, behind a fresh axis where the lookup counts its axis from the end and a fresh scale where
the table is not scaled; the fused lookup takes over all readers of the lookup; the lookup goes, and
with it every step of its chain whose readers all go. No other node changes, but that it reads the
fused lookup where it read the lookup.
-/
namespace GatherFusion

namespace Candidate

variable {candidate : Candidate} {graph changed : Graph} {plan : Plan} {granularity : Granularity}

/-! ## What a replacement introduces -/

/-- The constant zero point, of a table that is shifted. -/
def zeroPoint? (candidate : Candidate) : Option Nat :=
  (candidate.chain.dequantization.bind Dequantization.shift).map (·.zeroPoint.constant)

/-- The axis of a fused lookup: the constant of the lookup if that is zero, else a fresh scalar that
holds zero. -/
def TakesAxis (candidate : Candidate) (name : String) (graph changed : Graph) (axis : Nat) : Prop :=
  if candidate.axisValue = 0 then axis = candidate.axis
  else graph.next ≤ axis ∧ changed.frame? axis =
    some ⟨name ++ "/axis", .constant (.ofInt64s [0]), [], [.fixed .i64 []]⟩

/-- The scale of a fused lookup: the constant of a scaled table, and for a bare conversion a fresh
scalar that holds one in the type of the converted table. -/
def TakesScale (candidate : Candidate) (name : String) (graph changed : Graph) (scale : Nat) :
    Prop :=
  match candidate.chain.dequantization with
  | some dequantization => scale = dequantization.scale
  | none => graph.next ≤ scale ∧ ∃ info payload,
      graph.info? (.first candidate.chain.convert) = some info ∧
      Payload.ofFloats? info.element [.one] = some payload ∧
      changed.frame? scale =
        some ⟨name ++ "/scale", .constant payload, [], [⟨info.element, .scalar⟩]⟩

/-- A replacement has introduced the fused lookup, and besides it at most the constants that the
lookup and its chain do not have. -/
structure Introduces (candidate : Candidate) (granularity : Granularity) (graph changed : Graph)
    (fused : Nat) : Prop where
  /-- The handle of the fused lookup is fresh. -/
  fresh : graph.next ≤ fused
  /-- It is the last handle handed out. -/
  next : changed.next = fused + 1
  /-- The fused lookup has the name of the lookup and offers what the first output of the lookup
  does. It reads the table, the indices, an axis, a scale and the zero point of a shifted table.
  Nothing else is new. -/
  lookup : ∃ gather info axis scale, graph.frame? candidate.gather = some gather ∧
    graph.info? (.first candidate.gather) = some info ∧
    candidate.TakesAxis gather.name graph changed axis ∧
    candidate.TakesScale gather.name graph changed scale ∧
    changed.frame? fused = some ⟨gather.name, .gatherCompressed granularity 0,
      [.first candidate.chain.weight, candidate.indices, .first axis, .first scale] ++
        candidate.zeroPoint?.toList.map .first, [info]⟩ ∧
    ∀ id, graph.contains id = false → changed.contains id = true →
      id = fused ∨ id = axis ∨ id = scale

/-- Constants are the same in two graphs from a handle on. -/
def SameConstants (bound : Nat) (middle changed : Graph) : Prop :=
  ∀ id frame, bound ≤ id → frame.inputs = [] → middle.frame? id = some frame →
    changed.frame? id = some frame

/-- An axis that is taken stays taken while fresh constants stay. -/
theorem TakesAxis.of_sameConstants {name : String} {middle : Graph} {axis : Nat}
    (takes : candidate.TakesAxis name graph middle axis)
    (same : SameConstants graph.next middle changed) :
    candidate.TakesAxis name graph changed axis := by
  unfold TakesAxis at *
  split
  · rename_i front
    rwa [if_pos front] at takes
  · rename_i back
    rw [if_neg back] at takes
    exact ⟨takes.1, same _ _ takes.1 rfl takes.2⟩

/-- A scale that is taken stays taken while fresh constants stay. -/
theorem TakesScale.of_sameConstants {name : String} {middle : Graph} {scale : Nat}
    (takes : candidate.TakesScale name graph middle scale)
    (same : SameConstants graph.next middle changed) :
    candidate.TakesScale name graph changed scale := by
  unfold TakesScale at *
  cases scaled : candidate.chain.dequantization with
  | some dequantization => rwa [scaled] at takes
  | none =>
    rw [scaled] at takes
    obtain ⟨fresh, info, payload, carries, written, found⟩ := takes
    exact ⟨fresh, info, payload, carries, written, same _ _ fresh rfl found⟩

/-- What was introduced stays introduced while all that is new stays and nothing more appears. -/
theorem Introduces.of_thins {middle : Graph} {fused : Nat}
    (introduces : candidate.Introduces granularity graph middle fused)
    (next : changed.next = middle.next) (thins : middle.Thins changed)
    (stays : ∀ id frame, graph.next ≤ id → middle.frame? id = some frame →
      changed.frame? id = some frame) :
    candidate.Introduces granularity graph changed fused := by
  obtain ⟨gather, info, axis, scale, found, carries, takesAxis, takesScale, reads, born⟩ :=
    introduces.lookup
  have same : SameConstants graph.next middle changed :=
    fun id frame fresh _ found => stays id frame fresh found
  refine ⟨introduces.fresh, next.trans introduces.next, gather, info, axis, scale, found, carries,
    takesAxis.of_sameConstants same, takesScale.of_sameConstants same,
    stays _ _ introduces.fresh reads, fun id unborn live => born id unborn ?_⟩
  obtain ⟨frame, there⟩ := Graph.contains_iff.mp live
  exact Graph.contains_iff.mpr ⟨frame, thins id frame there⟩

/-- The axis that was made ready is the one the fused lookup takes. -/
theorem AxisReady.takesAxis {name : String} {axis : Port}
    (ready : candidate.AxisReady name graph axis changed) :
    ∃ id, axis = .first id ∧ candidate.TakesAxis name graph changed id := by
  unfold AxisReady at ready
  unfold TakesAxis
  split at ready
  · rename_i front
    exact ⟨_, ready.1, by rw [if_pos front]⟩
  · rename_i back
    refine ⟨_, ready.1, ?_⟩
    rw [if_neg back]
    exact ⟨Nat.le_refl _, ready.2.frame?_next⟩

/-- The scale that was made ready, together with the constants of the candidate, is what the fused
lookup takes behind the axis. -/
theorem ScaleReady.takesScale {name : String} {scale : Option (ElementType × Payload)}
    {ports : List Port} {withAxis : Graph}
    (ready : ScaleReady name scale withAxis ports changed)
    (missing : candidate.missingScale graph = .ok scale) (later : graph.next ≤ withAxis.next) :
    ∃ id, candidate.constants ++ ports = .first id :: candidate.zeroPoint?.toList.map .first ∧
      (∀ port ∈ ports, port = .first id) ∧ candidate.TakesScale name graph changed id := by
  unfold TakesScale
  rcases missingScale_eq_ok_iff.mp missing with
    ⟨scaled, rfl⟩ | ⟨bare, info, payload, carries, written, rfl⟩
  · obtain ⟨dequantization, scaled⟩ := Option.ne_none_iff_exists'.mp scaled
    obtain ⟨rfl, -⟩ := ready
    refine ⟨dequantization.scale, ?_, by simp, by rw [scaled]⟩
    cases shifted : dequantization.shift <;> simp [constants, zeroPoint?, scaled, shifted]
  · obtain ⟨rfl, adds⟩ := ready
    refine ⟨withAxis.next, by simp [constants, zeroPoint?, bare], by simp, ?_⟩
    rw [bare]
    exact ⟨later, info, payload, carries, written, adds.frame?_next⟩

/-! ## Up to the removal of the lookup -/

namespace Replaced

variable {axis : Port} {scale : List Port} {withAxis prepared added moved : Graph}
  (replaced : Replaced candidate plan granularity graph axis scale withAxis prepared added moved)
include replaced

section

variable (mirrored : graph.Mirrored) (fits : candidate.Fits graph) (acyclic : graph.Acyclic)
include mirrored fits acyclic

/-- In an acyclic graph the fused lookup does not read the lookup. -/
theorem first_gather_not_mem : .first candidate.gather ∉ candidate.fusedInputs axis scale := by
  intro operand
  refine replaced.not_leads fits (replaced.acyclic_added mirrored acyclic).2 (.single ?_)
  exact ⟨_, _, replaced.adds.frame?_next, operand, rfl⟩

/-- The lookup was read before where it is read once the fused lookup was added. -/
theorem reads_gather_added (slot : Slot) :
    added.producer? slot = some (.first candidate.gather) ↔
      graph.producer? slot = some (.first candidate.gather) := by
  simp only [Graph.producer?_eq_some_iff]
  constructor
  · rintro ⟨frame, found, position⟩
    rcases replaced.frame?_added_cases found with old | ⟨-, rfl⟩ | ⟨-, scalar⟩
    · exact ⟨frame, old, position⟩
    · exact absurd (List.mem_of_getElem? position)
        (replaced.first_gather_not_mem mirrored fits acyclic)
    · simp [scalar.inputs] at position
  · rintro ⟨frame, found, position⟩
    exact ⟨frame, replaced.frame?_added found, position⟩

/-- The fused lookup is read where the lookup was read. -/
theorem reads_fused (slot : Slot) : moved.producer? slot = some (.first prepared.next) ↔
    graph.producer? slot = some (.first candidate.gather) := by
  have unread (slot : Slot) : added.producer? slot ≠ some (.first prepared.next) := by
    intro reads
    obtain ⟨frame, found, position⟩ := Graph.producer?_eq_some_iff.mp reads
    have older := (replaced.adds.feeds_cases (replaced.acyclic_added mirrored acyclic).1
      ⟨frame, _, found, List.mem_of_getElem? position, rfl⟩).1
    exact Nat.lt_irrefl _ older
  rw [replaced.redirects.reads_target unread, replaced.reads_gather_added mirrored fits acyclic]

/-- The fused lookup reads what it was made to read, also when it has taken over. -/
theorem frame?_fused : moved.frame? prepared.next = some ⟨plan.name,
    .gatherCompressed granularity 0, candidate.fusedInputs axis scale, [plan.info]⟩ := by
  refine (replaced.redirects.frame?_eq_some replaced.adds.frame?_next).trans ?_
  refine congrArg some (Frame.redirect_of_not_mem _ ?_)
  exact replaced.first_gather_not_mem mirrored fits acyclic

/-- Before the lookup is removed, its replacement has introduced what it is to introduce. -/
theorem introduces (planned : candidate.plan graph = .ok plan) :
    candidate.Introduces granularity graph moved prepared.next := by
  obtain ⟨⟨node, found, name⟩, carries, missing⟩ := reads_of_plan planned
  have toAxis : graph.next ≤ withAxis.next := replaced.axisReady.gains.next_le
  have kept {id : Nat} {frame : Frame} (empty : frame.inputs = [])
      (there : prepared.frame? id = some frame) : moved.frame? id = some frame := by
    rw [replaced.redirects.frame?_eq_some (replaced.adds.frame?_eq_some there),
      Frame.redirect_of_not_mem _ (by simp [empty])]
  have fromAxis : SameConstants graph.next withAxis moved := fun id frame _ empty there =>
    kept empty (replaced.scaleReady.gains.frame?_eq_some there)
  have fromScale : SameConstants graph.next prepared moved := fun id frame _ empty there =>
    kept empty there
  obtain ⟨axisId, rfl, takesAxis⟩ := replaced.axisReady.takesAxis
  obtain ⟨scaleId, inputs, only, takesScale⟩ := replaced.scaleReady.takesScale missing toAxis
  rw [← name] at takesAxis takesScale
  refine ⟨replaced.next_le.1, replaced.next_le.2, node.frame, plan.info, axisId, scaleId,
    Graph.frame?_of_node? found, carries, takesAxis.of_sameConstants fromAxis,
    takesScale.of_sameConstants fromScale, ?_, fun id unborn live => ?_⟩
  · rw [replaced.frame?_fused mirrored fits acyclic, fusedInputs, inputs, ← name]
    rfl
  · obtain ⟨frame, there⟩ := Graph.contains_iff.mp live
    obtain ⟨before, born, -⟩ := replaced.redirects.exists_frame there
    rcases replaced.frame?_added_cases born with old | ⟨same, -⟩ | ⟨constant, -⟩
    · rw [Graph.contains_eq_false_iff.mp unborn] at old
      contradiction
    · exact .inl same
    · rcases List.mem_cons.mp constant with same | inside
      · exact .inr (.inl (congrArg Port.node same))
      · exact .inr (.inr (congrArg Port.node (only _ inside)))

end

end Replaced

/-! ## What a replacement lets go -/

/-- The nodes a replacement lets go, and no others: the lookup, and each step of the chain that does
not produce the indices and whose readers all go. -/
inductive Released (candidate : Candidate) (graph : Graph) : Nat → Prop where
  /-- The lookup goes. -/
  | lookup : Released candidate graph candidate.gather
  /-- A step goes when all go that read it. -/
  | step {id : Nat} (inside : id ∈ candidate.chain.intermediates)
    (apart : id ≠ candidate.indices.node)
    (readers : ∀ slot port, graph.producer? slot = some port → port.node = id →
      Released candidate graph slot.node) : Released candidate graph id

/-- A fused lookup has taken the place of a lookup, and certain nodes are gone. -/
structure Supersedes (candidate : Candidate) (granularity : Granularity) (graph changed : Graph)
    (fused : Nat) (gone : Nat → Prop) : Prop where
  /-- The fused lookup was introduced. -/
  introduces : candidate.Introduces granularity graph changed fused
  /-- It has the readers of the lookup. -/
  readers : changed.readers (.first fused) = graph.readers (.first candidate.gather)
  /-- These nodes and no others are gone. -/
  removed : ∀ id, graph.contains id = true ∧ changed.contains id = false ↔ gone id
  /-- All others are as before, but that they read the fused lookup in the place of the lookup. -/
  kept : ∀ id frame, graph.frame? id = some frame → ¬gone id →
    changed.frame? id = some (frame.redirect (.first candidate.gather) (.first fused))

/-- A port that the fused lookup reads is that of the indices, or belongs to a constant or a new
node. -/
theorem Replaced.operand_cases {axis : Port} {scale : List Port}
    {withAxis prepared added moved : Graph}
    (replaced : Replaced candidate plan granularity graph axis scale withAxis prepared added moved)
    (fits : candidate.Fits graph) {port : Port} (operand : port ∈ candidate.fusedInputs axis scale) :
    port = candidate.indices ∨ graph.next ≤ port.node ∨
      ∃ frame, graph.frame? port.node = some frame ∧ frame.operation.isStep = false := by
  have constant {port : Port} (holds : graph.Holds port) :
      ∃ frame, graph.frame? port.node = some frame ∧ frame.operation.isStep = false := by
    obtain ⟨frame, found, noStep, -⟩ := holds.exists_frame
    exact ⟨frame, found, noStep⟩
  simp only [fusedInputs, List.mem_cons, List.mem_append] at operand
  rcases operand with rfl | rfl | rfl | inside | inside
  · exact .inr (.inr (constant fits.holds_weight))
  · exact .inl rfl
  · rcases replaced.axisReady.cases with rfl | made
    · obtain ⟨-, position, _, -, same, reads, -⟩ := fits
      have there := constant (Graph.holds_of_integers? reads)
      rw [same] at there
      exact .inr (.inr there)
    · obtain ⟨rfl, -⟩ := replaced.axisReady.gains.exists_frame made
      exact .inr (.inl (Nat.le_refl _))
  · exact .inr (.inr (constant (fits.holds_constants port inside)))
  · obtain ⟨rfl, -⟩ := replaced.scaleReady.gains.exists_frame inside
    exact .inr (.inl replaced.axisReady.gains.next_le)

/-! ## What goes -/

/-- New nodes are neither the lookup nor steps of its chain. -/
theorem Fits.not_mem_of_fresh (fits : candidate.Fits graph) {id : Nat} (fresh : graph.next ≤ id) :
    id ∉ candidate.gather :: candidate.chain.intermediates := by
  intro inside
  obtain ⟨frame, found⟩ := fits.exists_frame_of_mem inside
  have older := Graph.lt_next_of_frame? found
  omega

/-- The lookup is no constant. -/
theorem Fits.ne_gather_of_holds (fits : candidate.Fits graph) {port : Port}
    (holds : graph.Holds port) : port.node ≠ candidate.gather := by
  intro same
  obtain ⟨-, axis, info, reads, -⟩ := fits
  rw [← same] at reads
  exact reads.not_holds rfl holds

/-- In an acyclic graph neither the lookup nor a step of its chain reads the lookup. -/
theorem Fits.not_reads_gather (fits : candidate.Fits graph) (acyclic : graph.Acyclic) {slot : Slot}
    (inside : slot.node ∈ candidate.gather :: candidate.chain.intermediates) {port : Port}
    (reads : graph.producer? slot = some port) : port.node ≠ candidate.gather := by
  intro same
  obtain ⟨frame, found, position⟩ := Graph.producer?_eq_some_iff.mp reads
  have feeds : graph.Feeds candidate.gather slot.node :=
    ⟨frame, port, found, List.mem_of_getElem? position, same⟩
  rcases List.mem_cons.mp inside with lookup | step
  · exact acyclic candidate.gather (.single (lookup ▸ feeds))
  · have leads := fits.leads_of_mem (fun _ _ found => found) slot.node step
    exact acyclic candidate.gather (.head feeds leads)

/-- A node that is let go was there. -/
theorem Released.mem {id : Nat} (released : candidate.Released graph id) :
    id ∈ candidate.gather :: candidate.chain.intermediates := by
  cases released with
  | lookup => exact List.mem_cons_self
  | step inside => exact List.mem_cons_of_mem _ inside

namespace Replaced

variable {axis : Port} {scale : List Port} {withAxis prepared added moved lightened : Graph}
  (replaced : Replaced candidate plan granularity graph axis scale withAxis prepared added moved)
include replaced

/-- Ports of other nodes than the lookup are read where they were read, and besides by the fused
lookup. -/
theorem reads_moved_iff {slot : Slot} {port : Port} (old : port.node < graph.next)
    (apart : port.node ≠ candidate.gather) : moved.producer? slot = some port ↔
      graph.producer? slot = some port ∨ slot.node = prepared.next ∧
        (candidate.fusedInputs axis scale)[slot.index]? = some port := by
  have fresh : port.node ≠ prepared.next := by
    have grown := replaced.next_le.1
    omega
  rw [replaced.redirects.reads_other (fun same => apart (congrArg Port.node same))
    (fun same => fresh (congrArg Port.node same))]
  simp only [Graph.producer?_eq_some_iff]
  constructor
  · rintro ⟨frame, found, position⟩
    rcases replaced.frame?_added_cases found with there | ⟨same, rfl⟩ | ⟨-, scalar⟩
    · exact .inl ⟨frame, there, position⟩
    · exact .inr ⟨same, position⟩
    · simp [scalar.inputs] at position
  · rintro (⟨frame, found, position⟩ | ⟨same, position⟩)
    · exact ⟨frame, replaced.frame?_added found, position⟩
    · exact ⟨_, same ▸ replaced.adds.frame?_next, position⟩

variable (fits : candidate.Fits graph) (drops : moved.Drops candidate.gather lightened)
  (sheds : lightened.Sheds candidate.chain.intermediates changed)
include fits drops sheds

/-- The lookup is shed first and then its chain. -/
theorem sheds_all : moved.Sheds (candidate.gather :: candidate.chain.intermediates) changed := by
  obtain ⟨lookup, _, there, -⟩ := fits.exists_frame
  exact .drop ⟨_, replaced.frame?_eq_some there⟩ drops sheds

/-- Every step of the chain is shed or read. -/
theorem goneOrRead : ∀ id ∈ candidate.chain.intermediates, changed.GoneOrRead id := by
  have frames : ∀ id ∈ candidate.chain.intermediates, ∀ frame,
      lightened.frame? id = some frame → graph.frame? id = some frame := by
    intro id inside frame found
    obtain ⟨before, there⟩ := fits.1.exists_frame inside
    obtain ⟨-, -, operands⟩ := fits.1.steps_of_frame? inside there
    have unread : .first candidate.gather ∉ before.inputs := by
      intro operand
      rcases operands _ operand with ⟨below, step, same⟩ | holds
      · have lookup : candidate.gather = below := congrArg Port.node same
        exact fits.gather_not_mem (lookup ▸ step)
      · exact fits.ne_gather_of_holds holds rfl
    have survives := drops.thins id frame found
    rwa [replaced.frame?_eq_some there, Frame.redirect_of_not_mem _ unread, ← there] at survives
  have holds (port : Port) (holds : graph.Holds port) : lightened.Holds port := by
    have apart := fits.ne_gather_of_holds holds
    obtain ⟨frame, payload, info, found, operation, position⟩ := Graph.holds_iff.mp holds
    refine Graph.holds_iff.mpr ⟨frame.redirect (.first candidate.gather) (.first prepared.next),
      payload, info, ?_, operation, position⟩
    exact drops.frame?_eq_some_iff.mpr ⟨apart, replaced.frame?_eq_some found⟩
  refine sheds.goneOrRead (fits.1.descends.transfer frames holds) (fun _ _ found => found) ?_
  rintro id inside ⟨index, constant⟩
  obtain ⟨frame, found, noStep, -⟩ := constant.exists_frame
  obtain ⟨step, -⟩ := fits.1.steps_of_frame? inside (frames id inside frame found)
  rw [noStep] at step
  contradiction

/-- What was to be let go is shed. -/
theorem frame?_eq_none_of_released {id : Nat} (released : candidate.Released graph id) :
    changed.frame? id = none := by
  induction released with
  | lookup => exact sheds.thins.frame?_eq_none drops.frame?_eq_none
  | @step id inside apart readers ih =>
    rcases replaced.goneOrRead fits drops sheds id inside with gone | ⟨index, slot, reads⟩
    · exact gone
    exfalso
    obtain ⟨frame, found⟩ := fits.1.exists_frame inside
    obtain ⟨step, -⟩ := fits.1.steps_of_frame? inside found
    have old := Graph.lt_next_of_frame? found
    have other : id ≠ candidate.gather := fun same => fits.gather_not_mem (same ▸ inside)
    obtain ⟨reader, left, -⟩ := Graph.producer?_eq_some_iff.mp reads
    have before : moved.producer? slot = some ⟨id, index⟩ :=
      ((replaced.sheds_all fits drops sheds).thins.producer?_eq left).symm.trans reads
    rcases (replaced.reads_moved_iff old other).mp before with reads | ⟨-, position⟩
    · rw [ih slot _ reads rfl] at left
      contradiction
    · rcases replaced.operand_cases fits (List.mem_of_getElem? position) with
        indices | fresh | ⟨constant, there, noStep⟩
      · exact apart (congrArg Port.node indices)
      · exact absurd old (Nat.not_lt.mpr fresh)
      · have same : some constant = some frame := there.symm.trans found
        rw [Option.some.inj same, step] at noStep
        contradiction

variable (mirrored : graph.Mirrored) (acyclic : graph.Acyclic)
include mirrored acyclic

/-- What is shed was to be let go. -/
theorem released_of_lost {id : Nat} {frame : Frame} (found : graph.frame? id = some frame)
    (gone : changed.frame? id = none) : candidate.Released graph id := by
  -- The readers of a node that is shed are shed before it, so the induction is from the readers.
  have readersFirst : Acc (Function.swap graph.Feeds) id :=
    mirrored.acc_of_not_beforeCycle fun ⟨origin, cycle, _⟩ => acyclic origin cycle
  induction readersFirst generalizing frame with
  | intro id _ ih =>
    obtain ⟨inside, middle, thins, later, keeps, unread⟩ :=
      (replaced.sheds_all fits drops sheds).of_lost (replaced.frame?_eq_some found) gone
    have old := Graph.lt_next_of_frame? found
    rcases List.mem_cons.mp inside with rfl | step
    · exact .lookup
    have other : id ≠ candidate.gather := fun same => fits.gather_not_mem (same ▸ step)
    refine .step step ?_ fun slot port reads same => ?_
    · rintro rfl
      have stays := keeps _ (fits.not_mem_of_fresh replaced.next_le.1) _
        (replaced.frame?_fused mirrored fits acyclic)
      have reads : moved.producer? ⟨prepared.next, 1⟩ = some candidate.indices :=
        (replaced.reads_moved_iff old other).mpr (.inr ⟨rfl, rfl⟩)
      exact unread _ _ ((thins.producer?_eq stays).trans reads) rfl
    · subst same
      obtain ⟨reader, live, position⟩ := Graph.producer?_eq_some_iff.mp reads
      refine ih slot.node ⟨reader, port, live, List.mem_of_getElem? position, rfl⟩ live ?_
      cases left : changed.frame? slot.node with
      | none => rfl
      | some frame =>
        have before := (replaced.reads_moved_iff old other).mpr (.inl reads)
        exact absurd rfl (unread slot port ((thins.producer?_eq (later _ _ left)).trans before))

/-- The fused lookup keeps the readers it took over. -/
theorem readers_fused (still : changed.Mirrored) :
    changed.readers (.first prepared.next) = graph.readers (.first candidate.gather) := by
  have shed := replaced.sheds_all fits drops sheds
  refine mirrored.readers_eq still fun slot => ?_
  rw [← replaced.reads_fused mirrored fits acyclic]
  constructor
  · intro reads
    obtain ⟨frame, left, -⟩ := Graph.producer?_eq_some_iff.mp reads
    exact (shed.thins.producer?_eq left).symm.trans reads
  · intro reads
    have before := (replaced.reads_fused mirrored fits acyclic slot).mp reads
    have outside : slot.node ∉ candidate.gather :: candidate.chain.intermediates :=
      fun inside => fits.not_reads_gather acyclic inside before rfl
    obtain ⟨frame, found, -⟩ := Graph.producer?_eq_some_iff.mp reads
    exact (shed.thins.producer?_eq (shed.keepsOutside _ outside _ found)).trans reads

/-- When lookup and chain are shed, the fused lookup has taken the place of the lookup, and what was
to be let go is gone. -/
theorem supersedes (planned : candidate.plan graph = .ok plan) (still : changed.Mirrored) :
    candidate.Supersedes granularity graph changed prepared.next (candidate.Released graph) where
  introduces := by
    have shed := replaced.sheds_all fits drops sheds
    refine (replaced.introduces mirrored fits acyclic planned).of_thins shed.next shed.thins ?_
    exact fun id frame fresh there => shed.keepsOutside id (fits.not_mem_of_fresh fresh) frame there
  readers := replaced.readers_fused fits drops sheds mirrored acyclic still
  removed id := by
    rw [Graph.contains_iff, Graph.contains_eq_false_iff]
    constructor
    · rintro ⟨⟨frame, found⟩, gone⟩
      exact replaced.released_of_lost fits drops sheds mirrored acyclic found gone
    · intro released
      exact ⟨fits.exists_frame_of_mem released.mem,
        replaced.frame?_eq_none_of_released fits drops sheds released⟩
  kept id frame found stays := by
    have shed := replaced.sheds_all fits drops sheds
    cases left : changed.frame? id with
    | none =>
      have released := replaced.released_of_lost fits drops sheds mirrored acyclic found left
      exact absurd released stays
    | some after => rw [← shed.thins id after left, replaced.frame?_eq_some found]

end Replaced

/-- When the lookup cannot be removed, the fused lookup has taken its place and nothing is gone. -/
theorem Replaced.supersedes_of_stuck {axis : Port} {scale : List Port}
    {withAxis prepared added moved : Graph}
    (replaced : Replaced candidate plan granularity graph axis scale withAxis prepared added moved)
    (fits : candidate.Fits graph) (mirrored : graph.Mirrored) (acyclic : graph.Acyclic)
    (planned : candidate.plan graph = .ok plan) :
    candidate.Supersedes granularity graph moved prepared.next fun _ => False where
  introduces := replaced.introduces mirrored fits acyclic planned
  readers := mirrored.readers_eq replaced.movedMirrored (replaced.reads_fused mirrored fits acyclic)
  removed id := by
    rw [Graph.contains_iff, Graph.contains_eq_false_iff, iff_false]
    rintro ⟨⟨frame, found⟩, gone⟩
    rw [replaced.frame?_eq_some found] at gone
    contradiction
  kept _ _ found _ := replaced.frame?_eq_some found

/-- A replacement that succeeds was planned. -/
theorem exists_plan_of_replaced {layout : Layout} {fused : Nat}
    (succeeded : (candidate.replace layout).runOn graph = (.ok fused, changed)) :
    ∃ plan, candidate.plan graph = .ok plan := by
  cases planned : candidate.plan graph with
  | ok plan => exact ⟨plan, rfl⟩
  | error failure =>
    rw [runOn_replace_of_unplanned planned] at succeeded
    simp at succeeded

end Candidate

/-- A replacement that succeeds on a recognized lookup of an acyclic graph introduces the fused
lookup, hands it the readers of the lookup, and lets the lookup go with those steps of its chain
that nothing else reads. It does nothing else. -/
theorem replacement_supersedes (history : List Action) (acyclic : (Graph.after history).Acyclic)
    {gather : Nat} {candidate : Candidate}
    (recognized : (Graph.after history).recognize gather = .ok (.ok candidate)) {layout : Layout}
    {fused : Nat} {changed : Graph}
    (succeeded : (candidate.replace layout).runOn (Graph.after history) = (.ok fused, changed)) :
    candidate.gather = gather ∧
      candidate.Supersedes layout.granularity (Graph.after history) changed fused
        (candidate.Released (Graph.after history)) := by
  have mirrored := Graph.mirrored_after history
  obtain ⟨same, fits⟩ := mirrored.recognize_eq_ok_iff.mp recognized
  obtain ⟨plan, planned⟩ := Candidate.exists_plan_of_replaced succeeded
  obtain ⟨axis, scale, withAxis, prepared, added, moved, replaced, outcome⟩ :=
    Candidate.runOn_replace_cases mirrored fits planned layout
  refine ⟨same, ?_⟩
  rcases outcome with ⟨-, lightened, after, run, drops, sheds, still⟩ | ⟨-, node, -, -, run⟩
  · rw [succeeded, Prod.mk.injEq, Except.ok.injEq] at run
    obtain ⟨rfl, rfl⟩ := run
    exact replaced.supersedes fits drops sheds mirrored acyclic planned still
  · rw [succeeded] at run
    simp at run

/-- A lookup, along a negative axis, in a converted table that an output reads as well. -/
def sharedConversion : List Action := [
  .addConstant "weight" (.fixed .u8 [2, 2]) ⟨[5, 6, 7, 8]⟩,
  .addConstant "axis" (.fixed .i64 []) (.ofInt64s [-2]),
  .addParameter "indices" (.fixed .i64 [3]),
  .addNode .convert [.first 0] [.fixed .f16 [2, 2]] "converted",
  .addNode (.gather 0) [.first 3, .first 2, .first 1] [.fixed .f16 [3, 2]] "lookup",
  .addResult "rows" (.first 4),
  .addResult "table" (.first 3)]

/-- The candidate at that lookup. -/
def bareLookup : Candidate := ⟨4, .first 2, 1, -2, ⟨0, 3, none, none, none⟩⟩

/-- The lookup is replaced behind a fresh axis and a fresh scale, and the conversion stays. -/
theorem replacement_supersedes_bareLookup : ∃ changed : Graph,
    (Graph.after sharedConversion).recognize 4 = .ok (.ok bareLookup) ∧
      (bareLookup.replace ⟨.symmetric, .perTensor⟩).runOn (Graph.after sharedConversion) =
        (.ok 9, changed) ∧
      bareLookup.Supersedes .perTensor (Graph.after sharedConversion) changed 9
        (bareLookup.Released (Graph.after sharedConversion)) ∧
      changed.ids = [0, 1, 2, 3, 5, 6, 7, 8, 9] := by
  have acyclic : (Graph.after sharedConversion).Acyclic :=
    Graph.acyclic_of_older (by decide +kernel)
  have recognized : (Graph.after sharedConversion).recognize 4 = .ok (.ok bareLookup) := by
    decide +kernel
  have outcome : ((bareLookup.replace ⟨.symmetric, .perTensor⟩).runOn
      (Graph.after sharedConversion)).1 = .ok 9 := by decide +kernel
  have left : ((bareLookup.replace ⟨.symmetric, .perTensor⟩).runOn
      (Graph.after sharedConversion)).2.ids = [0, 1, 2, 3, 5, 6, 7, 8, 9] := by decide +kernel
  have succeeded := Edit.runOn_eq_of_fst outcome
  have supersedes := (replacement_supersedes sharedConversion acyclic recognized succeeded).2
  exact ⟨_, recognized, succeeded, supersedes, left⟩

end GatherFusion

import GatherFusion.Proofs.Graph.Mirror
import GatherFusion.Proofs.Lookup.Footprint

/-!
# How a graph evolves under fusion

While lookups are fused, a node that survives keeps its name, its operation and the tensors it
offers; its operands change only where the first output of a lookup was taken over by a fused
lookup. Constants and fused lookups are the only nodes that appear, and steps of a decompression or
a lookup the only ones that go. `Graph.Evolves` says this of two moments of such a process; the map
it carries tells which port is read in the place of which.
-/
namespace GatherFusion

/-- A frame whose operands are renamed. -/
def Frame.rename (move : Port → Port) (frame : Frame) : Frame :=
  { frame with inputs := frame.inputs.map move }

namespace Graph

/-- Some slot reads a port. -/
def IsRead (graph : Graph) (port : Port) : Prop := ∃ slot, graph.producer? slot = some port

/-- A fused lookup offers what the first output of a lookup offered: the same tensor, which holds
floating-point elements. -/
structure TakenOver (old new : Graph) (before after : Port) : Prop where
  /-- Both ports are first outputs. -/
  firsts : before.index = 0 ∧ after.index = 0
  /-- The first port belonged to a lookup. -/
  lookup : ∃ frame, old.frame? before.node = some frame ∧ frame.operation.isGather = true
  /-- The second port belongs to a fused lookup. -/
  fused : ∃ frame, new.frame? after.node = some frame ∧ frame.operation.isGatherCompressed = true
  /-- Both carry the same tensor. -/
  carried : ∃ info, old.info? before = some info ∧ new.info? after = some info ∧
    info.element.isFloat = true

/-- What fusion may do to a graph. -/
structure Evolves (move : Port → Port) (old new : Graph) : Prop where
  /-- Handles are only used up. -/
  next : old.next ≤ new.next
  /-- A port that is no longer read was taken over. -/
  moved : ∀ port, move port = port ∨ TakenOver old new port (move port)
  /-- A surviving node changes its operands only. -/
  kept : ∀ id before after, old.frame? id = some before → new.frame? id = some after →
    after = before.rename move
  /-- New nodes are constants, which read nothing, and fused lookups. -/
  born : ∀ id after, old.frame? id = none → new.frame? id = some after → old.next ≤ id ∧
    ((after.operation.isConstant = true ∧ after.inputs = []) ∨
      after.operation.isGatherCompressed = true)
  /-- Only steps of a decompression or a lookup go. -/
  lost : ∀ id before, old.frame? id = some before → new.frame? id = none →
    before.operation.isStep = true
  /-- Whether a further output of a lookup is read does not change. -/
  spare : ∀ id frame index, new.frame? id = some frame → frame.operation.isGather = true →
    index ≠ 0 → (old.IsRead ⟨id, index⟩ ↔ new.IsRead ⟨id, index⟩)

/-- Renaming nothing changes nothing. -/
@[simp] theorem Frame.rename_id (frame : Frame) : frame.rename id = frame := by
  simp [Frame.rename]

/-- Renaming twice renames once. -/
theorem Frame.rename_rename (first second : Port → Port) (frame : Frame) :
    (frame.rename first).rename second = frame.rename (second ∘ first) := by
  simp [Frame.rename]

namespace Evolves

/-- Nothing happens to a graph that stays as it is. -/
theorem refl (graph : Graph) : Evolves id graph graph where
  next := Nat.le_refl _
  moved _ := .inl rfl
  kept id before after found again := by
    rw [found, Option.some.injEq] at again
    rw [← again, Frame.rename_id]
  born id after gone found := by
    rw [gone] at found
    contradiction
  lost id before found gone := by
    rw [gone] at found
    contradiction
  spare _ _ _ _ _ _ := Iff.rfl

section

variable {old new : Graph} {move : Port → Port} (evolves : Evolves move old new)
include evolves

/-- A lookup was there before. -/
theorem exists_of_isGather {id : Nat} {frame : Frame} (found : new.frame? id = some frame)
    (lookup : frame.operation.isGather = true) : ∃ before, old.frame? id = some before := by
  cases there : old.frame? id with
  | some before => exact ⟨before, rfl⟩
  | none =>
    obtain ⟨-, fresh⟩ := evolves.born id frame there found
    cases operation : frame.operation <;>
      simp [operation, Operation.isGather, Operation.isConstant, Operation.isGatherCompressed]
        at lookup fresh

/-- A node that is no step stays. -/
theorem exists_of_not_isStep {id : Nat} {frame : Frame} (found : old.frame? id = some frame)
    (stays : frame.operation.isStep = false) :
    ∃ after, new.frame? id = some after ∧ after = frame.rename move := by
  cases there : new.frame? id with
  | some after => exact ⟨after, rfl, evolves.kept id frame after found there⟩
  | none =>
    have goes := evolves.lost id frame found there
    rw [stays] at goes
    contradiction

/-- A surviving node offers what it offered. -/
theorem info?_eq_of_frame? {id : Nat} {before after : Frame} (found : old.frame? id = some before)
    (survives : new.frame? id = some after) (index : Nat) :
    new.info? ⟨id, index⟩ = old.info? ⟨id, index⟩ := by
  rw [info?_eq, info?_eq, found, survives, evolves.kept id before after found survives]
  rfl

/-- A port of a surviving node other than a lookup is read where it was. -/
theorem move_eq_self {port : Port} {frame : Frame} (found : old.frame? port.node = some frame)
    (other : frame.operation.isGather = false) : move port = port := by
  rcases evolves.moved port with same | taken
  · exact same
  · obtain ⟨lookup, again, gathers⟩ := taken.lookup
    rw [found, Option.some.injEq] at again
    rw [again, gathers] at other
    contradiction

/-- A port read now that does not belong to a fused lookup was read before. -/
theorem eq_of_move_eq {port target : Port} {frame : Frame} (moved : move port = target)
    (found : new.frame? target.node = some frame)
    (other : frame.operation.isGatherCompressed = false) : port = target := by
  rcases evolves.moved port with same | taken
  · exact same.symm.trans moved
  · obtain ⟨fused, again, fuses⟩ := taken.fused
    rw [moved, found, Option.some.injEq] at again
    rw [again, fuses] at other
    contradiction

end

/-- A port that is taken over later was there from the start. -/
theorem takenOver_before {old middle new : Graph} {move : Port → Port}
    (before : Evolves move old middle) {port target : Port}
    (taken : TakenOver middle new port target) : TakenOver old new port target := by
  obtain ⟨frame, found, lookup⟩ := taken.lookup
  obtain ⟨earlier, foundEarlier⟩ := before.exists_of_isGather found lookup
  refine ⟨taken.firsts, ⟨earlier, foundEarlier, ?_⟩, taken.fused, ?_⟩
  · rw [before.kept _ _ _ foundEarlier found] at lookup
    exact lookup
  · rw [← before.info?_eq_of_frame? foundEarlier found port.index]
    exact taken.carried

/-- A fused lookup that took a port over is still there later, and read where it is. -/
theorem takenOver_after {old middle new : Graph} {move : Port → Port}
    (after : Evolves move middle new) {port target : Port}
    (taken : TakenOver old middle port target) :
    move target = target ∧ TakenOver old new port target := by
  obtain ⟨fused, found, fuses⟩ := taken.fused
  obtain ⟨stays, noLookup⟩ := Operation.not_isStep_of_isGatherCompressed fuses
  obtain ⟨later, foundLater, same⟩ := after.exists_of_not_isStep found stays
  refine ⟨after.move_eq_self found noLookup, taken.firsts, taken.lookup,
    ⟨later, foundLater, ?_⟩, ?_⟩
  · rw [same]
    exact fuses
  · rw [after.info?_eq_of_frame? found foundLater target.index]
    exact taken.carried

/-- Two spells of evolution are one. -/
theorem trans {old middle new : Graph} {first second : Port → Port}
    (before : Evolves first old middle) (after : Evolves second middle new) :
    Evolves (second ∘ first) old new where
  next := Nat.le_trans before.next after.next
  moved port := by
    rw [Function.comp_apply]
    -- A port that was exchanged in the first spell is a fused lookup's, and stays in the second.
    rcases before.moved port with same | taken
    · rw [same]
      exact (after.moved port).imp_right before.takenOver_before
    · obtain ⟨unmoved, still⟩ := after.takenOver_after taken
      rw [unmoved]
      exact .inr still
  kept id earlier later found survives := by
    cases there : middle.frame? id with
    | some frame =>
      rw [after.kept id frame later there survives, before.kept id earlier frame found there,
        Frame.rename_rename]
    | none =>
      have below : id < old.next := lt_next_of_frame? found
      have above := (after.born id later there survives).1
      have grown := before.next
      omega
  born id later gone found := by
    cases there : middle.frame? id with
    | some frame =>
      obtain ⟨fresh, kind⟩ := before.born id frame gone there
      rw [after.kept id frame later there found]
      refine ⟨fresh, kind.imp_left fun ⟨constant, readsNothing⟩ => ⟨constant, ?_⟩⟩
      simp [Frame.rename, readsNothing]
    | none =>
      obtain ⟨fresh, kind⟩ := after.born id later there found
      exact ⟨Nat.le_trans before.next fresh, kind⟩
  lost id earlier found gone := by
    cases there : middle.frame? id with
    | some frame =>
      have goes := after.lost id frame there gone
      rw [before.kept id earlier frame found there] at goes
      exact goes
    | none => exact before.lost id earlier found there
  spare id frame index found lookup later := by
    obtain ⟨earlier, foundEarlier⟩ := after.exists_of_isGather found lookup
    have stillLookup : earlier.operation.isGather = true := by
      rw [after.kept id earlier frame foundEarlier found] at lookup
      exact lookup
    exact (before.spare id earlier index foundEarlier stillLookup later).trans
      (after.spare id frame index found lookup later)

end Evolves

/-! ## The steps of a replacement -/

section

variable {graph changed : Graph}

/-- After a node was added a port is read that was read or that the new node reads. -/
theorem Adds.isRead_iff {frame : Frame} (adds : Adds graph frame changed) {port : Port} :
    changed.IsRead port ↔ graph.IsRead port ∨ port ∈ frame.inputs := by
  constructor
  · rintro ⟨slot, reads⟩
    rw [adds.producer?] at reads
    split at reads
    · exact .inr (List.mem_of_getElem? reads)
    · exact .inl ⟨slot, reads⟩
  · rintro (⟨slot, reads⟩ | operand)
    · have old : slot.node ≠ graph.next := by
        intro fresh
        simp [Graph.producer?, fresh] at reads
      exact ⟨slot, by rw [adds.producer?, if_neg old, reads]⟩
    · obtain ⟨index, position⟩ := List.mem_iff_getElem?.mp operand
      exact ⟨⟨graph.next, index⟩, by rw [adds.producer?, if_pos rfl, position]⟩

/-- Adding a constant or a fused lookup is evolution, if it reads no further output that nobody else
reads. -/
theorem Adds.evolves {frame : Frame} (adds : Adds graph frame changed)
    (kind : (frame.operation.isConstant = true ∧ frame.inputs = []) ∨
      frame.operation.isGatherCompressed = true)
    (read : ∀ port ∈ frame.inputs, port.index ≠ 0 → graph.IsRead port) :
    Evolves id graph changed where
  next := adds.next ▸ Nat.le_succ _
  moved _ := .inl rfl
  kept id before after found survives := by
    rw [adds.frame?_eq_some found, Option.some.injEq] at survives
    rw [← survives, Frame.rename_id]
  born id after gone found := by
    rcases adds.frame?_cases found with ⟨fresh, rfl⟩ | old
    · exact ⟨Nat.le_of_eq fresh.symm, kind⟩
    · rw [gone] at old
      contradiction
  lost id before found gone := by
    rw [adds.frame?_eq_some found] at gone
    contradiction
  spare id other index found lookup later := by
    rw [adds.isRead_iff]
    exact ⟨.inl, fun either => either.elim (fun old => old) fun operand => read _ operand later⟩

/-- Handing the first output of a lookup to a fused lookup is evolution. -/
theorem Redirects.evolves {gather fused : Nat} {lookup taker : Frame}
    {info : TensorInfo} (redirects : Redirects graph (.first gather) (.first fused) changed)
    (found : graph.frame? gather = some lookup) (gathers : lookup.operation.isGather = true)
    (offered : graph.frame? fused = some taker)
    (fuses : taker.operation.isGatherCompressed = true)
    (carried : graph.info? (.first gather) = some info) (float : info.element.isFloat = true) :
    Evolves (fun port => if port = .first gather then .first fused else port) graph changed where
  next := Nat.le_of_eq redirects.next.symm
  moved port := by
    by_cases same : port = .first gather
    · obtain ⟨other, source, target⟩ := redirects.agree
      rw [carried, Option.some.injEq] at source
      subst source same
      have taken := redirects.frame?_eq_some offered
      have carries : changed.info? (.first fused) = some info := by
        rw [← target, info?_eq, info?_eq]
        simp only [Port.first, taken, offered, Option.bind_some, Frame.redirect]
      rw [if_pos rfl]
      exact .inr ⟨⟨rfl, rfl⟩, ⟨lookup, found, gathers⟩, ⟨_, taken, fuses⟩, info, carried, carries,
        float⟩
    · exact .inl (if_neg same)
  kept id before after live survives := by
    rw [redirects.frame?_eq_some live, Option.some.injEq] at survives
    rw [← survives]
    rfl
  born id after gone live := by
    obtain ⟨before, there, -⟩ := redirects.exists_frame live
    rw [gone] at there
    contradiction
  lost id before live gone := by
    rw [redirects.frame?_eq_some live] at gone
    contradiction
  spare id frame index live lookup later := by
    have apart (other : Nat) : (⟨id, index⟩ : Port) ≠ .first other :=
      fun same => later (congrArg Port.index same)
    exact exists_congr fun slot => (redirects.reads_other (apart gather) (apart fused) slot).symm

/-- A port is read after a node was dropped where it was read, unless by the dropped node. -/
theorem Drops.isRead_iff {dead : Nat} (drops : Drops graph dead changed) {port : Port} :
    changed.IsRead port ↔ ∃ slot, slot.node ≠ dead ∧ graph.producer? slot = some port := by
  refine exists_congr fun slot => ?_
  rw [drops.producer?]
  by_cases own : slot.node = dead <;> simp [own]

/-- Dropping an unread step is evolution, if further outputs of lookups that it read are still
read. -/
theorem Drops.evolves {dead : Nat} {frame : Frame}
    (drops : Drops graph dead changed) (found : graph.frame? dead = some frame)
    (step : frame.operation.isStep = true)
    (read : ∀ port ∈ frame.inputs, port.index ≠ 0 →
      (∃ producer, graph.frame? port.node = some producer ∧ producer.operation.isGather = false) ∨
        changed.IsRead port) :
    Evolves id graph changed where
  next := Nat.le_of_eq drops.next.symm
  moved _ := .inl rfl
  kept other before after live survives := by
    rw [(drops.frame?_eq_some_iff.mp survives).2, Option.some.injEq] at live
    rw [live, Frame.rename_id]
  born other after gone live := by
    rw [(drops.frame?_eq_some_iff.mp live).2] at gone
    contradiction
  lost other before live gone := by
    by_cases same : other = dead
    · rw [same, found, Option.some.injEq] at live
      rwa [← live]
    · rw [drops.frame?_eq_some_iff.mpr ⟨same, live⟩] at gone
      contradiction
  spare other producer index live lookup later := by
    constructor
    · rintro ⟨slot, reads⟩
      by_cases own : slot.node = dead
      · rw [producer?_eq, own, found, Option.bind_some] at reads
        rcases read _ (List.mem_of_getElem? reads) later with ⟨before, there, noLookup⟩ | still
        · rw [(drops.frame?_eq_some_iff.mp live).2, Option.some.injEq] at there
          rw [← there, lookup] at noLookup
          contradiction
        · exact still
      · exact drops.isRead_iff.mpr ⟨slot, own, reads⟩
    · intro still
      obtain ⟨slot, -, reads⟩ := drops.isRead_iff.mp still
      exact ⟨slot, reads⟩

end

end Graph

end GatherFusion

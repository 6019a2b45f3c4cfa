import GatherFusion.Proofs.Lookup.Performance
import GatherFusion.Proofs.Lookup.Persistence
import GatherFusion.Proofs.Meaning.Denotation

/-!
# Carrying meaning from graph to graph

A graph follows another when the nodes they share differ in their operands only, and there by ports
that promise the same. If a port is exchanged only for one that carries the same tensor within as
many nodes, then every port that is still there carries the tensor it carried before.
-/
namespace GatherFusion.Graph

variable {V : Type}

/-- One graph follows another along a renaming of the ports that are read. -/
structure Follows (move : Port → Port) (old new : Graph) : Prop where
  /-- A node of both changes its operands only. -/
  kept : ∀ id before after, old.frame? id = some before → new.frame? id = some after →
    after = before.rename move
  /-- A port is exchanged for one that promises the same. -/
  info : ∀ port before after, old.frame? port.node = some before →
    new.frame? (move port).node = some after → new.info? (move port) = old.info? port
  /-- A port is exchanged for one with the same integers behind it. -/
  integers : ∀ port before after, old.frame? port.node = some before →
    new.frame? (move port).node = some after → new.integers? (move port) = old.integers? port

/-- A port is exchanged for one that carries the same tensor within as many nodes. -/
def Agrees (graph : Graph) (meaning : Interpretation V) (move : Port → Port) : Prop :=
  ∀ depth port tensor, graph.denote? meaning depth port = some tensor →
    graph.denote? meaning depth (move port) = some tensor

/-- A port that is not exchanged carries the same tensor. -/
theorem agrees_id (graph : Graph) (meaning : Interpretation V) : graph.Agrees meaning id :=
  fun _ _ _ denotes => denotes

/-- Only the node of a constant has integers behind its ports. -/
theorem integers?_eq_none {graph : Graph} {port : Port} {frame : Frame}
    (found : graph.frame? port.node = some frame) (other : frame.operation.isConstant = false) :
    graph.integers? port = none := by
  have empty : graph.constant? port = none := by
    rw [constant?_eq, found, Option.bind_some]
    split
    · rename_i payload operation
      rw [operation] at other
      contradiction
    · rfl
  simp [integers?, empty]

/-- Ports with the same constant behind them have the same integers behind them. -/
theorem integers?_congr {old new : Graph} {before after : Port}
    (same : new.constant? after = old.constant? before) :
    new.integers? after = old.integers? before := by
  simp only [integers?, same]

/-- A graph follows the one it evolved from. -/
theorem Evolves.follows {old new : Graph} {move : Port → Port} (evolves : Evolves move old new) :
    Follows move old new where
  kept := evolves.kept
  info port before after found survives := by
    rcases evolves.moved port with same | taken
    · rw [same] at survives ⊢
      exact evolves.info?_eq_of_frame? found survives port.index
    · have carried := taken.carried
      obtain ⟨info, carries, carriesStill, -⟩ := carried
      rw [carries, carriesStill]
  integers port before after found survives := by
    rcases evolves.moved port with same | taken
    · rw [same] at survives ⊢
      exact integers?_congr (evolves.constant?_eq_of_frame? found survives)
    · obtain ⟨lookup, there, gathers⟩ := taken.lookup
      obtain ⟨taker, offered, fuses⟩ := taken.fused
      have noLookup : lookup.operation.isConstant = false := by
        cases operation : lookup.operation <;> simp_all [Operation.isConstant, Operation.isGather]
      have noTaker : taker.operation.isConstant = false := by
        cases operation : taker.operation <;>
          simp_all [Operation.isConstant, Operation.isGatherCompressed]
      rw [integers?_eq_none there noLookup, integers?_eq_none offered noTaker]

/-- Graphs that agree on the nodes they share follow one another. -/
theorem follows_of_shared {old new : Graph}
    (shared : ∀ id before after, old.frame? id = some before → new.frame? id = some after →
      after = before) : Follows id old new where
  kept id before after found survives := by
    rw [Frame.rename_id]
    exact shared id before after found survives
  info port before after found survives := by
    simp only [id] at survives ⊢
    rw [info?_eq, info?_eq, found, survives, shared _ _ _ found survives]
  integers port before after found survives := by
    simp only [id] at survives ⊢
    refine integers?_congr ?_
    rw [constant?_eq, constant?_eq, found, survives, shared _ _ _ found survives]

/-- A graph follows the one it was extended from, and the other way round. -/
theorem Evolves.follows_back {old new : Graph} (evolves : Evolves id old new) :
    Follows id new old := by
  refine follows_of_shared fun id before after found survives => ?_
  have same := evolves.kept id after before survives found
  rw [same, Frame.rename_id]

/-- A graph follows the one it lost nodes from. -/
theorem Thins.follows {old new : Graph} (thins : old.Thins new) : Follows id old new := by
  refine follows_of_shared fun id before after found survives => ?_
  have there := thins id after survives
  rw [found, Option.some.injEq] at there
  exact there.symm

namespace Follows

variable {old new : Graph} {meaning : Interpretation V} {move : Port → Port}
  (follows : Follows move old new) (mirrored : new.Mirrored) (agrees : old.Agrees meaning move)
include follows mirrored agrees

/-- A port that is still there carries the tensor it carried before, within as many nodes. -/
theorem denote?_eq_some {depth : Nat} {port : Port} {tensor : Tensor V}
    (denotes : old.denote? meaning depth port = some tensor)
    (live : ∃ after, new.frame? port.node = some after) :
    new.denote? meaning depth port = some tensor := by
  induction depth generalizing port tensor with
  | zero => contradiction
  | succ depth ih =>
    obtain ⟨before, operands, found, inside, supplied, same⟩ := denote?_succ_eq_some_iff.mp denotes
    obtain ⟨after, survives⟩ := live
    obtain rfl := follows.kept _ _ _ found survives
    refine denote?_succ_eq_some_iff.mpr ⟨_, operands, survives, inside, ?_, same⟩
    simp only [Frame.rename, List.forall₂_map_left_iff]
    rw [List.forall₂_iff_zip] at supplied ⊢
    refine ⟨supplied.1, fun {input operand} pair => ?_⟩
    have supply := supplied.2 pair
    have reads : input ∈ before.inputs := (List.of_mem_zip pair).1
    -- A survivor reads live ports only, so the induction applies to what it reads now.
    have moved : move input ∈ (before.rename move).inputs := List.mem_map_of_mem reads
    obtain ⟨producer, info, offered, -⟩ := mirrored.exists_frame survives moved
    have info := supply.info
    rw [info?_eq, Option.bind_eq_some_iff] at info
    obtain ⟨source, there, -⟩ := info
    exact {
      info := (follows.info _ _ _ there offered).trans supply.info
      integers := (follows.integers _ _ _ there offered).trans supply.integers
      tensor := ih (agrees _ _ _ supply.tensor) ⟨producer, offered⟩ }

/-- A port that is exchanged for one that is still there supplies what it supplied before. -/
theorem supplies {depth : Nat} {port : Port} {operand : Operand V}
    (supplied : old.Supplies meaning depth port operand)
    (live : ∃ after, new.frame? (move port).node = some after) :
    new.Supplies meaning depth (move port) operand := by
  obtain ⟨after, survives⟩ := live
  have info := supplied.info
  rw [info?_eq, Option.bind_eq_some_iff] at info
  obtain ⟨before, found, -⟩ := info
  exact {
    info := (follows.info _ _ _ found survives).trans supplied.info
    integers := (follows.integers _ _ _ found survives).trans supplied.integers
    tensor := follows.denote?_eq_some mirrored agrees (agrees _ _ _ supplied.tensor) ⟨after, survives⟩ }

/-- An output of the graph that is still there delivers what it delivered before. -/
theorem delivers {id : Nat} {tensors : List (Tensor V)}
    (delivers : old.Delivers meaning id tensors) (live : ∃ after, new.frame? id = some after) :
    new.Delivers meaning id tensors := by
  obtain ⟨inputs, ⟨before, found, operation, rfl⟩, denotes⟩ := delivers
  obtain ⟨after, survives⟩ := live
  have renamed := follows.kept _ _ _ found survives
  subst renamed
  refine ⟨_, ⟨_, survives, operation, rfl⟩, ?_⟩
  simp only [Frame.rename, List.forall₂_map_left_iff]
  rw [List.forall₂_iff_zip] at denotes ⊢
  refine ⟨denotes.1, fun {input tensor} pair => ?_⟩
  obtain ⟨depth, denoted⟩ := denotes.2 pair
  have moved : move input ∈ (before.rename move).inputs :=
    List.mem_map_of_mem (List.of_mem_zip pair).1
  obtain ⟨producer, info, offered, -⟩ := mirrored.exists_frame survives moved
  exact ⟨depth, follows.denote?_eq_some mirrored agrees (agrees _ _ _ denoted) ⟨producer, offered⟩⟩

/-- A graph that follows a sound one is sound if its new ports carry what they promise. -/
theorem sound (sound : old.Sound meaning)
    (born : ∀ port info, old.frame? port.node = none → new.info? port = some info →
      ∃ tensor, new.Denotes meaning port tensor ∧ tensor.Conforms info) :
    new.Sound meaning := by
  intro port info carries
  cases found : old.frame? port.node with
  | none => exact born port info found carries
  | some before =>
    have carried := carries
    rw [info?_eq, Option.bind_eq_some_iff] at carried
    obtain ⟨after, survives, promised⟩ := carried
    obtain rfl := follows.kept _ _ _ found survives
    have offered : old.info? port = some info := by
      rw [info?_eq, found, Option.bind_some]
      exact promised
    obtain ⟨tensor, ⟨depth, denotes⟩, conforms⟩ := sound port info offered
    exact ⟨tensor, ⟨depth, follows.denote?_eq_some mirrored agrees denotes ⟨_, survives⟩⟩, conforms⟩

end Follows

end GatherFusion.Graph

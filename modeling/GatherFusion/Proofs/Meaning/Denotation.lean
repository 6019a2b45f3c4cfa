import GatherFusion.Proofs.Graph.Acyclic
import GatherFusion.Proofs.Lookup.Grammar
import GatherFusion.Proofs.Meaning.Interpretation
import Mathlib.Data.List.Forall2

/-!
# What the ports of a graph carry

A port carries the tensor its node makes of the tensors at its slots. The tensor is computed through
a limited number of nodes; more nodes change nothing once there is a result, so a port carries one
tensor at most. In an acyclic graph every port carries one. A graph keeps its promises when the
tensors have the extents that are promised at the ports.
-/
namespace GatherFusion

namespace Graph

variable {V : Type}

/-- What a port supplies to its readers, given the tensors the ports carry. -/
def operand? (graph : Graph) (tensor? : Port → Option (Tensor V)) (port : Port) :
    Option (Operand V) := do
  let info ← graph.info? port
  let tensor ← tensor? port
  pure ⟨info, graph.integers? port, tensor⟩

/-- The tensor a port carries, if it depends on a chain of at most so many nodes. -/
def denote? (graph : Graph) (meaning : Interpretation V) : Nat → Port → Option (Tensor V)
  | 0, _ => none
  | depth + 1, port => do
    let frame ← graph.frame? port.node
    let operands ← frame.inputs.mapM (graph.operand? (graph.denote? meaning depth))
    if port.index < frame.infos.length then
      some (meaning.value port frame.operation frame.infos operands)
    else none

/-- A port carries a tensor. -/
def Denotes (graph : Graph) (meaning : Interpretation V) (port : Port) (tensor : Tensor V) : Prop :=
  ∃ depth, graph.denote? meaning depth port = some tensor

/-- A port supplies an operand, if its tensor depends on a chain of at most so many nodes. -/
structure Supplies (graph : Graph) (meaning : Interpretation V) (depth : Nat) (port : Port)
    (operand : Operand V) : Prop where
  /-- The operand has what the port promises. -/
  info : graph.info? port = some operand.info
  /-- The operand has the integers behind the port. -/
  integers : graph.integers? port = operand.integers?
  /-- The operand has the tensor the port carries. -/
  tensor : graph.denote? meaning depth port = some operand.tensor

/-- An output of the graph delivers the tensors at its slots. -/
def Delivers (graph : Graph) (meaning : Interpretation V) (id : Nat) (tensors : List (Tensor V)) :
    Prop :=
  ∃ inputs, graph.Reads id .result inputs ∧ List.Forall₂ (graph.Denotes meaning) inputs tensors

/-- What the ports carry is what they promise. -/
def KeepsPromises (graph : Graph) (meaning : Interpretation V) : Prop :=
  ∀ port info tensor, graph.info? port = some info → graph.Denotes meaning port tensor →
    tensor.Conforms info

/-- Every node makes what it promises of operands that are as promised. -/
def Consistent (graph : Graph) (meaning : Interpretation V) : Prop :=
  ∀ id frame, graph.frame? id = some frame → ∀ operands,
    List.Forall₂ (fun port operand => graph.info? port = some operand.info ∧
      operand.tensor.Conforms operand.info) frame.inputs operands →
    ∀ index info, frame.infos[index]? = some info →
      (meaning.value ⟨id, index⟩ frame.operation frame.infos operands).Conforms info

/-- Every port carries what it promises. -/
def Sound (graph : Graph) (meaning : Interpretation V) : Prop :=
  ∀ port info, graph.info? port = some info →
    ∃ tensor, graph.Denotes meaning port tensor ∧ tensor.Conforms info

/-- A list is mapped by a partial function when each element is. -/
theorem mapM_eq_some_iff {α β : Type} {work : α → Option β} {list : List α} {results : List β} :
    list.mapM work = some results ↔
      List.Forall₂ (fun element result => work element = some result) list results := by
  induction list generalizing results with
  | nil =>
    rw [List.mapM_nil, List.forall₂_nil_left_iff]
    exact ⟨fun same => (Option.some.inj same).symm, fun same => congrArg some same.symm⟩
  | cons first rest ih =>
    simp only [List.mapM_cons, Option.bind_eq_bind, Option.bind_eq_some_iff, ih, Option.pure_def,
      Option.some.injEq, List.forall₂_cons_left_iff]
    constructor
    · rintro ⟨result, done, later, all, rfl⟩
      exact ⟨result, later, done, all, rfl⟩
    · rintro ⟨result, later, done, all, rfl⟩
      exact ⟨result, done, later, all, rfl⟩

section

variable {graph : Graph} {meaning : Interpretation V}

/-- A port supplies its promise, its integers and its tensor. -/
theorem operand?_eq_some_iff {depth : Nat} {port : Port} {operand : Operand V} :
    graph.operand? (graph.denote? meaning depth) port = some operand ↔
      graph.Supplies meaning depth port operand := by
  simp only [operand?, Option.bind_eq_bind, Option.bind_eq_some_iff, Option.pure_def,
    Option.some.injEq]
  constructor
  · rintro ⟨info, carries, tensor, denotes, rfl⟩
    exact ⟨carries, rfl, denotes⟩
  · intro supplied
    refine ⟨_, supplied.info, _, supplied.tensor, ?_⟩
    rw [supplied.integers]

/-- A port carries what its node makes of the operands its slots supply. -/
theorem denote?_succ_eq_some_iff {depth : Nat} {port : Port} {tensor : Tensor V} :
    graph.denote? meaning (depth + 1) port = some tensor ↔
      ∃ frame operands, graph.frame? port.node = some frame ∧ port.index < frame.infos.length ∧
        List.Forall₂ (graph.Supplies meaning depth) frame.inputs operands ∧
        meaning.value port frame.operation frame.infos operands = tensor := by
  simp only [denote?, Option.bind_eq_bind, Option.bind_eq_some_iff, mapM_eq_some_iff,
    operand?_eq_some_iff, Option.ite_none_right_eq_some, Option.some.injEq]
  constructor
  · rintro ⟨frame, found, operands, supplied, inside, same⟩
    exact ⟨frame, operands, found, inside, supplied, same⟩
  · rintro ⟨frame, operands, found, inside, supplied, same⟩
    exact ⟨frame, found, operands, supplied, inside, same⟩

/-- A port that carries a tensor promises one. -/
theorem exists_info_of_denote? {depth : Nat} {port : Port} {tensor : Tensor V}
    (denotes : graph.denote? meaning depth port = some tensor) :
    ∃ info, graph.info? port = some info := by
  cases depth with
  | zero => contradiction
  | succ depth =>
    obtain ⟨frame, operands, found, inside, -⟩ := denote?_succ_eq_some_iff.mp denotes
    exact ⟨frame.infos[port.index], by rw [info?_eq, found, Option.bind_some,
      List.getElem?_eq_getElem inside]⟩

/-- One more node changes nothing once there is a tensor. -/
theorem denote?_succ {depth : Nat} {port : Port} {tensor : Tensor V}
    (denotes : graph.denote? meaning depth port = some tensor) :
    graph.denote? meaning (depth + 1) port = some tensor := by
  induction depth generalizing port tensor with
  | zero => contradiction
  | succ depth ih =>
    obtain ⟨frame, operands, found, inside, supplied, same⟩ := denote?_succ_eq_some_iff.mp denotes
    refine denote?_succ_eq_some_iff.mpr ⟨frame, operands, found, inside, ?_, same⟩
    exact supplied.imp fun input operand supply => ⟨supply.info, supply.integers, ih supply.tensor⟩

/-- More nodes change nothing once there is a tensor. -/
theorem denote?_mono {depth more : Nat} (enough : depth ≤ more) {port : Port} {tensor : Tensor V}
    (denotes : graph.denote? meaning depth port = some tensor) :
    graph.denote? meaning more port = some tensor := by
  induction enough with
  | refl => exact denotes
  | step _ ih => exact denote?_succ ih

/-- An operand is supplied through more nodes as well. -/
theorem Supplies.mono {depth more : Nat} (enough : depth ≤ more) {port : Port}
    {operand : Operand V} (supplied : graph.Supplies meaning depth port operand) :
    graph.Supplies meaning more port operand :=
  ⟨supplied.info, supplied.integers, denote?_mono enough supplied.tensor⟩

/-- A port carries one tensor at most. -/
theorem Denotes.unique {port : Port} {left right : Tensor V}
    (one : graph.Denotes meaning port left) (other : graph.Denotes meaning port right) :
    left = right := by
  obtain ⟨depth, one⟩ := one
  obtain ⟨more, other⟩ := other
  have left := denote?_mono (Nat.le_max_left depth more) one
  have right := denote?_mono (Nat.le_max_right depth more) other
  exact Option.some.inj (left.symm.trans right)

/-- An output of the graph delivers one list of tensors at most. -/
theorem Delivers.unique {id : Nat} {left right : List (Tensor V)}
    (one : graph.Delivers meaning id left) (other : graph.Delivers meaning id right) :
    left = right := by
  obtain ⟨inputs, reads, denotes⟩ := one
  obtain ⟨again, readsAgain, denotesAgain⟩ := other
  obtain rfl := (reads.unique readsAgain).2
  exact List.right_unique_forall₂' (fun _ _ _ one other => one.unique other) denotes denotesAgain

/-- A port that supplies an operand carries its tensor. -/
theorem Supplies.denotes {depth : Nat} {port : Port} {operand : Operand V}
    (supplied : graph.Supplies meaning depth port operand) :
    graph.Denotes meaning port operand.tensor :=
  ⟨depth, supplied.tensor⟩

/-- A node supplies what it makes of the operands at its slots, which take one node less. -/
theorem Supplies.exists_operands {depth id : Nat} {operation : Operation} {inputs : List Port}
    {operand : Operand V} (supplied : graph.Supplies meaning depth (.first id) operand)
    (reads : graph.Reads id operation inputs) :
    ∃ below operands, depth = below + 1 ∧
      List.Forall₂ (graph.Supplies meaning below) inputs operands ∧
      ∀ tensor, meaning.first? operation operand.info operands = some tensor →
        operand.tensor = tensor := by
  cases depth with
  | zero => exact absurd supplied.tensor (by simp [denote?])
  | succ below =>
    obtain ⟨frame, operands, found, -, sources, same⟩ :=
      denote?_succ_eq_some_iff.mp supplied.tensor
    obtain ⟨rfl, rfl⟩ := reads.of_frame? found
    refine ⟨below, operands, rfl, sources, fun tensor spelled => ?_⟩
    have promised := supplied.info
    rw [info?_eq, found, Option.bind_some] at promised
    rw [← same]
    exact Interpretation.value_first promised spelled

/-- A port supplies an operand with its promise. -/
theorem Supplies.info_eq {depth : Nat} {port : Port} {operand : Operand V} {info : TensorInfo}
    (supplied : graph.Supplies meaning depth port operand) (promised : graph.info? port = some info) :
    operand.info = info :=
  Option.some.inj (supplied.info.symm.trans promised)

/-- A node that reads one port supplies what it makes of the operand there. -/
theorem Supplies.exists_one {depth id : Nat} {operation : Operation} {source : Port}
    {operand : Operand V} (supplied : graph.Supplies meaning depth (.first id) operand)
    (reads : graph.Reads id operation [source]) :
    ∃ original, graph.Supplies meaning depth source original ∧
      ∀ tensor, meaning.first? operation operand.info [original] = some tensor →
        operand.tensor = tensor := by
  obtain ⟨below, operands, rfl, sources, spelled⟩ := supplied.exists_operands reads
  simp only [List.forall₂_cons_left_iff, List.forall₂_nil_left_iff] at sources
  obtain ⟨original, _, source, rfl, rfl⟩ := sources
  exact ⟨original, source.mono (Nat.le_succ below), spelled⟩

/-- A node that reads two ports supplies what it makes of the operands there. -/
theorem Supplies.exists_two {depth id : Nat} {operation : Operation} {first second : Port}
    {operand : Operand V} (supplied : graph.Supplies meaning depth (.first id) operand)
    (reads : graph.Reads id operation [first, second]) :
    ∃ left right, graph.Supplies meaning depth first left ∧
      graph.Supplies meaning depth second right ∧
      ∀ tensor, meaning.first? operation operand.info [left, right] = some tensor →
        operand.tensor = tensor := by
  obtain ⟨below, operands, rfl, sources, spelled⟩ := supplied.exists_operands reads
  simp only [List.forall₂_cons_left_iff, List.forall₂_nil_left_iff] at sources
  obtain ⟨left, _, leftSource, ⟨right, _, rightSource, rfl, rfl⟩, rfl⟩ := sources
  exact ⟨left, right, leftSource.mono (Nat.le_succ below), rightSource.mono (Nat.le_succ below),
    spelled⟩

/-- Ports that carry tensors supply operands through a common number of nodes. -/
theorem exists_supplies {inputs : List Port}
    (carry : ∀ port ∈ inputs, ∃ tensor, graph.Denotes meaning port tensor) :
    ∃ depth operands, List.Forall₂ (graph.Supplies meaning depth) inputs operands := by
  induction inputs with
  | nil => exact ⟨0, [], .nil⟩
  | cons first rest ih =>
    obtain ⟨tensor, depth, denotes⟩ := carry first List.mem_cons_self
    obtain ⟨info, carries⟩ := exists_info_of_denote? denotes
    obtain ⟨more, operands, supplied⟩ :=
      ih fun port inside => carry port (List.mem_cons_of_mem _ inside)
    have one : graph.Supplies meaning depth first ⟨info, graph.integers? first, tensor⟩ :=
      ⟨carries, rfl, denotes⟩
    refine ⟨max depth more, _ :: operands, .cons (one.mono (Nat.le_max_left _ _)) ?_⟩
    exact supplied.imp fun _ _ supply => supply.mono (Nat.le_max_right _ _)

/-- Where every node makes what it promises the graph keeps its promises. -/
theorem Consistent.keepsPromises (consistent : graph.Consistent meaning) :
    graph.KeepsPromises meaning := by
  have carried (depth : Nat) : ∀ port info tensor, graph.info? port = some info →
      graph.denote? meaning depth port = some tensor → tensor.Conforms info := by
    induction depth with
    | zero =>
      intro port info tensor carries denotes
      contradiction
    | succ depth ih =>
      intro port info tensor carries denotes
      obtain ⟨frame, operands, found, -, supplied, rfl⟩ := denote?_succ_eq_some_iff.mp denotes
      rw [info?_eq, found, Option.bind_some] at carries
      refine consistent port.node frame found operands ?_ port.index info carries
      exact supplied.imp fun input operand supply =>
        ⟨supply.info, ih input operand.info operand.tensor supply.info supply.tensor⟩
  intro port info tensor carries ⟨depth, denotes⟩
  exact carried depth port info tensor carries denotes

/-- A graph keeps its promises if every port is seen to carry what it promises, through so many
nodes. -/
theorem keepsPromises_of_seen (depth : Nat)
    (seen : ∀ id < graph.next, ∀ frame ∈ graph.frame? id, ∀ index < frame.infos.length,
      ∀ info ∈ frame.infos[index]?, ∃ tensor ∈ graph.denote? meaning depth ⟨id, index⟩,
        tensor.Conforms info) : graph.KeepsPromises meaning := by
  intro port info tensor carries denotes
  rw [info?_eq, Option.bind_eq_some_iff] at carries
  obtain ⟨frame, found, promised⟩ := carries
  have inside := (List.getElem?_eq_some_iff.mp promised).1
  obtain ⟨same, carried, conforms⟩ :=
    seen port.node (lt_next_of_frame? found) frame found port.index inside info promised
  rwa [denotes.unique ⟨depth, carried⟩]

/-- In an acyclic graph every port carries a tensor. -/
theorem Acyclic.exists_denotes (acyclic : graph.Acyclic) (mirrored : graph.Mirrored) {port : Port}
    {info : TensorInfo} (carries : graph.info? port = some info) :
    ∃ tensor, graph.Denotes meaning port tensor := by
  have ready := acyclic.acc mirrored port.node
  generalize reader : port.node = id at ready
  induction ready generalizing port info with
  | intro id _ ih =>
    subst reader
    rw [info?_eq, Option.bind_eq_some_iff] at carries
    obtain ⟨frame, found, promised⟩ := carries
    have inside := (List.getElem?_eq_some_iff.mp promised).1
    -- Each operand is reached within some depth, and the greatest of these does for all of them.
    obtain ⟨depth, operands, supplied⟩ : ∃ depth operands,
        List.Forall₂ (graph.Supplies meaning depth) frame.inputs operands := by
      refine exists_supplies fun input reads => ?_
      obtain ⟨producer, source, live, position⟩ := mirrored.exists_frame found reads
      have offered : graph.info? input = some source := by
        rw [info?_eq, live, Option.bind_some, position]
      exact ih input.node ⟨frame, input, found, reads, rfl⟩ offered rfl
    exact ⟨_, depth + 1,
      denote?_succ_eq_some_iff.mpr ⟨frame, operands, found, inside, supplied, rfl⟩⟩

/-- In an acyclic graph that keeps its promises every port carries what it promises. -/
theorem Acyclic.sound (acyclic : graph.Acyclic) (mirrored : graph.Mirrored)
    (keeps : graph.KeepsPromises meaning) : graph.Sound meaning := by
  intro port info carries
  obtain ⟨tensor, denotes⟩ := acyclic.exists_denotes mirrored carries
  exact ⟨tensor, denotes, keeps port info tensor carries denotes⟩

/-- What is carried in a sound graph is what is promised. -/
theorem Sound.conforms (sound : graph.Sound meaning) {port : Port} {info : TensorInfo}
    {tensor : Tensor V} (carries : graph.info? port = some info)
    (denotes : graph.Denotes meaning port tensor) : tensor.Conforms info := by
  obtain ⟨same, again, conforms⟩ := sound port info carries
  rwa [denotes.unique again]

/-- What is supplied in a sound graph has the extents promised where all of them are known. -/
theorem Sound.extents_eq (sound : graph.Sound meaning) {depth : Nat} {port : Port}
    {operand : Operand V} (supplied : graph.Supplies meaning depth port operand)
    {extents : List Nat} (known : operand.info.shape.extents? = some extents) :
    operand.tensor.extents = extents :=
  (sound.conforms supplied.info supplied.denotes).extents_eq known

end

end Graph

end GatherFusion

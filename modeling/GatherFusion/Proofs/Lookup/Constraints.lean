import GatherFusion.Lookup.Constraints
import GatherFusion.Proofs.Lookup.Persistence

/-!
# What the constraints depend on

A layout is found in three steps. The first looks at the tensors that the ports of a candidate carry
and nothing else, the second at the readers of scale and zero point, the last at the configuration.
Each of them is told here apart from the others, together with what it takes for its verdict to stay
the same while a graph evolves.
-/
namespace GatherFusion

namespace Candidate

/-- The layout of a table as far as it is told by the tensors carried along the candidate. -/
def described (candidate : Candidate) (config : FusionConfig) (graph : Graph) : Check Layout := do
  let carried ← candidate.carried graph
  candidate.checkElements config graph carried
  let table ← tableExtents carried
  candidate.checkShapes graph carried table
  let found ← candidate.constantsLayout graph carried table
  let granularity ← candidate.reshapedGranularity graph table found.granularity
  pure ⟨found.encoding, granularity⟩

/-- The constraints describe the table, then look at other readers, then at the configuration. -/
theorem layout_eq (candidate : Candidate) (config : FusionConfig) (graph : Graph) :
    candidate.layout config graph = (do
      let layout ← candidate.described config graph
      candidate.chain.dequantization.forM (checkReaders graph)
      let gather ← graph.node candidate.gather
      demand (!config.skips gather) .skipped
      pure layout) := by
  simp only [layout, described, bind_assoc, pure_bind]

end Candidate

/-! ## Tensors carried along a candidate -/

/-- What a port carries, told by the frame of its node. -/
theorem Graph.carried_eq (graph : Graph) (port : Port) : graph.carried port =
    (graph.frame? port.node).elim (.error (.deadHandle port.node)) fun frame =>
      frame.infos[port.index]?.elim (.error (.missingOutput port)) .ok := by
  unfold carried Graph.node Store.get frame? node?
  cases graph.nodes.get? port.node with
  | none => rfl
  | some node =>
    obtain ⟨name, operation, inputs, outputs⟩ := node
    simp only [Option.map_some, Option.elim_some, Node.frame, List.getElem?_map]
    cases position : outputs[port.index]? <;>
      simp [bind, Except.bind, Node.info?, position, pure, Except.pure]

/-- A port that exists carries its tensor. -/
theorem Graph.carried_eq_ok_iff {graph : Graph} {port : Port} {info : TensorInfo} :
    graph.carried port = .ok info ↔ graph.info? port = some info := by
  rw [carried_eq, info?_eq]
  cases graph.frame? port.node with
  | none => simp
  | some frame => cases offered : frame.infos[port.index]? <;> simp [offered]

namespace Candidate

section

variable {candidate : Candidate} {config : FusionConfig} {graph changed : Graph}
  {move : Port → Port}

/-- The checks of element types look at the intermediate nodes and the constants only. -/
theorem checkElements_congr (carried : Carried)
    (same : ∀ id ∈ candidate.chain.intermediates, changed.firstInfo id = graph.firstInfo id)
    (constants : ∀ port ∈ candidate.constants, changed.carried port = graph.carried port) :
    candidate.checkElements config changed carried =
      candidate.checkElements config graph carried := by
  have scales : candidate.chain.dequantization.forM
      (checkDequantizationElements changed carried.decompressed.element) =
      candidate.chain.dequantization.forM
        (checkDequantizationElements graph carried.decompressed.element) := by
    refine option_forM_congr fun dequantization scaled => ?_
    have multiply := same _ (Chain.multiply_mem scaled)
    have scale : changed.firstInfo dequantization.scale = graph.firstInfo dequantization.scale :=
      constants _ (by simp [Candidate.constants, scaled])
    have shifts : dequantization.shift.forM
        (checkShiftElements changed carried.decompressed.element) =
        dequantization.shift.forM (checkShiftElements graph carried.decompressed.element) := by
      refine option_forM_congr fun shift shifted => ?_
      have subtract := same _ (Chain.subtract_mem scaled shifted)
      have zero : changed.firstInfo (shift.zeroPoint.convert.getD shift.zeroPoint.constant) =
          graph.firstInfo (shift.zeroPoint.convert.getD shift.zeroPoint.constant) := by
        cases converted : shift.zeroPoint.convert with
        | none => exact constants _ (by simp [Candidate.constants, scaled, shifted])
        | some convert => exact same _ (Chain.zeroConvert_mem scaled shifted converted)
      simp only [checkShiftElements, subtract, zero]
    simp only [checkDequantizationElements, multiply, scale, shifts]
  have lasts : candidate.chain.outputConvert.forM (checkOutputConvertElement changed) =
      candidate.chain.outputConvert.forM (checkOutputConvertElement graph) := by
    refine option_forM_congr fun convert last => ?_
    simp only [checkOutputConvertElement, same _ (Chain.outputConvert_mem last)]
  simp only [checkElements, scales, lasts]
  cases reshaped : candidate.chain.reshape with
  | none => rfl
  | some reshape => simp only [Option.forM, same _ (Chain.reshape_mem reshaped)]

/-- A last conversion is compared with the node it reads. -/
theorem checkOutputConvertShape_eq {convert source : Nat}
    (reads : graph.Reads convert .convert [.first source]) :
    checkOutputConvertShape graph convert = (do
      let converted ← graph.firstInfo convert
      let read ← graph.firstInfo source
      expectShape .outputConversion read.shape converted) := by
  obtain ⟨node, found, -, inputs⟩ := Graph.reads_iff.mp reads
  have operand : (node.input? 0).elim convert Port.node = source := by
    simp [Node.input?, inputs, Port.first]
  simp only [checkOutputConvertShape, Graph.node_eq_ok_iff.mpr found]
  change (do
    let converted ← graph.firstInfo convert
    let read ← graph.firstInfo ((node.input? 0).elim convert Port.node)
    expectShape .outputConversion read.shape converted : Check Unit) = _
  rw [operand]

/-- The checks of shapes look at the intermediate nodes only. -/
theorem checkShapes_congr (carried : Carried) (table : List Nat) (fits : candidate.chain.Fits graph)
    (still : candidate.chain.Fits changed)
    (same : ∀ id ∈ candidate.chain.intermediates, changed.firstInfo id = graph.firstInfo id) :
    candidate.checkShapes changed carried table = candidate.checkShapes graph carried table := by
  have scales : candidate.chain.dequantization.forM
      (checkDequantizationShapes changed carried.weight.shape) =
      candidate.chain.dequantization.forM
        (checkDequantizationShapes graph carried.weight.shape) := by
    refine option_forM_congr fun dequantization scaled => ?_
    have multiply := same _ (Chain.multiply_mem scaled)
    simp only [checkDequantizationShapes, multiply]
    cases shifted : dequantization.shift with
    | none => rfl
    | some shift => simp only [Option.forM, same _ (Chain.subtract_mem scaled shifted)]
  have lasts : candidate.chain.outputConvert.forM (checkOutputConvertShape changed) =
      candidate.chain.outputConvert.forM (checkOutputConvertShape graph) := by
    refine option_forM_congr fun convert last => ?_
    obtain ⟨dequantization, scaled⟩ := fits.exists_dequantization (.inl last)
    rw [checkOutputConvertShape_eq ((fits.tail scaled).2 convert last),
      checkOutputConvertShape_eq ((still.tail scaled).2 convert last),
      same _ (Chain.outputConvert_mem last), same _ (Chain.below_mem scaled)]
  simp only [checkShapes, scales, lasts]

/-- The layout of the constants is told by the constants. -/
theorem constantsLayout_congr (carried : Carried) (table : List Nat)
    (constants : ∀ port ∈ candidate.constants, changed.carried port = graph.carried port) :
    candidate.constantsLayout changed carried table =
      candidate.constantsLayout graph carried table := by
  cases scaled : candidate.chain.dequantization with
  | none => simp only [constantsLayout, scaled]
  | some dequantization =>
    obtain ⟨multiply, scale, shift⟩ := dequantization
    have scaleSame : changed.firstInfo scale = graph.firstInfo scale :=
      constants _ (by simp [Candidate.constants, scaled])
    cases shift with
    | none => simp only [constantsLayout, scaled, constantGranularity, scaleSame]
    | some shift =>
      have zeroSame : changed.firstInfo shift.zeroPoint.constant =
          graph.firstInfo shift.zeroPoint.constant :=
        constants _ (by simp [Candidate.constants, scaled])
      simp only [constantsLayout, scaled, constantGranularity, scaleSame, zeroSame]

/-- The description of a table stays the same where the ports along the candidate carry what they
carried, the indices at the port that took their place. -/
theorem described_congr (fits : candidate.chain.Fits graph) (still : candidate.chain.Fits changed)
    (same : ∀ id ∈ candidate.gather :: candidate.chain.weight :: candidate.chain.intermediates,
      changed.firstInfo id = graph.firstInfo id)
    (constants : ∀ port ∈ candidate.constants, changed.carried port = graph.carried port)
    (indices : changed.carried (move candidate.indices) = graph.carried candidate.indices) :
    (candidate.rename move).described config changed = candidate.described config graph := by
  have sameChain : ∀ id ∈ candidate.chain.intermediates,
      changed.firstInfo id = graph.firstInfo id :=
    fun id inside => same id (List.mem_cons_of_mem _ (List.mem_cons_of_mem _ inside))
  have carriedSame : (candidate.rename move).carried changed = candidate.carried graph := by
    simp only [Candidate.carried, rename, indices, same candidate.gather List.mem_cons_self,
      same candidate.chain.weight (by simp), sameChain _ candidate.chain.convert_mem,
      sameChain _ (Chain.top_mem _)]
  have elements (carried : Carried) : (candidate.rename move).checkElements config changed carried =
      candidate.checkElements config graph carried :=
    checkElements_congr carried sameChain constants
  have shapes (carried : Carried) (table : List Nat) :
      (candidate.rename move).checkShapes changed carried table =
        candidate.checkShapes graph carried table :=
    checkShapes_congr carried table fits still sameChain
  have layouts (carried : Carried) (table : List Nat) :
      (candidate.rename move).constantsLayout changed carried table =
        candidate.constantsLayout graph carried table :=
    constantsLayout_congr carried table constants
  have reshapes (table : List Nat) (granularity : Granularity) :
      (candidate.rename move).reshapedGranularity changed table granularity =
        candidate.reshapedGranularity graph table granularity := by
    cases reshaped : candidate.chain.reshape with
    | none => simp only [reshapedGranularity, rename, reshaped]
    | some reshape => simp only [reshapedGranularity, rename, reshaped,
        sameChain _ (Chain.reshape_mem reshaped)]
  simp only [described, carriedSame, elements, shapes, layouts, reshapes]

end

end Candidate

/-- A surviving node carries what it carried. -/
theorem Graph.Evolves.carried_eq {old new : Graph} {move : Port → Port}
    (evolves : Evolves move old new) {port : Port} {before after : Frame}
    (found : old.frame? port.node = some before) (survives : new.frame? port.node = some after) :
    new.carried port = old.carried port := by
  rw [Graph.carried_eq, Graph.carried_eq, found, survives,
    evolves.kept _ _ _ found survives]
  rfl

section

variable {old new : Graph} {move : Port → Port} (evolves : old.Evolves move new)
  {candidate : Candidate} (fits : candidate.Fits old) (still : (candidate.rename move).Fits new)
include evolves

/-- A constant carries what it carried. -/
theorem Graph.Evolves.carried_eq_of_holds {port : Port} (holds : old.Holds port) :
    new.carried port = old.carried port := by
  obtain ⟨before, found, -⟩ := holds.exists_frame
  obtain ⟨after, survives, -⟩ := (evolves.holds holds).exists_frame
  exact evolves.carried_eq found survives

include fits still

/-- The nodes of a candidate offer what they offered. -/
theorem Graph.Evolves.firstInfo_eq {id : Nat}
    (inside : id ∈ candidate.gather :: candidate.chain.weight :: candidate.chain.intermediates) :
    new.firstInfo id = old.firstInfo id := by
  rcases List.mem_cons.mp inside with rfl | inside
  · obtain ⟨-, _, _, ⟨before, found, -⟩, -⟩ := fits
    obtain ⟨-, _, _, ⟨after, survives, -⟩, -⟩ := still
    exact evolves.carried_eq found survives
  · rcases List.mem_cons.mp inside with rfl | inside
    · exact evolves.carried_eq_of_holds fits.holds_weight
    · obtain ⟨_, _, ⟨before, found, -⟩, -⟩ := fits.1.operands inside
      obtain ⟨_, _, ⟨after, survives, -⟩, -⟩ := still.1.operands inside
      exact evolves.carried_eq found survives

variable (mirrored : old.Mirrored) (mirroredStill : new.Mirrored)
include mirrored mirroredStill

/-- The port that took the place of the indices carries what they carried. -/
theorem Graph.Evolves.carried_indices_eq :
    new.carried (move candidate.indices) = old.carried candidate.indices := by
  obtain ⟨-, _, _, reads, -⟩ := fits
  obtain ⟨-, _, _, readsStill, -⟩ := still
  rcases evolves.moved candidate.indices with same | taken
  · obtain ⟨before, found⟩ := reads.exists_node mirrored candidate.indices (by simp)
    obtain ⟨after, survives⟩ :=
      readsStill.exists_node mirroredStill (move candidate.indices) (by simp [Candidate.rename])
    rw [same] at survives ⊢
    exact evolves.carried_eq (frame?_of_node? found) (frame?_of_node? survives)
  · obtain ⟨info, before, after, -⟩ := taken.carried
    rw [Graph.carried_eq_ok_iff.mpr after, Graph.carried_eq_ok_iff.mpr before]

/-- While a graph evolves the description of a table stays the same. -/
theorem Graph.Evolves.described_eq (config : FusionConfig) :
    (candidate.rename move).described config new = candidate.described config old :=
  Candidate.described_congr fits.1 still.1 (fun _ inside => evolves.firstInfo_eq fits still inside)
    (fun port inside => evolves.carried_eq_of_holds (fits.holds_constants port inside))
    (evolves.carried_indices_eq fits still mirrored mirroredStill)

end

/-! ## The verdict -/

namespace Candidate

variable {candidate : Candidate} {config : FusionConfig} {graph : Graph} {layout : Layout}

/-- A candidate is accepted when its table is described, the readers of its constants are in order
and the configuration does not object. -/
theorem layout_eq_ok_iff : candidate.layout config graph = .ok layout ↔
    candidate.described config graph = .ok layout ∧
      candidate.chain.dequantization.forM (checkReaders graph) = .ok () ∧
      ∃ gather, graph.node? candidate.gather = some gather ∧ config.skips gather = false := by
  rw [layout_eq]
  simp only [bind_eq_ok_iff, monadLift_eq_ok_iff, Graph.node_eq_ok_iff, Bool.not_eq_true', pure,
    Except.pure, Except.ok.injEq]
  constructor
  · rintro ⟨_, described, _, readers, gather, found, _, unskipped, rfl⟩
    exact ⟨described, readers, gather, found, demand_eq_ok_iff.mp unskipped⟩
  · rintro ⟨described, readers, gather, found, unskipped⟩
    exact ⟨layout, described, (), readers, gather, found, (), demand_eq_ok_iff.mpr unskipped, rfl⟩

/-- What the description of a table consists of. -/
theorem described_eq_ok_iff : candidate.described config graph = .ok layout ↔
    ∃ carried table found, candidate.carried graph = .ok carried ∧
      candidate.checkElements config graph carried = .ok () ∧
      tableExtents carried = .ok table ∧ candidate.checkShapes graph carried table = .ok () ∧
      candidate.constantsLayout graph carried table = .ok found ∧ found.encoding = layout.encoding ∧
      candidate.reshapedGranularity graph table found.granularity = .ok layout.granularity := by
  simp only [described, bind_eq_ok_iff, monadLift_eq_ok_iff, pure, Except.pure, Except.ok.injEq]
  constructor
  · rintro ⟨carried, read, _, elements, table, extents, _, shapes, found, constants, granularity,
      reshaped, rfl⟩
    exact ⟨carried, table, found, read, elements, extents, shapes, constants, rfl, reshaped⟩
  · rintro ⟨carried, table, found, read, elements, extents, shapes, constants, encoding, reshaped⟩
    exact ⟨carried, read, (), elements, table, extents, (), shapes, found, constants, _,
      reshaped, by rw [encoding]⟩

/-- The tensors carried along a candidate. -/
theorem carried_eq_ok_iff {carried : Carried} : candidate.carried graph = .ok carried ↔
    graph.info? (.first candidate.chain.weight) = some carried.weight ∧
      graph.info? (.first candidate.chain.convert) = some carried.decompressed ∧
      graph.info? (.first candidate.gather) = some carried.gather ∧
      graph.info? candidate.indices = some carried.indices ∧
      graph.info? (.first candidate.chain.top) = some carried.top := by
  simp only [Candidate.carried, Graph.firstInfo, bind_eq_ok_iff, Graph.carried_eq_ok_iff, pure,
    Except.pure, Except.ok.injEq]
  constructor
  · rintro ⟨weight, one, decompressed, two, gather, three, indices, four, top, five, rfl⟩
    exact ⟨one, two, three, four, five⟩
  · rintro ⟨one, two, three, four, five⟩
    exact ⟨_, one, _, two, _, three, _, four, _, five, rfl⟩

end Candidate

end GatherFusion

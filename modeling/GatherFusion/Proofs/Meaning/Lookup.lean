import GatherFusion.Proofs.Lookup.Progress
import GatherFusion.Proofs.Meaning.Decompression
import GatherFusion.Proofs.Meaning.Transport
import GatherFusion.Proofs.Reachable

/-!
# What a fused lookup carries

A lookup lays out rows of the table at the top of its chain, the fused lookup restores the same rows
element by element from the compressed table. Both carry the same tensor, and the fused lookup
depends on a chain of no more nodes, so it can stand in for the lookup wherever that is read.
-/
namespace GatherFusion

variable {V : Type}

namespace Interpretation

variable {meaning : Interpretation V}

/-- Lookups in tables that agree within the columns are the same. -/
theorem lookup_congr {indices : Operand V} {rows : Nat} {rest : List Nat}
    {left right : Nat → Nat → Option V}
    (same : ∀ row column, column < Shape.product rest → left row column = right row column) :
    meaning.lookup indices rows rest left = meaning.lookup indices rows rest right := by
  refine Tensor.tabulate_congr fun position inside => ?_
  have positive : 0 < Shape.product rest := by
    apply Nat.pos_of_ne_zero
    intro none
    rw [Shape.product_append, none] at inside
    exact Nat.not_lt_zero position inside
  have bounded : position % Shape.product rest < Shape.product rest := Nat.mod_lt _ positive
  simp only [same _ _ bounded]

/-- Beyond the rows of a table there is nothing to restore. -/
theorem restored_eq_none {granularity : Granularity} {element : ElementType}
    {table scale : Operand V} {zeroPoint : Option (Operand V)} {row column : Nat}
    (beyond : Shape.product table.tensor.extents ≤
      row * Shape.product (table.tensor.extents.drop 1) + column) :
    meaning.restored granularity element table scale zeroPoint row column = none := by
  rw [restored, scaled, shifted, table.tensor.outside _ beyond]
  rfl

/-- With a scale of one and no zero point the elements are converted and nothing else. -/
theorem restored_of_one (lawful : meaning.Lawful) (granularity : Granularity)
    {float : ElementType} {payload : Payload}
    (one : Payload.ofFloats? float [.one] = some payload) {table scale : Operand V}
    (element : scale.info.element = float) (extents : scale.tensor.extents = [])
    (cell : scale.tensor.cell 0 = some (meaning.element float payload 0)) (row column : Nat) :
    meaning.restored granularity float table scale none row column =
      (table.tensor.cell (row * Shape.product (table.tensor.extents.drop 1) + column)).map
        (meaning.convert table.info.element float) := by
  have factor : granularity.valueAt scale row column = some (meaning.element float payload 0) := by
    rw [Granularity.valueAt, extents]
    exact cell
  rw [restored, scaled, shifted, factor, element]
  cases table.tensor.cell _ with
  | none => rfl
  | some weight =>
    have neutral := lawful.multiply_one float payload
      (meaning.convert table.info.element float weight) one
    have idle := lawful.convert_self float (meaning.convert table.info.element float weight)
    simp [neutral, idle]

/-- A lookup in a table whose rows are restored from a compressed table is the lookup in the
compressed table. -/
theorem gather_eq_gatherCompressed {granularity : Granularity} {info : TensorInfo}
    {data indices table scale : Operand V} {zeroPoint : Option (Operand V)} {rows : Nat}
    {rest columns : List Nat} (dataExtents : data.tensor.extents = rows :: rest)
    (tableExtents : table.tensor.extents = rows :: columns)
    (width : Shape.product rest = Shape.product columns)
    (laid : rest = if info.shape.rank = indices.tensor.extents.length + 1 then
      [Shape.product columns] else columns)
    (tells : data.tensor.Tells (Shape.product columns)
      (meaning.restored granularity info.element table scale zeroPoint)) :
    meaning.gatherCompressed granularity info table indices scale zeroPoint =
      meaning.gather data indices := by
  have sameCells (row column : Nat) (inside : column < Shape.product rest) :
      meaning.restored granularity info.element table scale zeroPoint row column =
        data.tensor.cell (row * Shape.product rest + column) := by
    have count : Shape.product data.tensor.extents = rows * Shape.product rest := by
      rw [dataExtents]
      rfl
    by_cases within : row * Shape.product rest + column < Shape.product data.tensor.extents
    · have rowBack : (row * Shape.product rest + column) / Shape.product rest = row := by
        rw [Nat.add_comm, Nat.add_mul_div_right _ _ (by omega), Nat.div_eq_of_lt inside,
          Nat.zero_add]
      have columnBack : (row * Shape.product rest + column) % Shape.product rest = column := by
        rw [Nat.add_comm, Nat.add_mul_mod_self_right, Nat.mod_eq_of_lt inside]
      rw [tells _ within, ← width, rowBack, columnBack]
    · have beyond : Shape.product data.tensor.extents ≤ row * Shape.product rest + column :=
        Nat.not_lt.mp within
      rw [data.tensor.outside _ beyond]
      apply restored_eq_none
      rw [tableExtents, List.drop_one, List.tail_cons, ← width]
      rw [count] at beyond
      exact Nat.le_trans (Nat.le_of_eq (congrArg (rows * ·) width.symm)) beyond
  unfold gatherCompressed gather
  simp only [dataExtents, tableExtents, ← laid, Option.some.injEq]
  exact lookup_congr sameCells

/-- A fused lookup means a lookup in a compressed table, with or without a zero point. -/
theorem first?_gatherCompressed {granularity : Granularity} {info : TensorInfo}
    {table indices axis scale : Operand V} {zeroPoint : Option (Operand V)}
    (rows : axis.namesRows table = true) :
    meaning.first? (.gatherCompressed granularity 0) info
        (table :: indices :: axis :: scale :: zeroPoint.toList) =
      meaning.gatherCompressed granularity info table indices scale zeroPoint := by
  cases zeroPoint <;> simp [first?, rows]

end Interpretation

namespace Graph

/-- A constant is carried by the first output of its node. -/
theorem SingleConstants.eq_first {graph : Graph} (single : graph.SingleConstants) {port : Port}
    (holds : graph.Holds port) : port = .first port.node := by
  obtain ⟨frame, payload, info, found, operation, position⟩ := holds_iff.mp holds
  have length := single _ _ found (by rw [operation]; rfl)
  have inside := (List.getElem?_eq_some_iff.mp position).1
  exact eq_first_iff.mpr ⟨by omega, rfl⟩

/-- A constant supplies the elements of its payload. -/
theorem supplies_constant {graph : Graph} {meaning : Interpretation V} {id : Nat} {name : String}
    {payload : Payload} {info : TensorInfo} {extents : List Nat}
    (found : graph.frame? id = some ⟨name, .constant payload, [], [info]⟩)
    (known : info.shape.extents? = some extents) (depth : Nat) :
    graph.Supplies meaning (depth + 1) (.first id) ⟨info, graph.integers? (.first id),
      .tabulate extents fun position => some (meaning.element info.element payload position)⟩ where
  info := by
    rw [info?_eq, Port.first, found]
    rfl
  integers := rfl
  tensor := by
    refine denote?_succ_eq_some_iff.mpr ⟨_, [], found, Nat.zero_lt_one, .nil, ?_⟩
    exact Interpretation.value_first rfl (by simp [Interpretation.first?, known])

/-- A scalar constant that is written as a zero is read as one. -/
theorem integers?_zero {graph : Graph} {id : Nat} {name : String}
    (found : graph.frame? id =
      some ⟨name, .constant (.ofInt64s [0]), [], [.fixed .i64 []]⟩) :
    graph.integers? (.first id) = some [0] := by
  have content : graph.constant? (.first id) = some (.ofInt64s [0], .fixed .i64 []) := by
    rw [constant?_eq, Port.first, found]
    rfl
  have read : (Payload.ofInt64s [0]).integers? .i64 1 = some [0] := by decide
  rw [integers?, content]
  exact read

end Graph

/-- Shapes that are compatible have the same number of dimensions. -/
theorem Shape.rank_eq_of_compatible {left right : Shape} (compatible : left.compatible right = true) :
    left.rank = right.rank := by
  simp only [Shape.compatible, Bool.and_eq_true, beq_iff_eq] at compatible
  exact compatible.1

/-- The extents of a row at the top of a chain are told by the number of dimensions a lookup in it
promises. -/
theorem Chain.rowExtents_eq (chain : Chain) (rows : Nat) (columns : List Nat) (rank outer : Nat)
    (promised : rank = outer + (chain.rowExtents (rows :: columns)).length) :
    chain.rowExtents (rows :: columns) =
      if rank = outer + 1 then [Shape.product columns] else columns := by
  unfold rowExtents at promised ⊢
  simp only [List.drop_one, List.tail_cons] at promised ⊢
  by_cases flat : chain.reshape.isSome = true
  · rw [if_pos flat] at promised ⊢
    exact (if_pos promised).symm
  · rw [if_neg flat] at promised ⊢
    by_cases single : rank = outer + 1
    · have one : columns.length = 1 := by omega
      obtain ⟨extent, rfl⟩ := List.length_eq_one_iff.mp one
      rw [if_pos single]
      simp [Shape.product]
    · exact (if_neg single).symm

/-- A fitting lookup gathers the rows of the table at the top of its chain. -/
theorem Candidate.Fits.exists_gathered {candidate : Candidate} {graph : Graph}
    {meaning : Interpretation V} (fits : candidate.Fits graph) (sound : graph.Sound meaning)
    {info : TensorInfo} (carries : graph.info? (.first candidate.gather) = some info) {depth : Nat}
    {tensor : Tensor V}
    (denotes : graph.denote? meaning depth (.first candidate.gather) = some tensor) :
    ∃ below data indices named old, depth = below + 2 ∧
      graph.Supplies meaning (below + 1) (.first candidate.chain.top) data ∧
      graph.Supplies meaning (below + 1) candidate.indices indices ∧
      graph.Supplies meaning (below + 1) named old ∧ named.node = candidate.axis ∧
      graph.integers? named = some [candidate.axisValue] ∧
      ∀ result, meaning.gather data indices = some result → tensor = result := by
  obtain ⟨-, named, topInfo, reads, node, read, topCarries, rows⟩ := fits
  have lookup : graph.Supplies meaning depth (.first candidate.gather) ⟨info, _, tensor⟩ :=
    ⟨carries, rfl, denotes⟩
  obtain ⟨above, operands, rfl, sources, spelled⟩ := lookup.exists_operands reads
  simp only [List.forall₂_cons_left_iff, List.forall₂_nil_left_iff] at sources
  obtain ⟨data, _, dataSource, ⟨indices, _, indicesSource, ⟨old, _, oldSource, rfl, rfl⟩, rfl⟩,
    rfl⟩ := sources
  cases above with
  | zero => exact absurd dataSource.tensor (by simp [Graph.denote?])
  | succ below =>
    refine ⟨below, data, indices, named, old, rfl, dataSource, indicesSource, oldSource, node, read,
      fun result made => spelled result ?_⟩
    have dataInfo := dataSource.info_eq topCarries
    have rank := (sound.conforms dataSource.info dataSource.denotes).length_eq
    have named : old.namesRows data = true := by
      rw [Operand.namesRows, ← oldSource.integers, read, rank, dataInfo]
      exact beq_iff_eq.mpr rows
    simp [Interpretation.first?, named, made]

/-- The operands of a fused lookup restore the table that a lookup reads. -/
structure Candidate.Restores (candidate : Candidate) (granularity : Granularity) (graph : Graph)
    (meaning : Interpretation V) (depth : Nat) (ports : List Port) (table : List Nat)
    (data weight scale : Operand V) (zeroPoint : Option (Operand V)) : Prop where
  /-- The compressed table is supplied. -/
  supplied : graph.Supplies meaning depth (.first candidate.chain.weight) weight
  /-- The scale and the zero point are supplied. -/
  constants : List.Forall₂ (graph.Supplies meaning depth) (candidate.constants ++ ports)
    (scale :: zeroPoint.toList)
  /-- The compressed table has its extents. -/
  weightExtents : weight.tensor.extents = table
  /-- The table that is read has the same rows. -/
  dataExtents : data.tensor.extents = table.take 1 ++ candidate.chain.rowExtents table
  /-- The elements are restored one by one. -/
  tells : data.tensor.Tells (Shape.product (table.drop 1))
    (meaning.restored granularity data.info.element weight scale zeroPoint)

/-- A lookup in the compressed table is a lookup in the table it restores, if it promises the right
number of dimensions. -/
theorem Candidate.Restores.gatherCompressed_eq {candidate : Candidate} {granularity : Granularity}
    {graph : Graph} {meaning : Interpretation V} {depth : Nat} {ports : List Port}
    {table : List Nat} {data indices weight scale : Operand V} {zeroPoint : Option (Operand V)}
    {info : TensorInfo}
    (restores : candidate.Restores granularity graph meaning depth ports table data weight scale
      zeroPoint) (nonempty : 0 < table.length) (element : data.info.element = info.element)
    (rank : info.shape.rank + 1 = indices.tensor.extents.length + data.tensor.extents.length) :
    meaning.gatherCompressed granularity info weight indices scale zeroPoint =
      meaning.gather data indices := by
  obtain ⟨rows, columns, rfl⟩ := List.exists_cons_of_length_pos nonempty
  have laid := candidate.chain.rowExtents_eq rows columns info.shape.rank
    indices.tensor.extents.length (by
      have extents := congrArg List.length restores.dataExtents
      simp only [List.take_succ_cons, List.take_zero, List.length_append, List.length_singleton]
        at extents
      omega)
  have tells := restores.tells
  rw [element] at tells
  exact Interpretation.gather_eq_gatherCompressed restores.dataExtents restores.weightExtents
    (candidate.chain.product_rowExtents _) laid tells

/-- A table that is restored has rows. -/
theorem Candidate.Restores.exists_cons {candidate : Candidate} {granularity : Granularity}
    {graph : Graph} {meaning : Interpretation V} {depth : Nat} {ports : List Port}
    {table : List Nat} {data weight scale : Operand V} {zeroPoint : Option (Operand V)}
    (restores : candidate.Restores granularity graph meaning depth ports table data weight scale
      zeroPoint) (nonempty : 0 < table.length) :
    ∃ rows rest, data.tensor.extents = rows :: rest := by
  refine List.exists_cons_of_length_pos ?_
  rw [restores.dataExtents, List.length_append, List.length_take]
  omega

/-- What fits indices followed by a row of a table has one dimension less than indices and table
together. -/
theorem Operand.rank_of_compatible {indices data : Operand V} {info : TensorInfo}
    (ofIndices : indices.tensor.Conforms indices.info) (ofData : data.tensor.Conforms data.info)
    {rows : Nat} {rest : List Nat} (extents : data.tensor.extents = rows :: rest)
    (compatible : Shape.compatible ⟨indices.info.shape.dims ++ data.info.shape.dims.drop 1⟩
      info.shape = true) :
    info.shape.rank + 1 = indices.tensor.extents.length + data.tensor.extents.length := by
  have promised := Shape.rank_eq_of_compatible compatible
  have indicesRank := ofIndices.length_eq
  have dataRank := ofData.length_eq
  simp only [Shape.rank, List.length_append, List.length_drop, extents, List.length_cons]
    at promised indicesRank dataRank ⊢
  omega

namespace Candidate.Replaced

variable {candidate : Candidate} {plan : Plan} {granularity : Granularity}
  {graph : Graph} {axis : Port} {ports : List Port} {withAxis prepared added moved : Graph}
  {meaning : Interpretation V}
  (replaced : Replaced candidate plan granularity graph axis ports withAxis prepared added moved)
include replaced

/-- What was supplied before the fused lookup was added is supplied afterwards. -/
theorem supplies_added (fits : candidate.Fits graph) {depth : Nat} {port : Port}
    {operand : Operand V} (supplied : graph.Supplies meaning depth port operand) :
    added.Supplies meaning depth port operand := by
  have follows := (replaced.evolves_added fits).follows
  have info := supplied.info
  rw [Graph.info?_eq, Option.bind_eq_some_iff] at info
  obtain ⟨frame, found, -⟩ := info
  exact follows.supplies replaced.addedMirrored (Graph.agrees_id graph meaning) supplied
    ⟨frame, replaced.frame?_added found⟩

/-- The axis of the fused lookup holds a zero. -/
theorem exists_axis (fits : candidate.Fits graph) (single : graph.SingleConstants) {named : Port}
    (node : named.node = candidate.axis)
    (read : graph.integers? named = some [candidate.axisValue]) {depth : Nat} {old : Operand V}
    (supplied : graph.Supplies meaning (depth + 1) named old) :
    ∃ operand, added.Supplies meaning (depth + 1) axis operand ∧ operand.integers? = some [0] := by
  have ready := replaced.axisReady
  unfold AxisReady at ready
  split at ready
  · rename_i zero
    have same : axis = named := by
      rw [ready.1, ← node]
      exact (single.eq_first (Graph.holds_of_integers? read)).symm
    subst same
    refine ⟨old, replaced.supplies_added fits supplied, ?_⟩
    rw [← supplied.integers, read, zero]
  · obtain ⟨rfl, adds⟩ := ready
    have onAxis := adds.frame?_next
    have found := replaced.adds.frame?_eq_some (replaced.scaleReady.gains.frame?_eq_some onAxis)
    exact ⟨_, Graph.supplies_constant found rfl depth, Graph.integers?_zero found⟩

variable {table : List Nat} {float : ElementType} (lawful : meaning.Lawful)
  (sound : graph.Sound meaning)
  (calibration : candidate.Calibration graph granularity table float)
  (fits : candidate.Fits graph)
include lawful sound calibration fits

/-- Where there is a multiplication its constants restore the table. -/
theorem exists_restores_of_scaled {dequantization : Dequantization}
    (present : candidate.chain.dequantization = some dequantization) (noScale : plan.scale = none)
    {depth : Nat} {data : Operand V}
    (supplied : graph.Supplies meaning depth (.first candidate.chain.top) data) :
    ∃ weight scale zeroPoint, candidate.Restores granularity added meaning depth ports table data
      weight scale zeroPoint := by
  have ready := replaced.scaleReady
  rw [noScale] at ready
  obtain ⟨rfl, -⟩ := ready
  obtain ⟨weight, scale, zeroPoint, stores, scaleSource, dataExtents, tells⟩ :=
    exists_restored lawful sound calibration present fits.1 supplied
  have same : candidate.constants ++ [] = .first dequantization.scale ::
      (candidate.chain.factor.shift.map fun shift => Port.first shift.zeroPoint.constant).toList := by
    simp [constants, Chain.factor, present]
  refine ⟨weight, scale, zeroPoint, replaced.supplies_added fits stores.source, ?_, stores.extents,
    dataExtents, tells⟩
  rw [same]
  exact .cons (replaced.supplies_added fits scaleSource)
    (stores.zeroSource.imp fun _ _ supply => replaced.supplies_added fits supply)

/-- Where there is no multiplication a fresh one restores the table. -/
theorem exists_restores_of_bare (bare : candidate.chain.dequantization = none)
    {payload : Payload} (scale : plan.scale = some (float, payload))
    (one : Payload.ofFloats? float [.one] = some payload) {depth : Nat} {data : Operand V}
    (supplied : graph.Supplies meaning (depth + 1) (.first candidate.chain.top) data) :
    ∃ weight scale zeroPoint, candidate.Restores granularity added meaning (depth + 1) ports table
      data weight scale zeroPoint := by
  have ready := replaced.scaleReady
  rw [scale] at ready
  obtain ⟨rfl, adds⟩ := ready
  have found := replaced.adds.frame?_eq_some adds.frame?_next
  have known : Shape.extents? .scalar = some [] := rfl
  obtain ⟨unit, unitSource, unitElement, unitExtents, unitCell⟩ : ∃ unit : Operand V,
      added.Supplies meaning (depth + 1) (.first withAxis.next) unit ∧ unit.info.element = float ∧
      unit.tensor.extents = [] ∧ unit.tensor.cell 0 = some (meaning.element float payload 0) :=
    ⟨_, Graph.supplies_constant found known depth, rfl, rfl, rfl⟩
  obtain ⟨weight, source, extents, element, dataExtents, made⟩ :=
    exists_converted sound calibration bare fits.1 supplied
  refine ⟨weight, unit, none, replaced.supplies_added fits source, ?_, extents, dataExtents,
    fun position inside => ?_⟩
  · have same : candidate.constants ++ [Port.first withAxis.next] = [.first withAxis.next] := by
      simp [constants, bare]
    rw [same]
    exact .cons unitSource .nil
  · rw [element, Interpretation.restored_of_one lawful granularity one unitElement unitExtents
      unitCell, extents, Nat.div_add_mod', made, Tensor.cell_map]

/-- The constants the fused lookup reads restore the table the lookup reads. -/
theorem exists_restores (missing : candidate.missingScale graph = .ok plan.scale) {depth : Nat}
    {data : Operand V}
    (supplied : graph.Supplies meaning (depth + 1) (.first candidate.chain.top) data) :
    ∃ weight scale zeroPoint, candidate.Restores granularity added meaning (depth + 1) ports table
      data weight scale zeroPoint := by
  rcases missingScale_eq_ok_iff.mp missing with ⟨some, none⟩ | ⟨bare, info, payload, carries, one, same⟩
  · obtain ⟨dequantization, present⟩ := Option.ne_none_iff_exists'.mp some
    exact replaced.exists_restores_of_scaled lawful sound calibration fits present none supplied
  · obtain ⟨again, carriesAgain, element⟩ := calibration.converted
    obtain rfl := Option.some.inj (carries.symm.trans carriesAgain)
    rw [element] at one same
    exact replaced.exists_restores_of_bare lawful sound calibration fits bare same one supplied

/-- The fused lookup carries the tensor of the lookup and depends on a chain of no more nodes. -/
theorem denote?_fused (single : graph.SingleConstants) (mirrored : graph.Mirrored)
    (planned : candidate.plan graph = .ok plan) {depth : Nat} {tensor : Tensor V}
    (denotes : graph.denote? meaning depth (.first candidate.gather) = some tensor) :
    added.denote? meaning depth (.first prepared.next) = some tensor := by
  obtain ⟨topInfo, topCarries⟩ := fits.exists_info mirrored (Chain.top_mem _)
  obtain ⟨indicesInfo, indicesCarries⟩ := fits.exists_info_indices mirrored
  obtain ⟨-, carries, topElement, compatible, missing⟩ :=
    (plan_eq_ok_iff fits.isLive indicesCarries topCarries).mp planned
  obtain ⟨below, data, indices, named, old, rfl, dataSource, indicesSource, oldSource, node, read,
    gathered⟩ := fits.exists_gathered sound carries denotes
  obtain ⟨weight, scale, zeroPoint, restores⟩ :=
    replaced.exists_restores lawful sound calibration fits missing dataSource
  obtain ⟨axisOperand, axisSource, zero⟩ := replaced.exists_axis fits single node read oldSource
  have dataInfo := dataSource.info_eq topCarries
  have indicesInfo := indicesSource.info_eq indicesCarries
  have rows : 0 < table.length := Nat.lt_of_lt_of_le Nat.two_pos calibration.columns
  obtain ⟨first, rest, dataExtents⟩ := restores.exists_cons rows
  have rank : plan.info.shape.rank + 1 =
      indices.tensor.extents.length + data.tensor.extents.length := by
    refine Operand.rank_of_compatible (sound.conforms indicesSource.info indicesSource.denotes)
      (sound.conforms dataSource.info dataSource.denotes) dataExtents ?_
    rwa [indicesInfo, dataInfo]
  have same := restores.gatherCompressed_eq rows (dataInfo ▸ topElement) rank
  have fusedAdded := replaced.adds.frame?_next
  refine Graph.denote?_succ_eq_some_iff.mpr ⟨_, weight :: indices :: axisOperand :: scale ::
    zeroPoint.toList, fusedAdded, Nat.zero_lt_one, ?_, ?_⟩
  · exact .cons restores.supplied (.cons (replaced.supplies_added fits indicesSource)
      (.cons axisSource restores.constants))
  · have rowsNamed : axisOperand.namesRows weight = true := by
      rw [Operand.namesRows, zero]
      rfl
    apply Interpretation.value_first rfl
    rw [Interpretation.first?_gatherCompressed rowsNamed, same]
    unfold Interpretation.gather at gathered ⊢
    simp only [dataExtents] at gathered ⊢
    exact congrArg some (gathered _ rfl).symm

end Candidate.Replaced

end GatherFusion

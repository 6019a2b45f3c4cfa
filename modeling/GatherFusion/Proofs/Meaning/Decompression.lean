import GatherFusion.Proofs.Lookup.Calibration
import GatherFusion.Proofs.Lookup.Footprint
import GatherFusion.Proofs.Meaning.Denotation

/-!
# What a decompression chain carries

Step by step along a calibrated chain, the tensor at each node is told by row and column from the
compressed table and its constants: converted and shifted behind the factor, scaled behind the
multiplication, and restored at the top. Broadcasting meets a scale or zero point exactly where the
granularity places it, which is the heart of the matter; a reshape only changes the extents.
-/
namespace GatherFusion

variable {V : Type}

/-- The cells of a tensor are told by row and column, the columns being so many. -/
def Tensor.Tells (tensor : Tensor V) (width : Nat) (cell : Nat → Nat → Option V) : Prop :=
  ∀ position, position < Shape.product tensor.extents →
    tensor.cell position = cell (position / width) (position % width)

/-- The position of a group, from its row and its place within the row. -/
theorem position_of_group (position groups groupSize : Nat) (positive : 0 < groupSize) :
    position / groupSize = position / (groups * groupSize) * groups +
      position % (groups * groupSize) / groupSize := by
  have split := Nat.div_add_mod' position (groups * groupSize)
  generalize position / (groups * groupSize) = row at split ⊢
  generalize position % (groups * groupSize) = column at split ⊢
  have laid : position = column + groupSize * (row * groups) := by
    rw [← split, Nat.add_comm, Nat.mul_comm groupSize, Nat.mul_assoc]
  rw [laid, Nat.add_mul_div_left _ _ positive]
  omega

namespace Chain

/-- The extents of a row of the table at the top of a chain: those of the compressed table, or their
product where groups are flattened. -/
def rowExtents (chain : Chain) (table : List Nat) : List Nat :=
  if chain.reshape.isSome then [Shape.product (table.drop 1)] else table.drop 1

/-- A row has as many elements at the top of a chain as in the compressed table. -/
theorem product_rowExtents (chain : Chain) (table : List Nat) :
    Shape.product (chain.rowExtents table) = Shape.product (table.drop 1) := by
  unfold rowExtents
  split
  · exact Nat.mul_one _
  · rfl

end Chain

namespace Granularity

/-- Extents spread over a table, and an element of the table meets the place the granularity gives
it. -/
def Places (granularity : Granularity) (extents table : List Nat) : Prop :=
  Shape.Spreads extents table ∧ ∀ position, position < Shape.product table →
    granularity.place? extents (position / Shape.product (table.drop 1))
      (position % Shape.product (table.drop 1)) = some (Shape.meet extents table position)

/-- All elements meet a single place. -/
theorem places_of_single (granularity : Granularity) {extents table : List Nat}
    (single : Shape.product extents = 1) (short : extents.length ≤ table.length) :
    granularity.Places extents table := by
  have meets := Shape.spreads_of_product single short
  refine ⟨meets.1, fun position _ => ?_⟩
  rw [meets.2 position]
  exact if_pos single

/-- With a place for every row the elements meet that of their row. -/
theorem places_perChannel {rows : Nat} {ones columns : List Nat} (one : ∀ extent ∈ ones, extent = 1)
    (length : ones.length = columns.length) (several : ¬Shape.product (rows :: ones) = 1) :
    perChannel.Places (rows :: ones) (rows :: columns) := by
  have meets := Shape.spreads_append_ones [rows] one length
  refine ⟨meets.1, fun position inside => ?_⟩
  refine Eq.trans (if_neg several) ?_
  exact congrArg some (meets.2 position inside).symm

/-- With a place for every group the elements meet that of their group. -/
theorem places_grouped {rows groups groupSize : Nat} (positive : 0 < groupSize)
    (several : ¬Shape.product [rows, groups, 1] = 1) :
    (grouped groupSize).Places [rows, groups, 1] [rows, groups, groupSize] := by
  have meets := Shape.spreads_append_ones [rows, groups]
    (show ∀ extent ∈ [1], extent = 1 by simp) (show [1].length = [groupSize].length from rfl)
  refine ⟨meets.1, fun position inside => ?_⟩
  refine Eq.trans (if_neg several) ?_
  have met := meets.2 position inside
  simp only [List.cons_append, List.nil_append] at met
  have group := position_of_group position groups groupSize positive
  rw [met]
  simpa [Shape.product] using group.symm

end Granularity

namespace Candidate

/-- A constant that varies over a table is placed by its granularity. -/
theorem places_of_granularityOf {shape : Shape} {table extents : List Nat}
    {own granularity : Granularity} {grouped : Bool} (three : grouped = true → table.length = 3)
    (found : granularityOf shape table grouped = .ok (some own))
    (agrees : own = .perTensor ∨ own = granularity) (known : shape.extents? = some extents) :
    granularity.Places extents table := by
  obtain ⟨same, again, cases⟩ := granularityOf_cases found
  obtain rfl := Option.some.inj (known.symm.trans again)
  have short : extents.length ≤ table.length := by
    rcases cases with ⟨-, -, short⟩ | ⟨equal, -⟩
    · exact short
    · exact Nat.le_of_eq equal
  by_cases single : Shape.product extents = 1
  · exact granularity.places_of_single single short
  · rcases cases with ⟨-, one, -⟩ | ⟨length, first, ⟨rfl, ones⟩ |
      ⟨groups, groupSize, rfl, allowed, -, positive, second, third, groupsHere, last⟩⟩
    · contradiction
    · obtain rfl : Granularity.perChannel = granularity := agrees.resolve_left (by decide)
      cases extents with
      | nil => exact absurd rfl single
      | cons rows inner =>
        cases table with
        | nil => contradiction
        | cons bound columns =>
          obtain rfl : rows = bound := Option.some.inj first
          exact Granularity.places_perChannel ones (Nat.succ.inj length) single
    · obtain rfl : Granularity.grouped groupSize = granularity := agrees.resolve_left (by simp)
      have dims := three allowed
      match table, extents, dims, length with
      | [_, _, run], [rows, runs, _], _, _ =>
        simp only [List.getElem?_cons_zero, List.getElem?_cons_succ, Option.some.injEq] at *
        subst first second third groupsHere last
        exact Granularity.places_grouped positive single

/-- What the constants of a chain supply to its factor: the table as it is stored, and the zero point
if there is one. -/
structure Stores (candidate : Candidate) (graph : Graph) (meaning : Interpretation V) (depth : Nat)
    (table : List Nat) (weight : Operand V) (zeroPoint : Option (Operand V)) : Prop where
  /-- The table is supplied. -/
  source : graph.Supplies meaning depth (.first candidate.chain.weight) weight
  /-- So is the zero point. -/
  zeroSource : List.Forall₂ (graph.Supplies meaning depth) (candidate.chain.factor.shift.map
    fun shift => .first shift.zeroPoint.constant).toList zeroPoint.toList
  /-- The table has the extents it promises. -/
  extents : weight.tensor.extents = table

variable {graph : Graph} {meaning : Interpretation V} {candidate : Candidate}
  {granularity : Granularity} {table : List Nat} {float : ElementType} {depth : Nat}

/-- What is supplied is of the type promised. -/
theorem element_eq {id : Nat} {operand : Operand V} (carries : graph.Carries id float)
    (supplied : graph.Supplies meaning depth (.first id) operand) :
    operand.info.element = float := by
  obtain ⟨info, promised, element⟩ := carries
  rw [supplied.info_eq promised, element]

/-- A conversion supplies the conversion of what it reads. -/
theorem exists_source {convert : Nat} {source : Port} {operand : Operand V}
    (reads : graph.Reads convert .convert [source])
    (supplied : graph.Supplies meaning depth (.first convert) operand) :
    ∃ original, graph.Supplies meaning depth source original ∧ operand.tensor =
      original.tensor.map (meaning.convert original.info.element operand.info.element) := by
  obtain ⟨original, source, spelled⟩ := supplied.exists_one reads
  exact ⟨original, source, spelled _ rfl⟩

/-- A zero point supplies its constant, converted to the type of the arithmetic. -/
theorem exists_zero (lawful : meaning.Lawful) {zeroPoint : ZeroPoint} {operand : Operand V}
    (fits : zeroPoint.Fits graph) (carries : graph.Carries zeroPoint.top float)
    (supplied : graph.Supplies meaning depth (.first zeroPoint.top) operand) :
    ∃ zero, graph.Supplies meaning depth (.first zeroPoint.constant) zero ∧ operand.tensor =
      zero.tensor.map (meaning.convert zero.info.element float) := by
  have element := element_eq carries supplied
  obtain ⟨constant, convert⟩ := zeroPoint
  cases convert with
  | none =>
    refine ⟨operand, supplied, ?_⟩
    rw [element]
    exact (Tensor.map_eq_self (lawful.convert_self float) _).symm
  | some convert =>
    rw [← element]
    exact exists_source (fits.converts rfl).1 supplied

/-- A multiplication supplies the product of its factors, in whichever order they stand. -/
theorem exists_product (lawful : meaning.Lawful) {multiply top scale : Nat} {operand : Operand V}
    (reads : graph.Reads multiply .multiply [.first top, .first scale] ∨
      graph.Reads multiply .multiply [.first scale, .first top])
    (supplied : graph.Supplies meaning depth (.first multiply) operand) :
    ∃ value factor, graph.Supplies meaning depth (.first top) value ∧
      graph.Supplies meaning depth (.first scale) factor ∧
      (Shape.Spreads factor.tensor.extents value.tensor.extents → operand.tensor =
        Tensor.spread (meaning.multiply operand.info.element) value.tensor factor.tensor) := by
  rcases reads with reads | reads
  · obtain ⟨value, factor, valueSource, factorSource, spelled⟩ := supplied.exists_two reads
    refine ⟨value, factor, valueSource, factorSource, fun spreads => ?_⟩
    exact spelled _ (Tensor.broadcast_eq_spread _ spreads).1
  · obtain ⟨factor, value, factorSource, valueSource, spelled⟩ := supplied.exists_two reads
    refine ⟨value, factor, valueSource, factorSource, fun spreads => ?_⟩
    have swapped : (fun one other => meaning.multiply operand.info.element other one) =
        meaning.multiply operand.info.element :=
      funext fun one => funext fun other => lawful.multiply_comm _ other one
    have product := (Tensor.broadcast_eq_spread (meaning.multiply operand.info.element) spreads).2
    rw [swapped] at product
    exact spelled _ product

/-- A constant that varies over a table meets its elements where the granularity places it. -/
theorem Varies.valueAt_eq (sound : graph.Sound meaning) {constant : Nat} {operand : Operand V}
    (varies : Varies graph table granularity constant)
    (supplied : graph.Supplies meaning depth (.first constant) operand) :
    Shape.Spreads operand.tensor.extents table ∧ ∀ position, position < Shape.product table →
      granularity.valueAt operand (position / Shape.product (table.drop 1))
          (position % Shape.product (table.drop 1)) =
        operand.tensor.cell (Shape.meet operand.tensor.extents table position) := by
  obtain ⟨info, own, grouped, promised, three, found, agrees⟩ := varies
  obtain ⟨extents, known, -⟩ := granularityOf_cases found
  rw [← supplied.info_eq promised] at known found
  have carried := sound.extents_eq supplied known
  have placed := places_of_granularityOf three found agrees (known.trans (congrArg some carried.symm))
  refine ⟨placed.1, fun position inside => ?_⟩
  rw [Granularity.valueAt, placed.2 position inside, Option.bind_some]

section

variable (lawful : meaning.Lawful) (sound : graph.Sound meaning)
  (calibration : candidate.Calibration graph granularity table float)
include lawful sound calibration

omit lawful in
/-- The conversion of a chain supplies the converted table. -/
theorem exists_weight (converts : graph.Converts candidate.chain.convert candidate.chain.weight)
    {operand : Operand V}
    (supplied : graph.Supplies meaning depth (.first candidate.chain.convert) operand) :
    ∃ weight, graph.Supplies meaning depth (.first candidate.chain.weight) weight ∧
      weight.tensor.extents = table ∧
      operand.tensor = weight.tensor.map (meaning.convert weight.info.element float) := by
  obtain ⟨weight, source, made⟩ := exists_source converts.1 supplied
  obtain ⟨info, promised, known⟩ := calibration.weight
  rw [element_eq calibration.converted supplied] at made
  rw [← source.info_eq promised] at known
  exact ⟨weight, source, sound.extents_eq source known, made⟩

/-- The subtraction of a chain supplies the converted table, shifted by the zero point. -/
theorem exists_shifted_of_shift {dequantization : Dequantization} {shift : Shift}
    (scaled : candidate.chain.dequantization = some dequantization)
    (shifted : dequantization.shift = some shift)
    (converts : graph.Converts candidate.chain.convert candidate.chain.weight)
    (fits : shift.Fits graph candidate.chain.convert) {operand : Operand V}
    (supplied : graph.Supplies meaning depth (.first shift.subtract) operand) :
    ∃ weight zero, graph.Supplies meaning depth (.first candidate.chain.weight) weight ∧
      graph.Supplies meaning depth (.first shift.zeroPoint.constant) zero ∧
      weight.tensor.extents = table ∧ operand.tensor.extents = table ∧
      operand.tensor.Tells (Shape.product (table.drop 1))
        (meaning.shifted granularity float weight (some zero)) := by
  obtain ⟨subtracts, carries, varies⟩ := calibration.shifted dequantization scaled shift shifted
  obtain ⟨converted, subtracted, minuend, subtrahend, spelled⟩ := supplied.exists_two fits.1
  obtain ⟨weight, source, extents, made⟩ := exists_weight sound calibration converts minuend
  obtain ⟨zero, zeroSource, zeroMade⟩ := exists_zero lawful fits.2 carries subtrahend
  obtain ⟨spreads, meets⟩ := varies.valueAt_eq sound zeroSource
  have whole : converted.tensor.extents = table := by rw [made]; exact extents
  have part : subtracted.tensor.extents = zero.tensor.extents := by rw [zeroMade]; rfl
  have spread : operand.tensor =
      Tensor.spread (meaning.subtract float) converted.tensor subtracted.tensor := by
    rw [← whole, ← part] at spreads
    refine spelled _ ?_
    rw [Interpretation.first?, element_eq subtracts supplied]
    exact (Tensor.broadcast_eq_spread _ spreads).1
  refine ⟨weight, zero, source, zeroSource, extents, ?_, fun position inside => ?_⟩
  · rw [spread]
    exact whole
  · rw [spread] at inside ⊢
    have covered : position < Shape.product converted.tensor.extents := inside
    have within : position < Shape.product table := whole ▸ covered
    rw [Tensor.cell_spread _ _ covered, Interpretation.shifted, extents, Nat.div_add_mod', whole,
      part, made, zeroMade, Tensor.cell_map, Tensor.cell_map]
    simp only [meets position within]
    cases weight.tensor.cell position <;> cases zero.tensor.cell _ <;> rfl

/-- Behind the factor of a chain stands the table, converted and shifted. -/
theorem exists_shifted (fits : candidate.chain.factor.Fits graph) {operand : Operand V}
    (supplied : graph.Supplies meaning depth (.first candidate.chain.factor.top) operand) :
    ∃ weight zeroPoint, candidate.Stores graph meaning depth table weight zeroPoint ∧
      operand.tensor.extents = table ∧ operand.tensor.Tells (Shape.product (table.drop 1))
        (meaning.shifted granularity float weight zeroPoint) := by
  cases shifts : candidate.chain.factor.shift with
  | none =>
    rw [Chain.factor_top_of_unshifted shifts] at supplied
    obtain ⟨weight, source, extents, made⟩ := exists_weight sound calibration fits.1 supplied
    refine ⟨weight, none, ⟨source, by simp [shifts], extents⟩, ?_, fun position _ => ?_⟩
    · rw [made]
      exact extents
    · rw [made, Tensor.cell_map, Interpretation.shifted, extents, Nat.div_add_mod']
      cases weight.tensor.cell position <;> rfl
  | some shift =>
    obtain ⟨dequantization, scaled, shifted⟩ := Option.bind_eq_some_iff.mp shifts
    rw [Chain.factor_top_of_shifted shifts] at supplied
    obtain ⟨weight, zero, source, zeroSource, extents, whole, tells⟩ := exists_shifted_of_shift
      lawful sound calibration scaled shifted fits.1 (fits.2 shift shifts) supplied
    exact ⟨weight, some zero, ⟨source, by simp [shifts, zeroSource], extents⟩, whole, tells⟩

/-- Behind the multiplication of a chain stands the table, shifted and scaled. -/
theorem exists_scaled {dequantization : Dequantization}
    (present : candidate.chain.dequantization = some dequantization)
    (factorFits : candidate.chain.factor.Fits graph)
    (fits : dequantization.Fits graph candidate.chain.factor) {operand : Operand V}
    (supplied : graph.Supplies meaning depth (.first dequantization.multiply) operand) :
    ∃ weight scale zeroPoint, candidate.Stores graph meaning depth table weight zeroPoint ∧
      graph.Supplies meaning depth (.first dequantization.scale) scale ∧
      scale.info.element = float ∧ operand.tensor.extents = table ∧
      operand.tensor.Tells (Shape.product (table.drop 1))
        (meaning.scaled granularity weight scale zeroPoint) := by
  obtain ⟨scales, multiplies, varies⟩ := calibration.scaled dequantization present
  obtain ⟨value, scale, valueSource, scaleSource, product⟩ :=
    exists_product lawful fits.2.2 supplied
  obtain ⟨weight, zeroPoint, stores, whole, tells⟩ :=
    exists_shifted lawful sound calibration factorFits valueSource
  obtain ⟨spreads, meets⟩ := varies.valueAt_eq sound scaleSource
  have scaleElement := element_eq scales scaleSource
  rw [element_eq multiplies supplied, whole] at product
  have spread := product spreads
  refine ⟨weight, scale, zeroPoint, stores, scaleSource, scaleElement, ?_,
    fun position inside => ?_⟩
  · rw [spread]
    exact whole
  · rw [spread] at inside ⊢
    have covered : position < Shape.product value.tensor.extents := inside
    have within : position < Shape.product table := whole ▸ covered
    rw [Tensor.cell_spread _ _ covered, tells position covered, Interpretation.scaled, whole,
      scaleElement]
    simp only [meets position within]
    generalize meaning.shifted granularity float weight zeroPoint _ _ = shifted
    cases shifted <;> cases scale.tensor.cell _ <;> rfl

omit lawful in
/-- A reshape behind the multiplication lays each row out in one dimension and keeps the cells. -/
theorem exists_flat {dequantization : Dequantization}
    (present : candidate.chain.dequantization = some dequantization)
    (tail : candidate.chain.TailFits graph dequantization.multiply) {operand : Operand V}
    (supplied : graph.Supplies meaning depth
      (.first (candidate.chain.reshape.getD dequantization.multiply)) operand) :
    ∃ product, graph.Supplies meaning depth (.first dequantization.multiply) product ∧
      operand.info.element = float ∧ (product.tensor.extents = table →
        operand.tensor.extents = table.take 1 ++ candidate.chain.rowExtents table ∧
        ∀ position, position < Shape.product table →
          operand.tensor.cell position = product.tensor.cell position) := by
  unfold Chain.rowExtents
  cases reshaped : candidate.chain.reshape with
  | none =>
    rw [reshaped] at supplied
    have multiplies := (calibration.scaled dequantization present).2.1
    refine ⟨operand, supplied, element_eq multiplies supplied, fun extents => ⟨?_, fun _ _ => rfl⟩⟩
    rw [extents]
    exact (List.take_append_drop 1 table).symm
  | some reshape =>
    rw [reshaped] at supplied
    obtain ⟨specialZero, target, reads, -⟩ := tail.1 reshape reshaped
    obtain ⟨info, rows, promised, element, first, known⟩ := calibration.reshaped reshape reshaped
    obtain ⟨product, shape, source, -, spelled⟩ := supplied.exists_two reads
    rw [← supplied.info_eq promised] at element known
    have extents := sound.extents_eq supplied known
    have rowsFirst : table.take 1 = [rows] := by
      cases table with
      | nil => contradiction
      | cons bound columns => simpa using first
    have laid := spelled _ rfl
    refine ⟨product, source, element, fun _ => ⟨?_, fun position inside => ?_⟩⟩
    · rw [extents, rowsFirst]
      rfl
    · have covered : position < Shape.product operand.tensor.extents := by
        rw [extents]
        rw [← List.take_append_drop 1 table, Shape.product_append, rowsFirst] at inside
        simpa [Shape.product] using inside
      rw [laid] at covered ⊢
      exact Tensor.cell_tabulate _ covered

omit sound calibration in
/-- At the top of a chain with a multiplication stands what is below its last conversion,
converted. -/
theorem exists_unconverted {dequantization : Dequantization}
    (present : candidate.chain.dequantization = some dequantization)
    (tail : candidate.chain.TailFits graph dequantization.multiply) {operand : Operand V}
    (supplied : graph.Supplies meaning depth (.first candidate.chain.top) operand) :
    ∃ flat, graph.Supplies meaning depth
        (.first (candidate.chain.reshape.getD dequantization.multiply)) flat ∧
      operand.tensor = flat.tensor.map
        (meaning.convert flat.info.element operand.info.element) := by
  rw [Chain.top_of_scaled present] at supplied
  cases converted : candidate.chain.outputConvert with
  | none =>
    rw [converted] at supplied
    refine ⟨operand, supplied, ?_⟩
    exact (Tensor.map_eq_self (lawful.convert_self _) _).symm
  | some convert =>
    rw [converted] at supplied
    exact exists_source (tail.2 convert converted) supplied

/-- At the top of a chain with a multiplication stands the table, restored. -/
theorem exists_restored {dequantization : Dequantization}
    (present : candidate.chain.dequantization = some dequantization)
    (fits : candidate.chain.Fits graph) {operand : Operand V}
    (supplied : graph.Supplies meaning depth (.first candidate.chain.top) operand) :
    ∃ weight scale zeroPoint, candidate.Stores graph meaning depth table weight zeroPoint ∧
      graph.Supplies meaning depth (.first dequantization.scale) scale ∧
      operand.tensor.extents = table.take 1 ++ candidate.chain.rowExtents table ∧
      operand.tensor.Tells (Shape.product (table.drop 1))
        (meaning.restored granularity operand.info.element weight scale zeroPoint) := by
  obtain ⟨flat, flatSource, made⟩ :=
    exists_unconverted lawful present (fits.tail present) supplied
  obtain ⟨product, productSource, element, keeps⟩ :=
    exists_flat sound calibration present (fits.tail present) flatSource
  obtain ⟨weight, scale, zeroPoint, stores, scaleSource, scaleElement, whole, tells⟩ :=
    exists_scaled lawful sound calibration present fits.1 (fits.scales present) productSource
  obtain ⟨flatExtents, cells⟩ := keeps whole
  have count : Shape.product flat.tensor.extents = Shape.product table := by
    rw [flatExtents, Shape.product_append, candidate.chain.product_rowExtents,
      ← Shape.product_append, List.take_append_drop]
  refine ⟨weight, scale, zeroPoint, stores, scaleSource, ?_, fun position inside => ?_⟩
  · rw [made]
    exact flatExtents
  · rw [made] at inside ⊢
    have within : position < Shape.product table := count ▸ inside
    rw [Tensor.cell_map, cells position within, tells position (whole ▸ within), element,
      Interpretation.restored, scaleElement]

omit lawful in
/-- At the top of a bare conversion stands the table, converted. -/
theorem exists_converted (bare : candidate.chain.dequantization = none)
    (fits : candidate.chain.Fits graph) {operand : Operand V}
    (supplied : graph.Supplies meaning depth (.first candidate.chain.top) operand) :
    ∃ weight, graph.Supplies meaning depth (.first candidate.chain.weight) weight ∧
      weight.tensor.extents = table ∧ operand.info.element = float ∧
      operand.tensor.extents = table.take 1 ++ candidate.chain.rowExtents table ∧
      operand.tensor = weight.tensor.map (meaning.convert weight.info.element float) := by
  rw [fits.top_of_bare bare] at supplied
  obtain ⟨weight, source, extents, made⟩ :=
    exists_weight sound calibration fits.converts supplied
  refine ⟨weight, source, extents, element_eq calibration.converted supplied, ?_, made⟩
  simp only [made, Tensor.map, extents, Chain.rowExtents, (fits.bare bare).1, Option.isSome_none]
  exact (List.take_append_drop 1 table).symm

end

end Candidate

end GatherFusion

import GatherFusion.Proofs.Lookup.Verdict
import GatherFusion.Proofs.Meaning.Decompression
import GatherFusion.Proofs.Reachable

/-!
# Layouts and broadcasting

The layout of a table is found by comparing shapes, and the lookup that replaces a candidate reads
scale and zero point by that layout. What the table was multiplied by before was found by
broadcasting: shapes are aligned at the innermost dimension, and along a dimension of extent one
there is a single element for all coordinates. Both find the same element for every row and column
of the table, whatever its extents. A shape that broadcasting would spread in another way is told
apart and refused.
-/
namespace GatherFusion

namespace Shape

/-! ## Coordinates -/

/-- The coordinates of a position in row-major order, outermost first. -/
def coordinates : List Nat → Nat → List Nat
  | [], _ => []
  | _ :: inner, position => position / product inner :: coordinates inner (position % product inner)

/-- The row-major position of coordinates. -/
def positionOf : List Nat → List Nat → Nat
  | _ :: inner, first :: rest => first * product inner + positionOf inner rest
  | _, _ => 0

/-- The coordinates in a part that go with coordinates in a whole: the dimensions are aligned at the
innermost one, and a dimension of extent one has a single coordinate. -/
def aligned (part coordinates : List Nat) : List Nat :=
  List.zipWith (fun extent coordinate => if extent = 1 then 0 else coordinate) part
    (coordinates.drop (coordinates.length - part.length))

/-- The position in a part that broadcasting pairs with a position in a whole. -/
def paired (part whole : List Nat) (position : Nat) : Nat :=
  positionOf part (aligned part (coordinates whole position))

/-- There is a coordinate for every dimension. -/
@[simp] theorem length_coordinates (extents : List Nat) (position : Nat) :
    (coordinates extents position).length = extents.length := by
  induction extents generalizing position with
  | nil => rfl
  | cons _ inner ih => simp [coordinates, ih]

/-- A row and a column within it are read off the position they have in rows of one width. -/
theorem row_and_column (row : Nat) {column width : Nat} (inside : column < width) :
    (row * width + column) / width = row ∧ (row * width + column) % width = column := by
  have positive : 0 < width := Nat.zero_lt_of_lt inside
  constructor
  · rw [Nat.add_comm, Nat.add_mul_div_right _ _ positive, Nat.div_eq_of_lt inside, Nat.zero_add]
  · rw [Nat.add_comm, Nat.add_mul_mod_self_right, Nat.mod_eq_of_lt inside]

/-- The first coordinate is the row, and the others are those of the column within the row. -/
theorem coordinates_row (rows : Nat) {columns : List Nat} (row : Nat) {column : Nat}
    (inside : column < product columns) :
    coordinates (rows :: columns) (row * product columns + column) =
      row :: coordinates columns column := by
  obtain ⟨quotient, remainder⟩ := row_and_column row inside
  simp only [coordinates, quotient, remainder]

/-! ## Both ways to pair positions -/

/-- What meets a position is found for the inner and the outer dimensions apart. -/
theorem meetInner_append {inner bounds : List Nat} (outer whole : List Nat) (position : Nat)
    (same : inner.length = bounds.length) :
    meetInner (inner ++ outer) (bounds ++ whole) position =
      meetInner inner bounds position +
        product inner * meetInner outer whole (position / product bounds) := by
  induction inner generalizing bounds position with
  | nil =>
    obtain rfl := List.length_eq_zero_iff.mp same.symm
    simp [meetInner, product]
  | cons extent inner ih =>
    cases bounds with
    | nil => contradiction
    | cons bound bounds =>
      have later := ih (position / bound) (Nat.succ.inj same)
      have outermost : position / bound / product bounds = position / product (bound :: bounds) :=
        Nat.div_div_eq_div_mul position bound (product bounds)
      have together : product (extent :: inner) = extent * product inner := rfl
      simp only [List.cons_append, meetInner]
      rw [later, outermost, together, Nat.mul_add, Nat.mul_assoc, Nat.add_assoc]

/-- Dimensions the part does not have do not matter. -/
theorem meetInner_beyond {part whole : List Nat} (more : List Nat) (position : Nat)
    (short : part.length ≤ whole.length) :
    meetInner part (whole ++ more) position = meetInner part whole position := by
  induction part generalizing whole position with
  | nil => simp [meetInner]
  | cons extent part ih =>
    cases whole with
    | nil => contradiction
    | cons bound whole =>
      simp only [List.cons_append, meetInner]
      rw [ih _ (Nat.le_of_succ_le_succ short)]

/-- What meets a position is told by what is left of it within the whole. -/
theorem meetInner_mod {part whole : List Nat} (position : Nat)
    (short : part.length ≤ whole.length) :
    meetInner part whole (position % product whole) = meetInner part whole position := by
  induction part generalizing whole position with
  | nil => simp [meetInner]
  | cons extent part ih =>
    cases whole with
    | nil => contradiction
    | cons bound whole =>
      have first : position % product (bound :: whole) % bound = position % bound :=
        Nat.mod_mul_right_mod position bound (product whole)
      have rest : position % product (bound :: whole) / bound =
          position / bound % product whole :=
        Nat.mod_mul_right_div_self position bound (product whole)
      simp only [meetInner]
      rw [first, rest, ih _ (Nat.le_of_succ_le_succ short)]

/-- What meets a position is told by what is left of it within the whole. -/
theorem meet_mod {part whole : List Nat} (position : Nat) (short : part.length ≤ whole.length) :
    meet part whole (position % product whole) = meet part whole position := by
  rw [meet, meet, ← product_reverse, meetInner_mod]
  simpa using short

/-- An outermost dimension the part does not have does not matter. -/
theorem meet_skip {part inner : List Nat} (bound position : Nat)
    (short : part.length ≤ inner.length) :
    meet part (bound :: inner) position = meet part inner position := by
  rw [meet, List.reverse_cons, meetInner_beyond]
  · rfl
  · simpa using short

/-- An outermost dimension of the part counts unless it is spread. -/
theorem meet_cons (extent : Nat) {part : List Nat} {bound : Nat} {inner : List Nat} {position : Nat}
    (same : part.length = inner.length) (outermost : position / product inner < bound) :
    meet (extent :: part) (bound :: inner) position = meet part inner position +
      product part * if extent = 1 then 0 else position / product inner := by
  rw [meet, List.reverse_cons, List.reverse_cons, meetInner_append, product_reverse,
    product_reverse]
  · simp only [meetInner, Nat.mul_zero, Nat.add_zero, Nat.mod_eq_of_lt outermost]
    rfl
  · simpa using same

/-- The element of a part that meets a position is the one that broadcasting pairs with it. -/
theorem meet_eq_paired {part whole : List Nat} (short : part.length ≤ whole.length) {position : Nat}
    (inside : position < product whole) :
    meet part whole position = paired part whole position := by
  induction whole generalizing part position with
  | nil =>
    obtain rfl := List.length_eq_zero_iff.mp (Nat.le_zero.mp short)
    rfl
  | cons bound inner ih =>
    have positive : 0 < product inner := Nat.pos_of_mul_pos_left (Nat.zero_lt_of_lt inside)
    have innermost (part : List Nat) (short : part.length ≤ inner.length) :
        meet part inner position = paired part inner (position % product inner) := by
      rw [← ih short (Nat.mod_lt _ positive), meet_mod position short]
    -- The part lacks the outermost dimension of the whole, or has one that faces it.
    rcases Nat.lt_or_eq_of_le short with shorter | full
    · have short : part.length ≤ inner.length := Nat.le_of_lt_succ shorter
      have aligns : inner.length + 1 - part.length = inner.length - part.length + 1 := by omega
      rw [meet_skip bound position short, innermost part short]
      simp [paired, aligned, coordinates, aligns]
    · cases part with
      | nil => contradiction
      | cons extent part =>
        have same : part.length = inner.length := Nat.succ.inj full
        have outermost : position / product inner < bound :=
          Nat.div_lt_of_lt_mul (by rwa [Nat.mul_comm])
        have level : inner.length - part.length = 0 := by omega
        rw [meet_cons extent same outermost, innermost part (Nat.le_of_eq same)]
        simp only [paired, aligned, coordinates, positionOf, List.length_cons, length_coordinates,
          Nat.add_sub_add_right, level, List.drop_zero, List.zipWith_cons_cons]
        rw [Nat.add_comm, Nat.mul_comm (product part)]

end Shape

/-! ## What a granularity says of a constant -/

namespace Granularity

/-- The extents a scale or zero point may have beside a table, and the granularity they stand for:
a single element, an element for every row, or, where groups are laid side by side, an element for
every group of a row. -/
inductive Suits (flattened : Bool) : List Nat → Granularity → List Nat → Prop where
  /-- A single element, in no more dimensions than the table has. -/
  | single {table part : List Nat} (one : Shape.product part = 1)
    (short : part.length ≤ table.length) : Suits flattened table .perTensor part
  /-- An element for every row. -/
  | rows (count : Nat) (columns : List Nat) :
    Suits flattened (count :: columns) .perChannel (count :: List.replicate columns.length 1)
  /-- An element for every group. -/
  | groups (rows : Nat) {count size : Nat} (allowed : flattened = true) (some : 0 < count)
    (wide : 0 < size) : Suits flattened [rows, count, size] (.grouped size) [rows, count, 1]

/-- Which element of a scale or zero point broadcasting pairs with each element of a table, told by
row and column: the only one, or that of the row, or that of the run of neighbouring columns. -/
def Pairs (granularity : Granularity) (part : List Nat) (rows : Nat) (columns : List Nat) : Prop :=
  let element (row column : Nat) : Nat :=
    Shape.paired part (rows :: columns) (row * Shape.product columns + column)
  Shape.Spreads part (rows :: columns) ∧
    match granularity with
    | perTensor => Shape.product part = 1 ∧
        ∀ row < rows, ∀ column < Shape.product columns, element row column = 0
    | perChannel => ∀ row < rows, ∀ column < Shape.product columns, element row column = row
    | grouped groupSize => ∃ groups, columns = [groups, groupSize] ∧ 0 < groups ∧ 0 < groupSize ∧
        ∀ row < rows, ∀ column < Shape.product columns,
          element row column = row * groups + column / groupSize ∧ column / groupSize < groups

/-- The extents for which a granularity is found suit the table. -/
theorem suits_of_granularityOf {part table : List Nat} {grouped : Bool} {granularity : Granularity}
    (three : grouped = true → table.length = 3)
    (found : granularityOf (.fixed part) table grouped = .ok (some granularity))
    (nonempty : 0 < table.length) : Suits grouped table granularity part := by
  obtain ⟨extents, known, cases⟩ := Candidate.granularityOf_cases found
  obtain rfl : part = extents := Option.some.inj ((Shape.extents?_fixed part).symm.trans known)
  rcases cases with ⟨rfl, one, short⟩ | ⟨length, first, ⟨rfl, ones⟩ |
    ⟨groups, groupSize, rfl, allowed, some, wide, second, third, groupsHere, last⟩⟩
  · exact .single one short
  · match part, table, length with
    | count :: inner, bound :: columns, length =>
      have same : count = bound := Option.some.inj first
      have column : inner = List.replicate columns.length 1 :=
        List.eq_replicate_iff.mpr ⟨Nat.succ.inj length, ones⟩
      rw [same, column]
      exact .rows bound columns
    | [], [], _ => contradiction
  · obtain ⟨rows, bound, size, rfl⟩ := List.length_eq_three.mp (three allowed)
    obtain ⟨count, groupCount, unit, rfl⟩ := List.length_eq_three.mp length
    have sameRows : count = rows := Option.some.inj first
    have bounded : bound = groups := Option.some.inj second
    have sameGroups : groupCount = groups := Option.some.inj groupsHere
    have sameSize : size = groupSize := Option.some.inj third
    have single : unit = 1 := Option.some.inj last
    rw [sameRows, bounded, sameGroups, single, sameSize]
    exact .groups rows allowed some wide

/-- Extents that suit a table have no more dimensions than the table. -/
theorem Suits.length_le {flattened : Bool} {table part : List Nat} {granularity : Granularity}
    (suits : Suits flattened table granularity part) : part.length ≤ table.length := by
  cases suits with
  | single _ short => exact short
  | rows => simp
  | groups => simp

/-- Where a granularity places the elements of a table is where broadcasting pairs them. -/
theorem Places.paired {granularity : Granularity} {part columns : List Nat} {rows : Nat}
    (places : granularity.Places part (rows :: columns))
    (short : part.length ≤ (rows :: columns).length) {row column : Nat} (below : row < rows)
    (inside : column < Shape.product columns) : granularity.place? part row column =
      some (Shape.paired part (rows :: columns) (row * Shape.product columns + column)) := by
  have within : row * Shape.product columns + column < Shape.product (rows :: columns) := by
    have fits : (row + 1) * Shape.product columns ≤ rows * Shape.product columns :=
      Nat.mul_le_mul_right _ below
    have whole : Shape.product (rows :: columns) = rows * Shape.product columns := rfl
    rw [Nat.succ_mul] at fits
    omega
  have placed := places.2 _ within
  obtain ⟨quotient, remainder⟩ := Shape.row_and_column row inside
  rw [List.drop_one, List.tail_cons, quotient, remainder] at placed
  rw [placed, Shape.meet_eq_paired short within]

/-- Extents that suit a table are paired with it as the granularity they stand for says. -/
theorem Suits.pairs {flattened : Bool} {granularity : Granularity} {part columns : List Nat}
    {rows : Nat} (suits : Suits flattened (rows :: columns) granularity part)
    (places : granularity.Places part (rows :: columns)) : granularity.Pairs part rows columns := by
  have pairing {row column : Nat} (below : row < rows) (inside : column < Shape.product columns) :=
    places.paired suits.length_le below inside
  refine ⟨places.1, ?_⟩
  cases suits with
  | single one =>
    refine ⟨one, fun row below column inside => ?_⟩
    have placed := pairing below inside
    rw [place?, if_pos one] at placed
    exact (Option.some.inj placed).symm
  | rows =>
    intro row below column inside
    have placed := pairing below inside
    by_cases one : Shape.product (rows :: List.replicate columns.length 1) = 1
    · -- The only element is that of the only row.
      have onlyRow : rows = 1 := Shape.eq_one_of_product one rows List.mem_cons_self
      rw [place?, if_pos one, show 0 = row by omega] at placed
      exact (Option.some.inj placed).symm
    · rw [place?, if_neg one] at placed
      exact (Option.some.inj placed).symm
  | @groups _ count size _ some wide =>
    refine ⟨count, rfl, some, wide, fun row below column inside => ?_⟩
    have placed := pairing below inside
    have group : column / size < count := by
      apply Nat.div_lt_of_lt_mul
      rwa [Nat.mul_comm, ← Nat.mul_one size]
    refine ⟨?_, group⟩
    by_cases one : Shape.product [rows, count, 1] = 1
    · -- The only element is that of the only group of the only row.
      have onlyRow : rows = 1 := Shape.eq_one_of_product one rows (by simp)
      have onlyGroup : count = 1 := Shape.eq_one_of_product one count (by simp)
      have top : row = 0 := by omega
      have left : column / size = 0 := Nat.lt_one_iff.mp (onlyGroup ▸ group)
      have zero : row * count + column / size = 0 := by rw [top, left, Nat.zero_mul]
      rw [place?, if_pos one] at placed
      exact (Option.some.inj placed).symm.trans zero.symm
    · have width : Shape.product ([rows, count, 1].drop 1) = count := by simp [Shape.product]
      rw [place?, if_neg one, width] at placed
      exact (Option.some.inj placed).symm

/-- Groups are laid side by side in tables of three dimensions only. -/
theorem Suits.allow {flattened allowed : Bool} {table part : List Nat} {granularity : Granularity}
    (suits : Suits flattened table granularity part)
    (more : flattened = true → table.length = 3 → allowed = true) :
    Suits allowed table granularity part := by
  cases suits with
  | single one short => exact .single one short
  | rows count columns => exact .rows count columns
  | groups rows grouped some wide => exact .groups rows (more grouped rfl) some wide

/-- A granularity is found for extents that suit the table. It need not be the one they stand for,
since a single element is told before a single row, and a single group before a group. -/
theorem Suits.exists_granularityOf {flattened : Bool} {table part : List Nat}
    {granularity : Granularity} (suits : Suits flattened table granularity part) :
    ∃ found, granularityOf (.fixed part) table flattened = .ok (some found) := by
  by_cases one : Shape.product part = 1
  · refine ⟨.perTensor, ?_⟩
    simp only [granularityOf, Shape.extents?_fixed]
    rw [if_pos ⟨one, suits.length_le⟩]
  · cases suits with
    | single single => exact absurd single one
    | rows count columns =>
      refine ⟨.perChannel, ?_⟩
      simp only [granularityOf, Shape.extents?_fixed]
      rw [if_neg fun both => one both.1]
      simp [extentAt, bind, Except.bind, pure, Except.pure]
    | @groups rows count size grouped some wide =>
      simp only [granularityOf, Shape.extents?_fixed]
      rw [if_neg fun both => one both.1]
      by_cases single : count = 1
      · refine ⟨.perChannel, ?_⟩
        simp [extentAt, bind, Except.bind, pure, Except.pure, single]
      · refine ⟨.grouped size, ?_⟩
        simp [extentAt, bind, Except.bind, pure, Except.pure, single, grouped, some, wide]

end Granularity

/-- The constants of a dequantization, each with the name it has in a rejection. -/
def Dequantization.constants (dequantization : Dequantization) : List (Part × Nat) :=
  (.scale, dequantization.scale) ::
    (dequantization.shift.map fun shift => (Part.zeroPoint, shift.zeroPoint.constant)).toList

namespace Candidate

/-- A constant is paired with the table of a candidate as a granularity says. -/
def PairsWith (graph : Graph) (constant : Nat) (granularity : Granularity) (rows : Nat)
    (columns : List Nat) : Prop :=
  ∃ element part, graph.info? (.first constant) = some (.fixed element part) ∧
    granularity.Pairs part rows columns

/-- The granularity of a layout is what broadcasting does along a candidate. -/
structure Broadcasts (candidate : Candidate) (graph : Graph) (dequantization : Dequantization)
    (granularity : Granularity) (rows : Nat) (columns : List Nat) : Prop where
  /-- The table has rows and columns. -/
  weight : ∃ element, graph.info? (.first candidate.chain.weight) =
    some (.fixed element (rows :: columns))
  /-- The scale is paired with the table as the granularity says. -/
  scale : PairsWith graph dequantization.scale granularity rows columns
  /-- A zero point is paired in the same way, or it is a single element for the whole table. -/
  zeroPoint : ∀ shift ∈ dequantization.shift,
    PairsWith graph shift.zeroPoint.constant granularity rows columns ∨
      PairsWith graph shift.zeroPoint.constant .perTensor rows columns
  /-- A reshape has a row for every row of the table, and each of its columns is the element of the
  table that stands at this place of the row. -/
  reshape : ∀ reshape ∈ candidate.chain.reshape, ∃ element, graph.info? (.first reshape) =
      some (.fixed element [rows, Shape.product columns]) ∧
    ∀ row < rows, ∀ column < Shape.product columns,
      Shape.coordinates (rows :: columns)
          (Shape.positionOf [rows, Shape.product columns] [row, column]) =
        row :: Shape.coordinates columns column

/-- No granularity stands for the shape of a constant beside the table. -/
def Misfits (candidate : Candidate) (graph : Graph) (constant : Nat) : Prop :=
  ∃ info weight, graph.info? (.first constant) = some info ∧
    graph.info? (.first candidate.chain.weight) = some weight ∧
    ∀ table granularity part, weight.shape = .fixed table → info.shape = .fixed part →
      ¬Granularity.Suits candidate.chain.reshape.isSome table granularity part

/-- The element types, the dimensions of the table and the shapes along a candidate are in order. -/
def InShape (candidate : Candidate) (config : FusionConfig) (graph : Graph) : Prop :=
  ∃ carried table, candidate.carried graph = .ok carried ∧
    candidate.checkElements config graph carried = .ok () ∧
    tableExtents carried = .ok table ∧ candidate.checkShapes graph carried table = .ok ()

variable {candidate : Candidate} {config : FusionConfig} {graph : Graph} {layout : Layout}

/-! ## Accepted layouts -/

/-- A tensor whose extents are known is promised by them. -/
theorem eq_fixed_of_extents {info : TensorInfo} {extents : List Nat}
    (known : info.shape.extents? = some extents) : info = .fixed info.element extents := by
  obtain ⟨element, shape⟩ := info
  obtain rfl : shape = .fixed extents := Shape.extents?_eq_some_iff.mp known
  rfl

/-- A constant whose granularity is found is paired with the table as the granularity says. -/
theorem pairsWith_of_constantGranularity {carried : Carried} {rows : Nat} {columns : List Nat}
    {grouped : Bool} {part : Part} {constant : Nat} {granularity : Granularity}
    (three : grouped = true → (rows :: columns).length = 3)
    (found : constantGranularity graph carried (rows :: columns) grouped part constant =
      .ok granularity) : PairsWith graph constant granularity rows columns := by
  obtain ⟨info, carries, decided⟩ := constantGranularity_eq_ok_iff.mp found
  obtain ⟨extents, known, -⟩ := granularityOf_cases decided
  have fixed : info.shape = .fixed extents := Shape.extents?_eq_some_iff.mp known
  have places := places_of_granularityOf three decided (.inr rfl) known
  rw [fixed] at decided
  have suits := Granularity.suits_of_granularityOf three decided (Nat.succ_pos _)
  refine ⟨info.element, extents, ?_, suits.pairs places⟩
  rw [carries, ← eq_fixed_of_extents known]

/-- A described table is paired with its constants as its layout says. -/
theorem broadcasts_of_described (described : candidate.described config graph = .ok layout)
    {dequantization : Dequantization}
    (scaled : candidate.chain.dequantization = some dequantization) :
    ∃ rows columns, candidate.Broadcasts graph dequantization layout.granularity rows columns := by
  obtain ⟨carried, table, found, carries, -, extents, -, constants, -, reshaped⟩ :=
    described_eq_ok_iff.mp described
  obtain ⟨weight, -⟩ := carried_eq_ok_iff.mp carries
  obtain ⟨known, enough⟩ := tableExtents_eq_ok_iff.mp extents
  obtain ⟨same, flattened⟩ := reshapedGranularity_eq_ok constants reshaped
  cases table with
  | nil => contradiction
  | cons rows columns =>
    have three : (candidate.chain.reshape.isSome && (rows :: columns).length == 3) = true →
        (rows :: columns).length = 3 := fun both => by simpa using (Bool.and_eq_true_iff.mp both).2
    rcases constantsLayout_eq_ok_iff.mp constants with ⟨absent, -⟩ | ⟨own, present, scale, rest⟩
    · rw [scaled] at absent
      contradiction
    obtain rfl : dequantization = own := Option.some.inj (scaled.symm.trans present)
    rw [same]
    refine ⟨rows, columns, ⟨carried.weight.element, ?_⟩,
      pairsWith_of_constantGranularity three scale, fun shift shifts => ?_,
      fun reshape inside => ?_⟩
    · rw [weight, ← eq_fixed_of_extents known]
    · rcases rest with ⟨none, -⟩ | ⟨other, granularity, some, -, zeroPoint, agrees⟩
      · rw [none] at shifts
        contradiction
      · obtain rfl : other = shift := Option.some.inj (some.symm.trans shifts)
        have pairs := pairsWith_of_constantGranularity three zeroPoint
        rcases agrees with rfl | rfl
        · exact .inr pairs
        · exact .inl pairs
    · obtain ⟨info, count, promised, first, laid⟩ := flattened reshape inside
      obtain rfl : rows = count := Option.some.inj first
      refine ⟨info.element, ?_, fun row _ column within => ?_⟩
      · rw [promised, eq_fixed_of_extents laid]
        rfl
      · have position : Shape.positionOf [rows, Shape.product columns] [row, column] =
            row * Shape.product columns + column := by simp [Shape.positionOf, Shape.product]
        rw [position, Shape.coordinates_row rows row within]

/-! ## Refused shapes -/

/-- A constant of a shape for which no granularity is found is refused. -/
theorem constantGranularity_eq_refusal (carried : Carried) {table : List Nat} {grouped : Bool}
    (part : Part) {constant : Nat} {info : TensorInfo}
    (promised : graph.info? (.first constant) = some info)
    (none : granularityOf info.shape table grouped = .ok none) :
    constantGranularity graph carried table grouped part constant =
      refuse (.unrecognizedLayout part info.shape carried.weight.shape) := by
  have read : (liftM (graph.firstInfo constant) : Check TensorInfo) = .ok info :=
    monadLift_eq_ok_iff.mpr (firstInfo_eq_ok_iff.mpr promised)
  have decided : (liftM (granularityOf info.shape table grouped) : Check (Option Granularity)) =
      .ok Option.none := monadLift_eq_ok_iff.mpr none
  simp only [constantGranularity, read, decided, bind, Except.bind]

section

variable {carried : Carried} {table : List Nat} (carries : candidate.carried graph = .ok carried)
  (extents : tableExtents carried = .ok table)
include carries extents

/-- A constant whose shape no granularity stands for is refused. -/
theorem constantGranularity_of_misfits (part : Part) {constant : Nat} {info : TensorInfo}
    (promised : graph.info? (.first constant) = some info)
    (misfits : candidate.Misfits graph constant) :
    constantGranularity graph carried table
        (candidate.chain.reshape.isSome && table.length == 3) part constant =
      refuse (.unrecognizedLayout part info.shape carried.weight.shape) := by
  obtain ⟨other, weight, again, weighs, never⟩ := misfits
  obtain ⟨known, enough⟩ := tableExtents_eq_ok_iff.mp extents
  obtain ⟨weighsToo, -⟩ := carried_eq_ok_iff.mp carries
  obtain rfl : other = info := Option.some.inj (again.symm.trans promised)
  obtain rfl : weight = carried.weight := Option.some.inj (weighs.symm.trans weighsToo)
  have three : (candidate.chain.reshape.isSome && table.length == 3) = true → table.length = 3 :=
    fun both => by simpa using (Bool.and_eq_true_iff.mp both).2
  have nonempty : 0 < table.length := by omega
  obtain ⟨verdict, decided⟩ := granularityOf_eq_ok other.shape nonempty three
  cases verdict with
  | none => exact constantGranularity_eq_refusal carried part promised decided
  | some granularity =>
    obtain ⟨part, own, -⟩ := granularityOf_cases decided
    have fixed : other.shape = .fixed part := Shape.extents?_eq_some_iff.mp own
    rw [fixed] at decided
    have suits := Granularity.suits_of_granularityOf three decided nonempty
    have allowed := suits.allow fun both _ => (Bool.and_eq_true_iff.mp both).1
    exact absurd allowed (never _ _ _ (Shape.extents?_eq_some_iff.mp known) fixed)

/-- A granularity is found for any other constant. -/
theorem constantGranularity_of_not_misfits (part : Part) {constant : Nat} {info : TensorInfo}
    (promised : graph.info? (.first constant) = some info)
    (fitting : ¬candidate.Misfits graph constant) :
    ∃ granularity, constantGranularity graph carried table
      (candidate.chain.reshape.isSome && table.length == 3) part constant = .ok granularity := by
  obtain ⟨known, enough⟩ := tableExtents_eq_ok_iff.mp extents
  obtain ⟨weighs, -⟩ := carried_eq_ok_iff.mp carries
  have suits : ∃ granularity part, info.shape = .fixed part ∧
      Granularity.Suits candidate.chain.reshape.isSome table granularity part := by
    by_contra none
    apply fitting
    refine ⟨info, carried.weight, promised, weighs, ?_⟩
    intro own granularity part whole fixed suits
    have same : own = table := by
      have again := Shape.extents?_eq_some_iff.mpr whole
      exact Option.some.inj (again.symm.trans known)
    exact none ⟨granularity, part, fixed, same ▸ suits⟩
  obtain ⟨granularity, part, fixed, suits⟩ := suits
  have allowed : Granularity.Suits (candidate.chain.reshape.isSome && table.length == 3) table
      granularity part := suits.allow fun flattened three => by simp [flattened, three]
  obtain ⟨found, decided⟩ := allowed.exists_granularityOf
  rw [← fixed] at decided
  exact ⟨found, constantGranularity_eq_ok_iff.mpr ⟨info, promised, decided⟩⟩

/-- If a constant of a fitting candidate misfits, the first one that does is refused. -/
theorem constantsLayout_of_misfits (fits : candidate.Fits graph) {dequantization : Dequantization}
    (scaled : candidate.chain.dequantization = some dequantization)
    (misfit : ∃ entry ∈ dequantization.constants, candidate.Misfits graph entry.2) :
    ∃ part constant info, (part, constant) ∈ dequantization.constants ∧
      candidate.Misfits graph constant ∧ graph.info? (.first constant) = some info ∧
      candidate.constantsLayout graph carried table =
        refuse (.unrecognizedLayout part info.shape carried.weight.shape) := by
  obtain ⟨scaleInfo, scalePromised⟩ := exists_info_scale fits scaled
  obtain ⟨multiply, scale, shift⟩ := dequantization
  by_cases misfits : candidate.Misfits graph scale
  · have refused := constantGranularity_of_misfits carries extents .scale scalePromised misfits
    refine ⟨.scale, scale, scaleInfo, List.mem_cons_self, misfits, scalePromised, ?_⟩
    cases shift <;> simp only [constantsLayout, scaled, refused] <;> rfl
  · obtain ⟨⟨part, constant⟩, inside, misfitsToo⟩ := misfit
    obtain ⟨granularity, found⟩ :=
      constantGranularity_of_not_misfits carries extents .scale scalePromised misfits
    cases shift with
    | none =>
      obtain ⟨rfl, rfl⟩ : part = .scale ∧ constant = scale := by
        simpa [Dequantization.constants] using inside
      exact absurd misfitsToo misfits
    | some shift =>
      obtain ⟨zeroInfo, zeroPromised⟩ := (fits.holds_zeroPoint scaled rfl).exists_info
      have zero : candidate.Misfits graph shift.zeroPoint.constant := by
        simp only [Dequantization.constants, Option.map_some, Option.toList_some, List.mem_cons,
          Prod.mk.injEq, List.not_mem_nil, or_false] at inside
        rcases inside with ⟨-, rfl⟩ | ⟨-, rfl⟩
        · exact absurd misfitsToo misfits
        · exact misfitsToo
      have refused := constantGranularity_of_misfits carries extents .zeroPoint zeroPromised zero
      refine ⟨.zeroPoint, shift.zeroPoint.constant, zeroInfo, by simp [Dequantization.constants],
        zero, zeroPromised, ?_⟩
      simp only [constantsLayout, scaled, found, refused]
      rfl

end

/-- A description that is refused refuses the layout. -/
theorem layout_of_described_refused {reason : Rejection}
    (refused : candidate.described config graph = .error (.refusal reason)) :
    candidate.layout config graph = .error (.refusal reason) := by
  rw [layout_eq, refused]
  rfl

section

variable (fits : candidate.Fits graph) {dequantization : Dequantization}
  (scaled : candidate.chain.dequantization = some dequantization)
  (misfit : ∃ entry ∈ dequantization.constants, candidate.Misfits graph entry.2)
include fits scaled misfit

/-- A table with a constant that misfits is not described. -/
theorem described_ne_ok_of_misfits (layout : Layout) :
    candidate.described config graph ≠ .ok layout := by
  intro described
  obtain ⟨carried, table, found, carries, -, extents, -, constants, -⟩ :=
    described_eq_ok_iff.mp described
  obtain ⟨part, constant, info, -, -, -, refused⟩ :=
    constantsLayout_of_misfits carries extents fits scaled misfit
  rw [refused] at constants
  contradiction

/-- Where everything before is in order, a constant that misfits is the reason for the refusal. -/
theorem described_of_misfits (inShape : candidate.InShape config graph) :
    ∃ part constant info weight, (part, constant) ∈ dequantization.constants ∧
      candidate.Misfits graph constant ∧ graph.info? (.first constant) = some info ∧
      graph.info? (.first candidate.chain.weight) = some weight ∧
      candidate.described config graph =
        .error (.refusal (.unrecognizedLayout part info.shape weight.shape)) := by
  obtain ⟨carried, table, carries, elements, extents, shapes⟩ := inShape
  obtain ⟨part, constant, info, inside, misfits, promised, refused⟩ :=
    constantsLayout_of_misfits carries extents fits scaled misfit
  obtain ⟨weighs, -⟩ := carried_eq_ok_iff.mp carries
  refine ⟨part, constant, info, carried.weight, inside, misfits, promised, weighs, ?_⟩
  have read : (liftM (candidate.carried graph) : Check Carried) = .ok carried :=
    monadLift_eq_ok_iff.mpr carries
  simp only [described, read, elements, extents, shapes, refused, bind, Except.bind, refuse]

end

/-! ## The layouts of recognized candidates -/

/-- A lookup in a table of two rows of three groups of two, with a scale for every group and a
single zero point, and one in a table of two rows of two, with a scale for every column. -/
def twoLookups : List Action := [
  .addConstant "weight" (.fixed .u8 [2, 3, 2]) ⟨[1, 2, 3, 4, 5, 6, 7, 8, 9, 10, 11, 12]⟩,
  .addConstant "zero" (.fixed .u8 [1]) ⟨[7]⟩,
  .addConstant "scale" (.fixed .f16 [2, 3, 1]) ⟨[0, 60, 0, 61, 0, 62, 0, 63, 0, 64, 0, 65]⟩,
  .addConstant "axis" (.fixed .i64 []) (.ofInt64s [0]),
  .addConstant "target" (.fixed .i64 [2]) (.ofInt64s [2, 6]),
  .addParameter "indices" (.fixed .i64 [3]),
  .addNode .convert [.first 0] [.fixed .f16 [2, 3, 2]] "converted",
  .addNode .convert [.first 1] [.fixed .f16 [1]] "zero converted",
  .addNode .subtract [.first 6, .first 7] [.fixed .f16 [2, 3, 2]] "shifted",
  .addNode .multiply [.first 8, .first 2] [.fixed .f16 [2, 3, 2]] "scaled",
  .addNode (.reshape false) [.first 9, .first 4] [.fixed .f16 [2, 6]] "flat",
  .addNode (.gather 0) [.first 10, .first 5, .first 3] [.fixed .f16 [3, 6]] "grouped lookup",
  .addConstant "square" (.fixed .u8 [2, 2]) ⟨[1, 2, 3, 4]⟩,
  .addConstant "columns" (.fixed .f16 [2]) ⟨[0, 60, 0, 61]⟩,
  .addNode .convert [.first 12] [.fixed .f16 [2, 2]] "square converted",
  .addNode .multiply [.first 14, .first 13] [.fixed .f16 [2, 2]] "square scaled",
  .addNode (.gather 0) [.first 15, .first 5, .first 3] [.fixed .f16 [3, 2]] "square lookup"]

end Candidate

end GatherFusion

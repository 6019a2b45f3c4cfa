import GatherFusion.Proofs.Lookup.Acceptance

/-!
# The calibration of a compressed table

What the constraints establish about the arithmetic of a candidate is gathered here: the extents of
its table, the one type it computes in, and how scale and zero point vary over the table. Of the
shapes along the chain only that of a reshape matters, since the others follow from the operations.
-/
namespace GatherFusion

/-- The first output of a node is of an element type. -/
def Graph.Carries (graph : Graph) (id : Nat) (element : ElementType) : Prop :=
  ∃ info, graph.info? (.first id) = some info ∧ info.element = element

namespace Candidate

/-- A constant varies over a table as a granularity says, or not at all. -/
def Varies (graph : Graph) (table : List Nat) (granularity : Granularity) (constant : Nat) : Prop :=
  ∃ info own grouped, graph.info? (.first constant) = some info ∧
    (grouped = true → table.length = 3) ∧
    granularityOf info.shape table grouped = .ok (some own) ∧
    (own = .perTensor ∨ own = granularity)

/-- What the constraints establish about the arithmetic of a candidate. -/
structure Calibration (candidate : Candidate) (graph : Graph) (granularity : Granularity)
    (table : List Nat) (float : ElementType) : Prop where
  /-- The table has the extents. -/
  weight : ∃ info, graph.info? (.first candidate.chain.weight) = some info ∧
    info.shape.extents? = some table
  /-- The table has rows and columns. -/
  columns : 2 ≤ table.length
  /-- The table is converted to the type of the arithmetic. -/
  converted : graph.Carries candidate.chain.convert float
  /-- The table is multiplied in that type, by a scale that varies as the granularity says. -/
  scaled : ∀ dequantization ∈ candidate.chain.dequantization,
    graph.Carries dequantization.scale float ∧ graph.Carries dequantization.multiply float ∧
      Varies graph table granularity dequantization.scale
  /-- A zero point is subtracted in that type, and varies like the scale or not at all. -/
  shifted : ∀ dequantization ∈ candidate.chain.dequantization, ∀ shift ∈ dequantization.shift,
    graph.Carries shift.subtract float ∧ graph.Carries shift.zeroPoint.top float ∧
      Varies graph table granularity shift.zeroPoint.constant
  /-- A reshape keeps the rows and lays each of them out in one dimension. -/
  reshaped : ∀ reshape ∈ candidate.chain.reshape, ∃ info rows,
    graph.info? (.first reshape) = some info ∧ info.element = float ∧ table[0]? = some rows ∧
      info.shape.extents? = some [rows, Shape.product (table.drop 1)]

/-- A row that splits into groups of a size without a rest is as long as the groups together. -/
theorem eq_mul_of_groups {rowLength groups groupSize : Nat}
    (divides : ¬(groups = 0 ∨ rowLength % groups ≠ 0)) (quotient : rowLength / groups = groupSize) :
    rowLength = groups * groupSize := by
  have exact : rowLength % groups = 0 := by omega
  rw [← quotient]
  exact (Nat.mul_div_cancel' (Nat.dvd_of_mod_eq_zero exact)).symm

/-- A row of a table of three dimensions has as many columns as the last two extents make. -/
theorem product_drop_of_three {table : List Nat} (length : table.length = 3)
    {groups groupSize : Nat} (second : table[1]? = some groups)
    (third : table[2]? = some groupSize) : Shape.product (table.drop 1) = groups * groupSize := by
  match table, length with
  | [_, _, _], _ => simp_all [Shape.product]

/-- A reshape that is accepted keeps the granularity and lays each row out in one dimension. -/
theorem checkReshape_eq_ok {reshaped : TensorInfo} {table : List Nat}
    {granularity result : Granularity}
    (three : ∀ groupSize, granularity = .grouped groupSize →
      table.length = 3 ∧ table[2]? = some groupSize)
    (accepted : checkReshape reshaped table granularity = .ok result) :
    result = granularity ∧ ∃ rows, table[0]? = some rows ∧
      reshaped.shape.extents? = some [rows, Shape.product (table.drop 1)] := by
  unfold checkReshape at accepted
  split at accepted
  · simp [refuse] at accepted
  · rename_i extents known
    simp only [bind_eq_ok_iff, monadLift_eq_ok_iff, rowExtents_eq_ok_iff] at accepted
    obtain ⟨row, ⟨-, rfl⟩, accepted⟩ := accepted
    split at accepted
    · rename_i rows rowLength
      simp only [bind_eq_ok_iff, monadLift_eq_ok_iff, extentAt_eq_ok_iff] at accepted
      obtain ⟨tableRows, first, accepted⟩ := accepted
      split at accepted
      · simp [refuse] at accepted
      · rename_i same
        obtain rfl := Decidable.not_not.mp same
        cases granularity with
        | grouped size =>
          obtain ⟨length, last⟩ := three size rfl
          simp only [bind_eq_ok_iff, monadLift_eq_ok_iff, extentAt_eq_ok_iff] at accepted
          obtain ⟨groups, second, groupSize, third, accepted⟩ := accepted
          rw [third, Option.some.injEq] at last
          subst last
          split at accepted
          · simp [refuse] at accepted
          · rename_i divides
            have some : groups ≠ 0 := fun none => divides (.inl none)
            simp only [groupLength_eq_ok some, bind_eq_ok_iff, monadLift_eq_ok_iff,
              Except.ok.injEq, exists_eq_left'] at accepted
            split at accepted
            · simp [refuse] at accepted
            · rename_i split
              have quotient : rowLength / groups = groupSize := Decidable.not_not.mp split
              simp only [pure, Except.pure, Except.ok.injEq] at accepted
              refine ⟨by rw [← accepted, quotient], rows, first, ?_⟩
              rw [known, product_drop_of_three length second third, eq_mul_of_groups divides quotient]
        | perTensor | perChannel =>
          simp only at accepted
          split at accepted
          · rename_i width
            simp only [pure, Except.pure, Except.ok.injEq] at accepted
            exact ⟨accepted.symm, rows, first, by rw [known, width]⟩
          · simp [refuse] at accepted
    · simp [refuse] at accepted

variable {candidate : Candidate} {config : FusionConfig} {graph : Graph} {layout : Layout}

/-- Groups are only found in a table of three dimensions, and their size is the last extent. -/
theorem length_eq_three_of_grouped {shape : Shape} {table : List Nat} {grouped : Bool}
    {granularity : Granularity} (three : grouped = true → table.length = 3)
    (found : granularityOf shape table grouped = .ok (some granularity)) {groupSize : Nat}
    (groups : granularity = .grouped groupSize) :
    table.length = 3 ∧ table[2]? = some groupSize := by
  subst groups
  obtain ⟨extents, -, cases⟩ := granularityOf_cases found
  rcases cases with ⟨other, -⟩ | ⟨-, -, ⟨other, -⟩ | ⟨_, size, same, allowed, -, -, -, last, -⟩⟩
  · contradiction
  · contradiction
  · cases same
    exact ⟨three allowed, last⟩

section

variable {carried : Carried} {table : List Nat} {found : Layout}
  (constants : candidate.constantsLayout graph carried table = .ok found)
include constants

/-- Groups are only found in a table of three dimensions. -/
theorem length_eq_three_of_constantsLayout (groupSize : Nat)
    (groups : found.granularity = .grouped groupSize) :
    table.length = 3 ∧ table[2]? = some groupSize := by
  rcases constantsLayout_eq_ok_iff.mp constants with ⟨-, bare⟩ | ⟨_, -, scale, -⟩
  · rw [bare] at groups
    contradiction
  · obtain ⟨info, -, own⟩ := constantGranularity_eq_ok_iff.mp scale
    exact length_eq_three_of_grouped (by simp) own groups

/-- The scale varies as the granularity that is found says. -/
theorem varies_scale {dequantization : Dequantization}
    (inside : dequantization ∈ candidate.chain.dequantization) :
    Varies graph table found.granularity dequantization.scale := by
  rcases constantsLayout_eq_ok_iff.mp constants with ⟨absent, -⟩ | ⟨_, present, scale, -⟩
  · rw [absent] at inside
    contradiction
  · rw [present, Option.mem_some_iff] at inside
    subst inside
    obtain ⟨info, carries, own⟩ := constantGranularity_eq_ok_iff.mp scale
    exact ⟨info, _, _, carries, by simp, own, .inr rfl⟩

/-- A zero point varies as the granularity that is found says, or not at all. -/
theorem varies_zeroPoint {dequantization : Dequantization}
    (inside : dequantization ∈ candidate.chain.dequantization) {shift : Shift}
    (shifts : shift ∈ dequantization.shift) :
    Varies graph table found.granularity shift.zeroPoint.constant := by
  rcases constantsLayout_eq_ok_iff.mp constants with
    ⟨absent, -⟩ | ⟨_, present, -, ⟨none, -⟩ | ⟨_, own, some, -, zeroPoint, agrees⟩⟩
  · rw [absent] at inside
    contradiction
  · rw [present, Option.mem_some_iff] at inside
    subst inside
    rw [none] at shifts
    contradiction
  · rw [present, Option.mem_some_iff] at inside
    subst inside
    rw [some, Option.mem_some_iff] at shifts
    subst shifts
    obtain ⟨info, carries, varies⟩ := constantGranularity_eq_ok_iff.mp zeroPoint
    exact ⟨info, own, _, carries, by simp, varies, agrees⟩

/-- A reshape keeps the granularity that is found and lays each row out in one dimension. -/
theorem reshapedGranularity_eq_ok {granularity : Granularity}
    (reshaped : candidate.reshapedGranularity graph table found.granularity = .ok granularity) :
    granularity = found.granularity ∧
      ∀ reshape ∈ candidate.chain.reshape, ∃ info rows, graph.info? (.first reshape) = some info ∧
        table[0]? = some rows ∧
        info.shape.extents? = some [rows, Shape.product (table.drop 1)] := by
  unfold reshapedGranularity at reshaped
  split at reshaped
  · rename_i absent
    simp only [pure, Except.pure, Except.ok.injEq] at reshaped
    exact ⟨reshaped.symm, by simp [absent]⟩
  · rename_i reshape present
    simp only [bind_eq_ok_iff, monadLift_eq_ok_iff, firstInfo_eq_ok_iff] at reshaped
    obtain ⟨info, carries, accepted⟩ := reshaped
    have groups := length_eq_three_of_constantsLayout constants
    obtain ⟨same, rows, first, extents⟩ := checkReshape_eq_ok groups accepted
    refine ⟨same, fun other inside => ?_⟩
    rw [present, Option.mem_some_iff] at inside
    subst inside
    exact ⟨info, rows, carries, first, extents⟩

end

/-- A candidate that meets the constraints is calibrated. -/
theorem exists_calibration (described : candidate.described config graph = .ok layout) :
    ∃ table float, candidate.Calibration graph layout.granularity table float := by
  obtain ⟨carried, table, found, carries, elements, extents, -, constants, -, reshaped⟩ :=
    described_eq_ok_iff.mp described
  obtain ⟨weight, convert, -⟩ := carried_eq_ok_iff.mp carries
  obtain ⟨-, -, -, dequantized, reshapeElement, -⟩ := checkElements_eq_ok_iff.mp elements
  obtain ⟨known, columns⟩ := tableExtents_eq_ok_iff.mp extents
  obtain ⟨same, flattened⟩ := reshapedGranularity_eq_ok constants reshaped
  rw [same]
  refine ⟨table, carried.decompressed.element, ⟨_, weight, known⟩, columns, ⟨_, convert, rfl⟩, ?_, ?_,
    ?_⟩
  · intro dequantization inside
    obtain ⟨scaleElement, multiplyElement, -⟩ :=
      checkDequantizationElements_eq_ok_iff.mp (dequantized dequantization inside)
    exact ⟨scaleElement, multiplyElement, varies_scale constants inside⟩
  · intro dequantization inside shift shifts
    obtain ⟨-, -, shifted⟩ :=
      checkDequantizationElements_eq_ok_iff.mp (dequantized dequantization inside)
    obtain ⟨subtractElement, zeroElement⟩ := shifted shift shifts
    exact ⟨subtractElement, zeroElement, varies_zeroPoint constants inside shifts⟩
  · intro reshape inside
    obtain ⟨info, rows, carries, first, extents⟩ := flattened reshape inside
    obtain ⟨again, carriesAgain, element⟩ := reshapeElement reshape inside
    rw [carries, Option.some.injEq] at carriesAgain
    subst carriesAgain
    exact ⟨info, rows, carries, element, first, extents⟩

end Candidate

end GatherFusion

import GatherFusion.Proofs.Lookup.Constraints

/-!
# What accepted candidates are like

The checks of the constraints are read here as the facts they establish: which element types and
shapes the tensors along an accepted candidate have.
-/
namespace GatherFusion

/-- Integers are not floating-point numbers. -/
theorem ElementType.not_isFloat_of_isInteger {element : ElementType}
    (integer : element.isInteger = true) : element.isFloat = false := by
  unfold isInteger at integer
  unfold isFloat
  cases kind : element.kind <;> simp_all

/-- A constant carries a tensor. -/
theorem Graph.Holds.exists_info {graph : Graph} {port : Port} (holds : graph.Holds port) :
    ∃ info, graph.info? port = some info := by
  obtain ⟨frame, payload, info, found, -, position⟩ := Graph.holds_iff.mp holds
  exact ⟨info, by rw [Graph.info?_eq, found, Option.bind_some, position]⟩

namespace Candidate

variable {candidate : Candidate} {config : FusionConfig} {graph : Graph}

/-- A part of the expected element type. -/
theorem expectElement_eq_ok_iff {part : Part} {expected : ElementType} {info : TensorInfo} :
    expectElement part expected info = .ok () ↔ info.element = expected := demand_eq_ok_iff

/-- A first output that is promised. -/
theorem firstInfo_eq_ok_iff {id : Nat} {info : TensorInfo} :
    graph.firstInfo id = .ok info ↔ graph.info? (.first id) = some info :=
  Graph.carried_eq_ok_iff

/-- The arithmetic of a dequantization is done in one type. -/
theorem checkDequantizationElements_eq_ok_iff {float : ElementType}
    {dequantization : Dequantization} :
    checkDequantizationElements graph float dequantization = .ok () ↔
      (∃ info, graph.info? (.first dequantization.scale) = some info ∧ info.element = float) ∧
      (∃ info, graph.info? (.first dequantization.multiply) = some info ∧ info.element = float) ∧
      ∀ shift ∈ dequantization.shift,
        (∃ info, graph.info? (.first shift.subtract) = some info ∧ info.element = float) ∧
        ∃ info, graph.info? (.first shift.zeroPoint.top) = some info ∧ info.element = float := by
  simp only [checkDequantizationElements, checkShiftElements, bind_eq_ok_iff, monadLift_eq_ok_iff,
    firstInfo_eq_ok_iff, option_forM_eq_ok_iff, exists_unit_iff, expectElement_eq_ok_iff,
    ZeroPoint.top]
  constructor
  · rintro ⟨scale, scaleInfo, scaleSame, multiply, multiplyInfo, multiplySame, shifts⟩
    refine ⟨⟨scale, scaleInfo, scaleSame⟩, ⟨multiply, multiplyInfo, multiplySame⟩,
      fun shift shifted => ?_⟩
    obtain ⟨subtract, subtractInfo, subtractSame, zero⟩ := shifts shift shifted
    exact ⟨⟨subtract, subtractInfo, subtractSame⟩, zero⟩
  · rintro ⟨⟨scale, scaleInfo, scaleSame⟩, ⟨multiply, multiplyInfo, multiplySame⟩, shifts⟩
    refine ⟨scale, scaleInfo, scaleSame, multiply, multiplyInfo, multiplySame,
      fun shift shifted => ?_⟩
    obtain ⟨⟨subtract, subtractInfo, subtractSame⟩, zero⟩ := shifts shift shifted
    exact ⟨subtract, subtractInfo, subtractSame, zero⟩

/-- The element types along a candidate. -/
theorem checkElements_eq_ok_iff {carried : Carried} :
    candidate.checkElements config graph carried = .ok () ↔
      carried.weight.element ∈ config.weightTypes ∧ carried.indices.element.isInteger = true ∧
      carried.decompressed.element.isFloat = true ∧
      (∀ dequantization ∈ candidate.chain.dequantization,
        checkDequantizationElements graph carried.decompressed.element dequantization = .ok ()) ∧
      (∀ reshape ∈ candidate.chain.reshape, ∃ info, graph.info? (.first reshape) = some info ∧
        info.element = carried.decompressed.element) ∧
      (∀ convert ∈ candidate.chain.outputConvert, ∃ info,
        graph.info? (.first convert) = some info ∧ info.element.isFloat = true) ∧
      carried.top.element = carried.gather.element := by
  simp only [checkElements, checkOutputConvertElement, bind_eq_ok_iff, monadLift_eq_ok_iff,
    firstInfo_eq_ok_iff, option_forM_eq_ok_iff, exists_unit_iff, demand_eq_ok_iff,
    expectElement_eq_ok_iff]

variable {layout : Layout}

/-- The lookup of a described candidate yields floating point. -/
theorem isFloat_of_described (described : candidate.described config graph = .ok layout) :
    ∃ info, graph.info? (.first candidate.gather) = some info ∧ info.element.isFloat = true := by
  obtain ⟨carried, table, found, read, elements, -⟩ := described_eq_ok_iff.mp described
  obtain ⟨-, decompressed, gather, -, top⟩ := carried_eq_ok_iff.mp read
  obtain ⟨-, -, float, scales, reshapes, lasts, same⟩ := checkElements_eq_ok_iff.mp elements
  refine ⟨carried.gather, gather, ?_⟩
  rw [← same]
  have isFloat {id : Nat} (ends : candidate.chain.top = id)
      (element : ∃ info, graph.info? (.first id) = some info ∧ info.element.isFloat = true) :
      carried.top.element.isFloat = true := by
    obtain ⟨info, carries, isFloat⟩ := element
    rw [ends, carries, Option.some.injEq] at top
    rwa [← top]
  cases last : candidate.chain.outputConvert with
  | some convert => exact isFloat (by simp [Chain.top, last]) (lasts convert last)
  | none =>
    cases reshaped : candidate.chain.reshape with
    | some reshape =>
      obtain ⟨info, carries, element⟩ := reshapes reshape reshaped
      exact isFloat (by simp [Chain.top, last, reshaped]) ⟨info, carries, element ▸ float⟩
    | none =>
      cases scaled : candidate.chain.dequantization with
      | some dequantization =>
        obtain ⟨-, ⟨info, carries, element⟩, -⟩ :=
          checkDequantizationElements_eq_ok_iff.mp (scales dequantization scaled)
        exact isFloat (by simp [Chain.top, last, reshaped, scaled])
          ⟨info, carries, element ▸ float⟩
      | none => exact isFloat (by simp [Chain.top, last, reshaped, scaled]) ⟨_, decompressed, float⟩

/-- The indices of a described candidate are integers. -/
theorem isInteger_of_described (described : candidate.described config graph = .ok layout) :
    ∃ info, graph.info? candidate.indices = some info ∧ info.element.isInteger = true := by
  obtain ⟨carried, table, found, read, elements, -⟩ := described_eq_ok_iff.mp described
  exact ⟨carried.indices, (carried_eq_ok_iff.mp read).2.2.2.1,
    (checkElements_eq_ok_iff.mp elements).2.1⟩

/-! ## Descriptions that come to a verdict -/

/-- An extent within the table is there. -/
theorem extentAt_eq_ok_iff {table : List Nat} {index extent : Nat} :
    extentAt table index = .ok extent ↔ table[index]? = some extent := by
  unfold extentAt
  cases table[index]? <;> simp

/-- An extent within the table is there. -/
theorem extentAt_eq_ok {table : List Nat} {index : Nat} (inside : index < table.length) :
    extentAt table index = .ok table[index] :=
  extentAt_eq_ok_iff.mpr (List.getElem?_eq_getElem inside)

/-- The extents of a row are those behind the first. -/
theorem rowExtents_eq_ok_iff {table row : List Nat} :
    rowExtents table = .ok row ↔ 0 < table.length ∧ table.drop 1 = row := by
  cases table with
  | nil => simp [rowExtents]
  | cons rows extents => simp [rowExtents]

/-- A table with rows has extents of a row. -/
theorem rowExtents_eq_ok {table : List Nat} (some : 0 < table.length) :
    rowExtents table = .ok (table.drop 1) := rowExtents_eq_ok_iff.mpr ⟨some, rfl⟩

/-- A row that is split into groups has groups of some length. -/
theorem groupLength_eq_ok {rowLength groups : Nat} (some : groups ≠ 0) :
    groupLength rowLength groups = .ok (rowLength / groups) := by
  simp [groupLength, some]

/-- Every intermediate node is read at its first output, which therefore exists. -/
theorem Fits.exists_info (mirrored : graph.Mirrored) (fits : candidate.Fits graph) {id : Nat}
    (inside : id ∈ candidate.chain.intermediates) :
    ∃ info, graph.info? (.first id) = some info := by
  have offered {reader operation inputs} (reads : graph.Reads reader operation inputs)
      (operand : .first id ∈ inputs) : ∃ info, graph.info? (.first id) = some info := by
    obtain ⟨frame, found, -, rfl⟩ := reads
    obtain ⟨producer, info, live, position⟩ := mirrored.exists_frame found operand
    exact ⟨info, by rw [Graph.info?_eq, live, Option.bind_some, position]⟩
  rcases fits.1.top_or_read inside with rfl | ⟨reader, operation, inputs, reads, operand⟩
  · obtain ⟨-, axis, info, reads, -⟩ := fits
    exact offered reads (by simp)
  · exact offered reads operand

/-- The indices exist. -/
theorem Fits.exists_info_indices (mirrored : graph.Mirrored) (fits : candidate.Fits graph) :
    ∃ info, graph.info? candidate.indices = some info := by
  obtain ⟨-, axis, info, ⟨frame, found, -, inputs⟩, -⟩ := fits
  have operand : candidate.indices ∈ frame.inputs := by simp [inputs]
  obtain ⟨output, there⟩ := mirrored.exists_output_of_frame found operand
  exact ⟨output.info, by simp [Graph.info?, there]⟩

/-- Looking for a granularity settles where the table has a dimension, and three where groups are
allowed. -/
theorem granularityOf_eq_ok (shape : Shape) {table : List Nat} {grouped : Bool}
    (first : 0 < table.length) (three : grouped = true → table.length = 3) :
    ∃ verdict, granularityOf shape table grouped = .ok verdict := by
  unfold granularityOf
  cases shape.extents? with
  | none => exact ⟨_, rfl⟩
  | some extents =>
    simp only
    split
    · exact ⟨_, rfl⟩
    · split
      · exact ⟨_, rfl⟩
      · rename_i same
        have length : extents.length = table.length := Decidable.not_not.mp same
        rw [extentAt_eq_ok (length ▸ first), extentAt_eq_ok first]
        simp only [bind, Except.bind]
        split
        · exact ⟨_, rfl⟩
        · split
          · exact ⟨_, rfl⟩
          · split
            · exact ⟨_, rfl⟩
            · rename_i allowed
              have tableThree : table.length = 3 := three (by simpa using allowed)
              rw [extentAt_eq_ok (show 1 < table.length by omega),
                extentAt_eq_ok (show 2 < table.length by omega),
                extentAt_eq_ok (show 1 < extents.length by omega),
                extentAt_eq_ok (show 2 < extents.length by omega)]
              simp only
              split
              · exact ⟨_, rfl⟩
              · exact ⟨_, rfl⟩

/-- The three ways a constant may vary across a table. -/
theorem granularityOf_cases {shape : Shape} {table : List Nat} {grouped : Bool}
    {granularity : Granularity}
    (found : granularityOf shape table grouped = .ok (some granularity)) :
    ∃ extents, shape.extents? = some extents ∧
      ((granularity = .perTensor ∧ Shape.product extents = 1 ∧ extents.length ≤ table.length) ∨
        (extents.length = table.length ∧ extents[0]? = table[0]? ∧
          ((granularity = .perChannel ∧ ∀ extent ∈ extents.drop 1, extent = 1) ∨
            ∃ groups groupSize, granularity = .grouped groupSize ∧ grouped = true ∧ 0 < groups ∧
              0 < groupSize ∧ table[1]? = some groups ∧ table[2]? = some groupSize ∧
              extents[1]? = some groups ∧ extents[2]? = some 1))) := by
  unfold granularityOf at found
  cases known : shape.extents? with
  | none => simp [known] at found
  | some extents =>
    refine ⟨extents, rfl, ?_⟩
    simp only [known] at found
    split at found
    · rename_i single
      simp only [Except.ok.injEq, Option.some.injEq] at found
      exact .inl ⟨found.symm, single⟩
    · split at found
      · simp at found
      · rename_i same
        simp only [bind_eq_ok_iff, extentAt_eq_ok_iff] at found
        obtain ⟨count, first, rows, tableFirst, found⟩ := found
        split at found
        · simp [pure, Except.pure] at found
        · rename_i sameRows
          refine .inr ⟨Decidable.not_not.mp same, ?_, ?_⟩
          · rw [first, tableFirst, Decidable.not_not.mp sameRows]
          · split at found
            · rename_i ones
              simp only [pure, Except.pure, Except.ok.injEq, Option.some.injEq] at found
              exact .inl ⟨found.symm, by simpa using ones⟩
            · split at found
              · simp [pure, Except.pure] at found
              · rename_i allowed
                simp only [bind_eq_ok_iff, extentAt_eq_ok_iff] at found
                obtain ⟨groups, one, groupSize, two, columns, oneHere, last, twoHere, found⟩ :=
                  found
                split at found
                · rename_i agree
                  obtain ⟨positive, positiveSize, rfl, rfl⟩ := agree
                  simp only [pure, Except.pure, Except.ok.injEq, Option.some.injEq] at found
                  exact .inr ⟨columns, groupSize, found.symm, by simpa using allowed, positive,
                    positiveSize, one, two, oneHere, twoHere⟩
                · simp [pure, Except.pure] at found

/-- The table of a candidate has at least two dimensions, all of them known. -/
theorem tableExtents_eq_ok_iff {carried : Carried} {table : List Nat} :
    tableExtents carried = .ok table ↔
      carried.weight.shape.extents? = some table ∧ 2 ≤ table.length := by
  unfold tableExtents
  cases carried.weight.shape.extents? with
  | none => simp [refuse]
  | some extents =>
    simp only [bind_eq_ok_iff, exists_unit_iff, demand_eq_ok_iff, pure, Except.pure,
      Except.ok.injEq, Option.some.injEq]
    constructor
    · rintro ⟨enough, rfl⟩
      exact ⟨rfl, enough⟩
    · rintro ⟨rfl, enough⟩
      exact ⟨enough, rfl⟩

/-- The granularity of a constant is that of its shape. -/
theorem constantGranularity_eq_ok_iff {carried : Carried} {table : List Nat} {grouped : Bool}
    {part : Part} {constant : Nat} {granularity : Granularity} :
    constantGranularity graph carried table grouped part constant = .ok granularity ↔
      ∃ info, graph.info? (.first constant) = some info ∧
        granularityOf info.shape table grouped = .ok (some granularity) := by
  simp only [constantGranularity, bind_eq_ok_iff, monadLift_eq_ok_iff, firstInfo_eq_ok_iff]
  constructor
  · rintro ⟨info, carries, verdict, decided, same⟩
    cases verdict with
    | none => simp [refuse] at same
    | some found =>
      simp only [pure, Except.pure, Except.ok.injEq] at same
      exact ⟨info, carries, same ▸ decided⟩
  · rintro ⟨info, carries, decided⟩
    exact ⟨info, carries, some granularity, decided, rfl⟩

/-- The layout of the constants: a bare conversion has none of its own, and a zero point varies like
the scale or not at all. -/
theorem constantsLayout_eq_ok_iff {carried : Carried} {table : List Nat} {layout : Layout} :
    candidate.constantsLayout graph carried table = .ok layout ↔
      (candidate.chain.dequantization = none ∧ layout = ⟨.symmetric, .perTensor⟩) ∨
        ∃ dequantization, candidate.chain.dequantization = some dequantization ∧
          constantGranularity graph carried table
            (candidate.chain.reshape.isSome && table.length == 3) .scale dequantization.scale =
              .ok layout.granularity ∧
          ((dequantization.shift = none ∧ layout.encoding = .symmetric) ∨
            ∃ shift zeroPoint, dequantization.shift = some shift ∧
              layout.encoding = .asymmetric ∧ constantGranularity graph carried table
                (candidate.chain.reshape.isSome && table.length == 3) .zeroPoint
                shift.zeroPoint.constant = .ok zeroPoint ∧
              (zeroPoint = .perTensor ∨ zeroPoint = layout.granularity)) := by
  obtain ⟨encoding, granularity⟩ := layout
  cases scaled : candidate.chain.dequantization with
  | none =>
    simp [constantsLayout, scaled, pure, Except.pure, eq_comm]
  | some dequantization =>
    obtain ⟨multiply, scale, shift⟩ := dequantization
    cases shift with
    | none =>
      simp only [constantsLayout, scaled, bind_eq_ok_iff, pure, Except.pure, Except.ok.injEq,
        Layout.mk.injEq]
      constructor
      · rintro ⟨found, done, rfl, rfl⟩
        exact .inr ⟨_, rfl, done, .inl ⟨rfl, rfl⟩⟩
      · rintro (⟨absent, -⟩ | ⟨_, same, done, ⟨-, rfl⟩ | ⟨shift, _, shifted, -⟩⟩)
        · contradiction
        · cases same
          exact ⟨granularity, done, rfl, rfl⟩
        · cases same
          contradiction
    | some shift =>
      simp only [constantsLayout, scaled, bind_eq_ok_iff, exists_unit_iff, demand_eq_ok_iff, pure,
        Except.pure, Except.ok.injEq, Layout.mk.injEq]
      constructor
      · rintro ⟨found, done, zeroPoint, zeroDone, agree, rfl, rfl⟩
        exact .inr ⟨_, rfl, done, .inr ⟨shift, zeroPoint, rfl, rfl, zeroDone, agree⟩⟩
      · rintro (⟨absent, -⟩ | ⟨_, same, done, ⟨absent, -⟩ | ⟨_, zeroPoint, shifted, rfl, zeroDone,
          agree⟩⟩)
        · contradiction
        · cases same
          contradiction
        · cases same
          cases shifted
          exact ⟨granularity, done, zeroPoint, zeroDone, agree, rfl, rfl⟩

end Candidate

end GatherFusion

import GatherFusion.Proofs.Lookup.Acceptance
import GatherFusion.Proofs.Lookup.Readers

/-!
# The constraints come to a verdict

In a mirrored graph the constraints of a fitting candidate break no promise but one: the lookup has
to offer an output. Where it does, the candidate is accepted or rejected; where it does not, the
check stops at the missing output.
-/
namespace GatherFusion.Candidate

variable {candidate : Candidate} {config : FusionConfig} {graph : Graph}

/-- Reading a first output that is there and checking it settles. -/
theorem settles_firstInfo {α : Type} {id : Nat} (there : ∃ info, graph.info? (.first id) = some info)
    {check : TensorInfo → Check α} (settles : ∀ info, Settles (check info)) :
    Settles (do check (← graph.firstInfo id) : Check α) := by
  obtain ⟨info, carries⟩ := there
  exact settles_bind (settles_liftM (firstInfo_eq_ok_iff.mpr carries)) fun info _ => settles info

/-- The scale carries a tensor. -/
theorem exists_info_scale (fits : candidate.Fits graph) {dequantization : Dequantization}
    (scaled : candidate.chain.dequantization = some dequantization) :
    ∃ info, graph.info? (.first dequantization.scale) = some info :=
  (fits.holds_constants _ (by simp [constants, scaled])).exists_info

/-- The extents of the table settle. -/
theorem settles_tableExtents (carried : Carried) : Settles (tableExtents carried) := by
  unfold tableExtents
  split
  · exact settles_refuse _
  · exact settles_bind (settles_demand _) fun _ _ => settles_ok _

/-- The granularity of a constant settles where the table has a dimension, and three where groups
are allowed. -/
theorem settles_constantGranularity (carried : Carried) {table : List Nat} {grouped : Bool}
    (first : 0 < table.length) (three : grouped = true → table.length = 3) {part : Part}
    {constant : Nat} (there : ∃ info, graph.info? (.first constant) = some info) :
    Settles (constantGranularity graph carried table grouped part constant) := by
  refine settles_firstInfo there fun info => ?_
  obtain ⟨verdict, decided⟩ := granularityOf_eq_ok info.shape first three
  refine settles_bind (settles_liftM decided) fun verdict _ => ?_
  cases verdict with
  | none => exact settles_refuse _
  | some granularity => exact settles_ok _

/-- The layout of the constants settles. -/
theorem settles_constantsLayout (fits : candidate.Fits graph) (carried : Carried)
    {table : List Nat} (first : 0 < table.length) :
    Settles (candidate.constantsLayout graph carried table) := by
  have three : (candidate.chain.reshape.isSome && table.length == 3) = true →
      table.length = 3 := by simp
  unfold constantsLayout
  split
  · exact settles_ok _
  · rename_i multiply scale scaled
    exact settles_bind (settles_constantGranularity carried first three
      (exists_info_scale fits scaled)) fun _ _ => settles_ok _
  · rename_i multiply scale shift scaled
    refine settles_bind (settles_constantGranularity carried first three
      (exists_info_scale fits scaled)) fun _ _ => ?_
    refine settles_bind (settles_constantGranularity carried first three
      (fits.holds_zeroPoint scaled rfl).exists_info) fun _ _ => ?_
    exact settles_bind (settles_demand _) fun _ _ => settles_ok _

section

variable (mirrored : graph.Mirrored) (fits : candidate.Fits graph)
include mirrored fits

/-- The multiplication carries a tensor. -/
theorem exists_info_multiply {dequantization : Dequantization}
    (scaled : candidate.chain.dequantization = some dequantization) :
    ∃ info, graph.info? (.first dequantization.multiply) = some info :=
  fits.exists_info mirrored (Chain.multiply_mem scaled)

/-- The subtraction carries a tensor. -/
theorem exists_info_subtract {dequantization : Dequantization}
    (scaled : candidate.chain.dequantization = some dequantization) {shift : Shift}
    (shifted : dequantization.shift = some shift) :
    ∃ info, graph.info? (.first shift.subtract) = some info :=
  fits.exists_info mirrored (Chain.subtract_mem scaled shifted)

/-- The zero point carries a tensor, converted or not. -/
theorem exists_info_zeroPoint {dequantization : Dequantization}
    (scaled : candidate.chain.dequantization = some dequantization) {shift : Shift}
    (shifted : dequantization.shift = some shift) :
    ∃ info, graph.info? (.first shift.zeroPoint.top) = some info := by
  cases converted : shift.zeroPoint.convert with
  | none =>
    rw [ZeroPoint.top_of_unconverted converted]
    exact (fits.holds_zeroPoint scaled shifted).exists_info
  | some convert =>
    rw [ZeroPoint.top_of_converted converted]
    exact fits.exists_info mirrored (Chain.zeroConvert_mem scaled shifted converted)

/-- The checks of element types settle. -/
theorem settles_checkElements (carried : Carried) :
    Settles (candidate.checkElements config graph carried) := by
  refine settles_bind (settles_demand _) fun _ _ => settles_bind (settles_demand _) fun _ _ =>
    settles_bind (settles_demand _) fun _ _ => settles_bind ?_ fun _ _ => settles_bind ?_ fun _ _ =>
      settles_bind ?_ fun _ _ => settles_demand _
  · refine settles_option_forM fun dequantization scaled => ?_
    refine settles_firstInfo (exists_info_scale fits scaled) fun _ => ?_
    refine settles_bind (settles_demand _) fun _ _ => ?_
    refine settles_firstInfo (exists_info_multiply mirrored fits scaled) fun _ => ?_
    refine settles_bind (settles_demand _) fun _ _ => ?_
    refine settles_option_forM fun shift shifted => ?_
    refine settles_firstInfo (exists_info_subtract mirrored fits scaled shifted) fun _ => ?_
    refine settles_bind (settles_demand _) fun _ _ => ?_
    exact settles_firstInfo (exists_info_zeroPoint mirrored fits scaled shifted)
      fun _ => settles_demand _
  · exact settles_option_forM fun reshape reshaped =>
      settles_firstInfo (fits.exists_info mirrored (Chain.reshape_mem reshaped))
        fun _ => settles_demand _
  · exact settles_option_forM fun convert last =>
      settles_firstInfo (fits.exists_info mirrored (Chain.outputConvert_mem last))
        fun _ => settles_demand _

/-- The checks of shapes settle. -/
theorem settles_checkShapes (carried : Carried) {table : List Nat} (first : 0 < table.length) :
    Settles (candidate.checkShapes graph carried table) := by
  refine settles_bind (settles_demand _) fun _ _ => settles_bind (settles_demand _) fun _ _ =>
    settles_bind ?_ fun _ _ => settles_bind ?_ fun _ _ =>
      settles_bind (settles_liftM (extentAt_eq_ok first)) fun _ _ => settles_demand _
  · refine settles_option_forM fun dequantization scaled => ?_
    refine settles_firstInfo (exists_info_multiply mirrored fits scaled) fun _ => ?_
    refine settles_bind (settles_demand _) fun _ _ => ?_
    exact settles_option_forM fun shift shifted =>
      settles_firstInfo (exists_info_subtract mirrored fits scaled shifted) fun _ => settles_demand _
  · refine settles_option_forM fun convert last => ?_
    obtain ⟨dequantization, scaled⟩ := fits.1.exists_dequantization (.inl last)
    rw [checkOutputConvertShape_eq ((fits.1.tail scaled).2 convert last)]
    refine settles_firstInfo (fits.exists_info mirrored (Chain.outputConvert_mem last))
      fun _ => ?_
    exact settles_firstInfo (fits.exists_info mirrored (Chain.below_mem scaled))
      fun _ => settles_demand _

/-- The check of the reshape settles, since groups are found in tables of three dimensions only. -/
theorem settles_reshapedGranularity {table : List Nat} {granularity : Granularity}
    (first : 0 < table.length)
    (three : ∀ groupSize, granularity = .grouped groupSize → table.length = 3) :
    Settles (candidate.reshapedGranularity graph table granularity) := by
  unfold reshapedGranularity
  split
  · exact settles_ok _
  · rename_i reshape reshaped
    refine settles_firstInfo (fits.exists_info mirrored (Chain.reshape_mem reshaped))
      fun info => ?_
    unfold checkReshape
    split
    · exact settles_refuse _
    · refine settles_bind (settles_liftM (rowExtents_eq_ok first)) fun _ _ => ?_
      split
      · refine settles_bind (settles_liftM (extentAt_eq_ok first)) fun _ _ => ?_
        split
        · exact settles_refuse _
        · split
          · rename_i groupSize
            have length := three groupSize rfl
            refine settles_bind (settles_liftM (extentAt_eq_ok (by omega))) fun _ _ => ?_
            refine settles_bind (settles_liftM (extentAt_eq_ok (by omega))) fun _ _ => ?_
            split
            · exact settles_refuse _
            · rename_i divides
              -- A row is divided among groups only behind the test that there are some.
              have some : _ ≠ 0 := fun none => divides (.inl none)
              refine settles_bind (settles_liftM (groupLength_eq_ok some)) fun _ _ => ?_
              split
              · exact settles_refuse _
              · exact settles_ok _
          all_goals
            split
            · exact settles_ok _
            · exact settles_refuse _
      · exact settles_refuse _

/-- The description of a table settles if the lookup offers an output. -/
theorem settles_described (offers : ∃ info, graph.info? (.first candidate.gather) = some info) :
    Settles (candidate.described config graph) := by
  obtain ⟨weight, weightInfo⟩ := fits.holds_weight.exists_info
  obtain ⟨decompressed, decompressedInfo⟩ :=
    fits.exists_info mirrored candidate.chain.convert_mem
  obtain ⟨gather, gatherInfo⟩ := offers
  obtain ⟨top, topInfo⟩ := fits.exists_info mirrored (Chain.top_mem _)
  obtain ⟨indices, indicesInfo⟩ := fits.exists_info_indices mirrored
  have read : candidate.carried graph = .ok ⟨weight, decompressed, gather, indices, top⟩ :=
    carried_eq_ok_iff.mpr ⟨weightInfo, decompressedInfo, gatherInfo, indicesInfo, topInfo⟩
  refine settles_bind (settles_liftM read) fun carried _ => ?_
  refine settles_bind (settles_checkElements mirrored fits carried) fun _ _ => ?_
  refine settles_bind (settles_tableExtents carried) fun table known => ?_
  have first : 0 < table.length := by
    have enough := (tableExtents_eq_ok_iff.mp known).2
    omega
  refine settles_bind (settles_checkShapes mirrored fits carried first) fun _ _ => ?_
  refine settles_bind (settles_constantsLayout fits carried first) fun found done => ?_
  refine settles_bind (settles_reshapedGranularity mirrored fits first fun groupSize same => ?_)
    fun _ _ => settles_ok _
  rcases constantsLayout_eq_ok_iff.mp done with ⟨-, rfl⟩ | ⟨dequantization, -, scale, -⟩
  · contradiction
  · obtain ⟨info, -, decided⟩ := constantGranularity_eq_ok_iff.mp scale
    obtain ⟨extents, -, ⟨other, -⟩ | ⟨-, -, ⟨other, -⟩ | ⟨_, _, -, grouped, -⟩⟩⟩ :=
      granularityOf_cases decided
    · rw [same] at other
      contradiction
    · rw [same] at other
      contradiction
    · simp only [Bool.and_eq_true, beq_iff_eq] at grouped
      exact grouped.2

/-- Where the lookup offers no output, the description of the table stops at that output. -/
theorem described_eq_fault (config : FusionConfig)
    (missing : graph.info? (.first candidate.gather) = none) :
    candidate.described config graph =
      .error (.fault (.missingOutput (.first candidate.gather))) := by
  obtain ⟨weight, weightInfo⟩ := fits.holds_weight.exists_info
  obtain ⟨decompressed, decompressedInfo⟩ :=
    fits.exists_info mirrored candidate.chain.convert_mem
  obtain ⟨-, axis, info, ⟨frame, found, -⟩, -⟩ := fits
  have stops : graph.firstInfo candidate.gather =
      .error (.missingOutput (.first candidate.gather)) := by
    have there : graph.frame? (Port.first candidate.gather).node = some frame := found
    rw [Graph.info?_eq, there, Option.bind_some] at missing
    rw [Graph.firstInfo, Graph.carried_eq, there, Option.elim_some, missing, Option.elim_none]
  have read : candidate.carried graph = .error (.missingOutput (.first candidate.gather)) := by
    unfold carried
    rw [firstInfo_eq_ok_iff.mpr weightInfo, firstInfo_eq_ok_iff.mpr decompressedInfo, stops]
    rfl
  unfold described
  rw [read]
  rfl

end

end GatherFusion.Candidate

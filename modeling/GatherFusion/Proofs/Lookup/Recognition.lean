import GatherFusion.Proofs.Graph.Mirror
import GatherFusion.Proofs.Lookup.Grammar
import GatherFusion.Proofs.Sequencing

/-!
# Recognition in mirrored graphs

Every port a node of a mirrored graph reads belongs to a live node, so no search breaks off there.
The candidate recognized at a lookup is then the one that fits, and the candidates of a graph are
all that fit.
-/
namespace GatherFusion.Graph

/-! ## Safe searches -/

/-- The search for a converted constant is safe at a live node. -/
theorem safe_convertedConstant {graph : Graph} {id : Nat} {node : Node}
    (found : graph.node? id = some node) : (graph.convertedConstant id).Safe := by
  refine Search.safe_inspect_bind (node_eq_ok_iff.mpr found) ?_
  split
  · exact Search.safe_ofOption _
  · exact Search.safe_failure

section

variable {graph : Graph} (mirrored : graph.Mirrored)
include mirrored

/-- A node is there for every port that is read. -/
theorem Reads.exists_node {id : Nat} {operation : Operation} {inputs : List Port}
    (reads : graph.Reads id operation inputs) (port : Port) (operand : port ∈ inputs) :
    ∃ node, graph.node? port.node = some node := by
  obtain ⟨frame, found, -, rfl⟩ := reads
  obtain ⟨producer, -, live, -⟩ := mirrored.exists_frame found operand
  obtain ⟨node, there, -⟩ := frame?_eq_some_iff.mp live
  exact ⟨node, there⟩

/-- The search for a converted table is safe at a live node. -/
theorem safe_tableFactor {id : Nat} {node : Node} (found : graph.node? id = some node) :
    (graph.tableFactor id).Safe := by
  refine Search.safe_inspect_bind (node_eq_ok_iff.mpr found) ?_
  split
  · exact Search.safe_bind (safe_convertedConstant found) fun _ _ => Search.safe_pure _
  · rename_i minuend zero operation inputs
    have reads : graph.Reads id .subtract [minuend, zero] :=
      reads_iff.mpr ⟨node, found, operation, inputs⟩
    obtain ⟨left, leftFound⟩ := reads.exists_node mirrored minuend (by simp)
    obtain ⟨right, rightFound⟩ := reads.exists_node mirrored zero (by simp)
    split
    · exact Search.safe_failure
    · refine Search.safe_bind (safe_convertedConstant leftFound) fun _ _ => ?_
      refine Search.safe_bind ?_ fun _ _ => Search.safe_pure _
      unfold Graph.zeroPoint
      split
      · exact Search.safe_pure _
      · exact Search.safe_bind (safe_convertedConstant rightFound) fun _ _ =>
          Search.safe_pure _
  · exact Search.safe_failure

/-- One reading of a multiplication is safe where its table is read. -/
theorem safe_scaledTable {table scale : Port} {node : Node}
    (found : graph.node? table.node = some node) : (graph.scaledTable table scale).Safe := by
  unfold scaledTable
  split
  · exact Search.safe_failure
  · refine Search.safe_bind (Search.safe_ofOption _) fun _ _ => ?_
    exact Search.safe_bind (safe_tableFactor mirrored found) fun _ _ => Search.safe_pure _

/-- The search for a multiplication is safe at a live node. -/
theorem safe_multiplication {id : Nat} {node : Node} (found : graph.node? id = some node) :
    (graph.multiplication id).Safe := by
  refine Search.safe_inspect_bind (node_eq_ok_iff.mpr found) ?_
  split
  · rename_i left right operation inputs
    have reads : graph.Reads id .multiply [left, right] :=
      reads_iff.mpr ⟨node, found, operation, inputs⟩
    obtain ⟨_, leftFound⟩ := reads.exists_node mirrored left (by simp)
    obtain ⟨_, rightFound⟩ := reads.exists_node mirrored right (by simp)
    refine Search.safe_bind ?_ fun _ _ => Search.safe_pure _
    exact Search.safe_orElse (safe_scaledTable mirrored leftFound)
      (safe_scaledTable mirrored rightFound)
  · exact Search.safe_failure

/-- In a mirrored graph the search for a multiplication finds the factor and the scale. -/
theorem Mirrored.finds_multiplication_iff {id : Nat} {factor : Factor}
    {dequantization : Dequantization} :
    (graph.multiplication id).Finds (factor, dequantization) ↔
      dequantization.multiply = id ∧ factor.Fits graph ∧ dequantization.Fits graph factor := by
  refine Graph.finds_multiplication_iff fun left right reads => ?_
  obtain ⟨_, found⟩ := reads.exists_node mirrored left (by simp)
  exact safe_scaledTable mirrored found

/-- The chain below a last conversion ends in a multiplication or in the reshape of one. -/
theorem Mirrored.finds_scaledChain_iff {id : Nat} {outputConvert : Option Nat} {chain : Chain} :
    (graph.scaledChain outputConvert id).Finds chain ↔
      chain.outputConvert = outputConvert ∧ chain.factor.Fits graph ∧ ∃ dequantization,
        chain.dequantization = some dequantization ∧ dequantization.Fits graph chain.factor ∧
        chain.reshape.getD dequantization.multiply = id ∧
        ∀ reshape ∈ chain.reshape, ∃ specialZero target,
          graph.Reads reshape (.reshape specialZero) [.first dequantization.multiply, target] ∧
            graph.Holds target := by
  obtain ⟨weight, convert, scaled, reshape, last⟩ := chain
  simp only [scaledChain, Search.finds_bind_iff, Search.finds_pure_iff, Prod.exists,
    finds_throughReshape_iff, mirrored.finds_multiplication_iff, Chain.mk.injEq]
  constructor
  · rintro ⟨reshape, multiplied, through, factor, dequantization, ⟨rfl, fits, scales⟩, rfl, rfl,
      rfl, rfl, rfl⟩
    have same : Chain.factor ⟨factor.weight, factor.convert, some dequantization, reshape,
        outputConvert⟩ = factor := by
      rw [Chain.factor, Option.bind_some, ← scales.1]
    rw [same]
    refine ⟨rfl, fits, dequantization, rfl, scales, ?_⟩
    rcases through with ⟨rfl, specialZero, target, reads, holds⟩ | ⟨rfl, rfl, -⟩
    · refine ⟨rfl, fun reshape inside => ?_⟩
      cases inside
      exact ⟨specialZero, target, reads, holds⟩
    · exact ⟨rfl, by simp⟩
  · rintro ⟨rfl, fits, dequantization, rfl, scales, rfl, reshapes⟩
    refine ⟨reshape, dequantization.multiply, ?_, _, dequantization, ⟨rfl, fits, scales⟩,
      rfl, rfl, rfl, rfl, rfl⟩
    cases reshape with
    | none =>
      obtain ⟨inputs, reads, -⟩ := scales.exists_reads
      exact .inr ⟨rfl, rfl, .multiply, inputs, reads, by simp⟩
    | some reshape => exact .inl ⟨rfl, reshapes reshape rfl⟩

/-- A search below a conversion finds the chains that end in it and do arithmetic. -/
theorem Mirrored.finds_convertedChain_iff {id : Nat} {node : Node} {chain : Chain}
    (found : graph.node? id = some node) (operation : node.operation = .convert) :
    (graph.convertedChain id node).Finds chain ↔
      chain.outputConvert = some id ∧ chain.Fits graph := by
  simp only [convertedChain, Search.finds_bind_iff, Search.finds_ofOption_iff,
    soleOperand?_eq_some_iff, mirrored.finds_scaledChain_iff]
  constructor
  · rintro ⟨source, ⟨inputs, first⟩, last, fits, dequantization, scaled, scales, below, reshapes⟩
    refine ⟨last, fits, ?_⟩
    rw [scaled]
    refine ⟨scales, reshapes, fun convert inside => ?_⟩
    rw [last, Option.mem_some_iff] at inside
    subst inside
    rw [below, ← eq_first_iff.mpr ⟨first, rfl⟩]
    exact reads_iff.mpr ⟨node, found, operation, inputs⟩
  · rintro ⟨last, fits⟩
    obtain ⟨dequantization, scaled⟩ := fits.exists_dequantization (.inl last)
    obtain ⟨reshapes, converts⟩ := fits.tail scaled
    have inputs := ((converts id last).of_frame? (frame?_of_node? found)).2
    exact ⟨_, ⟨inputs, rfl⟩, last, fits.1, dequantization, scaled, fits.scales scaled, rfl, reshapes⟩

/-- A search at another node finds the chains that end there without a conversion. -/
theorem Mirrored.finds_unconvertedChain_iff {id : Nat} {chain : Chain} :
    (graph.scaledChain none id).Finds chain ↔
      chain.outputConvert = none ∧ chain.dequantization ≠ none ∧ chain.top = id ∧
        chain.Fits graph := by
  have top (dequantization : Dequantization) (last : chain.outputConvert = none)
      (scaled : chain.dequantization = some dequantization) :
      chain.top = chain.reshape.getD dequantization.multiply := by
    rw [Chain.top_of_scaled scaled, last, Option.getD_none]
  rw [mirrored.finds_scaledChain_iff]
  constructor
  · rintro ⟨last, fits, dequantization, scaled, scales, below, reshapes⟩
    refine ⟨last, by simp [scaled], (top dequantization last scaled).trans below, fits, ?_⟩
    rw [scaled]
    exact ⟨scales, reshapes, by simp [last]⟩
  · rintro ⟨last, multiplies, ends, fits⟩
    obtain ⟨dequantization, scaled⟩ := Option.ne_none_iff_exists'.mp multiplies
    exact ⟨last, fits.1, dequantization, scaled, fits.scales scaled,
      (top dequantization last scaled).symm.trans ends, (fits.tail scaled).1⟩

omit mirrored in
/-- The search for a bare conversion is safe at a live node. -/
theorem safe_bareChain {id : Nat} {node : Node} (found : graph.node? id = some node) :
    (graph.bareChain id).Safe :=
  Search.safe_bind (safe_convertedConstant found) fun _ _ => Search.safe_pure _

omit mirrored in
/-- A bare conversion that fits is found. -/
theorem finds_chain_of_bare {chain : Chain} (fits : chain.Fits graph)
    (bare : chain.dequantization = none) : (graph.chain chain.top).Finds chain := by
  obtain ⟨unreshaped, unconverted⟩ := fits.bare bare
  obtain ⟨node, found, operation, -⟩ := reads_iff.mp fits.converts.1
  simp only [Graph.chain, Search.finds_bind_iff, Search.finds_inspect_iff, node_eq_ok_iff]
  rw [fits.top_of_bare bare]
  refine ⟨node, found, ?_⟩
  simp only [operation]
  rw [Search.finds_orElse_iff (safe_bareChain found), finds_bareChain_iff]
  refine .inl ⟨?_, fits.converts⟩
  cases chain
  cases bare
  cases unreshaped
  cases unconverted
  rfl

/-- A chain that fits and ends in its arithmetic is found. -/
theorem Mirrored.finds_chain_of_unconverted {chain : Chain} (fits : chain.Fits graph)
    {dequantization : Dequantization} (scaled : chain.dequantization = some dequantization)
    (last : chain.outputConvert = none) : (graph.chain chain.top).Finds chain := by
  obtain ⟨below, belowInputs, belowReads, -, noConvert⟩ :=
    exists_reads_below (fits.scales scaled) (fits.tail scaled)
  have finds := mirrored.finds_unconvertedChain_iff.mpr ⟨last, by simp [scaled], rfl, fits⟩
  have ends : chain.reshape.getD dequantization.multiply = chain.top := by
    rw [Chain.top_of_scaled scaled, last, Option.getD_none]
  obtain ⟨node, found, operation, -⟩ := reads_iff.mp (ends ▸ belowReads)
  simp only [Graph.chain, Search.finds_bind_iff, Search.finds_inspect_iff, node_eq_ok_iff]
  refine ⟨node, found, ?_⟩
  split
  · rename_i convert
    exact absurd (operation.symm.trans convert) noConvert
  · exact finds

/-- A chain that fits and ends in a conversion of its arithmetic is found. -/
theorem Mirrored.finds_chain_of_converted {chain : Chain} (fits : chain.Fits graph)
    {dequantization : Dequantization} (scaled : chain.dequantization = some dequantization)
    {convert : Nat} (last : chain.outputConvert = some convert) :
    (graph.chain chain.top).Finds chain := by
  obtain ⟨below, belowInputs, belowReads, noConstant, -⟩ :=
    exists_reads_below (fits.scales scaled) (fits.tail scaled)
  have converts := (fits.tail scaled).2 convert last
  obtain ⟨node, found, operation, inputs⟩ := reads_iff.mp converts
  simp only [Graph.chain, Search.finds_bind_iff, Search.finds_inspect_iff, node_eq_ok_iff]
  rw [Chain.top_of_outputConvert last]
  refine ⟨node, found, ?_⟩
  simp only [operation]
  rw [Search.finds_orElse_iff (safe_bareChain found),
    mirrored.finds_convertedChain_iff found operation]
  refine .inr ⟨fun other finds => ?_, last, fits⟩
  -- A bare conversion reads a constant, this one reads the end of the arithmetic.
  obtain ⟨-, reads, holds⟩ := finds_bareChain_iff.mp finds
  have same := (reads.unique converts).2
  simp only [List.cons.injEq, and_true] at same
  rw [same] at holds
  exact belowReads.not_holds noConstant holds

/-- In a mirrored graph the search for a chain finds the chain that ends in a node. -/
theorem Mirrored.finds_chain_iff {id : Nat} {chain : Chain} :
    (graph.chain id).Finds chain ↔ chain.top = id ∧ chain.Fits graph := by
  constructor
  · simp only [Graph.chain, Search.finds_bind_iff, Search.finds_inspect_iff, node_eq_ok_iff]
    rintro ⟨node, found, finds⟩
    split at finds
    · rename_i operation
      rw [Search.finds_orElse_iff (safe_bareChain found), finds_bareChain_iff,
        mirrored.finds_convertedChain_iff found operation] at finds
      rcases finds with ⟨same, converts⟩ | ⟨-, last, fits⟩
      · rw [same]
        exact ⟨rfl, ⟨converts, by simp [Chain.factor]⟩, rfl, rfl⟩
      · exact ⟨Chain.top_of_outputConvert last, fits⟩
    · obtain ⟨-, -, top, fits⟩ := mirrored.finds_unconvertedChain_iff.mp finds
      exact ⟨top, fits⟩
  · rintro ⟨rfl, fits⟩
    cases scaled : chain.dequantization with
    | none => exact finds_chain_of_bare fits scaled
    | some dequantization =>
      cases last : chain.outputConvert with
      | none => exact mirrored.finds_chain_of_unconverted fits scaled last
      | some convert => exact mirrored.finds_chain_of_converted fits scaled last

/-- The search for a chain is safe at a live node. -/
theorem safe_chain {id : Nat} {node : Node} (found : graph.node? id = some node) :
    (graph.chain id).Safe := by
  have scaled (outputConvert : Option Nat) {id : Nat} {node : Node}
      (found : graph.node? id = some node) : (graph.scaledChain outputConvert id).Safe := by
    refine Search.safe_bind (safe_throughReshape found) fun through finds => ?_
    obtain ⟨reshape, below⟩ := through
    have live : ∃ node, graph.node? below = some node := by
      rcases finds_throughReshape_iff.mp finds with ⟨-, _, _, reads, -⟩ | ⟨-, rfl, -⟩
      · exact reads.exists_node mirrored (.first below) (by simp)
      · exact ⟨node, found⟩
    obtain ⟨_, belowFound⟩ := live
    exact Search.safe_bind (safe_multiplication mirrored belowFound) fun _ _ => Search.safe_pure _
  refine Search.safe_inspect_bind (node_eq_ok_iff.mpr found) ?_
  split
  · rename_i operation
    refine Search.safe_orElse ?_ (Search.safe_bind (Search.safe_ofOption _) fun source only => ?_)
    · exact safe_bareChain found
    · rw [Search.finds_ofOption_iff, soleOperand?_eq_some_iff] at only
      have reads : graph.Reads id .convert [source] :=
        reads_iff.mpr ⟨node, found, operation, only.1⟩
      obtain ⟨_, sourceFound⟩ := reads.exists_node mirrored source (by simp)
      exact scaled (some id) sourceFound
  · exact scaled none found

/-! ## Recognized lookups -/

/-- In a mirrored graph recognition does not break off. -/
theorem Mirrored.exists_recognize (gather : Nat) :
    ∃ outcome, graph.recognize gather = .ok outcome := by
  unfold recognize
  split
  · exact ⟨_, rfl⟩
  · rename_i node found
    split
    · rename_i batchDims data indices axis operation inputs
      split
      · exact ⟨_, rfl⟩
      · split
        · split
          · exact ⟨_, rfl⟩
          · split
            · exact ⟨_, rfl⟩
            · split
              · exact ⟨_, rfl⟩
              · have reads : graph.Reads gather (.gather batchDims) [data, indices, axis] :=
                  reads_iff.mpr ⟨node, found, operation, inputs⟩
                obtain ⟨_, dataFound⟩ := reads.exists_node mirrored data (by simp)
                obtain ⟨outcome, done⟩ := safe_chain mirrored dataFound
                rw [done]
                cases outcome with
                | none => exact ⟨_, rfl⟩
                | some chain => exact ⟨_, rfl⟩
        · exact ⟨_, rfl⟩
    · exact ⟨_, rfl⟩

/-- In a mirrored graph a candidate recognized at a lookup fits there. -/
theorem Mirrored.fits_of_recognize {gather : Nat} {candidate : Candidate}
    (recognized : graph.recognize gather = .ok (.ok candidate)) :
    candidate.gather = gather ∧ candidate.Fits graph := by
  unfold recognize at recognized
  split at recognized
  · simp at recognized
  · rename_i node found
    split at recognized
    · rename_i batchDims data indices axis operation inputs
      split at recognized
      · simp at recognized
      · rename_i unbatched
        obtain rfl : batchDims = 0 := Decidable.not_not.mp unbatched
        split at recognized
        · rename_i axisValue axisRead
          split at recognized
          · simp at recognized
          · rename_i info carries
            split at recognized
            · simp at recognized
            · rename_i front
              split at recognized
              · simp at recognized
              · rename_i first
                obtain ⟨top, rfl⟩ := exists_first (Decidable.not_not.mp first)
                split at recognized
                · simp at recognized
                · simp at recognized
                · rename_i chain finds
                  simp only [Except.ok.injEq] at recognized
                  subst recognized
                  obtain ⟨ends, fits⟩ := mirrored.finds_chain_iff.mp finds
                  have same : chain.top = top := ends
                  refine ⟨rfl, fits, axis, info, ?_, rfl, axisRead, ?_, ?_⟩
                  · rw [same]
                    exact reads_iff.mpr ⟨node, found, operation, inputs⟩
                  · rw [same]
                    exact carries
                  · exact Decidable.not_not.mp front
        · simp at recognized
    · simp at recognized

/-- In a mirrored graph a candidate that fits is recognized. -/
theorem Mirrored.recognize_of_fits {candidate : Candidate} (fits : candidate.Fits graph) :
    graph.recognize candidate.gather = .ok (.ok candidate) := by
  obtain ⟨chainFits, axis, info, reads, axisNode, axisRead, carries, front⟩ := fits
  obtain ⟨node, found, operation, inputs⟩ := reads_iff.mp reads
  have finds : (graph.chain candidate.chain.top).run = .ok (some candidate.chain) :=
    mirrored.finds_chain_iff.mpr ⟨rfl, chainFits⟩
  have first : (Port.first candidate.chain.top).index = 0 := rfl
  have behind : (Port.first candidate.chain.top).node = candidate.chain.top := rfl
  unfold recognize
  simp only [found, operation, inputs, axisRead, carries, front, first, behind, finds, axisNode,
    ne_eq, not_true_eq_false, ↓reduceIte]

/-- In a mirrored graph the candidate recognized at a lookup is the one that fits there. -/
theorem Mirrored.recognize_eq_ok_iff {gather : Nat} {candidate : Candidate} :
    graph.recognize gather = .ok (.ok candidate) ↔
      candidate.gather = gather ∧ candidate.Fits graph := by
  constructor
  · exact mirrored.fits_of_recognize
  · rintro ⟨rfl, fits⟩
    exact mirrored.recognize_of_fits fits

omit mirrored in
/-- The lookups of a graph are its live nodes with that operation. -/
theorem mem_gathers {id : Nat} : id ∈ graph.gathers ↔
    ∃ frame, graph.frame? id = some frame ∧ frame.operation.isGather = true := by
  simp only [gathers, entries, List.mem_map, List.mem_filter, Prod.exists, exists_and_right,
    exists_eq_right, Store.mem_entries, frame?_eq_some_iff, node?]
  constructor
  · rintro ⟨node, found, lookup⟩
    exact ⟨node.frame, ⟨node, found, rfl⟩, lookup⟩
  · rintro ⟨_, ⟨node, found, rfl⟩, lookup⟩
    exact ⟨node, found, lookup⟩

omit mirrored in
/-- A node that looks up is a lookup of the graph. -/
theorem Reads.mem_gathers {id : Nat} {batchDims : Int} {inputs : List Port}
    (reads : graph.Reads id (.gather batchDims) inputs) : id ∈ graph.gathers := by
  obtain ⟨frame, found, operation, -⟩ := reads
  exact Graph.mem_gathers.mpr ⟨frame, found, by rw [operation]; rfl⟩

/-- In a mirrored graph the candidates can be collected, and they are those that fit. -/
theorem Mirrored.exists_candidates :
    ∃ candidates, graph.candidates = .ok candidates ∧
      ∀ candidate, candidate ∈ candidates ↔ candidate.Fits graph := by
  obtain ⟨outcomes, done, collected⟩ :=
    exists_mapM_ok graph.gathers fun gather _ => mirrored.exists_recognize gather
  refine ⟨outcomes.filterMap Except.toOption, bind_eq_ok_iff.mpr ⟨outcomes, done, rfl⟩,
    fun candidate => ?_⟩
  have member : candidate ∈ outcomes.filterMap Except.toOption ↔ .ok candidate ∈ outcomes := by
    rw [List.mem_filterMap]
    constructor
    · rintro ⟨outcome, inside, same⟩
      cases outcome with
      | error mismatch => simp [Except.toOption] at same
      | ok found =>
        simp only [Except.toOption, Option.some.injEq] at same
        rwa [← same]
    · exact fun inside => ⟨.ok candidate, inside, rfl⟩
  rw [member, collected]
  constructor
  · rintro ⟨gather, -, recognized⟩
    exact (mirrored.recognize_eq_ok_iff.mp recognized).2
  · intro fits
    refine ⟨candidate.gather, ?_, mirrored.recognize_eq_ok_iff.mpr ⟨rfl, fits⟩⟩
    obtain ⟨-, axis, info, reads, -⟩ := fits
    exact reads.mem_gathers

/-- What is recognized at some lookups stems from these lookups, in their order. -/
theorem sublist_of_mapM_recognize {gathers : List Nat} {outcomes : List (Except Mismatch Candidate)}
    (recognized : gathers.mapM graph.recognize = .ok outcomes) :
    ((outcomes.filterMap Except.toOption).map Candidate.gather).Sublist gathers := by
  induction gathers generalizing outcomes with
  | nil =>
    cases recognized
    exact .slnil
  | cons gather rest ih =>
    rw [List.mapM_cons, bind_eq_ok_iff] at recognized
    obtain ⟨outcome, first, recognized⟩ := recognized
    obtain ⟨others, later, same⟩ := bind_eq_ok_iff.mp recognized
    cases same
    cases outcome with
    | error mismatch => exact (ih later).cons gather
    | ok candidate =>
      obtain ⟨rfl, -⟩ := mirrored.fits_of_recognize first
      exact (ih later).cons_cons _

omit mirrored in
/-- The lookups come oldest first. -/
theorem increasing_gathers (graph : Graph) : graph.gathers.Pairwise (· < ·) :=
  (Store.increasing_entries _).sublist ((List.filter_sublist).map Prod.fst)

/-- No two candidates of a graph share a lookup: they come oldest lookup first. -/
theorem Mirrored.increasing_candidates {candidates : List Candidate}
    (collected : graph.candidates = .ok candidates) :
    (candidates.map Candidate.gather).Pairwise (· < ·) := by
  obtain ⟨outcomes, recognized, same⟩ := bind_eq_ok_iff.mp collected
  cases same
  exact graph.increasing_gathers.sublist (sublist_of_mapM_recognize mirrored recognized)

end

end GatherFusion.Graph

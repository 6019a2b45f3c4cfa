import GatherFusion.Proofs.Graph.Frame
import GatherFusion.Proofs.Lookup.Search

/-!
# The grammar of recognized lookups

What recognition accepts is stated here without a search: a candidate fits a graph when the nodes it
names have the operations and read the ports that the grammar asks for. The searches for the parts
of a chain find what fits.
-/
namespace GatherFusion

namespace Graph

/-- A node has an operation and reads the given ports. -/
def Reads (graph : Graph) (id : Nat) (operation : Operation) (inputs : List Port) : Prop :=
  ∃ frame, graph.frame? id = some frame ∧ frame.operation = operation ∧ frame.inputs = inputs

/-- A port carries a constant. -/
def Holds (graph : Graph) (port : Port) : Prop := ∃ content, graph.constant? port = some content

/-- A node converts a constant. -/
def Converts (graph : Graph) (convert constant : Nat) : Prop :=
  graph.Reads convert .convert [.first constant] ∧ graph.Holds (.first constant)

end Graph

/-- The node whose output is the zero point, converted if it is. -/
def ZeroPoint.top (zeroPoint : ZeroPoint) : Nat := zeroPoint.convert.getD zeroPoint.constant

/-- A zero point is a constant, or the conversion of one. -/
def ZeroPoint.Fits (zeroPoint : ZeroPoint) (graph : Graph) : Prop :=
  match zeroPoint.convert with
  | none => graph.Holds (.first zeroPoint.constant)
  | some convert => graph.Converts convert zeroPoint.constant

/-- A shift subtracts its zero point from a converted table. -/
def Shift.Fits (shift : Shift) (graph : Graph) (convert : Nat) : Prop :=
  graph.Reads shift.subtract .subtract [.first convert, .first shift.zeroPoint.top] ∧
    shift.zeroPoint.Fits graph

namespace Factor

/-- The node whose output is the converted table, shifted if there is a shift. -/
def top (factor : Factor) : Nat := (factor.shift.map Shift.subtract).getD factor.convert

/-- A factor converts its table and shifts it as it says. -/
def Fits (factor : Factor) (graph : Graph) : Prop :=
  graph.Converts factor.convert factor.weight ∧
    ∀ shift ∈ factor.shift, shift.Fits graph factor.convert

end Factor

/-- A multiplication has a factor and a constant scale, in either order. -/
def Dequantization.Fits (dequantization : Dequantization) (graph : Graph) (factor : Factor) :
    Prop :=
  factor.shift = dequantization.shift ∧ graph.Holds (.first dequantization.scale) ∧
    (graph.Reads dequantization.multiply .multiply
        [.first factor.top, .first dequantization.scale] ∨
      graph.Reads dequantization.multiply .multiply
        [.first dequantization.scale, .first factor.top])

namespace Chain

/-- The converted table of a chain with its shift. -/
def factor (chain : Chain) : Factor :=
  ⟨chain.weight, chain.convert, chain.dequantization.bind Dequantization.shift⟩

/-- The reshape and the last conversion follow the multiplication. -/
def TailFits (chain : Chain) (graph : Graph) (multiply : Nat) : Prop :=
  (∀ reshape ∈ chain.reshape, ∃ specialZero target,
      graph.Reads reshape (.reshape specialZero) [.first multiply, target] ∧ graph.Holds target) ∧
    ∀ convert ∈ chain.outputConvert,
      graph.Reads convert .convert [.first (chain.reshape.getD multiply)]

/-- The nodes of a chain read one another in order. A bare conversion has no further steps. -/
def Fits (chain : Chain) (graph : Graph) : Prop :=
  chain.factor.Fits graph ∧
    match chain.dequantization with
    | none => chain.reshape = none ∧ chain.outputConvert = none
    | some dequantization =>
      dequantization.Fits graph chain.factor ∧ chain.TailFits graph dequantization.multiply

end Chain

/-- A lookup reads the top of a chain along its first dimension. -/
def Candidate.Fits (candidate : Candidate) (graph : Graph) : Prop :=
  candidate.chain.Fits graph ∧ ∃ axis info,
    graph.Reads candidate.gather (.gather 0)
      [.first candidate.chain.top, candidate.indices, axis] ∧
    axis.node = candidate.axis ∧ graph.integers? axis = some [candidate.axisValue] ∧
    graph.info? (.first candidate.chain.top) = some info ∧
    resolveAxis candidate.axisValue info.shape.rank = 0

/-! ## The parts of what fits -/

section

variable {graph : Graph}

namespace ZeroPoint

variable {zeroPoint : ZeroPoint}

/-- A zero point that is not converted ends in its constant. -/
theorem top_of_unconverted (plain : zeroPoint.convert = none) :
    zeroPoint.top = zeroPoint.constant := by
  rw [top, plain, Option.getD_none]

/-- A converted zero point ends in its conversion. -/
theorem top_of_converted {convert : Nat} (converted : zeroPoint.convert = some convert) :
    zeroPoint.top = convert := by
  rw [top, converted, Option.getD_some]

/-- The conversion of a zero point converts its constant. -/
theorem Fits.converts (fits : zeroPoint.Fits graph) {convert : Nat}
    (converted : zeroPoint.convert = some convert) :
    graph.Converts convert zeroPoint.constant := by
  rwa [Fits, converted] at fits

/-- A zero point is a constant, converted or not. -/
theorem Fits.holds (fits : zeroPoint.Fits graph) : graph.Holds (.first zeroPoint.constant) := by
  cases converted : zeroPoint.convert with
  | none => rwa [Fits, converted] at fits
  | some convert => exact (fits.converts converted).2

end ZeroPoint

/-- A multiplication reads its factor and its scale and nothing else. -/
theorem Dequantization.Fits.exists_reads {dequantization : Dequantization} {factor : Factor}
    (fits : dequantization.Fits graph factor) :
    ∃ inputs, graph.Reads dequantization.multiply .multiply inputs ∧
      ∀ port, port ∈ inputs ↔ port = .first factor.top ∨ port = .first dequantization.scale := by
  obtain ⟨-, -, reads | reads⟩ := fits
  · exact ⟨_, reads, by simp⟩
  · exact ⟨_, reads, by simp [or_comm]⟩

namespace Chain

variable {chain : Chain} {dequantization : Dequantization}

/-- The top of a chain that multiplies is its last conversion, its reshape or the multiplication. -/
theorem top_of_scaled (scaled : chain.dequantization = some dequantization) :
    chain.top = chain.outputConvert.getD (chain.reshape.getD dequantization.multiply) := by
  cases last : chain.outputConvert <;> cases reshaped : chain.reshape <;>
    simp [top, last, reshaped, scaled]

/-- The top of a chain with a last conversion is that conversion. -/
theorem top_of_outputConvert {convert : Nat} (last : chain.outputConvert = some convert) :
    chain.top = convert := by
  simp [top, last]

/-- The shift of a chain is that of its multiplication. -/
theorem shift_of_scaled (scaled : chain.dequantization = some dequantization) :
    chain.factor.shift = dequantization.shift := by
  rw [factor, scaled, Option.bind_some]

/-- The factor of a chain without a shift is the converted table. -/
theorem factor_top_of_unshifted (unshifted : chain.factor.shift = none) :
    chain.factor.top = chain.convert := by
  rw [Factor.top, unshifted]
  rfl

/-- The factor of a chain with a shift is the shifted table. -/
theorem factor_top_of_shifted {shift : Shift} (shifted : chain.factor.shift = some shift) :
    chain.factor.top = shift.subtract := by
  rw [Factor.top, shifted]
  rfl

variable (fits : chain.Fits graph)
include fits

/-- The table of a chain is a constant, and it is converted. -/
theorem Fits.converts : graph.Converts chain.convert chain.weight := fits.1.1

/-- Nothing follows a bare conversion. -/
theorem Fits.bare (bare : chain.dequantization = none) :
    chain.reshape = none ∧ chain.outputConvert = none := by
  have steps := fits.2
  rwa [bare] at steps

/-- A bare conversion is the top of its chain. -/
theorem Fits.top_of_bare (bare : chain.dequantization = none) : chain.top = chain.convert := by
  obtain ⟨unreshaped, unconverted⟩ := fits.bare bare
  simp [top, bare, unreshaped, unconverted]

/-- What is reshaped or converted once more has been multiplied before. -/
theorem Fits.exists_dequantization {id : Nat}
    (later : chain.outputConvert = some id ∨ chain.reshape = some id) :
    ∃ dequantization, chain.dequantization = some dequantization := by
  cases scaled : chain.dequantization with
  | some dequantization => exact ⟨dequantization, rfl⟩
  | none =>
    obtain ⟨unreshaped, unconverted⟩ := fits.bare scaled
    rcases later with last | reshaped
    · exact absurd (last.symm.trans unconverted) (by simp)
    · exact absurd (reshaped.symm.trans unreshaped) (by simp)

section

variable (scaled : chain.dequantization = some dequantization)
include scaled

/-- The multiplication of a chain fits its factor. -/
theorem Fits.scales : dequantization.Fits graph chain.factor := by
  have steps := fits.2
  rw [scaled] at steps
  exact steps.1

/-- The steps behind the multiplication of a chain fit it. -/
theorem Fits.tail : chain.TailFits graph dequantization.multiply := by
  have steps := fits.2
  rw [scaled] at steps
  exact steps.2

/-- The shift of a chain is one of its converted table. -/
theorem Fits.shifts {shift : Shift} (shifted : dequantization.shift = some shift) :
    shift.Fits graph chain.convert :=
  fits.1.2 shift ((shift_of_scaled scaled).trans shifted)

end

end Chain

end

namespace Graph

/-! ## Nodes and constants -/

/-- What a node reads, told by the node. -/
theorem reads_iff {graph : Graph} {id : Nat} {operation : Operation} {inputs : List Port} :
    graph.Reads id operation inputs ↔
      ∃ node, graph.node? id = some node ∧ node.operation = operation ∧ node.inputs = inputs := by
  simp only [Reads, frame?_eq_some_iff]
  constructor
  · rintro ⟨_, ⟨node, found, rfl⟩, same⟩
    exact ⟨node, found, same⟩
  · rintro ⟨node, found, same⟩
    exact ⟨node.frame, ⟨node, found, rfl⟩, same⟩

/-- What a node reads is in its frame. -/
theorem Reads.of_frame? {graph : Graph} {id : Nat} {operation : Operation} {inputs : List Port}
    (reads : graph.Reads id operation inputs) {frame : Frame}
    (found : graph.frame? id = some frame) :
    frame.operation = operation ∧ frame.inputs = inputs := by
  obtain ⟨again, foundAgain, operation, inputs⟩ := reads
  rw [found, Option.some.injEq] at foundAgain
  exact ⟨foundAgain ▸ operation, foundAgain ▸ inputs⟩

/-- A node reads one list of ports with one operation. -/
theorem Reads.unique {graph : Graph} {id : Nat} {left right : Operation}
    {leftInputs rightInputs : List Port} (one : graph.Reads id left leftInputs)
    (other : graph.Reads id right rightInputs) : left = right ∧ leftInputs = rightInputs := by
  obtain ⟨frame, found, rfl, rfl⟩ := one
  exact other.of_frame? found

/-- A port carries a constant when its node is one and offers it. -/
theorem holds_iff {graph : Graph} {port : Port} : graph.Holds port ↔
    ∃ frame payload info, graph.frame? port.node = some frame ∧
      frame.operation = .constant payload ∧ frame.infos[port.index]? = some info := by
  constructor
  · intro ⟨content, carries⟩
    rw [constant?_eq, Option.bind_eq_some_iff] at carries
    obtain ⟨frame, found, carries⟩ := carries
    cases operation : frame.operation with
    | constant payload =>
      rw [operation, Option.map_eq_some_iff] at carries
      obtain ⟨info, position, -⟩ := carries
      exact ⟨frame, payload, info, found, operation, position⟩
    | _ =>
      rw [operation] at carries
      contradiction
  · intro ⟨frame, payload, info, found, operation, position⟩
    refine ⟨(payload, info), ?_⟩
    rw [constant?_eq, found, Option.bind_some, operation, position]
    rfl

/-- A constant is no node of another operation. -/
theorem Reads.not_holds {graph : Graph} {port : Port} {operation : Operation}
    {inputs : List Port} (reads : graph.Reads port.node operation inputs)
    (other : operation.isConstant = false) : ¬graph.Holds port := by
  rw [holds_iff]
  rintro ⟨frame, payload, info, found, constant, -⟩
  rw [← (reads.of_frame? found).1, constant] at other
  contradiction

/-- The constant behind a port. -/
theorem constantNode?_eq_some_iff {graph : Graph} {port : Port} {id : Nat} :
    graph.constantNode? port = some id ↔ graph.Holds port ∧ port.node = id := by
  simp [constantNode?, Holds]

/-- A port without a constant. -/
theorem constantNode?_eq_none_iff {graph : Graph} {port : Port} :
    graph.constantNode? port = none ↔ ¬graph.Holds port := by
  cases found : graph.constantNode? port with
  | none =>
    simp only [constantNode?, Option.map_eq_none_iff] at found
    simp [Holds, found]
  | some id => simp [(constantNode?_eq_some_iff.mp found).1]

/-- The only operand of a node. -/
theorem soleOperand?_eq_some_iff {node : Node} {source : Port} :
    soleOperand? node = some source ↔ node.inputs = [source] ∧ source.index = 0 := by
  unfold soleOperand?
  split
  · rename_i only inputs
    simp only [inputs, Option.ite_none_right_eq_some, Option.some.injEq, List.cons.injEq, and_true]
    constructor
    · rintro ⟨first, rfl⟩
      exact ⟨rfl, first⟩
    · rintro ⟨rfl, first⟩
      exact ⟨first, rfl⟩
  · rename_i many
    simp only [reduceCtorEq, false_iff, not_and]
    intro inputs
    exact absurd inputs (many source)

/-- A first output is told by its node. -/
theorem eq_first_iff {port : Port} {id : Nat} :
    port = .first id ↔ port.index = 0 ∧ port.node = id := by
  constructor
  · rintro rfl
    exact ⟨rfl, rfl⟩
  · rintro ⟨index, rfl⟩
    exact Port.ext rfl index

/-- A port of index zero is a first output. -/
theorem exists_first {port : Port} (index : port.index = 0) : ∃ id, port = .first id :=
  ⟨port.node, eq_first_iff.mpr ⟨index, rfl⟩⟩

/-! ## What the searches find -/

/-- The search for a converted constant finds what is converted. -/
theorem finds_convertedConstant_iff {graph : Graph} {convert constant : Nat} :
    (graph.convertedConstant convert).Finds constant ↔ graph.Converts convert constant := by
  simp only [convertedConstant, Search.finds_bind_iff, Search.finds_inspect_iff, node_eq_ok_iff,
    Converts, reads_iff]
  constructor
  · rintro ⟨node, found, finds⟩
    split at finds
    · rename_i operation
      rw [Search.finds_ofOption_iff, Option.bind_eq_some_iff] at finds
      obtain ⟨source, only, behind⟩ := finds
      obtain ⟨inputs, index⟩ := soleOperand?_eq_some_iff.mp only
      obtain ⟨holds, rfl⟩ := constantNode?_eq_some_iff.mp behind
      have first : source = .first source.node := eq_first_iff.mpr ⟨index, rfl⟩
      rw [first] at inputs holds
      exact ⟨⟨node, found, operation, inputs⟩, holds⟩
    · exact absurd finds Search.not_finds_failure
  · rintro ⟨⟨node, found, operation, inputs⟩, holds⟩
    refine ⟨node, found, ?_⟩
    have only : soleOperand? node = some (.first constant) :=
      soleOperand?_eq_some_iff.mpr ⟨inputs, rfl⟩
    have behind : graph.constantNode? (.first constant) = some constant :=
      constantNode?_eq_some_iff.mpr ⟨holds, rfl⟩
    simp [operation, only, behind]

/-- The search for a zero point finds the zero point read there. -/
theorem finds_zeroPoint_iff {graph : Graph} {id : Nat} {zeroPoint : ZeroPoint} :
    (graph.zeroPoint (.first id)).Finds zeroPoint ↔
      zeroPoint.top = id ∧ zeroPoint.Fits graph := by
  unfold Graph.zeroPoint
  cases behind : graph.constantNode? (.first id) with
  | some constant =>
    obtain ⟨holds, same⟩ := constantNode?_eq_some_iff.mp behind
    obtain rfl : id = constant := same
    simp only [Search.finds_pure_iff]
    constructor
    · rintro rfl
      exact ⟨rfl, holds⟩
    · rintro ⟨top, fits⟩
      obtain ⟨constant, convert⟩ := zeroPoint
      cases convert with
      | none => exact congrArg (fun constant => ZeroPoint.mk constant none) (Eq.symm top)
      | some convert =>
        obtain rfl : convert = id := top
        exact absurd holds (Reads.not_holds fits.1 rfl)
  | none =>
    have holds := constantNode?_eq_none_iff.mp behind
    simp only [Search.finds_bind_iff, Search.finds_pure_iff, finds_convertedConstant_iff]
    constructor
    · rintro ⟨constant, converts, rfl⟩
      exact ⟨rfl, converts⟩
    · rintro ⟨top, fits⟩
      obtain ⟨constant, convert⟩ := zeroPoint
      cases convert with
      | none =>
        obtain rfl : constant = id := top
        exact absurd fits holds
      | some convert =>
        obtain rfl : convert = id := top
        exact ⟨constant, fits, rfl⟩

/-- The search for a converted table finds the factor that ends in a node. -/
theorem finds_tableFactor_iff {graph : Graph} {id : Nat} {factor : Factor} :
    (graph.tableFactor id).Finds factor ↔ factor.top = id ∧ factor.Fits graph := by
  obtain ⟨weight, convert, shift⟩ := factor
  simp only [tableFactor, Search.finds_bind_iff, Search.finds_inspect_iff, node_eq_ok_iff]
  constructor
  · rintro ⟨node, found, finds⟩
    split at finds
    · simp only [Search.finds_bind_iff, Search.finds_pure_iff, finds_convertedConstant_iff,
        Factor.mk.injEq] at finds
      obtain ⟨_, converts, rfl, rfl, rfl⟩ := finds
      exact ⟨rfl, converts, by simp⟩
    · rename_i minuend zero operation inputs
      split at finds
      · exact absurd finds Search.not_finds_failure
      · rename_i firsts
        simp only [ne_eq, not_or, Decidable.not_not] at firsts
        obtain ⟨table, rfl⟩ := exists_first firsts.1
        obtain ⟨subtrahend, rfl⟩ := exists_first firsts.2
        simp only [Search.finds_bind_iff, Search.finds_pure_iff, finds_convertedConstant_iff,
          finds_zeroPoint_iff, Factor.mk.injEq] at finds
        obtain ⟨_, converts, zeroPoint, ⟨rfl, fits⟩, rfl, rfl, rfl⟩ := finds
        refine ⟨rfl, converts, fun shift same => ?_⟩
        cases same
        exact ⟨reads_iff.mpr ⟨node, found, operation, inputs⟩, fits⟩
    · exact absurd finds Search.not_finds_failure
  · rintro ⟨rfl, converts, shifts⟩
    cases shift with
    | none =>
      obtain ⟨node, found, operation, inputs⟩ := reads_iff.mp converts.1
      refine ⟨node, found, ?_⟩
      simp only [operation, Search.finds_bind_iff, Search.finds_pure_iff,
        finds_convertedConstant_iff]
      exact ⟨weight, converts, rfl⟩
    | some shift =>
      obtain ⟨reads, fits⟩ := shifts shift rfl
      obtain ⟨node, found, operation, inputs⟩ := reads_iff.mp reads
      refine ⟨node, found, ?_⟩
      simp only [operation, inputs, Port.first, ne_eq, not_true_eq_false, or_self, ↓reduceIte,
        Search.finds_bind_iff, Search.finds_pure_iff, finds_convertedConstant_iff]
      exact ⟨weight, converts, shift.zeroPoint, finds_zeroPoint_iff.mpr ⟨rfl, fits⟩, rfl⟩

/-- One reading of a multiplication finds a factor and a constant scale behind it. -/
theorem finds_scaledTable_iff {graph : Graph} {table scale : Port} {factor : Factor}
    {constant : Nat} :
    (graph.scaledTable table scale).Finds (factor, constant) ↔
      table = .first factor.top ∧ scale = .first constant ∧ factor.Fits graph ∧
        graph.Holds scale := by
  unfold scaledTable
  split
  · rename_i later
    simp only [Search.not_finds_failure, false_iff]
    rintro ⟨rfl, rfl, -⟩
    simp [Port.first] at later
  · rename_i firsts
    simp only [ne_eq, not_or, Decidable.not_not] at firsts
    obtain ⟨left, rfl⟩ := exists_first firsts.1
    obtain ⟨right, rfl⟩ := exists_first firsts.2
    simp only [Search.finds_bind_iff, Search.finds_pure_iff, Search.finds_ofOption_iff,
      constantNode?_eq_some_iff, finds_tableFactor_iff, Prod.mk.injEq]
    constructor
    · rintro ⟨_, ⟨holds, rfl⟩, _, ⟨top, fits⟩, rfl, rfl⟩
      exact ⟨congrArg Port.first top.symm, rfl, fits, holds⟩
    · rintro ⟨left, right, fits, holds⟩
      exact ⟨constant, ⟨holds, congrArg Port.node right⟩, factor,
        ⟨(congrArg Port.node left).symm, fits⟩, rfl, rfl⟩

/-- The top of a factor is no constant. -/
theorem not_holds_top {graph : Graph} {factor : Factor} (fits : factor.Fits graph) :
    ¬graph.Holds (.first factor.top) := by
  obtain ⟨weight, convert, shift⟩ := factor
  cases shift with
  | none => exact Reads.not_holds fits.1.1 rfl
  | some shift => exact Reads.not_holds (fits.2 shift rfl).1 rfl

/-- At a multiplying node the search tries the factor and the scale in both orders. -/
theorem finds_multiplication_of_reads {graph : Graph} {id : Nat} {left right : Port}
    (reads : graph.Reads id .multiply [left, right]) (safe : (graph.scaledTable left right).Safe)
    {factor : Factor} {dequantization : Dequantization} :
    (graph.multiplication id).Finds (factor, dequantization) ↔
      ∃ scale, dequantization = ⟨id, scale, factor.shift⟩ ∧
        ((graph.scaledTable left right).Finds (factor, scale) ∨
          (∀ other, ¬(graph.scaledTable left right).Finds other) ∧
            (graph.scaledTable right left).Finds (factor, scale)) := by
  obtain ⟨node, found, operation, inputs⟩ := reads_iff.mp reads
  simp only [multiplication, Search.finds_bind_iff, Search.finds_inspect_iff, node_eq_ok_iff, found,
    Option.some.injEq, exists_eq_left', operation, inputs, Search.finds_orElse_iff safe,
    Search.finds_pure_iff, Prod.exists, Prod.mk.injEq]
  constructor
  · rintro ⟨_, scale, either, rfl, rfl⟩
    exact ⟨scale, rfl, either⟩
  · rintro ⟨scale, rfl, either⟩
    exact ⟨factor, scale, either, rfl, rfl⟩

/-- A search for a multiplication that finds something starts at a multiplying node. -/
theorem exists_reads_of_finds_multiplication {graph : Graph} {id : Nat}
    {found : Factor × Dequantization} (finds : (graph.multiplication id).Finds found) :
    ∃ left right, graph.Reads id .multiply [left, right] := by
  simp only [multiplication, Search.finds_bind_iff, Search.finds_inspect_iff, node_eq_ok_iff]
    at finds
  obtain ⟨node, there, finds⟩ := finds
  split at finds
  · rename_i left right operation inputs
    exact ⟨left, right, reads_iff.mpr ⟨node, there, operation, inputs⟩⟩
  · exact absurd finds Search.not_finds_failure

/-- The search for a multiplication finds the factor and the scale of a multiplying node, in
whichever order it reads them. -/
theorem finds_multiplication_iff {graph : Graph} {id : Nat} {factor : Factor}
    {dequantization : Dequantization}
    (safe : ∀ left right, graph.Reads id .multiply [left, right] →
      (graph.scaledTable left right).Safe) :
    (graph.multiplication id).Finds (factor, dequantization) ↔
      dequantization.multiply = id ∧ factor.Fits graph ∧ dequantization.Fits graph factor := by
  constructor
  · intro finds
    obtain ⟨left, right, reads⟩ := exists_reads_of_finds_multiplication finds
    simp only [finds_multiplication_of_reads reads (safe _ _ reads), finds_scaledTable_iff] at finds
    obtain ⟨scale, rfl, ⟨rfl, rfl, fits, holds⟩ | ⟨-, rfl, rfl, fits, holds⟩⟩ := finds
    · exact ⟨rfl, fits, rfl, holds, .inl reads⟩
    · exact ⟨rfl, fits, rfl, holds, .inr reads⟩
  · obtain ⟨multiply, scale, shift⟩ := dequantization
    rintro ⟨rfl, fits, same, holds, either⟩
    cases same
    rcases either with reads | reads
    · rw [finds_multiplication_of_reads reads (safe _ _ reads)]
      exact ⟨scale, rfl, .inl (finds_scaledTable_iff.mpr ⟨rfl, rfl, fits, holds⟩)⟩
    · rw [finds_multiplication_of_reads reads (safe _ _ reads)]
      refine ⟨scale, rfl, .inr ⟨?_, finds_scaledTable_iff.mpr ⟨rfl, rfl, fits, holds⟩⟩⟩
      -- The first reading takes the factor for the scale, but a factor is no constant.
      rintro ⟨other, constant⟩ finds
      exact not_holds_top fits (finds_scaledTable_iff.mp finds).2.2.2

/-- The search for a reshape finds one and what it reshapes, or passes any other node by. -/
theorem finds_throughReshape_iff {graph : Graph} {id below : Nat} {reshape : Option Nat} :
    (graph.throughReshape id).Finds (reshape, below) ↔
      (reshape = some id ∧ ∃ specialZero target,
        graph.Reads id (.reshape specialZero) [.first below, target] ∧ graph.Holds target) ∨
      (reshape = none ∧ below = id ∧ ∃ operation inputs, graph.Reads id operation inputs ∧
        ∀ specialZero, operation ≠ .reshape specialZero) := by
  simp only [throughReshape, Search.finds_bind_iff, Search.finds_inspect_iff, node_eq_ok_iff]
  constructor
  · rintro ⟨node, found, finds⟩
    split at finds
    · rename_i specialZero data target operation inputs
      simp only [Search.finds_bind_iff, Search.finds_ofOption_iff, constantNode?_eq_some_iff]
        at finds
      obtain ⟨_, ⟨holds, -⟩, finds⟩ := finds
      split at finds
      · exact absurd finds Search.not_finds_failure
      · rename_i first
        obtain ⟨source, rfl⟩ := exists_first (Decidable.not_not.mp first)
        simp only [Search.finds_pure_iff, Prod.mk.injEq] at finds
        obtain ⟨rfl, rfl⟩ := finds
        exact .inl ⟨rfl, specialZero, target,
          reads_iff.mpr ⟨node, found, operation, inputs⟩, holds⟩
    · exact absurd finds Search.not_finds_failure
    · rename_i noReshape noPair
      simp only [Search.finds_pure_iff, Prod.mk.injEq] at finds
      obtain ⟨rfl, rfl⟩ := finds
      exact .inr ⟨rfl, rfl, node.operation, node.inputs,
        reads_iff.mpr ⟨node, found, rfl, rfl⟩, noReshape⟩
  · rintro (⟨rfl, specialZero, target, reads, holds⟩ | ⟨rfl, rfl, operation, inputs, reads, other⟩)
    · obtain ⟨node, found, operation, inputs⟩ := reads_iff.mp reads
      refine ⟨node, found, ?_⟩
      simp only [operation, inputs, Search.finds_bind_iff, Search.finds_ofOption_iff,
        constantNode?_eq_some_iff]
      exact ⟨target.node, ⟨holds, rfl⟩, by simp [Port.first]⟩
    · obtain ⟨node, found, rfl, rfl⟩ := reads_iff.mp reads
      refine ⟨node, found, ?_⟩
      split
      · rename_i operation _
        exact absurd operation (other _)
      · rename_i operation _
        exact absurd operation (other _)
      · simp

/-- The search for a bare conversion finds it. -/
theorem finds_bareChain_iff {graph : Graph} {id : Nat} {chain : Chain} :
    (graph.bareChain id).Finds chain ↔
      chain = ⟨chain.weight, id, none, none, none⟩ ∧ graph.Converts id chain.weight := by
  simp only [bareChain, Search.finds_bind_iff, Search.finds_pure_iff, finds_convertedConstant_iff]
  constructor
  · rintro ⟨weight, converts, rfl⟩
    exact ⟨rfl, converts⟩
  · rintro ⟨same, converts⟩
    exact ⟨chain.weight, converts, same.symm⟩

/-- The search for a reshape is safe at a live node. -/
theorem safe_throughReshape {graph : Graph} {id : Nat} {node : Node}
    (found : graph.node? id = some node) : (graph.throughReshape id).Safe := by
  refine Search.safe_inspect_bind (node_eq_ok_iff.mpr found) ?_
  split
  · refine Search.safe_bind (Search.safe_ofOption _) fun _ _ => ?_
    split
    · exact Search.safe_failure
    · exact Search.safe_pure _
  · exact Search.safe_failure
  · exact Search.safe_pure _

/-- What a last conversion reads is no constant and no conversion. -/
theorem exists_reads_below {graph : Graph} {chain : Chain} {dequantization : Dequantization}
    (scales : dequantization.Fits graph chain.factor)
    (tail : chain.TailFits graph dequantization.multiply) :
    ∃ operation inputs,
      graph.Reads (chain.reshape.getD dequantization.multiply) operation inputs ∧
        operation.isConstant = false ∧ operation ≠ .convert := by
  cases reshaped : chain.reshape with
  | none =>
    obtain ⟨inputs, reads, -⟩ := scales.exists_reads
    exact ⟨.multiply, inputs, reads, rfl, by simp⟩
  | some reshape =>
    obtain ⟨specialZero, target, reads, -⟩ := tail.1 reshape reshaped
    exact ⟨.reshape specialZero, _, reads, rfl, by simp⟩

end Graph

end GatherFusion

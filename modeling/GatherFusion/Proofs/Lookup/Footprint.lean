import GatherFusion.Lookup.Replacement
import GatherFusion.Proofs.Lookup.Grammar

/-!
# The nodes of a chain

The intermediate nodes of a fitting chain read one another and constants, nothing else. Whether a
chain fits is therefore settled by what its intermediate nodes read and by the constants behind
them.
-/
namespace GatherFusion

/-- An operation that a decompression or a lookup is made of. -/
def Operation.isStep : Operation → Bool
  | .convert | .subtract | .multiply | .reshape _ | .gather _ => true
  | .parameter | .constant _ | .gatherCompressed _ _ | .result | .custom _ => false

/-- A step is neither a constant nor a fused lookup. -/
theorem Operation.not_fresh_of_isStep {operation : Operation} (step : operation.isStep = true) :
    operation.isConstant = false ∧ operation.isGatherCompressed = false := by
  cases operation <;> simp_all [isStep, isConstant, isGatherCompressed]

/-- A fused lookup is no step, in particular no lookup. -/
theorem Operation.not_isStep_of_isGatherCompressed {operation : Operation}
    (fused : operation.isGatherCompressed = true) :
    operation.isStep = false ∧ operation.isGather = false := by
  cases operation <;> simp_all [isStep, isGather, isGatherCompressed]

/-! ## Graphs that read alike -/

/-- A node reads the same ports in a changed graph, the factors of a product in either order, and
the constants it reads are still there. -/
structure Graph.ReadsAlike (graph changed : Graph) (id : Nat) : Prop where
  /-- A node that does not multiply reads the same ports. -/
  reads : ∀ operation inputs, operation ≠ .multiply → graph.Reads id operation inputs →
    changed.Reads id operation inputs
  /-- A product has the same factors. -/
  factors : ∀ left right, graph.Reads id .multiply [left, right] →
    changed.Reads id .multiply [left, right] ∨ changed.Reads id .multiply [right, left]
  /-- A constant that is read is still one. -/
  holds : ∀ operation inputs, graph.Reads id operation inputs → ∀ port ∈ inputs,
    graph.Holds port → changed.Holds port

section

variable {graph changed : Graph}

/-- A converted constant is converted where the conversion reads alike. -/
theorem Graph.ReadsAlike.converts {convert constant : Nat}
    (alike : graph.ReadsAlike changed convert) (converts : graph.Converts convert constant) :
    changed.Converts convert constant :=
  ⟨alike.reads _ _ (by simp) converts.1, alike.holds _ _ converts.1 _ (by simp) converts.2⟩

/-- A shift fits where the subtraction and the conversion of the zero point read alike. -/
theorem Shift.Fits.transport {shift : Shift} {table : Nat} (fits : shift.Fits graph table)
    (subtracts : graph.ReadsAlike changed shift.subtract)
    (converts : ∀ convert, shift.zeroPoint.convert = some convert →
      graph.ReadsAlike changed convert) : shift.Fits changed table := by
  obtain ⟨reads, zeroFits⟩ := fits
  refine ⟨subtracts.reads _ _ (by simp) reads, ?_⟩
  unfold ZeroPoint.Fits
  cases converted : shift.zeroPoint.convert with
  | none =>
    refine subtracts.holds _ _ reads _ ?_ zeroFits.holds
    simp [ZeroPoint.top_of_unconverted converted]
  | some convert => exact (converts convert converted).converts (zeroFits.converts converted)

/-- A scaled factor fits where the multiplication reads alike. -/
theorem Dequantization.Fits.transport {dequantization : Dequantization} {factor : Factor}
    (fits : dequantization.Fits graph factor)
    (multiplies : graph.ReadsAlike changed dequantization.multiply) :
    dequantization.Fits changed factor := by
  obtain ⟨inputs, product, operands⟩ := fits.exists_reads
  obtain ⟨shift, scale, reads⟩ := fits
  refine ⟨shift, multiplies.holds _ _ product _ ((operands _).mpr (.inr rfl)) scale, ?_⟩
  rcases reads with reads | reads
  · exact multiplies.factors _ _ reads
  · exact (multiplies.factors _ _ reads).symm

/-- The steps behind the multiplication fit where they read alike. -/
theorem Chain.TailFits.transport {chain : Chain} {multiply : Nat}
    (tail : chain.TailFits graph multiply)
    (reshapes : ∀ reshape, chain.reshape = some reshape → graph.ReadsAlike changed reshape)
    (converts : ∀ convert, chain.outputConvert = some convert →
      graph.ReadsAlike changed convert) : chain.TailFits changed multiply := by
  refine ⟨fun reshape reshaped => ?_, fun convert last => ?_⟩
  · obtain ⟨specialZero, target, reads, holds⟩ := tail.1 reshape reshaped
    exact ⟨specialZero, target, (reshapes reshape reshaped).reads _ _ (by simp) reads,
      (reshapes reshape reshaped).holds _ _ reads _ (by simp) holds⟩
  · exact (converts convert last).reads _ _ (by simp) (tail.2 convert last)

end

/-! ## The nodes of a chain -/

namespace Chain

/-- The intermediate nodes, by the part they play. -/
theorem mem_intermediates {chain : Chain} {id : Nat} :
    id ∈ chain.intermediates ↔ chain.outputConvert = some id ∨ chain.reshape = some id ∨
      (∃ dequantization, chain.dequantization = some dequantization ∧
        (id = dequantization.multiply ∨ ∃ shift, dequantization.shift = some shift ∧
          (id = shift.subtract ∨ shift.zeroPoint.convert = some id))) ∨ id = chain.convert := by
  obtain ⟨weight, convert, dequantization, reshape, outputConvert⟩ := chain
  rcases dequantization with _ | ⟨multiply, scale, _ | ⟨subtract, constant, zero⟩⟩ <;>
    simp [intermediates, or_assoc, eq_comm]

variable {chain : Chain} {graph : Graph}

/-- The conversion of the table is an intermediate node. -/
theorem convert_mem (chain : Chain) : chain.convert ∈ chain.intermediates :=
  mem_intermediates.mpr (.inr (.inr (.inr rfl)))

/-- The last conversion is an intermediate node. -/
theorem outputConvert_mem {convert : Nat} (last : chain.outputConvert = some convert) :
    convert ∈ chain.intermediates :=
  mem_intermediates.mpr (.inl last)

/-- The reshape is an intermediate node. -/
theorem reshape_mem {reshape : Nat} (reshaped : chain.reshape = some reshape) :
    reshape ∈ chain.intermediates :=
  mem_intermediates.mpr (.inr (.inl reshaped))

section

variable {dequantization : Dequantization} (scaled : chain.dequantization = some dequantization)
include scaled

/-- The multiplication is an intermediate node. -/
theorem multiply_mem : dequantization.multiply ∈ chain.intermediates :=
  mem_intermediates.mpr (.inr (.inr (.inl ⟨_, scaled, .inl rfl⟩)))

/-- The subtraction is an intermediate node. -/
theorem subtract_mem {shift : Shift} (shifted : dequantization.shift = some shift) :
    shift.subtract ∈ chain.intermediates :=
  mem_intermediates.mpr (.inr (.inr (.inl ⟨_, scaled, .inr ⟨shift, shifted, .inl rfl⟩⟩)))

/-- The conversion of the zero point is an intermediate node. -/
theorem zeroConvert_mem {shift : Shift} (shifted : dequantization.shift = some shift)
    {convert : Nat} (converted : shift.zeroPoint.convert = some convert) :
    convert ∈ chain.intermediates :=
  mem_intermediates.mpr (.inr (.inr (.inl ⟨_, scaled, .inr ⟨shift, shifted, .inr converted⟩⟩)))

/-- The top of a factor is an intermediate node. -/
theorem factor_top_mem : chain.factor.top ∈ chain.intermediates := by
  cases shifted : chain.factor.shift with
  | none =>
    rw [factor_top_of_unshifted shifted]
    exact chain.convert_mem
  | some shift =>
    rw [factor_top_of_shifted shifted]
    exact subtract_mem scaled ((shift_of_scaled scaled).symm.trans shifted)

/-- The multiplication or the reshape behind it is an intermediate node. -/
theorem below_mem : chain.reshape.getD dequantization.multiply ∈ chain.intermediates := by
  cases reshaped : chain.reshape with
  | none => exact multiply_mem scaled
  | some reshape => exact reshape_mem reshaped

end

/-- The top of a chain is an intermediate node. -/
theorem top_mem (chain : Chain) : chain.top ∈ chain.intermediates := by
  rw [mem_intermediates]
  obtain ⟨weight, convert, dequantization, reshape, outputConvert⟩ := chain
  cases outputConvert <;> cases reshape <;> cases dequantization <;> simp [top]

/-- A node does a step of the decompression, and it reads first outputs of intermediate nodes and
constants only. -/
def Steps (chain : Chain) (graph : Graph) (id : Nat) : Prop :=
  ∃ operation inputs, graph.Reads id operation inputs ∧ operation.isStep = true ∧
    operation.isGather = false ∧ ∀ port ∈ inputs,
      (∃ below ∈ chain.intermediates, port = .first below) ∨ graph.Holds port

/-- A node that reads one port steps if that port is supplied. -/
theorem steps_of_one {id : Nat} {operation : Operation} {port : Port}
    (reads : graph.Reads id operation [port]) (step : operation.isStep = true)
    (noLookup : operation.isGather = false)
    (supplied : (∃ below ∈ chain.intermediates, port = .first below) ∨ graph.Holds port) :
    chain.Steps graph id := by
  refine ⟨operation, [port], reads, step, noLookup, fun other operand => ?_⟩
  rw [List.mem_singleton] at operand
  rwa [operand]

/-- A node that reads two ports steps if both are supplied. -/
theorem steps_of_two {id : Nat} {operation : Operation} {first second : Port}
    (reads : graph.Reads id operation [first, second]) (step : operation.isStep = true)
    (noLookup : operation.isGather = false)
    (firstSupplied : (∃ below ∈ chain.intermediates, first = .first below) ∨ graph.Holds first)
    (secondSupplied : (∃ below ∈ chain.intermediates, second = .first below) ∨
      graph.Holds second) : chain.Steps graph id := by
  refine ⟨operation, [first, second], reads, step, noLookup, fun other operand => ?_⟩
  simp only [List.mem_cons, List.not_mem_nil, or_false] at operand
  rcases operand with rfl | rfl
  · exact firstSupplied
  · exact secondSupplied

section

variable (fits : chain.Fits graph) {dequantization : Dequantization}
  (scaled : chain.dequantization = some dequantization)
include fits scaled

/-- The multiplication reads the top of the factor and the scale. -/
theorem Fits.steps_multiply : chain.Steps graph dequantization.multiply := by
  obtain ⟨inputs, reads, operands⟩ := (fits.scales scaled).exists_reads
  refine ⟨.multiply, inputs, reads, rfl, rfl, fun port operand => ?_⟩
  rcases (operands port).mp operand with rfl | rfl
  · exact .inl ⟨_, factor_top_mem scaled, rfl⟩
  · exact .inr (fits.scales scaled).2.1

/-- The subtraction reads the converted table and the zero point, which may be converted. -/
theorem Fits.steps_shift {shift : Shift} (shifted : dequantization.shift = some shift) {id : Nat}
    (part : id = shift.subtract ∨ shift.zeroPoint.convert = some id) : chain.Steps graph id := by
  obtain ⟨shiftReads, zeroFits⟩ := fits.shifts scaled shifted
  rcases part with rfl | converted
  · refine steps_of_two shiftReads rfl rfl (.inl ⟨_, chain.convert_mem, rfl⟩) ?_
    cases converted : shift.zeroPoint.convert with
    | none =>
      rw [ZeroPoint.top_of_unconverted converted]
      exact .inr zeroFits.holds
    | some convert =>
      rw [ZeroPoint.top_of_converted converted]
      exact .inl ⟨convert, zeroConvert_mem scaled shifted converted, rfl⟩
  · exact steps_of_one (zeroFits.converts converted).1 rfl rfl (.inr zeroFits.holds)

end

/-- An intermediate node does a step of the decompression. -/
theorem Fits.operands (fits : chain.Fits graph) {id : Nat} (inside : id ∈ chain.intermediates) :
    chain.Steps graph id := by
  rcases mem_intermediates.mp inside with last | reshaped | ⟨dequantization, scaled, part⟩ | rfl
  · obtain ⟨dequantization, scaled⟩ := fits.exists_dequantization (.inl last)
    exact steps_of_one ((fits.tail scaled).2 id last) rfl rfl (.inl ⟨_, below_mem scaled, rfl⟩)
  · obtain ⟨dequantization, scaled⟩ := fits.exists_dequantization (.inr reshaped)
    obtain ⟨specialZero, target, reads, holds⟩ := (fits.tail scaled).1 id reshaped
    exact steps_of_two reads rfl rfl (.inl ⟨_, multiply_mem scaled, rfl⟩) (.inr holds)
  · rcases part with rfl | ⟨shift, shifted, part⟩
    · exact fits.steps_multiply scaled
    · exact fits.steps_shift scaled shifted part
  · exact steps_of_one fits.converts.1 rfl rfl (.inr fits.converts.2)

/-- The intermediate nodes are live. -/
theorem Fits.exists_frame (fits : chain.Fits graph) {id : Nat}
    (inside : id ∈ chain.intermediates) : ∃ frame, graph.frame? id = some frame := by
  obtain ⟨_, _, ⟨frame, found, -⟩, -⟩ := fits.operands inside
  exact ⟨frame, found⟩

/-- What is found at an intermediate node does a step of the decompression. -/
theorem Fits.steps_of_frame? (fits : chain.Fits graph) {id : Nat} {frame : Frame}
    (inside : id ∈ chain.intermediates) (found : graph.frame? id = some frame) :
    frame.operation.isStep = true ∧ frame.operation.isGather = false ∧ ∀ port ∈ frame.inputs,
      (∃ below ∈ chain.intermediates, port = .first below) ∨ graph.Holds port := by
  obtain ⟨_, _, reads, steps⟩ := fits.operands inside
  obtain ⟨rfl, rfl⟩ := reads.of_frame? found
  exact steps

/-- A lookup is no part of a chain. -/
theorem Fits.not_mem_of_isGather (fits : chain.Fits graph) {id : Nat} {frame : Frame}
    (found : graph.frame? id = some frame) (lookup : frame.operation.isGather = true) :
    id ∉ chain.intermediates := by
  intro inside
  have noLookup := (fits.steps_of_frame? inside found).2.1
  rw [lookup] at noLookup
  contradiction

/-- A property passes down a chain: from an intermediate node to the nodes whose first outputs it
reads. -/
def PassesDown (chain : Chain) (graph : Graph) (property : Nat → Prop) : Prop :=
  ∀ reader ∈ chain.intermediates, property reader → ∀ operation inputs,
    graph.Reads reader operation inputs → ∀ id, .first id ∈ inputs → property id

section

variable {property : Nat → Prop} (fits : chain.Fits graph) {dequantization : Dequantization}
  (scaled : chain.dequantization = some dequantization)
  (passes : chain.PassesDown graph property)
include fits scaled passes

/-- From the top of a chain a property passes to what is below the last conversion. -/
theorem PassesDown.below (holds : property chain.top) :
    property (chain.reshape.getD dequantization.multiply) := by
  rw [top_of_scaled scaled] at holds
  cases last : chain.outputConvert with
  | none => rwa [last] at holds
  | some convert =>
    rw [last] at holds
    exact passes convert (outputConvert_mem last) holds _ _ ((fits.tail scaled).2 convert last) _
      (by simp)

/-- From there it passes to the multiplication. -/
theorem PassesDown.multiply (holds : property chain.top) : property dequantization.multiply := by
  have below := PassesDown.below fits scaled passes holds
  cases reshaped : chain.reshape with
  | none => rwa [reshaped] at below
  | some reshape =>
    rw [reshaped] at below
    obtain ⟨_, _, reads, -⟩ := (fits.tail scaled).1 reshape reshaped
    exact passes reshape (reshape_mem reshaped) below _ _ reads _ (by simp)

/-- From the multiplication it passes to its factor. -/
theorem PassesDown.factor (holds : property chain.top) : property chain.factor.top := by
  obtain ⟨_, reads, operands⟩ := (fits.scales scaled).exists_reads
  exact passes _ (multiply_mem scaled) (PassesDown.multiply fits scaled passes holds) _ _ reads _
    ((operands _).mpr (.inl rfl))

/-- From a factor that is shifted it passes to all parts of the shift. -/
theorem PassesDown.shift (holds : property chain.top) {shift : Shift}
    (shifted : dequantization.shift = some shift) :
    property shift.subtract ∧ property shift.zeroPoint.top ∧ property chain.convert := by
  have subtract := PassesDown.factor fits scaled passes holds
  rw [factor_top_of_shifted ((shift_of_scaled scaled).trans shifted)] at subtract
  obtain ⟨reads, -⟩ := fits.shifts scaled shifted
  have operands := passes _ (subtract_mem scaled shifted) subtract _ _ reads
  exact ⟨subtract, operands _ (by simp), operands _ (by simp)⟩

end

/-- What holds of the top of a chain and passes down the chain holds of every intermediate node. -/
theorem Fits.forall_of_top (fits : chain.Fits graph) (property : Nat → Prop)
    (holds : property chain.top) (passes : chain.PassesDown graph property) :
    ∀ id ∈ chain.intermediates, property id := by
  intro id inside
  rcases mem_intermediates.mp inside with last | reshaped | ⟨dequantization, scaled, part⟩ | rfl
  · rwa [top_of_outputConvert last] at holds
  · obtain ⟨dequantization, scaled⟩ := fits.exists_dequantization (.inr reshaped)
    have below := PassesDown.below fits scaled passes holds
    rwa [reshaped] at below
  · rcases part with rfl | ⟨shift, shifted, part⟩
    · exact PassesDown.multiply fits scaled passes holds
    · obtain ⟨subtract, zero, -⟩ := PassesDown.shift fits scaled passes holds shifted
      rcases part with rfl | converted
      · exact subtract
      · rwa [ZeroPoint.top_of_converted converted] at zero
  · cases scaled : chain.dequantization with
    | none => rwa [fits.top_of_bare scaled] at holds
    | some dequantization =>
      cases shifted : dequantization.shift with
      | none =>
        have factor := PassesDown.factor fits scaled passes holds
        rwa [factor_top_of_unshifted ((shift_of_scaled scaled).trans shifted)] at factor
      | some shift => exact (PassesDown.shift fits scaled passes holds shifted).2.2

/-- A node reads the first output of another. -/
def ReadOn (graph : Graph) (id : Nat) : Prop :=
  ∃ reader operation inputs, graph.Reads reader operation inputs ∧ .first id ∈ inputs

/-- An intermediate node is the top of its chain or is read at its first output. -/
theorem Fits.top_or_read (fits : chain.Fits graph) {id : Nat} (inside : id ∈ chain.intermediates) :
    chain.top = id ∨ ReadOn graph id := by
  refine fits.forall_of_top (fun id => chain.top = id ∨ ReadOn graph id) (.inl rfl) ?_ id inside
  exact fun reader _ _ operation inputs reads id operand => .inr ⟨reader, operation, inputs, reads,
    operand⟩

/-- A chain that fits one graph fits any other in which its intermediate nodes read alike. -/
theorem Fits.transport_eitherOrder {changed : Graph} (fits : chain.Fits graph)
    (alike : ∀ id ∈ chain.intermediates, graph.ReadsAlike changed id) : chain.Fits changed := by
  refine ⟨⟨(alike _ chain.convert_mem).converts fits.converts, fun shift shifted => ?_⟩, ?_⟩
  · obtain ⟨dequantization, scaled, shifted⟩ := Option.bind_eq_some_iff.mp shifted
    exact (fits.shifts scaled shifted).transport (alike _ (subtract_mem scaled shifted))
      fun convert converted => alike _ (zeroConvert_mem scaled shifted converted)
  · cases scaled : chain.dequantization with
    | none => exact fits.bare scaled
    | some dequantization =>
      exact ⟨(fits.scales scaled).transport (alike _ (multiply_mem scaled)),
        (fits.tail scaled).transport (fun reshape reshaped => alike _ (reshape_mem reshaped))
          fun convert last => alike _ (outputConvert_mem last)⟩

/-- A chain that fits one graph fits any other in which its intermediate nodes read the same ports
and the constants they read are still there. -/
theorem Fits.transport {changed : Graph} (fits : chain.Fits graph)
    (same : ∀ id ∈ chain.intermediates, ∀ operation inputs,
      graph.Reads id operation inputs → changed.Reads id operation inputs)
    (constant : ∀ id ∈ chain.intermediates, ∀ operation inputs,
      graph.Reads id operation inputs → ∀ port ∈ inputs, graph.Holds port → changed.Holds port) :
    chain.Fits changed := by
  exact fits.transport_eitherOrder fun id inside =>
    { reads := fun operation inputs _ reads => same id inside operation inputs reads
      factors := fun _ _ reads => .inl (same id inside _ _ reads)
      holds := constant id inside }

end Chain

namespace Candidate

variable {candidate : Candidate} {graph : Graph}

/-- The lookup and the intermediate nodes are live. -/
theorem Fits.exists_frame_of_mem (fits : candidate.Fits graph) {id : Nat}
    (inside : id ∈ candidate.gather :: candidate.chain.intermediates) :
    ∃ frame, graph.frame? id = some frame := by
  rcases List.mem_cons.mp inside with rfl | inside
  · obtain ⟨-, _, _, ⟨frame, found, -⟩, -⟩ := fits
    exact ⟨frame, found⟩
  · exact fits.1.exists_frame inside

/-- The compressed table is a constant. -/
theorem Fits.holds_weight (fits : candidate.Fits graph) :
    graph.Holds (.first candidate.chain.weight) := fits.1.converts.2

/-- The zero point is a constant. -/
theorem Fits.holds_zeroPoint (fits : candidate.Fits graph) {dequantization : Dequantization}
    (scaled : candidate.chain.dequantization = some dequantization) {shift : Shift}
    (shifted : dequantization.shift = some shift) :
    graph.Holds (.first shift.zeroPoint.constant) := (fits.1.shifts scaled shifted).2.holds

/-- The scale and the zero point of a chain that multiplies, as ports. -/
theorem mem_constants_iff {port : Port} : port ∈ candidate.constants ↔
    ∃ dequantization, candidate.chain.dequantization = some dequantization ∧
      (port = .first dequantization.scale ∨ ∃ shift, dequantization.shift = some shift ∧
        port = .first shift.zeroPoint.constant) := by
  unfold constants
  cases candidate.chain.dequantization with
  | none => simp
  | some dequantization => simp [Option.map_eq_some_iff, @eq_comm _ port]

/-- The compressed table, the scale and the zero point are read by intermediate nodes. -/
theorem Fits.exists_reader_of_constant (fits : candidate.Fits graph) {port : Port}
    (inside : port ∈ .first candidate.chain.weight :: candidate.constants) :
    ∃ reader ∈ candidate.chain.intermediates, ∃ operation inputs,
      graph.Reads reader operation inputs ∧ port ∈ inputs := by
  rcases List.mem_cons.mp inside with rfl | inside
  · exact ⟨_, candidate.chain.convert_mem, _, _, fits.1.converts.1, by simp⟩
  · obtain ⟨dequantization, scaled, rfl | ⟨shift, shifted, rfl⟩⟩ := mem_constants_iff.mp inside
    · obtain ⟨inputs, reads, operands⟩ := (fits.1.scales scaled).exists_reads
      exact ⟨_, Chain.multiply_mem scaled, _, inputs, reads, (operands _).mpr (.inr rfl)⟩
    · obtain ⟨reads, zeroFits⟩ := fits.1.shifts scaled shifted
      cases converted : shift.zeroPoint.convert with
      | none => exact ⟨_, Chain.subtract_mem scaled shifted, _, _, reads,
          by simp [ZeroPoint.top_of_unconverted converted]⟩
      | some convert => exact ⟨_, Chain.zeroConvert_mem scaled shifted converted, _, _,
          (zeroFits.converts converted).1, by simp⟩

/-- Scale and zero point are constants. -/
theorem Fits.holds_constants (fits : candidate.Fits graph) :
    ∀ port ∈ candidate.constants, graph.Holds port := by
  intro port inside
  obtain ⟨dequantization, scaled, rfl | ⟨shift, shifted, rfl⟩⟩ := mem_constants_iff.mp inside
  · exact (fits.1.scales scaled).2.1
  · exact fits.holds_zeroPoint scaled shifted

end Candidate

end GatherFusion

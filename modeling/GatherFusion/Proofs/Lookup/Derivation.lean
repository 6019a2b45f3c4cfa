import GatherFusion.Proofs.Lookup.Persistence
import GatherFusion.Proofs.Reachable

/-!
# Derivations of decompressed tables

The grammar of decompressions, as the trees it derives from the nodes of a graph:

```
zero = Const | Convert(Const)
x    = Convert(Const weight) | Subtract(Convert(Const weight), zero)
product = Multiply(x, Const scale) | Multiply(Const scale, x)
rows = product | Reshape(product, Const)
data = Convert(Const weight) | rows | Convert(rows)
```

A derivation carries the record of its nodes as an index. Every edge of it leaves a first output.
Each node has at most one derivation, so the record is determined by the node, and a lookup is
recognized exactly when its data has one.
-/
namespace GatherFusion

/-! ## The grammar -/

/-- A zero point is a constant, or the conversion of one. -/
inductive ZeroPoint.Derivation (graph : Graph) : Nat → ZeroPoint → Type where
  /-- The node is a constant. -/
  | constant {id : Nat} (holds : graph.Holds (.first id)) : Derivation graph id ⟨id, none⟩
  /-- The node converts a constant. -/
  | converted {id constant : Nat} (converts : graph.Converts id constant) :
    Derivation graph id ⟨constant, some id⟩

/-- A factor is a converted table, from which a zero point may be subtracted. -/
inductive Factor.Derivation (graph : Graph) : Nat → Factor → Type where
  /-- The node converts a table. -/
  | plain {id weight : Nat} (converts : graph.Converts id weight) :
    Derivation graph id ⟨weight, id, none⟩
  /-- The node subtracts a zero point from a converted table. -/
  | shifted {id convert weight subtrahend : Nat} {zeroPoint : ZeroPoint}
    (subtracts : graph.Reads id .subtract [.first convert, .first subtrahend])
    (converts : graph.Converts convert weight) (shift : zeroPoint.Derivation graph subtrahend) :
    Derivation graph id ⟨weight, convert, some ⟨id, zeroPoint⟩⟩

namespace Chain

/-- A product multiplies a factor by a constant scale, in either order. -/
inductive Product (graph : Graph) : Nat → Chain → Type where
  /-- The scale is the second operand. -/
  | scaleSecond {id table scale : Nat} {factor : Factor}
    (multiplies : graph.Reads id .multiply [.first table, .first scale])
    (holds : graph.Holds (.first scale)) (derivation : factor.Derivation graph table) :
    Product graph id ⟨factor.weight, factor.convert, some ⟨id, scale, factor.shift⟩, none, none⟩
  /-- The scale is the first operand. -/
  | scaleFirst {id table scale : Nat} {factor : Factor}
    (multiplies : graph.Reads id .multiply [.first scale, .first table])
    (holds : graph.Holds (.first scale)) (derivation : factor.Derivation graph table) :
    Product graph id ⟨factor.weight, factor.convert, some ⟨id, scale, factor.shift⟩, none, none⟩

/-- The rows of a table are a product, which may be reshaped by a constant. -/
inductive Rows (graph : Graph) : Nat → Chain → Type where
  /-- The product is not reshaped. -/
  | plain {id : Nat} {chain : Chain} (product : Product graph id chain) : Rows graph id chain
  /-- The node reshapes the product. -/
  | reshaped {id below : Nat} {specialZero : Bool} {target : Port} {chain : Chain}
    (reshapes : graph.Reads id (.reshape specialZero) [.first below, target])
    (holds : graph.Holds target) (product : Product graph below chain) :
    Rows graph id { chain with reshape := some id }

/-- The data of a lookup is a converted table, or rows that may be converted once more. -/
inductive Derivation (graph : Graph) : Nat → Chain → Type where
  /-- The node converts a table, and that is all. -/
  | bare {id weight : Nat} (converts : graph.Converts id weight) :
    Derivation graph id ⟨weight, id, none, none, none⟩
  /-- The rows are not converted any more. -/
  | plain {id : Nat} {chain : Chain} (rows : Rows graph id chain) : Derivation graph id chain
  /-- The node converts the rows. -/
  | converted {id below : Nat} {chain : Chain} (converts : graph.Reads id .convert [.first below])
    (rows : Rows graph below chain) : Derivation graph id { chain with outputConvert := some id }

end Chain

variable {graph : Graph} {id : Nat}

/-! ## What a derived node is -/

/-- A node that reads one first output reads that of one node. -/
theorem Graph.Reads.eq_of_one {left right : Operation} {one other : Nat}
    (reads : graph.Reads id left [.first one]) (again : graph.Reads id right [.first other]) :
    one = other := by
  have inputs := (reads.unique again).2
  simpa [Port.first] using inputs

/-- A node that reads two first outputs reads those of two nodes. -/
theorem Graph.Reads.eq_of_two {left right : Operation} {one two first second : Nat}
    (reads : graph.Reads id left [.first one, .first two])
    (again : graph.Reads id right [.first first, .first second]) :
    one = first ∧ two = second := by
  have inputs := (reads.unique again).2
  simpa [Port.first] using inputs

/-- The node of a factor is no constant. -/
theorem Factor.Derivation.not_holds {factor : Factor} (derivation : factor.Derivation graph id) :
    ¬graph.Holds (.first id) := by
  cases derivation with
  | plain converts => exact converts.1.not_holds rfl
  | shifted subtracts => exact subtracts.not_holds rfl

/-- The node of a product multiplies. -/
theorem Chain.Product.reads {chain : Chain} (product : Product graph id chain) :
    ∃ inputs, graph.Reads id .multiply inputs := by
  cases product with
  | scaleSecond multiplies => exact ⟨_, multiplies⟩
  | scaleFirst multiplies => exact ⟨_, multiplies⟩

/-- The node of rows is neither a conversion nor a constant. -/
theorem Chain.Rows.reads {chain : Chain} (rows : Rows graph id chain) :
    ∃ operation inputs, graph.Reads id operation inputs ∧ operation ≠ .convert ∧
      operation.isConstant = false := by
  cases rows with
  | plain product =>
    obtain ⟨inputs, multiplies⟩ := product.reads
    exact ⟨_, inputs, multiplies, by simp, rfl⟩
  | reshaped reshapes => exact ⟨_, _, reshapes, by simp, rfl⟩

/-- A node that converts derives no rows. -/
theorem Chain.Rows.not_converts {chain : Chain} (rows : Rows graph id chain) {inputs : List Port} :
    ¬graph.Reads id .convert inputs := by
  obtain ⟨_, _, reads, noConvert, -⟩ := rows.reads
  exact fun converts => noConvert (reads.unique converts).1

/-! ## Derivations are unique -/

/-- A node has at most one derivation as a zero point. -/
theorem ZeroPoint.Derivation.unique {left right : ZeroPoint} (one : left.Derivation graph id)
    (other : right.Derivation graph id) :
    (⟨left, one⟩ : Σ zeroPoint : ZeroPoint, zeroPoint.Derivation graph id) = ⟨right, other⟩ := by
  cases one with
  | constant holds =>
    cases other with
    | constant => rfl
    | converted converts => exact absurd holds (converts.1.not_holds rfl)
  | converted converts =>
    cases other with
    | constant holds => exact absurd holds (converts.1.not_holds rfl)
    | converted again =>
      obtain rfl := converts.1.eq_of_one again.1
      rfl

/-- A node has at most one derivation as a factor. -/
theorem Factor.Derivation.unique {left right : Factor} (one : left.Derivation graph id)
    (other : right.Derivation graph id) :
    (⟨left, one⟩ : Σ factor : Factor, factor.Derivation graph id) = ⟨right, other⟩ := by
  cases one with
  | plain converts =>
    cases other with
    | plain again =>
      obtain rfl := converts.1.eq_of_one again.1
      rfl
    | shifted subtracts => exact absurd (converts.1.unique subtracts).1 (by simp)
  | shifted subtracts converts shift =>
    cases other with
    | plain again => exact absurd (again.1.unique subtracts).1 (by simp)
    | shifted subtractsAgain convertsAgain shiftAgain =>
      obtain ⟨rfl, rfl⟩ := subtracts.eq_of_two subtractsAgain
      obtain rfl := converts.1.eq_of_one convertsAgain.1
      cases shift.unique shiftAgain
      rfl

namespace Chain

/-- A node has at most one derivation as a product: one of its operands at most is a scale. -/
theorem Product.unique {left right : Chain} (one : Product graph id left)
    (other : Product graph id right) :
    (⟨left, one⟩ : Σ chain : Chain, Product graph id chain) = ⟨right, other⟩ := by
  cases one with
  | scaleSecond multiplies holds factor =>
    cases other with
    | scaleSecond again _ factorAgain =>
      obtain ⟨rfl, rfl⟩ := multiplies.eq_of_two again
      cases factor.unique factorAgain
      rfl
    | scaleFirst again holdsAgain =>
      obtain ⟨rfl, rfl⟩ := multiplies.eq_of_two again
      exact absurd holdsAgain factor.not_holds
  | scaleFirst multiplies holds factor =>
    cases other with
    | scaleSecond again _ factorAgain =>
      obtain ⟨rfl, rfl⟩ := multiplies.eq_of_two again
      exact absurd holds factorAgain.not_holds
    | scaleFirst again _ factorAgain =>
      obtain ⟨rfl, rfl⟩ := multiplies.eq_of_two again
      cases factor.unique factorAgain
      rfl

/-- A node has at most one derivation as rows. -/
theorem Rows.unique {left right : Chain} (one : Rows graph id left) (other : Rows graph id right) :
    (⟨left, one⟩ : Σ chain : Chain, Rows graph id chain) = ⟨right, other⟩ := by
  cases one with
  | plain product =>
    cases other with
    | plain again =>
      cases product.unique again
      rfl
    | reshaped reshapes =>
      obtain ⟨_, multiplies⟩ := product.reads
      exact absurd (multiplies.unique reshapes).1 (by simp)
  | reshaped reshapes holds product =>
    cases other with
    | plain again =>
      obtain ⟨_, multiplies⟩ := again.reads
      exact absurd (multiplies.unique reshapes).1 (by simp)
    | reshaped reshapesAgain _ again =>
      obtain ⟨operation, inputs⟩ := reshapes.unique reshapesAgain
      simp only [Port.first, List.cons.injEq, Port.mk.injEq, and_true] at inputs
      obtain ⟨rfl, rfl⟩ := inputs
      obtain rfl := Operation.reshape.inj operation
      cases product.unique again
      rfl

/-- A node has at most one derivation as the data of a lookup. -/
theorem Derivation.unique {left right : Chain} (one : Derivation graph id left)
    (other : Derivation graph id right) :
    (⟨left, one⟩ : Σ chain : Chain, Derivation graph id chain) = ⟨right, other⟩ := by
  -- A bare conversion reads a constant, a last conversion reads rows, which are none.
  have apart {weight below : Nat} {chain : Chain} (converts : graph.Converts id weight)
      (reads : graph.Reads id .convert [.first below]) (rows : Rows graph below chain) : False := by
    obtain rfl := converts.1.eq_of_one reads
    obtain ⟨_, _, interior, -, noConstant⟩ := rows.reads
    exact interior.not_holds noConstant converts.2
  cases one with
  | bare converts =>
    cases other with
    | bare again =>
      obtain rfl := converts.1.eq_of_one again.1
      rfl
    | plain rows => exact absurd converts.1 rows.not_converts
    | converted reads rows => exact (apart converts reads rows).elim
  | plain rows =>
    cases other with
    | bare again => exact absurd again.1 rows.not_converts
    | plain again =>
      cases rows.unique again
      rfl
    | converted reads => exact absurd reads rows.not_converts
  | converted reads rows =>
    cases other with
    | bare again => exact (apart again reads rows).elim
    | plain again => exact absurd reads again.not_converts
    | converted readsAgain again =>
      obtain rfl := reads.eq_of_one readsAgain
      cases rows.unique again
      rfl

end Chain

/-! ## What is derived fits -/

/-- A zero point that ends in a node is derived there when it fits. -/
theorem ZeroPoint.nonempty_derivation_iff {zeroPoint : ZeroPoint} :
    Nonempty (zeroPoint.Derivation graph id) ↔ zeroPoint.top = id ∧ zeroPoint.Fits graph := by
  constructor
  · rintro ⟨derivation⟩
    cases derivation with
    | constant holds => exact ⟨rfl, holds⟩
    | converted converts => exact ⟨rfl, converts⟩
  · rintro ⟨rfl, fits⟩
    obtain ⟨constant, convert⟩ := zeroPoint
    cases convert with
    | none => exact ⟨.constant fits⟩
    | some convert => exact ⟨.converted fits⟩

/-- A factor that ends in a node is derived there when it fits. -/
theorem Factor.nonempty_derivation_iff {factor : Factor} :
    Nonempty (factor.Derivation graph id) ↔ factor.top = id ∧ factor.Fits graph := by
  constructor
  · rintro ⟨derivation⟩
    cases derivation with
    | plain converts => exact ⟨rfl, converts, by simp⟩
    | shifted subtracts converts zero =>
      obtain ⟨rfl, fits⟩ := ZeroPoint.nonempty_derivation_iff.mp ⟨zero⟩
      refine ⟨rfl, converts, fun shift same => ?_⟩
      cases same
      exact ⟨subtracts, fits⟩
  · rintro ⟨rfl, converts, shifts⟩
    obtain ⟨weight, convert, shift⟩ := factor
    cases shift with
    | none => exact ⟨.plain converts⟩
    | some shift =>
      obtain ⟨subtracts, fits⟩ := shifts shift rfl
      obtain ⟨zero⟩ := ZeroPoint.nonempty_derivation_iff.mpr ⟨rfl, fits⟩
      exact ⟨.shifted subtracts converts zero⟩

namespace Chain

variable {chain : Chain}

/-- A product that ends in a node is derived there when it fits. -/
theorem nonempty_product_iff : Nonempty (Product graph id chain) ↔
    chain.reshape = none ∧ chain.outputConvert = none ∧ chain.factor.Fits graph ∧
      ∃ dequantization, chain.dequantization = some dequantization ∧
        dequantization.multiply = id ∧ dequantization.Fits graph chain.factor := by
  constructor
  · rintro ⟨product⟩
    cases product with
    | scaleSecond multiplies holds derivation =>
      obtain ⟨rfl, fits⟩ := Factor.nonempty_derivation_iff.mp ⟨derivation⟩
      exact ⟨rfl, rfl, fits, _, rfl, rfl, rfl, holds, .inl multiplies⟩
    | scaleFirst multiplies holds derivation =>
      obtain ⟨rfl, fits⟩ := Factor.nonempty_derivation_iff.mp ⟨derivation⟩
      exact ⟨rfl, rfl, fits, _, rfl, rfl, rfl, holds, .inr multiplies⟩
  · obtain ⟨weight, convert, scaled, reshape, last⟩ := chain
    rintro ⟨rfl, rfl, fits, dequantization, rfl, rfl, shift, holds, multiplies⟩
    obtain ⟨factor⟩ := Factor.nonempty_derivation_iff.mpr ⟨rfl, fits⟩
    rcases multiplies with multiplies | multiplies
    · exact ⟨.scaleSecond multiplies holds factor⟩
    · exact ⟨.scaleFirst multiplies holds factor⟩

/-- Rows that end in a node are derived there when they fit. -/
theorem nonempty_rows_iff : Nonempty (Rows graph id chain) ↔
    chain.outputConvert = none ∧ chain.factor.Fits graph ∧
      ∃ dequantization, chain.dequantization = some dequantization ∧
        chain.reshape.getD dequantization.multiply = id ∧
        dequantization.Fits graph chain.factor ∧
        chain.TailFits graph dequantization.multiply := by
  constructor
  · rintro ⟨rows⟩
    cases rows with
    | plain product =>
      obtain ⟨whole, last, fits, dequantization, scaled, rfl, scales⟩ :=
        nonempty_product_iff.mp ⟨product⟩
      exact ⟨last, fits, dequantization, scaled, by simp [whole], scales, by simp [whole],
        by simp [last]⟩
    | reshaped reshapes holds product =>
      obtain ⟨-, last, fits, dequantization, scaled, rfl, scales⟩ :=
        nonempty_product_iff.mp ⟨product⟩
      refine ⟨last, fits, dequantization, scaled, rfl, scales, fun reshape same => ?_,
        by simp [last]⟩
      cases same
      exact ⟨_, _, reshapes, holds⟩
  · rintro ⟨last, fits, dequantization, scaled, rfl, scales, reshapes, -⟩
    have whole : Nonempty (Product graph dequantization.multiply { chain with reshape := none }) :=
      nonempty_product_iff.mpr ⟨rfl, last, fits, dequantization, scaled, rfl, scales⟩
    obtain ⟨product⟩ := whole
    obtain ⟨weight, convert, _, reshape, _⟩ := chain
    cases reshape with
    | none => exact ⟨.plain product⟩
    | some reshape =>
      obtain ⟨_, _, reads, holds⟩ := reshapes reshape rfl
      exact ⟨.reshaped reads holds product⟩

/-- The data of a lookup that ends in a node is derived there when it fits. -/
theorem nonempty_derivation_iff :
    Nonempty (Derivation graph id chain) ↔ chain.top = id ∧ chain.Fits graph := by
  constructor
  · rintro ⟨derivation⟩
    cases derivation with
    | bare converts => exact ⟨rfl, ⟨converts, by simp [factor]⟩, rfl, rfl⟩
    | plain rows =>
      obtain ⟨last, fits, dequantization, scaled, below, scales, tail⟩ :=
        nonempty_rows_iff.mp ⟨rows⟩
      refine ⟨by rw [top_of_scaled scaled, last, Option.getD_none, below], fits, ?_⟩
      rw [scaled]
      exact ⟨scales, tail⟩
    | converted converts rows =>
      obtain ⟨-, fits, dequantization, scaled, rfl, scales, reshapes, -⟩ :=
        nonempty_rows_iff.mp ⟨rows⟩
      refine ⟨rfl, fits, ?_⟩
      simp only [scaled, factor] at scales ⊢
      refine ⟨scales, reshapes, fun convert same => ?_⟩
      cases same
      exact converts
  · rintro ⟨rfl, fits⟩
    cases scaled : chain.dequantization with
    | none =>
      obtain ⟨unreshaped, unconverted⟩ := fits.bare scaled
      obtain ⟨weight, convert, _, _, _⟩ := chain
      cases scaled
      cases unreshaped
      cases unconverted
      exact ⟨.bare fits.converts⟩
    | some dequantization =>
      obtain ⟨reshapes, lasts⟩ := fits.tail scaled
      have rows : Nonempty (Rows graph (chain.reshape.getD dequantization.multiply)
          { chain with outputConvert := none }) :=
        nonempty_rows_iff.mpr ⟨rfl, fits.1, dequantization, scaled, rfl, fits.scales scaled,
          reshapes, by simp⟩
      obtain ⟨rows⟩ := rows
      rw [top_of_scaled scaled]
      obtain ⟨weight, convert, _, _, last⟩ := chain
      cases last with
      | none => exact ⟨.plain rows⟩
      | some last => exact ⟨.converted (lasts last rfl) rows⟩

end Chain

/-! ## Recognized lookups -/

/-- A port of a well-formed graph that carries a constant is a first output. -/
theorem Graph.WellFormed.eq_first (wellFormed : graph.WellFormed) {port : Port}
    (holds : graph.Holds port) : port = .first port.node := by
  obtain ⟨frame, payload, info, found, operation, position⟩ := Graph.holds_iff.mp holds
  have one := wellFormed.2 _ frame found (by simp [operation, Operation.isConstant])
  have inside := (List.getElem?_eq_some_iff.mp position).1
  exact Graph.eq_first_iff.mpr ⟨by omega, rfl⟩

/-- A lookup along the first dimension of data that has a derivation. -/
structure Candidate.Derived (candidate : Candidate) (graph : Graph) (data : Nat) : Prop where
  /-- The lookup has no batch dimensions and reads the data, the indices and the axis. -/
  reads : graph.Reads candidate.gather (.gather 0)
    [.first data, candidate.indices, .first candidate.axis]
  /-- The axis is a constant with a single integer. -/
  axis : graph.integers? (.first candidate.axis) = some [candidate.axisValue]
  /-- The axis names the first dimension, counted from the end where it is negative. -/
  front : ∃ info, graph.info? (.first data) = some info ∧
    (if candidate.axisValue < 0 then candidate.axisValue + info.shape.rank
      else candidate.axisValue) = 0
  /-- The data derives the chain. -/
  derives : Nonempty (candidate.chain.Derivation graph data)

namespace Candidate

variable {candidate : Candidate}

/-- In a well-formed graph the candidates that fit are those that are derived. -/
theorem fits_iff_derived (wellFormed : graph.WellFormed) :
    candidate.Fits graph ↔ ∃ data, candidate.Derived graph data := by
  constructor
  · rintro ⟨fits, axis, info, reads, same, axisRead, carries, front⟩
    have first := wellFormed.eq_first (Graph.holds_of_integers? axisRead)
    rw [same] at first
    subst first
    exact ⟨candidate.chain.top, reads, axisRead, ⟨info, carries, front⟩,
      Chain.nonempty_derivation_iff.mpr ⟨rfl, fits⟩⟩
  · rintro ⟨data, reads, axisRead, ⟨info, carries, front⟩, derives⟩
    obtain ⟨rfl, fits⟩ := Chain.nonempty_derivation_iff.mp derives
    exact ⟨fits, .first candidate.axis, info, reads, rfl, axisRead, carries, front⟩

end Candidate

/-- In every graph that was reached recognition comes to an end, and it recognizes a candidate at a
node exactly when the node is a lookup along the first dimension of data that derives the chain of the
candidate. Each node has at most one derivation. The data of a recognized lookup is the top of its
chain, and the candidate is live. The candidates of a graph are those recognized at its lookups, one
for each lookup at most, oldest lookup first. -/
theorem recognizes_what_is_derived (history : List Action) :
    (∀ gather, ∃ outcome, (Graph.after history).recognize gather = .ok outcome) ∧
    (∀ gather candidate, (Graph.after history).recognize gather = .ok (.ok candidate) ↔
      candidate.gather = gather ∧ ∃ data, candidate.Derived (Graph.after history) data) ∧
    (∀ data, Subsingleton (Σ chain : Chain, chain.Derivation (Graph.after history) data)) ∧
    (∀ (candidate : Candidate) data, candidate.Derived (Graph.after history) data →
      candidate.chain.top = data ∧ candidate.isLive (Graph.after history) = true) ∧
    ∃ candidates, (Graph.after history).candidates = .ok candidates ∧
      (candidates.map Candidate.gather).Pairwise (· < ·) ∧
      ∀ candidate, candidate ∈ candidates ↔
        candidate.gather ∈ (Graph.after history).gathers ∧
          (Graph.after history).recognize candidate.gather = .ok (.ok candidate) := by
  have wellFormed := Graph.wellFormed_after history
  generalize Graph.after history = graph at *
  have mirrored := wellFormed.1
  obtain ⟨candidates, collected, members⟩ := mirrored.exists_candidates
  refine ⟨mirrored.exists_recognize, fun gather candidate => ?_, fun data => ?_,
    fun candidate data derived => ?_, candidates, collected,
    mirrored.increasing_candidates collected, fun candidate => ?_⟩
  · rw [mirrored.recognize_eq_ok_iff, Candidate.fits_iff_derived wellFormed]
  · exact ⟨fun ⟨_, one⟩ ⟨_, other⟩ => one.unique other⟩
  · obtain ⟨top, -⟩ := Chain.nonempty_derivation_iff.mp derived.derives
    exact ⟨top, ((Candidate.fits_iff_derived wellFormed).mpr ⟨data, derived⟩).isLive⟩
  · rw [members, mirrored.recognize_eq_ok_iff]
    constructor
    · intro fits
      obtain ⟨-, axis, info, reads, -⟩ := id fits
      exact ⟨reads.mem_gathers, rfl, fits⟩
    · exact fun recognized => recognized.2.2

end GatherFusion

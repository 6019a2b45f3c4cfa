import GatherFusion.Proofs.Lookup.Performance

/-!
# One pass sheds a whole chain

The steps of a chain are shed in one pass over the list of them, and a step that is kept because
another one reads it has to be met again when that one is gone. It never has to: each step of a
chain reads steps further down the list, or constants, so whatever could still read a step has had
its chance to go before. A step that is in the list twice is judged where it comes last.
-/
namespace GatherFusion

/-- Each node of a list reads nodes further down the list and constants only. -/
def Graph.Descends (graph : Graph) : List Nat → Prop
  | [] => True
  | id :: rest =>
    (∀ frame, graph.frame? id = some frame → ∀ port ∈ frame.inputs,
      port.node ∈ rest ∨ graph.Holds port) ∧ graph.Descends rest

namespace Graph.Descends

variable {graph : Graph} {list rest : List Nat}

/-- What a node of the list reads is in the list, or a constant. -/
theorem supplied (descends : graph.Descends list) {id : Nat} (inside : id ∈ list) {frame : Frame}
    (found : graph.frame? id = some frame) {port : Port} (operand : port ∈ frame.inputs) :
    port.node ∈ list ∨ graph.Holds port := by
  induction list with
  | nil => contradiction
  | cons first rest ih =>
    have further : port.node ∈ rest ∨ graph.Holds port := by
      rcases List.mem_cons.mp inside with rfl | later
      · exact descends.1 frame found port operand
      · exact ih descends.2 later
    exact further.imp_left (List.mem_cons_of_mem first)

/-- A node is put in front of what it reads. -/
theorem cons {id : Nat} {operation : Operation} {inputs : List Port}
    (reads : graph.Reads id operation inputs)
    (supplied : ∀ port ∈ inputs, port.node ∈ rest ∨ graph.Holds port)
    (descends : graph.Descends rest) : graph.Descends (id :: rest) := by
  refine ⟨fun frame found port operand => supplied port ?_, descends⟩
  rwa [← (reads.of_frame? found).2]

/-- A node that is there or not is put in front of what it reads. -/
theorem optional {part : Option Nat}
    (reads : ∀ id, part = some id → ∃ operation inputs, graph.Reads id operation inputs ∧
      ∀ port ∈ inputs, port.node ∈ rest ∨ graph.Holds port)
    (descends : graph.Descends rest) : graph.Descends (part.toList ++ rest) := by
  cases part with
  | none => exact descends
  | some id =>
    obtain ⟨operation, inputs, step, supplied⟩ := reads id rfl
    exact descends.cons step supplied

/-- A list still descends where its nodes read what they read and constants are still constants. -/
theorem transfer {changed : Graph} (descends : graph.Descends list)
    (frames : ∀ id ∈ list, ∀ frame, changed.frame? id = some frame → graph.frame? id = some frame)
    (holds : ∀ port, graph.Holds port → changed.Holds port) : changed.Descends list := by
  induction list with
  | nil => trivial
  | cons first rest ih =>
    refine ⟨fun frame found port operand => ?_,
      ih descends.2 fun id inside => frames id (List.mem_cons_of_mem _ inside)⟩
    have before := frames first List.mem_cons_self frame found
    exact (descends.1 frame before port operand).imp_right (holds port)

end Graph.Descends

namespace Chain

variable {chain : Chain} {graph : Graph}

/-- The steps behind the multiplication of a fitting chain descend to its conversion, and the factor
that is multiplied is among them. -/
theorem Fits.descends_factor (fits : chain.Fits graph) {dequantization : Dequantization}
    (scaled : chain.dequantization = some dequantization) :
    let steps := (dequantization.shift.map fun shift =>
      shift.subtract :: shift.zeroPoint.convert.toList).getD [] ++ [chain.convert]
    graph.Descends steps ∧ chain.factor.top ∈ steps := by
  have table : graph.Descends [chain.convert] :=
    .cons fits.converts.1 (by simpa using fits.converts.2) trivial
  cases shifted : dequantization.shift with
  | none => simpa [factor, Factor.top, scaled, shifted] using table
  | some shift =>
    obtain ⟨subtracts, zeroFits⟩ := fits.shifts scaled shifted
    have zero : graph.Descends (shift.zeroPoint.convert.toList ++ [chain.convert]) := by
      refine table.optional fun convert converted => ?_
      exact ⟨_, _, (zeroFits.converts converted).1, by simpa using .inr zeroFits.holds⟩
    have supplied : ∀ port ∈ [.first chain.convert, .first shift.zeroPoint.top],
        port.node ∈ shift.zeroPoint.convert.toList ++ [chain.convert] ∨ graph.Holds port := by
      intro port operand
      simp only [List.mem_cons, List.not_mem_nil, or_false] at operand
      rcases operand with rfl | rfl
      · exact .inl (by simp [Port.first])
      · cases converted : shift.zeroPoint.convert with
        | none => exact .inr (ZeroPoint.top_of_unconverted converted ▸ zeroFits.holds)
        | some convert => exact .inl (by simp [ZeroPoint.top_of_converted converted, Port.first])
    exact ⟨zero.cons subtracts supplied, by simp [factor, Factor.top, scaled, shifted]⟩

/-- The intermediate nodes of a fitting chain are listed from the top down. -/
theorem Fits.descends (fits : chain.Fits graph) : graph.Descends chain.intermediates := by
  cases scaled : chain.dequantization with
  | none =>
    obtain ⟨unreshaped, unconverted⟩ := fits.bare scaled
    have bare : chain.intermediates = [chain.convert] := by
      simp [intermediates, scaled, unreshaped, unconverted]
    rw [bare]
    exact .cons fits.converts.1 (by simpa using fits.converts.2) trivial
  | some dequantization =>
    obtain ⟨-, scale, multiplies⟩ := fits.scales scaled
    obtain ⟨reshapes, converts⟩ := fits.tail scaled
    obtain ⟨behind, factor⟩ := fits.descends_factor scaled
    generalize listed : (dequantization.shift.map fun shift =>
      shift.subtract :: shift.zeroPoint.convert.toList).getD [] ++ [chain.convert] = lower
      at behind factor
    have multiply : graph.Descends (dequantization.multiply :: lower) := by
      rcases multiplies with reads | reads
      · exact behind.cons reads (by simpa [Port.first] using ⟨.inl factor, .inr scale⟩)
      · exact behind.cons reads (by simpa [Port.first] using ⟨.inr scale, .inl factor⟩)
    have reshape : graph.Descends (chain.reshape.toList ++ dequantization.multiply :: lower) := by
      refine multiply.optional fun id reshaped => ?_
      obtain ⟨specialZero, target, reads, holds⟩ := reshapes id reshaped
      exact ⟨_, _, reads, by simpa [Port.first] using .inr holds⟩
    have last : graph.Descends (chain.outputConvert.toList ++
        (chain.reshape.toList ++ dequantization.multiply :: lower)) := by
      refine reshape.optional fun id converted => ⟨_, _, converts id converted, ?_⟩
      have below : chain.reshape.getD dequantization.multiply ∈
          chain.reshape.toList ++ dequantization.multiply :: lower := by
        cases chain.reshape <;> simp
      intro port operand
      rw [List.mem_singleton.mp operand]
      exact .inl below
    simpa [intermediates, scaled, ← listed] using last

end Chain

/-- Shedding a list whose nodes read further down the list leaves each of its nodes gone or read. -/
theorem Graph.Sheds.goneOrRead {start graph changed : Graph} {list : List Nat}
    (sheds : graph.Sheds list changed) (descends : start.Descends list) (thins : start.Thins graph)
    (steps : ∀ id ∈ list, ¬∃ index, start.Holds ⟨id, index⟩) :
    ∀ id ∈ list, changed.GoneOrRead id := by
  induction sheds with
  | done => simp
  | @keep graph changed first rest kept later ih =>
    have others := ih descends.2 thins fun id inside => steps id (List.mem_cons_of_mem _ inside)
    intro id inside
    by_cases again : id ∈ rest
    · exact others id again
    · obtain rfl : id = first := (List.mem_cons.mp inside).resolve_right again
      rcases kept with gone | ⟨index, slot, reads⟩
      · exact .inl (later.thins.frame?_eq_none gone)
      · obtain ⟨frame, found, position⟩ := producer?_eq_some_iff.mp reads
        -- Its reader is not further down the list, so it is not shed any more.
        have outside : slot.node ∉ rest := by
          intro reader
          rcases descends.2.supplied reader (thins _ _ found) (List.mem_of_getElem? position) with
            further | holds
          · exact again further
          · exact steps id List.mem_cons_self ⟨index, holds⟩
        have survives := later.keepsOutside _ outside frame found
        exact .inr ⟨index, slot, producer?_eq_some_iff.mpr ⟨frame, survives, position⟩⟩
  | @drop graph middle changed first rest live drops later ih =>
    have others := ih descends.2
      (fun id frame found => thins id frame (drops.thins id frame found))
      fun id inside => steps id (List.mem_cons_of_mem _ inside)
    intro id inside
    rcases List.mem_cons.mp inside with rfl | again
    · exact .inl (later.thins.frame?_eq_none drops.frame?_eq_none)
    · exact others id again

/-- Shedding the chain that a candidate fits leaves each of its nodes gone or read. -/
theorem Chain.Fits.goneOrRead {chain : Chain} {graph changed : Graph} (fits : chain.Fits graph)
    (sheds : graph.Sheds chain.intermediates changed) :
    ∀ id ∈ chain.intermediates, changed.GoneOrRead id := by
  refine sheds.goneOrRead fits.descends (fun _ _ found => found) fun id inside => ?_
  rintro ⟨index, holds⟩
  obtain ⟨frame, found, noStep, -⟩ := holds.exists_frame
  obtain ⟨step, -⟩ := fits.steps_of_frame? inside found
  rw [noStep] at step
  contradiction

end GatherFusion

import GatherFusion.Proofs.Lookup.Commutation
import GatherFusion.Proofs.Pass.Turn

/-!
# Fusion in twins

Whether a table is multiplied by its scale or the scale by the table makes no difference to fusion.
A turn in a graph and the same turn in its twin end in the same way and leave twins behind, as long
as lookups are left alone by their names only. So the whole run tells the same, and of the two
graphs it leaves one is the other with the factors of the surviving multiplications swapped.
-/
namespace GatherFusion

open GatherFusion.Graph (Twins)

variable {nodes : Nat → Bool} {config : FusionConfig}

namespace Graph.Twins

variable {left right : Graph} (twins : Twins nodes left right)
include twins

/-- A lookup gives rise to the same event in twins. -/
theorem recognitionEvent?_eq (gather : Nat) :
    right.recognitionEvent? gather = left.recognitionEvent? gather := by
  unfold recognitionEvent?
  rw [twins.recognize_eq]
  cases (left.recognize gather).toOption with
  | none => rfl
  | some outcome =>
    rcases twins.node?_cases gather with ⟨dead, deadToo⟩ | ⟨one, two, found, there, frame⟩
    · rw [dead, deadToo]
      rfl
    · have name := (Node.alike_of_swapped frame).1
      simp only [found, there, name, bind, Option.bind_some]
      cases outcome with
      | error mismatch => cases mismatch <;> rfl
      | ok candidate =>
        rcases twins.node?_cases candidate.chain.weight with
          ⟨dead, deadToo⟩ | ⟨weight, weightToo, offered, offers, weightFrame⟩
        · simp only [dead, deadToo, Option.bind_none]
        · simp only [offered, offers, (Node.alike_of_swapped weightFrame).1, Option.bind_some]

/-- Recognition is told by the same events in twins. -/
theorem surveyEvents_eq : right.surveyEvents = left.surveyEvents := by
  have told : right.recognitionEvent? = left.recognitionEvent? := funext twins.recognitionEvent?_eq
  simp only [surveyEvents, twins.gathers_eq, told]

end Graph.Twins

namespace Fusion

/-- A turn ends in the same way in twins and leaves twins behind. -/
theorem twins_takeTurn (byName : config.SkipsByName) {left right : Graph}
    (twins : Twins nodes left right) {candidate : Candidate}
    (fitting : candidate.isLive left = true → candidate.Fits left) :
    (takeTurn config right candidate).1 = (takeTurn config left candidate).1 ∧
      Twins nodes (takeTurn config left candidate).2 (takeTurn config right candidate).2 := by
  unfold takeTurn
  rw [twins.isLive_eq]
  cases live : candidate.isLive left with
  | false => exact ⟨rfl, twins⟩
  | true =>
    have fits := fitting live
    have verdict := twins.layout_eq byName fits
    rcases twins.node?_cases candidate.gather with ⟨dead, -⟩ | ⟨one, two, found, there, frame⟩
    · simp [Candidate.isLive, dead] at live
    · have name := (Node.alike_of_swapped frame).1
      simp only [Graph.node_eq_ok_iff.mpr found, Graph.node_eq_ok_iff.mpr there, verdict, name,
        Bool.not_true, Bool.false_eq_true, ↓reduceIte]
      split
      · exact ⟨rfl, twins⟩
      · exact ⟨rfl, twins⟩
      · rename_i layout _
        obtain ⟨outcome, leftAfter, rightAfter, leftRun, rightRun, after⟩ :=
          (Candidate.respects_replace candidate layout).exists_runs twins
        rw [leftRun, rightRun]
        cases outcome with
        | ok node => exact ⟨rfl, after⟩
        | error failure => cases failure <;> exact ⟨rfl, after⟩

/-- The turn of a candidate in one twin is that in the other one. -/
theorem exists_twin (byName : config.SkipsByName) {start left right after : Graph}
    {candidate : Candidate} {result : Except Fault Turn}
    (turn : Taken config start left candidate result after) (twins : Twins nodes left right) :
    ∃ changed, takeTurn config right candidate = (result, changed) ∧ Twins nodes after changed := by
  obtain ⟨same, kept⟩ := twins_takeTurn byName twins turn.fitting
  rw [turn.taken] at same kept
  exact ⟨(takeTurn config right candidate).2, Prod.ext same rfl, kept⟩

/-- All turns end in the same way in twins and leave twins behind. -/
theorem twins_takeTurns (byName : config.SkipsByName) {start : Graph} {candidates : List Candidate}
    (fit : ∀ candidate ∈ candidates, candidate.Fits start) {left right : Graph}
    (twins : Twins nodes left right) (evolves : ∃ move, start.Evolves move left) :
    (takeTurns config right candidates).turns = (takeTurns config left candidates).turns ∧
      (takeTurns config right candidates).fault = (takeTurns config left candidates).fault ∧
      Twins nodes (takeTurns config left candidates).graph
        (takeTurns config right candidates).graph := by
  -- The induction is on the turns in one twin, with whatever graph is its twin before them.
  refine takeTurns_induction (motive := fun candidates left session => ∀ right : Graph,
    Twins nodes left right → (takeTurns config right candidates).turns = session.turns ∧
      (takeTurns config right candidates).fault = session.fault ∧
      Twins nodes session.graph (takeTurns config right candidates).graph)
    (fun _ _ twins => ⟨rfl, rfl, twins⟩) ?_ ?_ fit twins.mirrored evolves right twins
  · intro candidate rest left fault after turn right twins
    obtain ⟨changed, taken, kept⟩ := exists_twin byName turn twins
    rw [takeTurns, taken]
    exact ⟨rfl, rfl, kept⟩
  · intro candidate rest left told after later turn others right twins
    obtain ⟨changed, taken, kept⟩ := exists_twin byName turn twins
    obtain ⟨turns, fault, last⟩ := others changed kept
    rw [takeTurns, taken]
    exact ⟨congrArg (told :: ·) turns, fault, last⟩

/-- Fusion tells the same of twins and leaves twins behind. -/
theorem twins_run (byName : config.SkipsByName) {left right : Graph}
    (twins : Twins nodes left right) :
    (run config right).result = (run config left).result ∧
      (run config right).events = (run config left).events ∧
      Twins nodes (run config left).graph (run config right).graph := by
  obtain ⟨candidates, collected, fit⟩ := twins.mirrored.exists_candidates
  have collectedToo := twins.candidates_eq.trans collected
  obtain ⟨turns, fault, after⟩ := twins_takeTurns byName
    (fun candidate inside => (fit candidate).mp inside) twins ⟨id, Graph.Evolves.refl left⟩
  simp only [run, collected, collectedToo, turns, fault, twins.surveyEvents_eq, true_and]
  exact after

/-- In every reachable graph the operand order of multiplications is irrelevant to fusion. Whichever
of them have their two factors swapped, the candidates are the same, fusion returns the same report
or breaks off in the same way and tells the same events, and the graph it leaves is the same but for
the factors of those among them that are still there. -/
theorem fusion_ignores_factor_order_after (history : List Action) (nodes : Nat → Bool)
    (config : FusionConfig) (byName : config.SkipsByName) :
    ((Graph.after history).swapped nodes).candidates = (Graph.after history).candidates ∧
      (run config ((Graph.after history).swapped nodes)).result =
        (run config (Graph.after history)).result ∧
      (run config ((Graph.after history).swapped nodes)).events =
        (run config (Graph.after history)).events ∧
      (run config ((Graph.after history).swapped nodes)).graph =
        (run config (Graph.after history)).graph.swapped nodes := by
  have twins := (Graph.mirrored_after history).twins_swapped nodes
  obtain ⟨result, events, after⟩ := twins_run byName twins
  exact ⟨twins.candidates_eq, result, events, after.eq_swapped⟩

/-- A lookup in a table that an output of the graph reads as well, so that the multiplication by the
scale outlives the fusion. -/
def readTable : List Action := [
  .addConstant "weight" (.fixed .u8 [2, 2]) ⟨[5, 6, 7, 8]⟩,
  .addConstant "scale" (.fixed .f32 []) (.ofSingles [.one]),
  .addConstant "axis" (.fixed .i64 []) (.ofInt64s [0]),
  .addParameter "indices" (.fixed .i64 [3]),
  .addNode .convert [.first 0] [.fixed .f32 [2, 2]] "converted",
  .addNode .multiply [.first 4, .first 1] [.fixed .f32 [2, 2]] "scaled",
  .addNode (.gather 0) [.first 5, .first 3, .first 2] [.fixed .f32 [3, 2]] "lookup",
  .addResult "rows" (.first 6),
  .addResult "table" (.first 5)]

/-- With the table behind the scale the lookup is fused as well, and the table stays behind the
scale. -/
theorem fusion_ignores_factor_order_readTable :
    (run {} ((Graph.after readTable).swapped fun _ => true)).result = .ok ⟨1, [9], [], []⟩ ∧
      (run {} ((Graph.after readTable).swapped fun _ => true)).graph.frame? 5 =
        some ⟨"scaled", .multiply, [.first 1, .first 4], [.fixed .f32 [2, 2]]⟩ := by
  have report : (run {} (Graph.after readTable)).result = .ok ⟨1, [9], [], []⟩ := by
    decide +kernel
  have product : (run {} (Graph.after readTable)).graph.frame? 5 =
      some ⟨"scaled", .multiply, [.first 4, .first 1], [.fixed .f32 [2, 2]]⟩ := by
    decide +kernel
  obtain ⟨-, result, -, graph⟩ := fusion_ignores_factor_order_after readTable (fun _ => true) {}
    fun _ _ _ => rfl
  refine ⟨result.trans report, ?_⟩
  rw [graph, Graph.frame?_swapped, product]
  rfl

end Fusion

end GatherFusion

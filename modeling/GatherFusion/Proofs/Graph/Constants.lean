import GatherFusion.Proofs.Graph.Atomicity
import GatherFusion.Proofs.Payload.Decoding
import Mathlib.Data.List.Induction

/-!
# Constants stay what they were created as

A constant comes into a graph because an action asks for it, or because a replacement needs a fresh
axis or a fresh scale (`Action.Creates`). Either way its payload is checked against the one output
it declares. No change touches a node after that, apart from the ports it reads and the slots that
read it, and no handle is given out twice, so a live constant is at any time what it was created as
(`ConstantSince`). Its payload therefore holds just as many elements as its output declares, and is
read as a whole wherever its type can be read at all. Counts and sizes are unbounded numbers.
-/
namespace GatherFusion

/-- What an action creates a constant with, if it creates one: what it asks for, or what
replacements add. -/
def Action.Creates (payload : Payload) (info : TensorInfo) : Action → Prop
  | .addNode operation _ outputs _ => operation = .constant payload ∧ outputs = [info]
  | .addConstant _ declared bytes => bytes = payload ∧ declared = info
  | .replace .. | .runPass .. | .runPipeline .. => Candidate.FreshConstant payload info
  | .addParameter .. | .addResult .. | .replaceAllUses .. | .removeNode .. => False

/-- A reading that succeeds under a condition and in no other case, and then yields a certain number
of elements. -/
structure Yields {α : Type} (reading : Option (List α)) (known : Prop) (count : Nat) : Prop where
  /-- The reading succeeds exactly under the condition. -/
  succeeds : reading.isSome ↔ known
  /-- It yields so many elements. -/
  length : ∀ values, reading = some values → values.length = count

/-- A payload that is long enough for some elements yields them where their type can be read. -/
theorem Payload.yields_elements? {α : Type} {interpret : ElementType → Option (Nat → α)}
    {payload : Payload} {element : ElementType} {count : Nat}
    (long : element.byteLength count ≤ payload.size) :
    Yields (elements? interpret payload element count) (interpret element).isSome count where
  succeeds := by rw [elements?, if_neg (Nat.not_lt.mpr long), Option.isSome_map]
  length values read := by
    obtain ⟨-, value, -, rfl⟩ := elements?_eq_some_iff.mp read
    rw [List.length_map, LittleEndian.length_fields]

namespace Graph

variable {graph changed : Graph} {history : List Action} {id : Nat} {frame : Frame}
  {payload : Payload} {info : TensorInfo}

/-! ## Constants over an action -/

/-- How a later graph goes on from an earlier one: its constants are old ones, or they were created
in a certain way. -/
structure GoesOn (creates : Payload → TensorInfo → Prop) (graph later : Graph) : Prop where
  /-- Handles are only used up. -/
  next : graph.next ≤ later.next
  /-- A constant was there before, whatever it read, or it has a new handle and was created so. -/
  constants : ∀ id frame payload, later.frame? id = some frame →
    frame.operation = .constant payload →
    (∃ before, graph.frame? id = some before ∧ before.operation = frame.operation ∧
        before.infos = frame.infos) ∨
      graph.next ≤ id ∧ ∃ info, frame.infos = [info] ∧ creates payload info

/-- A graph goes on from itself. -/
theorem goesOn_self (creates : Payload → TensorInfo → Prop) (graph : Graph) :
    graph.GoesOn creates graph where
  next := Nat.le_refl _
  constants _ frame _ found _ := .inl ⟨frame, found, rfl, rfl⟩

namespace GoesOn

variable {creates : Payload → TensorInfo → Prop} {start : Graph}

/-- Adding a node keeps it, where a constant is created so. -/
theorem adds (goesOn : start.GoesOn creates graph) (adds : graph.Adds frame changed)
    (created : ∀ payload, frame.operation = .constant payload →
      ∃ info, frame.infos = [info] ∧ creates payload info) : start.GoesOn creates changed where
  next := adds.next ▸ Nat.le_succ_of_le goesOn.next
  constants id other payload found constant := by
    rcases adds.frame?_cases found with ⟨rfl, rfl⟩ | old
    · exact .inr ⟨goesOn.next, created payload constant⟩
    · exact goesOn.constants id other payload old constant

/-- Redirecting readers keeps it. -/
theorem redirects (goesOn : start.GoesOn creates graph) {source target : Port}
    (redirects : graph.Redirects source target changed) : start.GoesOn creates changed where
  next := redirects.next ▸ goesOn.next
  constants id frame payload found constant := by
    obtain ⟨before, there, rfl⟩ := redirects.exists_frame found
    exact goesOn.constants id before payload there constant

/-- Dropping a node keeps it. -/
theorem drops (goesOn : start.GoesOn creates graph) {lost : Nat}
    (drops : graph.Drops lost changed) : start.GoesOn creates changed where
  next := drops.next ▸ goesOn.next
  constants id frame payload found constant := by
    exact goesOn.constants id frame payload (drops.frame?_eq_some_iff.mp found).2 constant

/-- Adding a node that passes its check keeps it, where a constant is created so. -/
theorem keeps_addNode {operation : Operation} {outputs : List TensorInfo}
    (created : ∀ payload info, operation = .constant payload → outputs = [info] →
      creates payload info) (inputs : List Port) (name : String) :
    Edit.Keeps (fun graph => graph.Mirrored ∧ start.GoesOn creates graph)
      (addNode operation inputs outputs name) := by
  rintro graph ⟨mirrored, goesOn⟩
  rcases mirrored.adds_or_stays operation inputs outputs name with same | ⟨adds, fits, kept⟩
  · rw [same]
    exact ⟨mirrored, goesOn⟩
  · refine ⟨kept, goesOn.adds adds fun payload constant => ?_⟩
    obtain ⟨element, extents, single, -⟩ := checkConstant_eq_ok_iff.mp (fits payload constant)
    exact ⟨_, single, created payload _ constant single⟩

/-- Moving the readers of a port keeps it. -/
theorem keeps_replaceAllUses (source target : Port) :
    Edit.Keeps (fun graph => graph.Mirrored ∧ start.GoesOn creates graph)
      (replaceAllUses source target) := by
  rintro graph ⟨mirrored, goesOn⟩
  rcases mirrored.redirects_or_stays source target with same | ⟨redirects, kept⟩
  · rw [same]
    exact ⟨mirrored, goesOn⟩
  · exact ⟨kept, goesOn.redirects redirects⟩

/-- Removing a node keeps it. -/
theorem keeps_removeNode (id : Nat) :
    Edit.Keeps (fun graph => graph.Mirrored ∧ start.GoesOn creates graph) (removeNode id) := by
  rintro graph ⟨mirrored, goesOn⟩
  rcases mirrored.drops_or_stays id with same | ⟨drops, kept⟩
  · rw [same]
    exact ⟨mirrored, goesOn⟩
  · exact ⟨kept, goesOn.drops drops⟩

/-- Replacements and passes go on with fresh constants. -/
theorem lasting (start : Graph) :
    Lasting fun graph => graph.Mirrored ∧ start.GoesOn Candidate.FreshConstant graph where
  addFresh name info payload fresh := by
    refine keeps_addNode (fun own declared same single => ?_) [] name
    obtain rfl := Operation.constant.inj same
    obtain rfl := List.singleton_inj.mp single
    exact fresh
  addFused granularity inputs info name := keeps_addNode (by simp) inputs name
  replaceAllUses := keeps_replaceAllUses
  removeNode := keeps_removeNode

/-- Every action goes on with the constants it creates. -/
theorem leave (mirrored : graph.Mirrored) (action : Action) :
    graph.GoesOn action.Creates (action.leave graph) := by
  have itself (creates) : graph.Mirrored ∧ graph.GoesOn creates graph :=
    ⟨mirrored, graph.goesOn_self creates⟩
  have lasting := lasting graph
  cases action with
  | addNode operation inputs outputs name =>
    exact (keeps_addNode (fun _ _ same single => ⟨same, single⟩) inputs name graph (itself _)).2
  | addParameter name info =>
    obtain ⟨changed, run, adds, -⟩ := @runOn_addParameter name info graph mirrored
    rw [Action.leave, run]
    exact (itself _).2.adds adds (by simp)
  | addConstant name info payload =>
    refine (keeps_addNode (fun _ _ same single => ?_) [] name graph (itself _)).2
    exact ⟨Operation.constant.inj same, List.singleton_inj.mp single⟩
  | addResult name source => exact (keeps_addNode (by simp) [source] name graph (itself _)).2
  | replaceAllUses source target =>
    exact (keeps_replaceAllUses source target graph (itself _)).2
  | removeNode id => exact (keeps_removeNode id graph (itself _)).2
  | replace candidate layout => exact (lasting.replace candidate layout graph (itself _)).2
  | runPass pass => exact (lasting.pass pass (itself _)).2
  | runPipeline pipeline =>
    exact (Pipeline.holds_rounds lasting.pass pipeline.passes _ (itself _)).2

end GoesOn

/-! ## Constants over a history -/

/-- A handle that one action of a history gave out to a constant, created with a payload and a
tensor, has named that constant ever since. -/
def ConstantSince (history : List Action) (id : Nat) (payload : Payload) (info : TensorInfo) :
    Prop :=
  ∃ before action later, history = before ++ action :: later ∧ (after before).next ≤ id ∧
    action.Creates payload info ∧ ∀ between rest, later = between ++ rest →
      (after (before ++ action :: between)).constant? (.first id) = some (payload, info)

/-- The constant at a port, told by a frame that is known to be one. -/
theorem constant?_of_frame? (found : graph.frame? id = some frame)
    (constant : frame.operation = .constant payload) (index : Nat) :
    graph.constant? ⟨id, index⟩ = frame.infos[index]?.map fun info => (payload, info) := by
  simp [constant?_eq, found, constant]

/-- A constant of known extents is read as integers field by field. -/
theorem integers?_of_constant? {port : Port} {element : ElementType} {extents : List Nat}
    (held : graph.constant? port = some (payload, .fixed element extents)) :
    graph.integers? port =
      payload.elements? ElementType.integer? element (Shape.product extents) := by
  simp [integers?, held, TensorInfo.fixed, Shape.count?_fixed, Payload.integers?_eq_elements?]

/-- A constant of known extents is read in single precision field by field. -/
theorem singles?_of_constant? {port : Port} {element : ElementType} {extents : List Nat}
    (held : graph.constant? port = some (payload, .fixed element extents)) :
    graph.singles? port =
      payload.elements? ElementType.single? element (Shape.product extents) := by
  simp [singles?, held, TensorInfo.fixed, Shape.count?_fixed, Payload.singles?_eq_elements?]

/-- A constant that is left by one more action is what it was created as still. -/
theorem ConstantSince.snoc (since : ConstantSince history id payload info) {action : Action}
    (now : (after (history ++ [action])).constant? (.first id) = some (payload, info)) :
    ConstantSince (history ++ [action]) id payload info := by
  obtain ⟨before, creating, later, rfl, new, creates, held⟩ := since
  refine ⟨before, creating, later ++ [action], by simp, new, creates, fun between rest split => ?_⟩
  rcases List.eq_nil_or_concat rest with rfl | ⟨others, last, rfl⟩
  · obtain rfl : later ++ [action] = between := by simpa using split
    simpa using now
  · rw [List.concat_eq_append, ← List.append_assoc] at split
    exact held between others (List.append_inj_left' split rfl)

/-- A live constant is what it was created as. -/
theorem exists_constantSince (found : (after history).frame? id = some frame)
    (constant : frame.operation = .constant payload) :
    ∃ info, frame.infos = [info] ∧ ConstantSince history id payload info := by
  -- A constant of the last graph was there before the last action, or came with it.
  induction history using List.reverseRecOn generalizing frame with
  | nil => simp [after, frame?, node?, empty] at found
  | append_singleton history action ih =>
    have step : after (history ++ [action]) = action.leave (after history) := by
      rw [after_append]
      rfl
    have now {info : TensorInfo} (single : frame.infos = [info]) :
        (after (history ++ [action])).constant? (.first id) = some (payload, info) := by
      simp [Port.first, constant?_of_frame? found constant, single]
    rcases (GoesOn.leave (mirrored_after history) action).constants id frame payload
      (step ▸ found) constant with ⟨before, there, same, infos⟩ | ⟨new, info, single, creates⟩
    · obtain ⟨info, single, since⟩ := ih there (same.trans constant)
      have single : frame.infos = [info] := infos ▸ single
      exact ⟨info, single, since.snoc (now single)⟩
    · refine ⟨info, single, history, action, [], rfl, new, creates, fun between rest split => ?_⟩
      obtain ⟨rfl, rfl⟩ := List.nil_eq_append_iff.mp split
      exact now single

/-- The payload of every live constant is filled by the one output it offers. -/
theorem fills_after (found : (after history).frame? id = some frame)
    (constant : frame.operation = .constant payload) : payload.Fills frame.infos := by
  have stable : Stable fun graph => graph.Mirrored ∧ ∀ id frame, graph.frame? id = some frame →
      ∀ payload, frame.operation = .constant payload → payload.Fills frame.infos :=
    stable_of_checked
      (fun _ fits payload constant => checkConstant_eq_ok_iff.mp (fits payload constant))
      fun _ _ _ fills => fills
  exact (stable.after ⟨mirrored_empty, by simp [frame?, node?, empty]⟩ history).2 id frame found
    payload constant

/-- A lookup in a table of bytes that are only converted, along an axis counted from the end, is
fused behind a fresh axis and a fresh scale, and the old axis is removed. -/
def fusedBehindFreshScale : List Action := [
  .addConstant "weight" (.fixed .u8 [2, 1]) ⟨[5, 6]⟩,
  .addConstant "axis" (.fixed .i64 []) (.ofInt64s [-2]),
  .addParameter "indices" (.fixed .i64 [3]),
  .addNode .convert [.first 0] [.fixed .f16 [2, 1]] "table",
  .addNode (.gather 0) [.first 3, .first 2, .first 1] [.fixed .f16 [3, 1]] "lookup",
  .addResult "rows" (.first 4),
  .runPass (.fusion {}),
  .removeNode 1]

end Graph

end GatherFusion

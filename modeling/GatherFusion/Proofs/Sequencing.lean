import GatherFusion.Graph.Edit
import GatherFusion.Pass.Run
import Mathlib.Data.List.Forall2

/-!
# Sequences of checks and edits

A sequence of checks succeeds when each check does, and a property that every part of an edit keeps
is kept by the whole edit. The lemmas here open such sequences one step at a time.
-/
namespace GatherFusion

variable {ε ε' α β : Type}

/-! ## Checks -/

/-- A sequence succeeds when its first part does and the rest succeeds on that value. -/
theorem bind_eq_ok_iff {first : Except ε α} {next : α → Except ε β} {result : β} :
    (first >>= next) = .ok result ↔ ∃ value, first = .ok value ∧ next value = .ok result := by
  cases first with
  | error cause => simp [bind, Except.bind]
  | ok value => simp [bind, Except.bind]

/-- A step that succeeds with one value under a condition, followed by a use of that value. -/
theorem bind_pure_eq_ok_iff {first : Except ε α} {use : α → β} {condition : Prop} {value : α}
    (opens : ∀ found, first = .ok found ↔ condition ∧ found = value) {result : β} :
    (do return use (← first)) = Except.ok result ↔ condition ∧ result = use value := by
  rw [bind_eq_ok_iff]
  simp only [opens, and_assoc, exists_and_left, exists_eq_left, pure, Except.pure,
    Except.ok.injEq, @eq_comm _ result]

/-- A sequence fails when its first part does, or the rest on the value of the first part. -/
theorem bind_eq_error_iff {first : Except ε α} {next : α → Except ε β} {cause : ε} :
    (first >>= next) = .error cause ↔
      first = .error cause ∨ ∃ value, first = .ok value ∧ next value = .error cause := by
  cases first with
  | error other => simp [bind, Except.bind]
  | ok value => simp [bind, Except.bind]

/-- There is one value of the unit type. -/
theorem exists_unit_iff {property : Unit → Prop} : (∃ value, property value) ↔ property () :=
  ⟨fun ⟨_, holds⟩ => holds, fun holds => ⟨(), holds⟩⟩

/-- Restating a cause does not touch a success. -/
@[simp] theorem mapError_ok (wrap : ε → ε') (value : α) :
    (Except.ok value : Except ε α).mapError wrap = .ok value := rfl

/-- Restating a cause restates the cause of an error. -/
@[simp] theorem mapError_error (wrap : ε → ε') (cause : ε) :
    (Except.error cause : Except ε α).mapError wrap = .error (wrap cause) := rfl

/-- A step that can only break a promise succeeds as a step of a check when it succeeds itself. -/
@[simp] theorem monadLift_eq_ok_iff {step : Except Fault α} {value : α} :
    (liftM step : Except (Failure ε) α) = .ok value ↔ step = .ok value := by
  cases step <;> simp [liftM, monadLift, MonadLift.monadLift]

/-- A step that can only break a promise fails as a step of a check when it breaks one. -/
theorem monadLift_eq_error_iff {step : Except Fault α} {failure : Failure ε} :
    (liftM step : Except (Failure ε) α) = .error failure ↔
      ∃ fault, step = .error fault ∧ failure = .fault fault := by
  cases step <;> simp [liftM, monadLift, MonadLift.monadLift, eq_comm]

/-- A demand fails with its cause when its condition does not hold. -/
theorem demand_eq_error_iff {condition : Prop} [Decidable condition] {cause : ε}
    {failure : Failure ε} :
    demand condition cause = .error failure ↔ ¬condition ∧ failure = .refusal cause := by
  unfold demand refuse
  split <;> simp_all [eq_comm]

/-- A check of every element of a list succeeds when it succeeds on each. -/
theorem forM_eq_ok_iff {list : List α} {check : α → Except ε Unit} :
    list.forM check = .ok () ↔ ∀ element ∈ list, check element = .ok () := by
  induction list with
  | nil => simp [pure, Except.pure]
  | cons first rest ih =>
    simp only [List.forM_eq_forM] at ih
    simp only [List.forM_eq_forM, List.forM_cons, bind_eq_ok_iff, ih, List.forall_mem_cons]
    exact ⟨fun ⟨_, head, tail⟩ => ⟨head, tail⟩, fun ⟨head, tail⟩ => ⟨(), head, tail⟩⟩

/-- A check of every element of a list that fails fails on one of them. -/
theorem exists_of_forM_eq_error {list : List α} {check : α → Except ε Unit} {cause : ε}
    (failed : list.forM check = .error cause) :
    ∃ element ∈ list, check element = .error cause := by
  induction list with
  | nil => simp [pure, Except.pure] at failed
  | cons first rest ih =>
    rcases bind_eq_error_iff.mp failed with head | ⟨_, -, tail⟩
    · exact ⟨first, List.mem_cons_self, head⟩
    · obtain ⟨element, inside, broken⟩ := ih tail
      exact ⟨element, List.mem_cons_of_mem first inside, broken⟩

/-- A check of a part that may be absent succeeds when it succeeds on the part, if there is one. -/
theorem option_forM_eq_ok_iff {part : Option α} {check : α → Except ε Unit} :
    part.forM check = .ok () ↔ ∀ value ∈ part, check value = .ok () := by
  cases part <;> simp [Option.forM, pure, Except.pure]

/-- Checks of a part that may be absent agree when they agree on the part. -/
theorem option_forM_congr {part : Option α} {left right : α → Except ε Unit}
    (same : ∀ value, part = some value → left value = right value) :
    part.forM left = part.forM right := by
  cases part with
  | none => rfl
  | some value => exact same value rfl

/-- A question asked of every element of a list is answered when it is answered of each. -/
theorem allM_eq_ok {list : List α} {ask : α → Except ε Bool} {answer : α → Bool}
    (answered : ∀ element ∈ list, ask element = .ok (answer element)) :
    list.allM ask = .ok (list.all answer) := by
  induction list with
  | nil => rfl
  | cons first rest ih =>
    have later := ih fun element inside => answered element (List.mem_cons_of_mem _ inside)
    rw [List.allM, answered first List.mem_cons_self, List.all_cons]
    cases answer first with
    | true => exact later
    | false => rfl

/-- Work that succeeds on every element of a list yields what it yields on each. -/
theorem exists_mapM_ok (list : List α) {work : α → Except ε β}
    (works : ∀ element ∈ list, ∃ value, work element = .ok value) :
    ∃ values, list.mapM work = .ok values ∧
      ∀ value, value ∈ values ↔ ∃ element ∈ list, work element = .ok value := by
  induction list with
  | nil => exact ⟨[], rfl, by simp⟩
  | cons first rest ih =>
    obtain ⟨head, done⟩ := works first List.mem_cons_self
    obtain ⟨tail, finished, members⟩ := ih fun element inside =>
      works element (List.mem_cons_of_mem _ inside)
    refine ⟨head :: tail, ?_, fun value => ?_⟩
    · rw [List.mapM_cons, done]
      exact bind_eq_ok_iff.mpr ⟨head, rfl, bind_eq_ok_iff.mpr ⟨tail, finished, rfl⟩⟩
    · rw [List.mem_cons, members]
      simp only [List.mem_cons, or_and_right, exists_or, exists_eq_left, done, Except.ok.injEq]
      rw [eq_comm]

/-- Work on every element of a list yields a list when it yields one value on each, in order. -/
theorem mapM_eq_ok_iff {list : List α} {work : α → Except ε β} {values : List β} :
    list.mapM work = .ok values ↔
      List.Forall₂ (fun element value => work element = .ok value) list values := by
  induction list generalizing values with
  | nil => simp [pure, Except.pure, eq_comm]
  | cons first rest ih =>
    simp only [List.mapM_cons, bind_eq_ok_iff, ih, pure, Except.pure, Except.ok.injEq,
      List.forall₂_cons_left_iff]
    constructor
    · rintro ⟨value, done, tail, finished, rfl⟩
      exact ⟨value, tail, done, finished, rfl⟩
    · rintro ⟨value, tail, done, finished, rfl⟩
      exact ⟨value, done, tail, finished, rfl⟩

/-! ## Checks that keep their promises -/

/-- A check comes to a verdict: it does not stop at a broken promise. -/
def Settles (check : Except (Failure ε) α) : Prop := ∀ fault, check ≠ .error (.fault fault)

theorem settles_ok (value : α) : Settles (.ok value : Except (Failure ε) α) := by
  intro fault
  simp

theorem settles_refuse (cause : ε) : Settles (refuse cause : Except (Failure ε) α) := by
  intro fault
  simp [refuse]

theorem settles_demand {condition : Prop} [Decidable condition] (cause : ε) :
    Settles (demand condition cause) := by
  unfold demand
  split
  · exact settles_ok ()
  · exact settles_refuse cause

/-- Reading what is there settles. -/
theorem settles_liftM {step : Except Fault α} {value : α} (read : step = .ok value) :
    Settles (liftM step : Except (Failure ε) α) := by
  rw [monadLift_eq_ok_iff.mpr read]
  exact settles_ok value

/-- A sequence settles when its parts do. -/
theorem settles_bind {first : Except (Failure ε) α} {next : α → Except (Failure ε) β}
    (start : Settles first) (later : ∀ value, first = .ok value → Settles (next value)) :
    Settles (first >>= next) := by
  cases done : first with
  | ok value => exact later value done
  | error failure =>
    intro fault broken
    exact start fault (done.trans (by simpa [bind, Except.bind] using broken))

/-- A check of a part that may be absent settles when it settles on the part. -/
theorem settles_option_forM {part : Option α} {check : α → Except (Failure ε) Unit}
    (settles : ∀ value ∈ part, Settles (check value)) : Settles (part.forM check) := by
  cases part with
  | none => exact settles_ok ()
  | some value => exact settles value rfl

namespace Edit

/-! ## Edits -/

/-- A property of graphs that an edit keeps, however it ends. -/
def Keeps (property : Graph → Prop) (edit : Edit ε α) : Prop :=
  ∀ graph, property graph → property (edit.runOn graph).2

variable {property : Graph → Prop}

/-- A finished edit keeps everything. -/
theorem keeps_pure (value : α) : Keeps property (pure value : Edit ε α) := fun _ holds => holds

/-- A sequence keeps what its parts keep. -/
theorem keeps_bind {edit : Edit ε α} {next : α → Edit ε β} (first : Keeps property edit)
    (later : ∀ value, Keeps property (next value)) : Keeps property (edit >>= next) := by
  intro graph holds
  have kept := first graph holds
  rw [runOn_bind]
  split
  · rename_i value changed done
    rw [done] at kept
    exact later value changed kept
  · rename_i failure changed done
    rwa [done] at kept

/-- What follows a reading has to keep only what it keeps after a reading that succeeded. -/
theorem keeps_attempt_bind {reading : Graph → Except (Failure ε) α} {next : α → Edit ε β}
    (later : ∀ graph value, reading graph = .ok value → Keeps property (next value)) :
    Keeps property (attempt reading >>= next) := by
  intro graph holds
  rw [runOn_bind]
  split
  · rename_i value changed done
    obtain ⟨read, rfl⟩ := Prod.mk.inj done
    exact later graph value read graph holds
  · rename_i failure changed done
    obtain ⟨-, rfl⟩ := Prod.mk.inj done
    exact holds

/-- Reading keeps everything. -/
theorem keeps_inspect (reading : Graph → Except Fault α) :
    Keeps property (inspect reading : Edit ε α) := by
  intro graph holds
  simp only [runOn, inspect]
  split <;> exact holds

/-- Restating a cause keeps what the edit keeps. -/
theorem keeps_mapCause (wrap : ε → ε') {edit : Edit ε α} (kept : Keeps property edit) :
    Keeps property (edit.mapCause wrap) := by
  intro graph holds
  have after := kept graph holds
  simp only [runOn, mapCause] at after ⊢
  split <;> (rename_i done; rwa [done] at after)

/-- Working through a list keeps what the work on each element keeps. -/
theorem keeps_forM {list : List β} {work : β → Edit ε PUnit}
    (kept : ∀ element, Keeps property (work element)) : Keeps property (list.forM work) := by
  induction list with
  | nil => exact keeps_pure ()
  | cons first rest ih => exact keeps_bind (kept first) fun _ => ih

/-- Forgetting the value of an edit keeps what the edit keeps. -/
theorem keeps_discard {edit : Edit ε α} (kept : Keeps property edit) :
    Keeps property (discard edit) :=
  keeps_bind kept fun _ => keeps_pure _

/-- An edit that ends on related graphs in the same way and leaves related graphs behind. -/
def Respects (related : Graph → Graph → Prop) (edit : Edit ε α) : Prop :=
  ∀ left right, related left right → (edit.runOn right).1 = (edit.runOn left).1 ∧
    related (edit.runOn left).2 (edit.runOn right).2

variable {related : Graph → Graph → Prop}

/-- Both runs of such an edit have one ending, and leave related graphs. -/
theorem Respects.exists_runs {edit : Edit ε α} (respects : Respects related edit)
    {left right : Graph} (alike : related left right) :
    ∃ outcome leftAfter rightAfter, edit.runOn left = (outcome, leftAfter) ∧
      edit.runOn right = (outcome, rightAfter) ∧ related leftAfter rightAfter := by
  obtain ⟨same, after⟩ := respects left right alike
  exact ⟨(edit.runOn left).1, (edit.runOn left).2, (edit.runOn right).2, rfl, Prod.ext same rfl,
    after⟩

/-- A finished edit respects every relation. -/
theorem respects_pure (value : α) : Respects related (pure value : Edit ε α) :=
  fun _ _ alike => ⟨rfl, alike⟩

/-- A sequence respects what its parts respect. -/
theorem respects_bind {edit : Edit ε α} {next : α → Edit ε β} (first : Respects related edit)
    (later : ∀ value, Respects related (next value)) : Respects related (edit >>= next) := by
  intro left right alike
  obtain ⟨outcome, leftAfter, rightAfter, leftRun, rightRun, after⟩ := first.exists_runs alike
  rw [runOn_bind, runOn_bind, leftRun, rightRun]
  cases outcome with
  | ok value => exact later value leftAfter rightAfter after
  | error failure => exact ⟨rfl, after⟩

/-- Reading what related graphs have in common respects the relation. -/
theorem respects_attempt {reading : Graph → Except (Failure ε) α}
    (same : ∀ left right, related left right → reading right = reading left) :
    Respects related (attempt reading) :=
  fun left right alike => ⟨same left right alike, alike⟩

/-- Restating a cause respects what the edit respects. -/
theorem respects_mapCause (wrap : ε → ε') {edit : Edit ε α} (respects : Respects related edit) :
    Respects related (edit.mapCause wrap) := by
  intro left right alike
  obtain ⟨outcome, leftAfter, rightAfter, leftRun, rightRun, after⟩ := respects.exists_runs alike
  simp only [runOn] at leftRun rightRun
  simp only [runOn, mapCause, leftRun, rightRun]
  cases outcome with
  | ok value => exact ⟨rfl, after⟩
  | error failure => exact ⟨rfl, after⟩

/-- Working through a list respects what the work on each element respects. -/
theorem respects_forM {list : List β} {work : β → Edit ε PUnit}
    (respects : ∀ element, Respects related (work element)) :
    Respects related (list.forM work) := by
  induction list with
  | nil => exact respects_pure ()
  | cons first rest ih => exact respects_bind (respects first) fun _ => ih

/-- Forgetting the value of an edit respects what the edit respects. -/
theorem respects_discard {edit : Edit ε α} (respects : Respects related edit) :
    Respects related (discard edit) :=
  respects_bind respects fun _ => respects_pure _

/-- A change that succeeds replaces the graph. -/
theorem runOn_change_ok {step : Graph → Except (Failure ε) Graph} {graph changed : Graph}
    (done : step graph = .ok changed) : (change step).runOn graph = (.ok (), changed) := by
  simp [runOn, change, done]

/-- A reading that succeeds yields its value. -/
theorem runOn_require_ok {reading : Graph → Except ε α} {graph : Graph} {value : α}
    (read : reading graph = .ok value) : (require reading).runOn graph = (.ok value, graph) := by
  simp [runOn, require, read]

/-- A reading that is refused ends the edit. -/
theorem runOn_require_error {reading : Graph → Except ε α} {graph : Graph} {cause : ε}
    (read : reading graph = .error cause) :
    (require reading).runOn graph = (.error (.refusal cause), graph) := by
  simp [runOn, require, read]

/-- A sequence after a successful part goes on from there. -/
theorem runOn_bind_ok {edit : Edit ε α} {next : α → Edit ε β} {graph changed : Graph} {value : α}
    (done : edit.runOn graph = (.ok value, changed)) :
    (edit >>= next).runOn graph = (next value).runOn changed := by
  rw [runOn_bind, done]

/-- A sequence after a failed part ends there. -/
theorem runOn_bind_error {edit : Edit ε α} {next : α → Edit ε β} {graph changed : Graph}
    {failure : Failure ε} (done : edit.runOn graph = (.error failure, changed)) :
    (edit >>= next).runOn graph = (.error failure, changed) := by
  rw [runOn_bind, done]

/-- A run is its outcome and the graph it leaves. -/
theorem runOn_eq_of_fst {edit : Edit ε α} {graph : Graph} {outcome : Except (Failure ε) α}
    (done : (edit.runOn graph).1 = outcome) :
    edit.runOn graph = (outcome, (edit.runOn graph).2) :=
  Prod.ext done rfl

/-- Restating a cause does not touch a success. -/
theorem runOn_mapCause_ok (wrap : ε → ε') {edit : Edit ε α} {graph changed : Graph} {value : α}
    (done : edit.runOn graph = (.ok value, changed)) :
    (edit.mapCause wrap).runOn graph = (.ok value, changed) := by
  simp only [runOn] at done
  simp only [runOn, mapCause, done]

/-- Restating a cause restates the cause of a failure. -/
theorem runOn_mapCause_error (wrap : ε → ε') {edit : Edit ε α} {graph changed : Graph}
    {failure : Failure ε} (done : edit.runOn graph = (.error failure, changed)) :
    (edit.mapCause wrap : Edit ε' α).runOn graph = (.error (failure.mapCause wrap), changed) := by
  simp only [runOn] at done
  simp only [runOn, mapCause, done]

end Edit

/-! ## Runs -/

/-- What holds after a run and after every continuation of it holds after the two together. -/
theorem Run.holds_andThen {property : Graph → Prop} {run : Run α} {next : Graph → α → Run β}
    (first : property run.graph) (later : ∀ value, property (next run.graph value).graph) :
    property (run.andThen next).graph := by
  cases ended : run.result with
  | error fault =>
    rw [andThen_error ended]
    exact first
  | ok value =>
    rw [andThen_ok ended]
    exact later value

end GatherFusion

import GatherFusion.Lookup.Recognition

/-!
# Searches

A search finds a value, finds nothing, or stops at a broken promise. What a search finds is told by
`Finds`; a search is safe when it does not stop. An alternative is tried only when the search before
it is safe and finds nothing.
-/
namespace GatherFusion.Search

variable {α β : Type}

/-- A search finds a value. -/
def Finds (search : Search α) (value : α) : Prop := search.run = .ok (some value)

/-- A search does not stop at a broken promise. -/
def Safe (search : Search α) : Prop := ∃ outcome, search.run = .ok outcome

/-! ## What a search finds -/

@[simp] theorem finds_pure_iff {found value : α} :
    Finds (pure found : Search α) value ↔ found = value := by
  change (Except.ok (some found) : Except Fault _) = .ok (some value) ↔ found = value
  simp

@[simp] theorem not_finds_failure {value : α} : ¬Finds (failure : Search α) value := by
  change ¬(Except.ok none : Except Fault (Option α)) = .ok (some value)
  simp

@[simp] theorem finds_ofOption_iff {content : Option α} {value : α} :
    Finds (ofOption content) value ↔ content = some value := by
  change (Except.ok content : Except Fault _) = .ok (some value) ↔ content = some value
  simp

@[simp] theorem finds_inspect_iff {reading : Except Fault α} {value : α} :
    Finds (inspect reading) value ↔ reading = .ok value := by
  cases reading with
  | error fault =>
    change (Except.error fault : Except Fault (Option α)) = .ok (some value) ↔ _
    simp
  | ok found =>
    change (Except.ok (some found) : Except Fault _) = .ok (some value) ↔ _
    simp

/-- A sequence goes on from what its first part finds. -/
theorem run_bind_of_finds {search : Search α} {value : α} (found : search.Finds value)
    (next : α → Search β) : (search >>= next).run = (next value).run := by
  rw [OptionT.run_bind, show search.run = _ from found]
  rfl

/-- A sequence starts from what its first part finds. -/
@[simp] theorem finds_bind_iff {search : Search α} {next : α → Search β} {value : β} :
    Finds (search >>= next) value ↔ ∃ first, search.Finds first ∧ (next first).Finds value := by
  constructor
  · intro found
    unfold Finds at found
    rw [OptionT.run_bind] at found
    cases outcome : search.run with
    | error fault =>
      rw [outcome] at found
      contradiction
    | ok content =>
      rw [outcome] at found
      cases content with
      | none =>
        change (Except.ok none : Except Fault (Option β)) = .ok (some value) at found
        simp at found
      | some first => exact ⟨first, outcome, found⟩
  · rintro ⟨first, start, finish⟩
    exact (run_bind_of_finds start next).trans finish

/-- An alternative counts where a safe search before it finds nothing. -/
theorem finds_orElse_iff {first second : Search α} (safe : first.Safe) {value : α} :
    Finds (first <|> second) value ↔
      first.Finds value ∨ (∀ other, ¬first.Finds other) ∧ second.Finds value := by
  obtain ⟨outcome, done⟩ := safe
  unfold Finds
  rw [OptionT.run_orElse, done]
  cases outcome with
  | none =>
    change second.run = _ ↔ _
    simp
  | some found =>
    change (Except.ok (some found) : Except Fault _) = _ ↔ _
    simp

/-! ## Safe searches -/

@[simp] theorem safe_pure (value : α) : Safe (pure value : Search α) := ⟨some value, rfl⟩

@[simp] theorem safe_failure : Safe (failure : Search α) := ⟨none, rfl⟩

@[simp] theorem safe_ofOption (content : Option α) : Safe (ofOption content) := ⟨content, rfl⟩

/-- A sequence is safe when its first part is and the rest is on whatever that finds. -/
theorem safe_bind {search : Search α} {next : α → Search β} (first : search.Safe)
    (later : ∀ value, search.Finds value → (next value).Safe) : Safe (search >>= next) := by
  obtain ⟨outcome, done⟩ := first
  cases outcome with
  | none =>
    refine ⟨none, ?_⟩
    rw [OptionT.run_bind, done]
    rfl
  | some value =>
    obtain ⟨result, finished⟩ := later value done
    exact ⟨result, (run_bind_of_finds done next).trans finished⟩

/-- Reading what is there is safe when the rest is on what is read. -/
theorem safe_inspect_bind {reading : Except Fault α} {value : α} (read : reading = .ok value)
    {next : α → Search β} (later : (next value).Safe) : Safe (inspect reading >>= next) := by
  refine safe_bind ⟨some value, finds_inspect_iff.mpr read⟩ fun found same => ?_
  rw [finds_inspect_iff, read, Except.ok.injEq] at same
  exact same ▸ later

/-- Two safe searches are a safe alternative. -/
theorem safe_orElse {first second : Search α} (safe : first.Safe) (spare : second.Safe) :
    Safe (first <|> second) := by
  obtain ⟨outcome, done⟩ := safe
  cases outcome with
  | none =>
    obtain ⟨result, finished⟩ := spare
    refine ⟨result, ?_⟩
    rw [OptionT.run_orElse, done]
    exact finished
  | some value =>
    refine ⟨some value, ?_⟩
    rw [OptionT.run_orElse, done]
    rfl

end GatherFusion.Search

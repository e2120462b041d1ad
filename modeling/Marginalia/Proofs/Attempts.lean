import Mathlib.Data.List.Basic

/-
  This file shows what comes of attempts that are made one
  after the other until the first of them fails.

  Main results:
    * `Attempts.ok_of_check`
    * `Attempts.bind_eq_ok_iff`
    * `Attempts.bind_eq_error_iff`
    * `Attempts.mapM_eq_ok_iff`
    * `Attempts.mapM_eq_error_iff`
-/

namespace Marginalia

namespace Attempts

variable {α β ε : Type}

/- What succeeds behind a check has passed it. -/
theorem ok_of_check
    {fails : Prop}
    [Decidable fails]
    {fault : ε}
    {rest : Except ε β}
    {result : β}
    (hOk : (if fails then .error fault else rest) = .ok result) :
    ¬fails ∧ rest = .ok result := by
  split at hOk
  · cases hOk
  · exact ⟨‹_›, hOk⟩

/- Two attempts succeed one after the other. -/
theorem bind_eq_ok_iff
    {first : Except ε α}
    {next : α → Except ε β}
    {result : β} :
    first >>= next = .ok result ↔
      ∃ value, first = .ok value ∧ next value = .ok result := by
  cases first with
  | error fault => simp [bind, Except.bind]
  | ok value => simp [bind, Except.bind]

/- Of two attempts the first fails, or the second after it. -/
theorem bind_eq_error_iff
    {first : Except ε α}
    {next : α → Except ε β}
    {fault : ε} :
    first >>= next = .error fault ↔
      first = .error fault ∨
        ∃ value, first = .ok value ∧ next value = .error fault := by
  cases first with
  | error other => simp [bind, Except.bind]
  | ok value => simp [bind, Except.bind]

/- An attempt whose fault is renamed succeeds as before. -/
theorem mapError_eq_ok_iff
    {fault : Type}
    {attempt : Except ε β}
    {rename : ε → fault}
    {result : β} :
    attempt.mapError rename = .ok result ↔ attempt = .ok result := by
  cases attempt with
  | error cause => simp [Except.mapError]
  | ok value => simp [Except.mapError]

/- A first attempt that fails ends all. -/
theorem mapM_cons_of_error
    {attempt : α → Except ε β}
    {value : α}
    {fault : ε}
    (hFirst : attempt value = .error fault)
    (rest : List α) :
    (value :: rest).mapM attempt = .error fault := by
  rw [List.mapM_cons, hFirst]
  rfl

/- After a first attempt that succeeds, the others are made. -/
theorem mapM_cons_of_ok
    {attempt : α → Except ε β}
    {value : α}
    {result : β}
    (hFirst : attempt value = .ok result)
    (rest : List α) :
    (value :: rest).mapM attempt =
      (rest.mapM attempt).map (result :: ·) := by
  rw [List.mapM_cons, hFirst]
  cases rest.mapM attempt <;> rfl

/- All attempts succeed when each of them does, in order. -/
theorem mapM_eq_ok_iff
    {attempt : α → Except ε β}
    {values : List α}
    {results : List β} :
    values.mapM attempt = .ok results ↔
      values.map attempt = results.map .ok := by
  induction values generalizing results with
  | nil =>
      cases results with
      | nil => exact ⟨fun _ => rfl, fun _ => rfl⟩
      | cons result more => simp [pure, Except.pure]
  | cons value rest ih =>
      cases hFirst : attempt value with
      | error fault =>
          rw [mapM_cons_of_error hFirst]
          cases results <;> simp [hFirst]
      | ok result =>
          rw [mapM_cons_of_ok hFirst]
          cases results with
          | nil => cases rest.mapM attempt <;> simp [Except.map]
          | cons other more =>
              rw [List.map_cons, List.map_cons, hFirst,
                List.cons.injEq, ← ih, Except.ok.injEq]
              cases rest.mapM attempt <;> simp [Except.map]

/- The attempts fail by the first of them that fails. -/
theorem mapM_eq_error_iff
    {attempt : α → Except ε β}
    {values : List α}
    {fault : ε} :
    values.mapM attempt = .error fault ↔
      ∃ before value after,
        values = before ++ value :: after ∧
          (∀ earlier ∈ before, ∃ result,
            attempt earlier = .ok result) ∧
          attempt value = .error fault := by
  induction values with
  | nil => simp [pure, Except.pure]
  | cons first rest ih =>
      cases hFirst : attempt first with
      | error other =>
          rw [mapM_cons_of_error hFirst]
          constructor
          · rintro ⟨⟩
            exact ⟨[], first, rest, rfl, List.forall_mem_nil _, hFirst⟩
          · rintro ⟨before, value, after, hSplit, hBefore, hValue⟩
            cases before with
            | nil =>
                obtain ⟨rfl, rfl⟩ := List.cons.inj hSplit
                rw [hFirst] at hValue
                cases hValue
                rfl
            | cons earlier more =>
                obtain ⟨rfl, _⟩ := List.cons.inj hSplit
                rcases hBefore first List.mem_cons_self with
                  ⟨result, hResult⟩
                rw [hFirst] at hResult
                cases hResult
      | ok result =>
          have hRest :
              (rest.mapM attempt).map (result :: ·) = .error fault ↔
                rest.mapM attempt = .error fault := by
            cases rest.mapM attempt <;> simp [Except.map]
          rw [mapM_cons_of_ok hFirst, hRest, ih]
          constructor
          · rintro ⟨before, value, after, rfl, hBefore, hValue⟩
            exact ⟨first :: before, value, after, rfl,
              List.forall_mem_cons.mpr ⟨⟨result, hFirst⟩, hBefore⟩,
              hValue⟩
          · rintro ⟨before, value, after, hSplit, hBefore, hValue⟩
            cases before with
            | nil =>
                obtain ⟨rfl, rfl⟩ := List.cons.inj hSplit
                rw [hFirst] at hValue
                cases hValue
            | cons earlier more =>
                obtain ⟨rfl, rfl⟩ := List.cons.inj hSplit
                exact ⟨more, value, after, rfl,
                  (List.forall_mem_cons.mp hBefore).2, hValue⟩

end Attempts

end Marginalia

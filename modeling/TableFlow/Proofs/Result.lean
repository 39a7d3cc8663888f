import TableFlow.Error

/-!
# Results that went through

A result that is computed from another one went through only if that one did, and two results
that are computed alike from related ones are related (`Result.Both`).
-/

namespace TableFlow.Result

variable {ε α β : Type}

theorem map_eq_ok_iff {f : α → β} {x : Except ε α} {y : β} :
    x.map f = .ok y ↔ ∃ a, x = .ok a ∧ f a = y := by
  cases x <;> simp [Except.map]

theorem map_eq_error_iff {f : α → β} {x : Except ε α} {e : ε} :
    x.map f = .error e ↔ x = .error e := by
  cases x <;> simp [Except.map]

@[simp]
theorem mapError_ok {δ : Type} (f : ε → δ) (a : α) :
    (Except.ok a : Except ε α).mapError f = .ok a := rfl

@[simp]
theorem mapError_error {δ : Type} (f : ε → δ) (e : ε) :
    (Except.error e : Except ε α).mapError f = .error (f e) := rfl

theorem mapError_eq_ok_iff {δ : Type} {f : ε → δ} {x : Except ε α} {a : α} :
    x.mapError f = .ok a ↔ x = .ok a := by
  cases x <;> simp

theorem mapError_eq_error_iff {δ : Type} {f : ε → δ} {x : Except ε α} {e : δ} :
    x.mapError f = .error e ↔ ∃ cause, x = .error cause ∧ f cause = e := by
  cases x <;> simp

/-- Results of a list that all went through. -/
theorem mapM_eq_ok {f : α → Except ε β} {g : α → β} {as : List α}
    (h : ∀ a ∈ as, f a = .ok (g a)) : as.mapM f = .ok (as.map g) := by
  induction as with
  | nil => rfl
  | cons a as ih =>
    obtain ⟨ha, has⟩ := List.forall_mem_cons.mp h
    rw [List.mapM_cons, ha, ih has]
    rfl

theorem bind_eq_ok_iff {x : Except ε α} {f : α → Except ε β} {b : β} :
    (x >>= f) = .ok b ↔ ∃ a, x = .ok a ∧ f a = .ok b := by
  cases x <;> simp [bind, Except.bind]

/-- What every step keeps is kept by a run in which all steps went through. -/
theorem foldlM_keeps {γ : Type} {f : α → β → Except ε α} {g : α → γ}
    (hstep : ∀ a b a', f a b = .ok a' → g a' = g a) {bs : List β} {a last : α}
    (h : bs.foldlM f a = .ok last) : g last = g a := by
  induction bs generalizing a with
  | nil =>
    cases h
    rfl
  | cons b bs ih =>
    rw [List.foldlM_cons] at h
    obtain ⟨next, hnext, hrest⟩ := bind_eq_ok_iff.mp h
    rw [ih hrest, hstep a b next hnext]

/-- Two results both went through, with values that are related. -/
def Both {γ : Type} (R : α → γ → Prop) (x : Except ε α) (y : Except ε γ) : Prop :=
  ∃ a c, x = .ok a ∧ y = .ok c ∧ R a c

theorem Both.map {γ δ : Type} {R : α → γ → Prop} {S : β → δ → Prop} {x : Except ε α}
    {y : Except ε γ} {f : α → β} {g : γ → δ} (h : Both R x y)
    (hrel : ∀ a c, R a c → S (f a) (g c)) : Both S (x.map f) (y.map g) := by
  obtain ⟨a, c, rfl, rfl, hac⟩ := h
  exact ⟨f a, g c, rfl, rfl, hrel a c hac⟩

/-- Two results failed with the same error, or both went through with values that are related. -/
def Alike {γ : Type} (R : α → γ → Prop) (x : Except ε α) (y : Except ε γ) : Prop :=
  (∃ e, x = .error e ∧ y = .error e) ∨ Both R x y

end TableFlow.Result

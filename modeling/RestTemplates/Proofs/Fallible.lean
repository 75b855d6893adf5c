import Mathlib.Data.List.Forall2

/-!
# Fallible — when a result that may be an error is none

The steps by which results are put together, each with the condition under which it succeeds, and
what two results have in common that are made in the same steps.
-/

namespace RestTemplates

namespace Fallible

variable {ε ε' α β γ : Type}

theorem bind_eq_ok_iff {x : Except ε α} {f : α → Except ε β} {b : β} :
    x.bind f = .ok b ↔ ∃ a, x = .ok a ∧ f a = .ok b := by
  cases x with
  | error e =>
      simp [Except.bind]
  | ok a =>
      simp [Except.bind]

theorem map_eq_ok_iff {x : Except ε α} {f : α → β} {b : β} :
    x.map f = .ok b ↔ ∃ a, x = .ok a ∧ f a = b := by
  cases x with
  | error e =>
      simp [Except.map]
  | ok a =>
      simp [Except.map]

theorem map_eq_error_iff {x : Except ε α} {f : α → β} {e : ε} :
    x.map f = .error e ↔ x = .error e := by
  cases x with
  | error failure =>
      simp [Except.map]
  | ok a =>
      simp [Except.map]

theorem bind_eq_error_iff {x : Except ε α} {f : α → Except ε β} {e : ε} :
    x.bind f = .error e ↔ x = .error e ∨ ∃ a, x = .ok a ∧ f a = .error e := by
  cases x with
  | error failure =>
      simp [Except.bind]
  | ok a =>
      simp [Except.bind]

theorem mapError_error (e : ε) (f : ε → ε') :
    (Except.error e : Except ε α).mapError f = .error (f e) := rfl

/-- What becomes of errors does not matter to a success. -/
theorem mapError_eq_ok_iff {x : Except ε α} {f : ε → ε'} {a : α} :
    x.mapError f = .ok a ↔ x = .ok a := by
  cases x with
  | error e =>
      exact ⟨nofun, nofun⟩
  | ok b =>
      constructor
      · intro h
        cases h
        rfl
      · intro h
        cases h
        rfl

theorem mapError_eq_error_iff {x : Except ε α} {f : ε → ε'} {e' : ε'} :
    x.mapError f = .error e' ↔ ∃ e, x = .error e ∧ f e = e' := by
  cases x with
  | error e =>
      constructor
      · intro h
        cases h
        exact ⟨e, rfl, rfl⟩
      · rintro ⟨failure, hfailure, rfl⟩
        cases hfailure
        rfl
  | ok a =>
      constructor
      · intro h
        cases h
      · rintro ⟨failure, hfailure, -⟩
        cases hfailure

/-! ## Lists of results -/

/-- All steps of a list succeed, each with its own result. -/
theorem mapM_eq_ok_iff {f : α → Except ε β} {as : List α} {bs : List β} :
    as.mapM f = .ok bs ↔ List.Forall₂ (fun a b => f a = .ok b) as bs := by
  induction as generalizing bs with
  | nil =>
      rw [List.mapM_nil, List.forall₂_nil_left_iff]
      constructor
      · intro h
        exact (Except.ok.inj h).symm
      · rintro rfl
        rfl
  | cons a as ih =>
      rw [List.mapM_cons, List.forall₂_cons_left_iff]
      constructor
      · intro h
        obtain ⟨b, hb, hrest⟩ := bind_eq_ok_iff.1 h
        obtain ⟨others, hothers, hlist⟩ := bind_eq_ok_iff.1 hrest
        exact ⟨b, others, hb, ih.1 hothers, (Except.ok.inj hlist).symm⟩
      · rintro ⟨b, others, hb, hothers, rfl⟩
        rw [hb, ih.2 hothers]
        rfl

theorem exists_of_mapM_eq_ok {f : α → Except ε β} {as : List α} {bs : List β}
    (h : as.mapM f = .ok bs) : ∀ a ∈ as, ∃ b, f a = .ok b := by
  induction mapM_eq_ok_iff.1 h with
  | nil => nofun
  | @cons a b as bs hab hrest ih =>
      intro x hx
      rcases List.mem_cons.1 hx with rfl | hx
      · exact ⟨b, hab⟩
      · exact ih (mapM_eq_ok_iff.2 hrest) x hx

/-- The first step that fails decides; the steps behind it are not taken. -/
theorem mapM_eq_error_iff {f : α → Except ε β} {as : List α} {e : ε} :
    as.mapM f = .error e ↔
      ∃ before a after, as = before ++ a :: after ∧ (∀ x ∈ before, ∃ b, f x = .ok b) ∧
        f a = .error e := by
  induction as with
  | nil =>
      constructor
      · intro h
        cases h
      · rintro ⟨before, a, after, heq, -⟩
        simp at heq
  | cons first as ih =>
      rw [List.mapM_cons]
      constructor
      · intro h
        rcases bind_eq_error_iff.1 h with hfirst | ⟨b, hfirst, hrest⟩
        · exact ⟨[], first, as, rfl, nofun, hfirst⟩
        · rcases bind_eq_error_iff.1 hrest with hothers | ⟨others, -, hlist⟩
          · obtain ⟨before, a, after, rfl, hbefore, ha⟩ := ih.1 hothers
            refine ⟨first :: before, a, after, rfl, ?_, ha⟩
            intro x hx
            rcases List.mem_cons.1 hx with rfl | hx
            · exact ⟨b, hfirst⟩
            · exact hbefore x hx
          · cases hlist
      · rintro ⟨before, a, after, heq, hbefore, ha⟩
        cases before with
        | nil =>
            cases heq
            rw [ha]
            rfl
        | cons x before =>
            cases heq
            obtain ⟨b, hb⟩ := hbefore first List.mem_cons_self
            have hothers := ih.2 ⟨before, a, after, rfl,
              fun x hx => hbefore x (List.mem_cons_of_mem _ hx), ha⟩
            rw [hb, hothers]
            rfl

/-- All steps of a list succeed together if each of them does. -/
theorem exists_mapM_eq_ok_iff {f : α → Except ε β} {as : List α} :
    (∃ bs, as.mapM f = .ok bs) ↔ ∀ a ∈ as, ∃ b, f a = .ok b := by
  constructor
  · rintro ⟨bs, h⟩
    exact exists_of_mapM_eq_ok h
  · intro hall
    cases h : as.mapM f with
    | ok bs => exact ⟨bs, rfl⟩
    | error e =>
        obtain ⟨before, a, after, rfl, -, ha⟩ := mapM_eq_error_iff.1 h
        obtain ⟨b, hb⟩ := hall a (by simp)
        cases ha.symm.trans hb

theorem mapM_congr {f g : α → Except ε β} {as : List α} (h : ∀ a ∈ as, f a = g a) :
    as.mapM f = as.mapM g := by
  induction as with
  | nil => rfl
  | cons a as ih =>
      rw [List.mapM_cons, List.mapM_cons, h a List.mem_cons_self,
        ih fun x hx => h x (List.mem_cons_of_mem _ hx)]

/-! ## Two results -/

/-- Two results are the same error, or else what they hold is related. -/
inductive Both (R : α → β → Prop) : Except ε α → Except ε β → Prop
  | error (e : ε) : Both R (.error e) (.error e)
  | ok {a : α} {b : β} : R a b → Both R (.ok a) (.ok b)

theorem Both.map {R : α → β → Prop} {f : γ → α} {g : γ → β} (h : ∀ c, R (f c) (g c))
    (x : Except ε γ) : Both R (x.map f) (x.map g) := by
  cases x with
  | error e => exact .error e
  | ok c => exact .ok (h c)

theorem Both.mapError {R : α → β → Prop} {x : Except ε α} {y : Except ε β} (h : Both R x y)
    (f : ε → ε') : Both R (x.mapError f) (y.mapError f) := by
  cases h with
  | error e => exact .error (f e)
  | ok hab => exact .ok hab

end Fallible

end RestTemplates

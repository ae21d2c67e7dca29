import Mathlib.Logic.Relation
import Mathlib.Data.List.Basic

namespace TrustTunnel.Lib.Transition

variable {σ ℓ : Type*} {ls : List ℓ} {s t : σ} {P : σ → Prop}

/-- Executes the labels in order, as long as each of them is enabled and satisfies `ok`. -/
def execWhile (step : σ → ℓ → Option σ) (ok : σ → ℓ → Prop) [∀ s l, Decidable (ok s l)] :
    σ → List ℓ → Option σ
  | s, [] => some s
  | s, l :: ls => if ok s l then (step s l).bind fun t ↦ execWhile step ok t ls else none

/-- A run whose steps were all taken in a state and under a label that satisfy `ok`. -/
inductive Run (step : σ → ℓ → Option σ) (ok : σ → ℓ → Prop) : σ → List ℓ → σ → Prop
  | nil (s : σ) : Run step ok s [] s
  | cons {s t u : σ} {l : ℓ} {ls : List ℓ} :
      ok s l → step s l = some t → Run step ok t ls u → Run step ok s (l :: ls) u

abbrev anyStep : σ → ℓ → Prop := fun _ _ ↦ True

variable {sp : σ → ℓ → Option σ} {ok : σ → ℓ → Prop}

theorem Run.trans {u : σ} {ls' : List ℓ} (h : Run sp ok s ls t) (h' : Run sp ok t ls' u) :
    Run sp ok s (ls ++ ls') u := by
  induction h with
  | nil => exact h'
  | cons ho hs _ ih => exact .cons ho hs (ih h')

theorem Run.invariant (h : Run sp ok s ls t) (hs : P s)
    (hp : ∀ s l t, P s → ok s l → sp s l = some t → P t) : P t := by
  induction h with
  | nil => exact hs
  | cons ho he _ ih => exact ih (hp _ _ _ hs ho he)

/-- If each step acts on a view of the state by `f`, the run acts by the fold of `f`. -/
theorem Run.foldl_eq {τ : Type*} {v : σ → τ} {f : τ → ℓ → τ} (h : Run sp ok s ls t) (hs : P s)
    (hp : ∀ s l t, P s → ok s l → sp s l = some t → P t ∧ v t = f (v s) l) :
    v t = ls.foldl f (v s) := by
  induction h with
  | nil => rfl
  | cons ho he _ ih =>
    obtain ⟨ht, hv⟩ := hp _ _ _ hs ho he
    rw [ih ht, hv, List.foldl_cons]

/-- An invariant of the state and of the labels that led to it. -/
theorem Run.invariant_past {Q : List ℓ → σ → Prop} (h : Run sp ok s ls t) (hs : Q [] s)
    (hq : ∀ ls s l t, Q ls s → ok s l → sp s l = some t → Q (ls ++ [l]) t) : Q ls t := by
  suffices hp : ∀ ls₀, Q ls₀ s → Q (ls₀ ++ ls) t from hp [] hs
  clear hs
  induction h with
  | nil =>
    intro ls₀ hs
    rwa [List.append_nil]
  | cons ho he _ ih =>
    intro ls₀ hs
    have hn := ih _ (hq ls₀ _ _ _ hs ho he)
    rwa [List.append_assoc, List.singleton_append] at hn

theorem Run.concat {u : σ} {l : ℓ} (h : Run sp ok s ls t) (ho : ok t l) (hs : sp t l = some u) :
    Run sp ok s (ls ++ [l]) u :=
  h.trans (.cons ho hs (.nil u))

/-- If `g` grows only up to `f`, it is at most what `f` has been once. -/
theorem Run.exists_past_le {f g : σ → ℕ} (h : Run sp ok s ls t) (hs : P s) (hl : g s ≤ f s)
    (he : ∀ s l t, P s → ok s l → sp s l = some t → P t ∧ (g t ≤ g s ∨ g t ≤ f t)) :
    ∃ ls₁ ls₂ u, ls = ls₁ ++ ls₂ ∧ Run sp ok s ls₁ u ∧ Run sp ok u ls₂ t ∧ g t ≤ f u := by
  refine (h.invariant_past (Q := fun ls t ↦ (Run sp ok s ls t ∧ P t) ∧ ∃ ls₁ ls₂ u,
    ls = ls₁ ++ ls₂ ∧ Run sp ok s ls₁ u ∧ Run sp ok u ls₂ t ∧ g t ≤ f u)
    ⟨⟨.nil s, hs⟩, [], [], s, rfl, .nil s, .nil s, hl⟩ ?_).2
  rintro _ v l t ⟨⟨hv, hpv⟩, ls₁, ls₂, u, rfl, h₁, h₂, hu⟩ ho hst
  obtain ⟨ht, hg⟩ := he v l t hpv ho hst
  refine ⟨⟨hv.concat ho hst, ht⟩, ?_⟩
  rcases hg with hg | hg
  · exact ⟨ls₁, ls₂ ++ [l], u, List.append_assoc .., h₁, h₂.concat ho hst, Nat.le_trans hg hu⟩
  · exact ⟨_, [], t, (List.append_nil _).symm, hv.concat ho hst, .nil t, hg⟩

theorem Run.mono {ok' : σ → ℓ → Prop} (h : Run sp ok s ls t) (hk : ∀ s l, ok s l → ok' s l) :
    Run sp ok' s ls t := by
  induction h with
  | nil => exact .nil _
  | cons ho hs _ ih => exact .cons (hk _ _ ho) hs ih

theorem run_of_execWhile [∀ s l, Decidable (ok s l)] (h : execWhile sp ok s ls = some t) :
    Run sp ok s ls t := by
  induction ls generalizing s with
  | nil =>
    simp only [execWhile, Option.some.injEq] at h
    exact h ▸ .nil s
  | cons l ls ih =>
    simp only [execWhile] at h
    split at h
    · rename_i ho
      obtain ⟨u, hu, ht⟩ := Option.bind_eq_some_iff.1 h
      exact .cons ho hu (ih ht)
    · cases h

theorem exists_run_of_execWhile (sp : σ → ℓ → Option σ) (ok : σ → ℓ → Prop)
    [∀ s l, Decidable (ok s l)] (s : σ) (ls : List ℓ) (p : σ → Bool)
    (h : (execWhile sp ok s ls).any p = true) : ∃ t, Run sp ok s ls t ∧ p t = true := by
  cases he : execWhile sp ok s ls with
  | none => simp [he] at h
  | some t => exact ⟨t, run_of_execWhile he, by simpa [he] using h⟩

section Execution

variable [∀ s l, Decidable (ok s l)] {s : σ} {ls : List ℓ}

/-- A run that exists by evaluation, with a consequence of what it ends in. -/
theorem exists_run_imp {Q : σ → Prop} [DecidablePred P]
    (h : (execWhile sp ok s ls).any (fun t ↦ decide (P t)) = true)
    (hq : ∀ t, Run sp ok s ls t → P t → Q t) : ∃ t, Run sp ok s ls t ∧ Q t := by
  obtain ⟨t, ht, hp⟩ := exists_run_of_execWhile sp ok s ls _ h
  exact ⟨t, ht, hq t ht (of_decide_eq_true hp)⟩

theorem exists_run [DecidablePred P]
    (h : (execWhile sp ok s ls).any (fun t ↦ decide (P t)) = true) :
    ∃ t, Run sp ok s ls t ∧ P t :=
  exists_run_imp h fun _ _ hp ↦ hp

theorem exists_run_some_imp {β : Type*} {f : σ → Option β} {P Q : σ → β → Prop}
    [∀ t b, Decidable (P t b)]
    (h : (execWhile sp ok s ls).any (fun t ↦ (f t).any fun b ↦ decide (P t b)) = true)
    (hq : ∀ t b, Run sp ok s ls t → f t = some b → P t b → Q t b) :
    ∃ t b, Run sp ok s ls t ∧ f t = some b ∧ Q t b := by
  obtain ⟨t, ht, hp⟩ := exists_run_of_execWhile sp ok s ls _ h
  obtain ⟨b, hb, hp⟩ := (Option.any_eq_true _ _).1 hp
  exact ⟨t, b, ht, hb, hq t b ht hb (of_decide_eq_true hp)⟩

theorem exists_run_some {β : Type*} {f : σ → Option β} {P : σ → β → Prop}
    [∀ t b, Decidable (P t b)]
    (h : (execWhile sp ok s ls).any (fun t ↦ (f t).any fun b ↦ decide (P t b)) = true) :
    ∃ t b, Run sp ok s ls t ∧ f t = some b ∧ P t b :=
  exists_run_some_imp h fun _ _ _ _ hp ↦ hp

end Execution

end TrustTunnel.Lib.Transition

import Mathlib.Data.List.Basic

namespace TrustTunnel.Lib.Trace

open List

variable {α : Type*} {R : List α → α → Prop} {l l' : List α} {a : α}

/-- Whenever something happened in a trace, `R` held between what had happened before and it. -/
def Guarded (R : List α → α → Prop) (l : List α) : Prop :=
  ∀ before a after, l = before ++ a :: after → R before a

theorem guarded_nil : Guarded R [] := by
  intro b a ar h
  simp at h

theorem Guarded.append (h : Guarded R l) (h' : Guarded (fun be a ↦ R (l ++ be) a) l') :
    Guarded R (l ++ l') := by
  intro be a ar he
  rcases append_eq_append_iff.1 he with ⟨m, rfl, hl'⟩ | ⟨m, rfl, hl'⟩
  · exact h' m a ar hl'
  · cases m with
    | nil => simpa using h' [] a ar hl'.symm
    | cons b m =>
      rw [cons_append, cons.injEq] at hl'
      exact hl'.1 ▸ h be b m rfl

theorem Guarded.concat (h : Guarded R l) (ha : R l a) : Guarded R (l ++ [a]) := by
  refine h.append fun be b ar he ↦ ?_
  obtain ⟨rfl, hb⟩ | ⟨c, _, hc⟩ := cons_eq_append_iff.1 he
  · rw [cons.injEq] at hb
    rw [append_nil, hb.1]
    exact ha
  · simp at hc

theorem Guarded.append_of_forall (h : Guarded R l) (h' : ∀ a ∈ l', ∀ b, R b a) :
    Guarded R (l ++ l') := by
  refine h.append fun b a ar he ↦ h' a ?_ _
  rw [he]
  exact mem_append_right _ mem_cons_self

/-- What stands in a guarded trace was allowed by what stands before it. -/
theorem Guarded.exists_before (h : Guarded R l) (ha : a ∈ l) :
    ∃ b ar, l = b ++ a :: ar ∧ R b a := by
  obtain ⟨b, ar, he⟩ := append_of_mem ha
  exact ⟨b, ar, he, h b a ar he⟩

section Ended

variable {κ : Type*} {subject final : α → Option κ} {k : κ}

def Ended (final : α → Option κ) (k : κ) (l : List α) : Prop := ∃ a ∈ l, final a = some k

/-- Nothing about `k` happens after something that ends it. -/
def Orderly (subject final : α → Option κ) (l : List α) : Prop :=
  Guarded (fun before a ↦ ∀ k, subject a = some k → ¬ Ended final k before) l

theorem ended_append : Ended final k (l ++ l') ↔ Ended final k l ∨ Ended final k l' := by
  simp only [Ended, mem_append, or_and_right, exists_or]

theorem ended_singleton : Ended final k [a] ↔ final a = some k := by simp [Ended]

theorem ended_append_of_forall (h : ∀ b ∈ l', final b = none) :
    Ended final k (l ++ l') ↔ Ended final k l := by
  rw [ended_append, or_iff_left]
  rintro ⟨b, hb, hk⟩
  rw [h b hb] at hk
  cases hk

theorem Orderly.append_of_forall (h : Orderly subject final l)
    (h' : ∀ b ∈ l', subject b = none) : Orderly subject final (l ++ l') := by
  refine Guarded.append_of_forall h fun b hb be k hk ↦ ?_
  rw [h' b hb] at hk
  cases hk

/-- Nothing about `k` comes after its final event. -/
theorem Orderly.not_after (h : Orderly subject final l) {be ar : List α}
    (hl : l = be ++ a :: ar) (ha : final a = some k) : ∀ b ∈ ar, subject b ≠ some k := by
  intro b hb hk
  obtain ⟨m, r, rfl⟩ := append_of_mem hb
  refine h (be ++ a :: m) b r (by rw [hl, append_assoc, cons_append]) k hk ?_
  exact ⟨a, mem_append_right _ mem_cons_self, ha⟩

/-- What has ended did so once. -/
theorem Orderly.countP_eq_one [DecidableEq κ] (h : Orderly subject final l)
    (hn : ∀ a k, final a = some k → subject a = some k) (hk : Ended final k l) :
    l.countP (fun a ↦ final a = some k) = 1 := by
  obtain ⟨a, ha, hak⟩ := hk
  obtain ⟨be, ar, hl⟩ := append_of_mem ha
  have hf : be.countP (fun a ↦ final a = some k) = 0 := by
    rw [countP_eq_zero]
    intro b hb hbk
    exact h be a ar hl k (hn a k hak) ⟨b, hb, by simpa using hbk⟩
  have ht : ar.countP (fun a ↦ final a = some k) = 0 := by
    rw [countP_eq_zero]
    intro b hb hbk
    exact h.not_after hl hak b hb (hn b k (by simpa using hbk))
  rw [hl, countP_append, countP_cons, hf, ht, hak]
  simp

theorem Orderly.countP_le_one [DecidableEq κ] (h : Orderly subject final l)
    (hn : ∀ a k, final a = some k → subject a = some k) (k : κ) :
    l.countP (fun a ↦ final a = some k) ≤ 1 := by
  by_cases hk : Ended final k l
  · exact Nat.le_of_eq (h.countP_eq_one hn hk)
  · rw [countP_eq_zero.2]
    · exact Nat.zero_le 1
    · intro a ha hak
      exact hk ⟨a, ha, by simpa using hak⟩

end Ended

end TrustTunnel.Lib.Trace

import Mathlib.Algebra.GroupWithZero.Nat
import Mathlib.Data.List.AList

namespace TrustTunnel.Lib.Assoc

open List AList

variable {α β : Type*} [DecidableEq α] {map : AList (fun _ : α ↦ β)}

/-- Changes the value of `a`, if there is one. -/
def modify (map : AList (fun _ : α ↦ β)) (a : α) (f : β → β) : AList (fun _ : α ↦ β) :=
  match map.lookup a with
  | none => map
  | some x => map.replace a (f x)

theorem dlookup_kreplace (l : List ((_ : α) × β)) (a b : α) (x : β) :
    (l.kreplace a x).dlookup b = if b = a then (l.dlookup a).map fun _ ↦ x else l.dlookup b := by
  induction l with
  | nil => simp [kreplace]
  | cons e rest ih =>
    obtain ⟨k, y⟩ := e
    have hn : ∀ c, c ≠ k → ∀ l : List ((_ : α) × β), dlookup c (⟨k, y⟩ :: l) = l.dlookup c :=
      fun c hc l ↦ dlookup_cons_ne l ⟨k, y⟩ hc
    by_cases hk : a = k
    · subst hk
      rw [kreplace, lookmap_cons_some _ _ (by simp; rfl)]
      by_cases hb : b = a
      · subst hb
        simp
      · rw [if_neg hb, dlookup_cons_ne _ _ hb, hn b hb]
    · rw [kreplace, lookmap_cons_none _ _ (by simp [hk])]
      by_cases hb : b = k
      · subst hb
        rw [if_neg (Ne.symm hk), dlookup_cons_eq, dlookup_cons_eq]
      · rw [hn b hb, hn b hb, hn a hk]
        exact ih

theorem lookup_replace (map : AList (fun _ : α ↦ β)) (a b : α) (x : β) :
    (map.replace a x).lookup b = if b = a then (map.lookup a).map fun _ ↦ x else map.lookup b :=
  dlookup_kreplace map.entries a b x

theorem lookup_modify (map : AList (fun _ : α ↦ β)) (a b : α) (f : β → β) :
    (modify map a f).lookup b = if b = a then (map.lookup a).map f else map.lookup b := by
  unfold modify
  cases h : map.lookup a with
  | none =>
    by_cases hb : b = a
    · rw [if_pos hb, hb]
      exact h
    · rw [if_neg hb]
  | some x => rw [lookup_replace, h, Option.map_some, Option.map_some]

theorem lookup_insert (map : AList (fun _ : α ↦ β)) (a b : α) (x : β) :
    (map.insert a x).lookup b = if b = a then some x else map.lookup b := by
  by_cases hb : b = a
  · subst hb
    rw [if_pos (Eq.refl b), AList.lookup_insert]
  · rw [if_neg hb, lookup_insert_ne hb]

theorem lookup_erase (map : AList (fun _ : α ↦ β)) (a b : α) :
    (map.erase a).lookup b = if b = a then none else map.lookup b := by
  by_cases hb : b = a
  · subst hb
    rw [if_pos (Eq.refl b), AList.lookup_erase]
  · rw [if_neg hb, lookup_erase_ne hb]

theorem lookup_erase_eq_some {a b : α} {x : β} :
    (map.erase a).lookup b = some x ↔ b ≠ a ∧ map.lookup b = some x := by
  rw [lookup_erase, Option.ite_none_left_eq_some]

section Sum

variable (f : β → ℕ) {a : α} {x : β}

def sumOf (map : AList (fun _ : α ↦ β)) : ℕ := (map.entries.map fun e ↦ f e.2).sum

theorem sum_kerase {l : List ((_ : α) × β)} (h : l.dlookup a = some x) :
    ((l.kerase a).map fun e ↦ f e.2).sum + f x = (l.map fun e ↦ f e.2).sum := by
  induction l with
  | nil => cases h
  | cons e rest ih =>
    obtain ⟨k, y⟩ := e
    by_cases hk : a = k
    · subst hk
      rw [dlookup_cons_eq, Option.some.injEq] at h
      have he : kerase a (⟨a, y⟩ :: rest) = rest := kerase_cons_eq rfl
      rw [he, map_cons, sum_cons, h, Nat.add_comm]
    · rw [dlookup_cons_ne _ _ hk] at h
      rw [kerase_cons_ne hk, map_cons, sum_cons, map_cons, sum_cons, Nat.add_assoc, ih h]

theorem sum_kreplace {l : List ((_ : α) × β)} (h : l.dlookup a = some x) (z : β) :
    ((l.kreplace a z).map fun e ↦ f e.2).sum + f x = (l.map fun e ↦ f e.2).sum + f z := by
  induction l with
  | nil => cases h
  | cons e rest ih =>
    obtain ⟨k, y⟩ := e
    by_cases hk : a = k
    · subst hk
      rw [dlookup_cons_eq, Option.some.injEq] at h
      have hr : kreplace a z (⟨a, y⟩ :: rest) = ⟨a, z⟩ :: rest := lookmap_cons_some _ _ (by simp)
      rw [hr, map_cons, sum_cons, map_cons, sum_cons, h]
      change f z + _ + f x = f x + _ + f z
      omega
    · rw [dlookup_cons_ne _ _ hk] at h
      rw [kreplace, lookmap_cons_none _ _ (by simp [hk]), map_cons, sum_cons, map_cons, sum_cons]
      have ht := ih h
      rw [kreplace] at ht
      omega

theorem sumOf_erase (h : map.lookup a = some x) : sumOf f (map.erase a) + f x = sumOf f map :=
  sum_kerase f h

theorem sumOf_modify (h : map.lookup a = some x) (g : β → β) :
    sumOf f (modify map a g) + f x = sumOf f map + f (g x) := by
  simp only [modify, h]
  exact sum_kreplace f h (g x)

theorem sumOf_modify_same {g : β → β} (hg : ∀ x, map.lookup a = some x → f (g x) = f x) :
    sumOf f (modify map a g) = sumOf f map := by
  cases h : map.lookup a with
  | none => rw [modify, h]
  | some x =>
    have hs := sumOf_modify f h g
    rw [hg x h] at hs
    exact Nat.add_right_cancel hs

theorem sumOf_insert_new (h : map.lookup a = none) (x : β) :
    sumOf f (map.insert a x) = f x + sumOf f map := by
  rw [sumOf, entries_insert_of_notMem (lookup_eq_none.1 h), map_cons, sum_cons]
  rfl

end Sum

end TrustTunnel.Lib.Assoc

import Mathlib.Data.List.Induction
import TrustTunnel.Lib.Trace

namespace TrustTunnel.Lib.Pending

open Trace List

variable {α κ : Type*} [DecidableEq κ] {opens closes : α → Option κ} {l l' : List α} {a : α} {k : κ}

/-- `k` was opened in a trace and not closed since. -/
def pending (opens closes : α → Option κ) (k : κ) (l : List α) : Bool :=
  l.foldl (fun p a ↦ if opens a = some k then true else if closes a = some k then false
      else p) false

/-- Only what is not pending is opened, and only what is pending is closed. -/
def Matched (opens closes : α → Option κ) (l : List α) : Prop :=
  Guarded (fun before a ↦
    (∀ k, opens a = some k → pending opens closes k before = false) ∧
    ∀ k, closes a = some k → pending opens closes k before = true) l

theorem pending_concat : pending opens closes k (l ++ [a]) =
    if opens a = some k then true else if closes a = some k then false
    else pending opens closes k l := by
  simp [pending]

theorem pending_concat_of_opens (ha : opens a = some k) (i : κ) (hi : closes a = some i → i = k) :
    pending opens closes i (l ++ [a]) = true ↔ i = k ∨ pending opens closes i l = true := by
  rw [pending_concat, ha]
  by_cases hk : k = i
  · simp [hk]
  · have hc : closes a ≠ some i := fun hc ↦ hk (hi hc).symm
    simp [hk, Ne.symm hk, hc]

theorem pending_concat_of_closes (ha : closes a = some k) (ho : opens a = none) (i : κ) :
    pending opens closes i (l ++ [a]) = true ↔ i ≠ k ∧ pending opens closes i l = true := by
  rw [pending_concat, ha, ho]
  by_cases hk : k = i
  · simp [hk]
  · simp [hk, Ne.symm hk]

theorem pending_append_of_forall (h : ∀ b ∈ l', opens b = none ∧ closes b = none) :
    pending opens closes k (l ++ l') = pending opens closes k l := by
  induction l' using reverseRecOn with
  | nil => rw [append_nil]
  | append_singleton l' b ih =>
    obtain ⟨ho, hc⟩ := h b (mem_append_right _ (mem_singleton_self b))
    rw [← append_assoc, pending_concat, ho, hc]
    simp only [reduceCtorEq, if_false]
    exact ih fun c hb ↦ h c (mem_append_left _ hb)

theorem matched_nil : Matched opens closes ([] : List α) := guarded_nil

theorem Matched.append_of_forall (h : Matched opens closes l)
    (h' : ∀ b ∈ l', opens b = none ∧ closes b = none) : Matched opens closes (l ++ l') := by
  refine Guarded.append_of_forall h fun b hb be ↦ ?_
  rw [(h' b hb).1, (h' b hb).2]
  exact ⟨fun k hk ↦ (by cases hk), fun k hk ↦ (by cases hk)⟩

theorem Matched.concat_of_opens (h : Matched opens closes l) (ha : opens a = some k)
    (hc : closes a = none) (hk : pending opens closes k l = false) :
    Matched opens closes (l ++ [a]) := by
  refine Guarded.concat h ⟨fun i hi ↦ ?_, fun i hi ↦ ?_⟩
  · rw [ha, Option.some.injEq] at hi
    exact hi ▸ hk
  · rw [hc] at hi
    cases hi

theorem Matched.concat_of_closes (h : Matched opens closes l) (ha : closes a = some k)
    (ho : opens a = none) (hk : pending opens closes k l = true) :
    Matched opens closes (l ++ [a]) := by
  refine Guarded.concat h ⟨fun i hi ↦ ?_, fun i hi ↦ ?_⟩
  · rw [ho] at hi
    cases hi
  · rw [ha, Option.some.injEq] at hi
    exact hi ▸ hk

theorem pending_append_of_closes (h : ∀ b ∈ l', opens b = none) :
    pending opens closes k (l ++ l') = true ↔
      pending opens closes k l = true ∧ ∀ b ∈ l', closes b ≠ some k := by
  induction l' using reverseRecOn with
  | nil => simp
  | append_singleton l' b ih =>
    have hb : opens b = none := h b (mem_append_right _ (mem_singleton_self b))
    have hr := ih fun c hc ↦ h c (mem_append_left _ hc)
    rw [← append_assoc, pending_concat, hb]
    simp only [reduceCtorEq, if_false, forall_mem_append, forall_mem_singleton]
    by_cases hk : closes b = some k
    · simp [hk]
    · rw [if_neg hk, hr]
      simp [hk]

theorem Matched.append_of_closes (h : Matched opens closes l)
    (hs : ∀ b ∈ l', opens b = none ∧ ∃ k, closes b = some k ∧ pending opens closes k l = true)
    (ht : (l'.map closes).Nodup) : Matched opens closes (l ++ l') := by
  induction l' using reverseRecOn with
  | nil => rwa [append_nil]
  | append_singleton l' b ih =>
    rw [map_append, map_singleton, nodup_append] at ht
    obtain ⟨hb, k, hk, hp⟩ := hs b (mem_append_right _ (mem_singleton_self b))
    have hf : ∀ c ∈ l', c ∈ l' ++ [b] := fun c hc ↦ mem_append_left _ hc
    rw [← append_assoc]
    refine (ih (fun c hc ↦ hs c (hf c hc)) ht.1).concat_of_closes hk hb ?_
    refine (pending_append_of_closes fun c hc ↦ (hs c (hf c hc)).1).2 ⟨hp, ?_⟩
    intro c hc hck
    refine ht.2.2 (closes c) (mem_map_of_mem hc) (closes b) (mem_singleton_self _) ?_
    rw [hck, hk]

theorem Matched.of_concat (h : Matched opens closes (l ++ [a])) : Matched opens closes l := by
  intro be b ar hl
  refine h be b (ar ++ [a]) ?_
  rw [hl, append_assoc, cons_append]

/-- There are as many openings as closings, and one more while it is open. -/
theorem Matched.countP_eq (h : Matched opens closes l)
    (ht : ∀ a k, opens a = some k → closes a = none) (k : κ) :
    l.countP (fun a ↦ opens a = some k) =
      l.countP (fun a ↦ closes a = some k) + if pending opens closes k l then 1 else 0 := by
  induction l using reverseRecOn with
  | nil => rfl
  | append_singleton l a ih =>
    obtain ⟨hp, hs⟩ := h l a [] rfl
    rw [countP_append, countP_append, ih h.of_concat, pending_concat,
      countP_singleton, countP_singleton]
    by_cases ho : opens a = some k
    · simp [ho, ht a k ho, hp k ho]
    · by_cases hc : closes a = some k
      · simp [ho, hc, hs k hc]
      · simp [ho, hc]

end TrustTunnel.Lib.Pending

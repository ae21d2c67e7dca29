import Mathlib.Data.List.Sort
import Mathlib.Data.List.TakeWhile

namespace TrustTunnel.Lib.Multimap

open List

variable {κ β : Type*} [LinearOrder κ] {l : List (κ × β)} {k : κ} {v : β}

/-- Behind the entries with an equal key, like `std::multimap`. -/
def insert (k : κ) (v : β) (l : List (κ × β)) : List (κ × β) :=
  l.orderedInsert (fun d d' ↦ d.1 < d'.1) (k, v)

def upTo (k : κ) (l : List (κ × β)) : List (κ × β) := l.takeWhile fun d ↦ d.1 ≤ k

def after (k : κ) (l : List (κ × β)) : List (κ × β) := l.dropWhile fun d ↦ d.1 ≤ k

def Sorted (l : List (κ × β)) : Prop := l.Pairwise fun d d' ↦ d.1 ≤ d'.1

theorem insert_perm (k : κ) (v : β) (l : List (κ × β)) : (insert k v l).Perm ((k, v) :: l) :=
  perm_orderedInsert _ _ _

@[simp] theorem mem_insert {d : κ × β} : d ∈ insert k v l ↔ d = (k, v) ∨ d ∈ l := by
  rw [(insert_perm k v l).mem_iff, mem_cons]

theorem sorted_nil : Sorted ([] : List (κ × β)) := List.Pairwise.nil

theorem Sorted.insert (h : Sorted l) (k : κ) (v : β) : Sorted (insert k v l) := by
  induction l with
  | nil => exact pairwise_singleton _ _
  | cons d rest ih =>
    obtain ⟨hd, hr⟩ := pairwise_cons.1 h
    by_cases hk : k < d.1
    · have hi : Multimap.insert k v (d :: rest) = (k, v) :: d :: rest := if_pos hk
      rw [hi]
      refine pairwise_cons.2 ⟨fun d' hd' ↦ ?_, h⟩
      rcases mem_cons.1 hd' with rfl | hd'
      · exact hk.le
      · exact hk.le.trans (hd d' hd')
    · have hi : Multimap.insert k v (d :: rest) = d :: Multimap.insert k v rest := if_neg hk
      rw [hi]
      refine pairwise_cons.2 ⟨fun d' hd' ↦ ?_, ih hr⟩
      rcases mem_insert.1 hd' with rfl | hd'
      · exact not_lt.1 hk
      · exact hd d' hd'

theorem Sorted.after (h : Sorted l) (k : κ) : Sorted (after k l) := h.sublist (dropWhile_sublist _)

end TrustTunnel.Lib.Multimap

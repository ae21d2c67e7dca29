import Mathlib.Algebra.Group.Nat.Defs
import Mathlib.Data.List.Infix

namespace TrustTunnel.Lib.Memory

open List

structure View where
  start : ℕ
  size : ℕ
deriving DecidableEq

namespace View

def stop (v : View) : ℕ := v.start + v.size

/-- The size of a view that is shortened by too much wraps around. -/
def removePrefix (v : View) (n : ℕ) : View :=
  ⟨v.start + n, if n ≤ v.size then v.size - n else v.size + 2 ^ 64 - n⟩

theorem removePrefix_of_le {v : View} {n : ℕ} (h : n ≤ v.size) :
    v.removePrefix n = ⟨v.start + n, v.size - n⟩ := by
  rw [removePrefix, if_pos h]

end View

section Holds

variable {α : Type*} {mem : ℕ → α} {start : ℕ} {a b cells : List α}

def slice (mem : ℕ → α) (start : ℕ) : ℕ → List α
  | 0 => []
  | size + 1 => mem start :: slice mem (start + 1) size

def Holds (mem : ℕ → α) (start : ℕ) : List α → Prop
  | [] => True
  | x :: cells => mem start = x ∧ Holds mem (start + 1) cells

theorem holds_append :
    Holds mem start (a ++ b) ↔ Holds mem start a ∧ Holds mem (start + a.length) b := by
  induction a generalizing start with
  | nil => simp [Holds]
  | cons x a ih =>
    simp only [cons_append, Holds, ih, length_cons, and_assoc]
    rw [Nat.add_right_comm, Nat.add_assoc]

theorem Holds.left (h : Holds mem start (a ++ b)) : Holds mem start a := (holds_append.1 h).1

theorem Holds.right (h : Holds mem start (a ++ b)) : Holds mem (start + a.length) b :=
  (holds_append.1 h).2

theorem Holds.at_eq {p q : ℕ} (h : Holds mem p cells) (hpq : p = q) : Holds mem q cells := hpq ▸ h

theorem Holds.slice (h : Holds mem start cells) : slice mem start cells.length = cells := by
  induction cells generalizing start with
  | nil => rfl
  | cons x cells ih =>
    rw [length_cons, Memory.slice, h.1, ih h.2]

theorem Holds.slice_of_length {s : ℕ} (h : Holds mem start cells) (he : cells.length = s) :
    Memory.slice mem start s = cells := he ▸ h.slice

def ofList (cells : List α) (fill : α) : ℕ → α := fun i ↦ cells.getD i fill

theorem holds_ofList (b cells a : List α) (f : α) :
    Holds (ofList (b ++ cells ++ a) f) b.length cells := by
  induction cells generalizing b with
  | nil => trivial
  | cons x cells ih =>
    refine ⟨by simp [ofList], ?_⟩
    have h := ih (b ++ [x])
    rwa [length_append, length_singleton, append_assoc b, singleton_append] at h

end Holds

end TrustTunnel.Lib.Memory

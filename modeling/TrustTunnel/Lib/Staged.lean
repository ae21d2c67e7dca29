import Mathlib.Data.List.Basic

namespace TrustTunnel.Lib.Staged

variable {α : Type*}

/-- How much the first `n` parts have together. -/
def size (l : List (List α)) (n : ℕ) : ℕ := (l.take n).flatten.length

@[simp] theorem size_zero (l : List (List α)) : size l 0 = 0 := rfl

@[simp] theorem size_cons (a : List α) (l : List (List α)) (n : ℕ) :
    size (a :: l) (n + 1) = a.length + size l n := by
  simp [size]

end TrustTunnel.Lib.Staged

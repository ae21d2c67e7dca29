import Mathlib.Data.List.Basic

namespace TrustTunnel.Lib.Words

open List

variable {α σ : Type*} {buffer l rest : List α}

section Words

variable (p : α → Bool)

/-- The non-empty stretches between the elements that satisfy `p`. -/
def words (l : List α) : List (List α) := (l.splitOnP p).filter (!·.isEmpty)

/-- Folds over the words in one pass; the word being read is in a buffer. -/
def foldWords (f : σ → List α → σ) : List α → List α → σ → σ
  | [], buffer, s => if !buffer.isEmpty then f s buffer else s
  | a :: l, buffer, s =>
    if !p a then foldWords f l (buffer ++ [a]) s
    else if !buffer.isEmpty then foldWords f l [] (f s buffer)
    else foldWords f l buffer s

variable {p}

theorem words_of_forall (h : ∀ b ∈ buffer, p b = false) :
    words p buffer = if !buffer.isEmpty then [buffer] else [] := by
  rw [words, splitOnP_eq_singleton h, filter_singleton]
  exact cond_eq_ite _ _ _

theorem words_append_cons (h : ∀ b ∈ buffer, p b = false) {a : α} (ha : p a = true) (l : List α) :
    words p (buffer ++ a :: l) = if !buffer.isEmpty then buffer :: words p l else words p l := by
  rw [words, splitOnP_append_cons_of_forall_mem h a ha, filter_cons]
  rfl

/-- The loop with its buffer is the fold over the words. -/
theorem foldWords_eq (f : σ → List α → σ) (l : List α) (h : ∀ b ∈ buffer, p b = false) (s : σ) :
    foldWords p f l buffer s = (words p (buffer ++ l)).foldl f s := by
  induction l generalizing buffer s with
  | nil =>
    rw [foldWords, append_nil, words_of_forall h]
    split <;> rfl
  | cons a l ih =>
    rw [foldWords]
    cases ha : p a with
    | false =>
      have hn : ∀ b ∈ buffer ++ [a], p b = false := by
        intro b hb
        rcases mem_append.1 hb with hb | hb
        · exact h b hb
        · exact mem_singleton.1 hb ▸ ha
      rw [append_cons buffer a l]
      exact ih hn s
    | true =>
      rw [words_append_cons h ha]
      cases buffer with
      | nil => exact ih h s
      | cons b r => exact ih (fun b hb ↦ absurd hb not_mem_nil) (f s (b :: r))

end Words

section Tails

variable [DecidableEq α] (sep : α)

def next : List α → Option (List α)
  | [] => none
  | a :: l => if a = sep then if l.isEmpty then none else some l else next l

/-- The list itself, or a non-empty part of it that follows a separator. -/
def IsTail (t l : List α) : Prop := t = l ∨ t ≠ [] ∧ sep :: t <:+ l

variable {sep}

theorem next_none {t : List α} (h : next sep l = none) (ht : t ≠ []) : ¬ sep :: t <:+ l := by
  induction l with
  | nil => exact fun hs ↦ cons_ne_nil _ _ (suffix_nil.1 hs)
  | cons a l ih =>
    rw [next] at h
    rw [suffix_cons_iff, not_or]
    by_cases ha : a = sep
    · cases l with
      | nil => simp [ht]
      | cons b l => simp [ha] at h
    · rw [if_neg ha] at h
      exact ⟨fun he ↦ ha (cons.inj he).1.symm, ih h⟩

theorem next_some (h : next sep l = some rest) :
    rest ≠ [] ∧ ∀ t, sep :: t <:+ l ↔ t = rest ∨ sep :: t <:+ rest := by
  induction l with
  | nil => cases h
  | cons a l ih =>
    rw [next] at h
    by_cases ha : a = sep
    · cases l with
      | nil => simp [ha] at h
      | cons b l =>
        simp only [ha, if_true, isEmpty_cons, Bool.false_eq_true, if_false, Option.some.injEq] at h
        subst h
        refine ⟨cons_ne_nil _ _, fun t ↦ ?_⟩
        rw [suffix_cons_iff, ha, cons.injEq, eq_self, true_and]
    · rw [if_neg ha] at h
      refine ⟨(ih h).1, fun t ↦ ?_⟩
      rw [suffix_cons_iff, ← (ih h).2 t, cons.injEq]
      exact or_iff_right fun he ↦ ha he.1.symm

theorem length_next (h : next sep l = some r) : r.length < l.length :=
  Nat.lt_of_succ_le (((next_some h).2 r).2 (.inl rfl)).length_le

theorem isTail_iff_of_next (h : next sep l = some rest) (t : List α) :
    IsTail sep t l ↔ t = l ∨ IsTail sep t rest := by
  obtain ⟨hn, ha⟩ := next_some h
  rw [IsTail, IsTail, ha]
  refine or_congr_right ⟨fun ⟨ht, ho⟩ ↦ ho.imp_right fun hs ↦ ⟨ht, hs⟩, ?_⟩
  rintro (rfl | ⟨ht, hs⟩)
  · exact ⟨hn, .inl rfl⟩
  · exact ⟨ht, .inr hs⟩

/-- Whether a tail of the list passes a test, from the longest to the shortest. -/
def anyTail (sep : α) (test : List α → Bool) (l : List α) : Bool :=
  test l || match _h : next sep l with
    | none => false
    | some rest => anyTail sep test rest
termination_by l.length
decreasing_by exact length_next _h

theorem anyTail_iff (tt : List α → Bool) (l : List α) :
    anyTail sep tt l = true ↔ ∃ t, IsTail sep t l ∧ tt t = true := by
  induction hn : l.length using Nat.strongRecOn generalizing l with
  | ind n ih =>
    rw [anyTail, Bool.or_eq_true]
    split
    next h =>
      have hl : ∀ t, IsTail sep t l ↔ t = l := fun t ↦ or_iff_left fun ht ↦ next_none h ht.1 ht.2
      simp [hl]
    next r h =>
      simp [ih r.length (hn ▸ length_next h) r rfl, isTail_iff_of_next h]

end Tails

end TrustTunnel.Lib.Words

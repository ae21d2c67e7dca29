import Mathlib.Data.List.Basic

namespace TrustTunnel.Lib.Deferral

/-- What a component was asked, what it still keeps of it, and the answers it gave. -/
structure Books (α β : Type*) where
  asked : List α
  kept : List α
  answered : List β

variable {α β : Type*} {ok : α → β → Prop} {b : Books α β}

/-- Every request that was put off got one answer, in order, or is still kept. -/
def Conserved (ok : α → β → Prop) (b : Books α β) : Prop :=
  ∃ done : List (α × β), b.asked = done.map Prod.fst ++ b.kept ∧ b.answered = done.map Prod.snd ∧
    ∀ p ∈ done, ok p.1 p.2

theorem conserved_empty : Conserved ok (⟨[], [], []⟩ : Books α β) := ⟨[], rfl, rfl, by simp⟩

def Books.putOff (b : Books α β) (a : α) : Books α β :=
  { b with asked := b.asked ++ [a], kept := b.kept ++ [a] }

def Books.answerAll (b : Books α β) (f : α → β) : Books α β :=
  { b with kept := [], answered := b.answered ++ b.kept.map f }

theorem Conserved.putOff (h : Conserved ok b) (a : α) : Conserved ok (b.putOff a) := by
  obtain ⟨d, hk, ha, ho⟩ := h
  exact ⟨d, by simp [Books.putOff, hk], ha, ho⟩

theorem Conserved.answerAll (h : Conserved ok b) {f : α → β} (hf : ∀ a, ok a (f a)) :
    Conserved ok (b.answerAll f) := by
  obtain ⟨d, hk, ha, ho⟩ := h
  refine ⟨d ++ b.kept.map fun a ↦ (a, f a), ?_, ?_, ?_⟩
  · simp [Books.answerAll, hk, Function.comp_def]
  · simp [Books.answerAll, ha, Function.comp_def]
  · intro p hp
    rcases List.mem_append.1 hp with hp | hp
    · exact ho p hp
    · obtain ⟨a, _, rfl⟩ := List.mem_map.1 hp
      exact hf a

end TrustTunnel.Lib.Deferral

import Mathlib.Data.List.GetD
import Mathlib.Data.List.Sort

namespace TrustTunnel.Core.Ports

open List

abbrev Range := UInt16 × UInt16

/-- The order of pairs, by which `std::ranges::sort` sorts. -/
def notAfter (a b : Range) : Bool := a.1 < b.1 || a.1 == b.1 && a.2 ≤ b.2

/-- One round of the loop of the constructor; the list has its back first. -/
def add (ranges : List Range) (r : Range) : List Range :=
  if r.1 > r.2 then ranges
  else
    match ranges with
    | [] => [r]
    | back :: ranges =>
      if r.1.toUInt32 > back.2.toUInt32 + 1 then r :: back :: ranges
      else (back.1, if back.2 < r.2 then r.2 else back.2) :: ranges

def portRangeSet (ranges : List Range) : List Range :=
  ((ranges.mergeSort notAfter).foldl add []).reverse

/-- `std::ranges::upper_bound` by the starts, in the `len` ranges from `first` on. -/
def upperBound (ranges : List Range) (port : UInt16) (first len : ℕ) : ℕ :=
  if h : len = 0 then first
  else
    let half := len / 2
    if (ranges.getD (first + half) (0, 0)).1 > port then upperBound ranges port first half
    else upperBound ranges port (first + half + 1) (len - half - 1)
termination_by len

def contains (ranges : List Range) (port : UInt16) : Bool :=
  match upperBound ranges port 0 ranges.length with
  | 0 => false
  | i + 1 => port ≤ (ranges.getD i (0, 0)).2

/-- `b` starts after the port that follows the end of `a`. -/
def Apart (a b : Range) : Prop := a.2.toNat + 1 < b.1.toNat

theorem notAfter_iff {a b : Range} : notAfter a b = true ↔
    a.1.toNat < b.1.toNat ∨ a.1.toNat = b.1.toNat ∧ a.2.toNat ≤ b.2.toNat := by
  simp [notAfter, UInt16.lt_iff_toNat_lt, UInt16.le_iff_toNat_le, UInt16.toNat_inj]

theorem start_le {a b : Range} (h : notAfter a b = true) : a.1 ≤ b.1 := by
  rw [notAfter_iff] at h
  rw [UInt16.le_iff_toNat_le]
  omega

def Good (rs : List Range) : Prop := rs.Pairwise (fun b a ↦ Apart a b) ∧ ∀ r ∈ rs, r.1 ≤ r.2

variable {rs l : List Range} {r : Range} {p : UInt16}

theorem gap_iff {b r : Range} :
    r.1.toUInt32 > b.2.toUInt32 + 1 ↔ b.2.toNat + 1 < r.1.toNat := by
  have hb := b.2.toNat_lt
  simp [UInt32.lt_iff_toNat_lt]
  omega

theorem add_spec (h : Good rs) (hr : ∀ b ∈ rs.head?, b.1 ≤ r.1) :
    Good (add rs r) ∧ (∀ b ∈ (add rs r).head?, b.1 ≤ r.1) ∧
      ∀ p, (∃ x ∈ add rs r, x.1 ≤ p ∧ p ≤ x.2) ↔
        (r.1 ≤ p ∧ p ≤ r.2) ∨ ∃ x ∈ rs, x.1 ≤ p ∧ p ≤ x.2 := by
  simp only [Good, UInt16.le_iff_toNat_le, Apart] at *
  fun_cases add rs r with
  | case1 rs hlt =>
    rw [gt_iff_lt, UInt16.lt_iff_toNat_lt] at hlt
    exact ⟨h, hr, fun p ↦ (or_iff_right fun hp ↦ by omega).symm⟩
  | case2 hle =>
    rw [gt_iff_lt, UInt16.lt_iff_toNat_lt] at hle
    simp
    omega
  | case3 hle b rs hgt =>
    rw [gap_iff] at hgt
    rw [gt_iff_lt, UInt16.lt_iff_toNat_lt] at hle
    obtain ⟨ha, hg⟩ := h
    have hb := hg b mem_cons_self
    refine ⟨⟨pairwise_cons.2 ⟨fun a hm ↦ ?_, ha⟩, ?_⟩, by simp, by simp⟩
    · rcases mem_cons.1 hm with rfl | hm
      · exact hgt
      · have := (pairwise_cons.1 ha).1 a hm
        omega
    · exact forall_mem_cons.2 ⟨by omega, hg⟩
  | case4 hle b rs hgt =>
    rw [gap_iff] at hgt
    rw [gt_iff_lt, UInt16.lt_iff_toNat_lt] at hle
    have hb := hr b rfl
    have hm : (if b.2 < r.2 then r.2 else b.2).toNat = max b.2.toNat r.2.toNat := by
      simp only [UInt16.lt_iff_toNat_lt]
      split <;> omega
    generalize (if b.2 < r.2 then r.2 else b.2) = m at hm
    obtain ⟨ha, hg⟩ := h
    rw [pairwise_cons] at ha
    rw [forall_mem_cons] at hg
    refine ⟨⟨pairwise_cons.2 ha, forall_mem_cons.2 ⟨?_, hg.2⟩⟩, by simpa using hb, fun p ↦ ?_⟩
    · change b.1.toNat ≤ m.toNat
      omega
    · simp only [exists_mem_cons_iff, ← or_assoc]
      refine or_congr_left ?_
      omega

/-- The loop over the sorted ranges builds disjoint ranges with the same ports. -/
theorem foldl_add (hl : l.Pairwise fun a b ↦ a.1 ≤ b.1) (h : Good rs)
    (hr : ∀ b ∈ rs.head?, ∀ r ∈ l, b.1 ≤ r.1) :
    Good (l.foldl add rs) ∧
      ∀ p, (∃ x ∈ l.foldl add rs, x.1 ≤ p ∧ p ≤ x.2) ↔
        (∃ x ∈ l, x.1 ≤ p ∧ p ≤ x.2) ∨ ∃ x ∈ rs, x.1 ≤ p ∧ p ≤ x.2 := by
  induction l generalizing rs with
  | nil => exact ⟨h, fun p ↦ by simp⟩
  | cons r l ih =>
    obtain ⟨hrl, hl⟩ := pairwise_cons.1 hl
    obtain ⟨ha, hb, hp⟩ := add_spec h fun b hb ↦ hr b hb r mem_cons_self
    obtain ⟨hg, hm⟩ := ih hl ha fun b hm x hx ↦ UInt16.le_trans (hb b hm) (hrl x hx)
    refine ⟨hg, fun p ↦ ?_⟩
    rw [foldl_cons, hm, hp, exists_mem_cons_iff, or_left_comm, or_assoc]

theorem upperBound_spec {f n : ℕ} (hn : f + n ≤ rs.length)
    (hs : ∀ i j (hj : j < rs.length) (hij : i ≤ j), rs[i].1 ≤ rs[j].1)
    (hlo : ∀ i (h : i < rs.length), i < f → rs[i].1 ≤ p)
    (hhi : ∀ i (h : i < rs.length), f + n ≤ i → p < rs[i].1) :
    upperBound rs p f n ≤ rs.length ∧
      ∀ i (h : i < rs.length), i < upperBound rs p f n ↔ rs[i].1 ≤ p := by
  fun_induction upperBound rs p f n with
  | case1 f =>
    refine ⟨hn, fun i h ↦ ⟨hlo i h, fun hi ↦ Nat.lt_of_not_le fun hf ↦ ?_⟩⟩
    exact UInt16.not_le.2 (hhi i h hf) hi
  | case2 f n hz half hp ih =>
    rw [getD_eq_getElem _ _ (by omega)] at hp
    exact ih (by omega) hs hlo fun i h hi ↦ UInt16.lt_of_lt_of_le hp (hs _ i h hi)
  | case3 f n hz half hp ih =>
    rw [getD_eq_getElem _ _ (by omega), UInt16.not_lt] at hp
    exact ih (by omega) hs (fun i h hi ↦ UInt16.le_trans (hs i _ (by omega) (by omega)) hp)
      fun i h hi ↦ hhi i h (by omega)

/-- The binary search finds a port exactly if one of the ranges has it. -/
theorem contains_iff (ha : rs.Pairwise Apart) (hr : ∀ r ∈ rs, r.1 ≤ r.2) :
    contains rs p = true ↔ ∃ r ∈ rs, r.1 ≤ p ∧ p ≤ r.2 := by
  simp only [pairwise_iff_getElem, Apart] at ha
  have hs : ∀ i j (hj : j < rs.length) (hij : i ≤ j), rs[i].1 ≤ rs[j].1 := by
    intro i j hj hij
    rcases Nat.lt_or_eq_of_le hij with hlt | rfl
    · have hi := hr rs[i] (getElem_mem _)
      have hlt := ha i j (by omega) hj hlt
      rw [UInt16.le_iff_toNat_le] at hi ⊢
      omega
    · exact UInt16.le_refl _
  obtain ⟨hle, hk⟩ := upperBound_spec (p := p) (f := 0) (Nat.le_of_eq (Nat.zero_add _)) hs
    (fun i _ h ↦ absurd h (Nat.not_lt_zero i)) fun i h hi ↦ absurd h (by omega)
  rw [contains]
  split
  · next hz =>
    rw [hz] at hk
    refine iff_of_false (by simp) ?_
    rintro ⟨r, hr, hp, -⟩
    obtain ⟨i, hi, rfl⟩ := getElem_of_mem hr
    exact absurd ((hk i hi).2 hp) (Nat.not_lt_zero i)
  · next i hi =>
    rw [hi] at hk hle
    rw [getD_eq_getElem _ _ hle, decide_eq_true_eq]
    refine ⟨fun hp ↦ ⟨_, getElem_mem hle, (hk i hle).1 i.lt_succ_self, hp⟩, ?_⟩
    rintro ⟨r, hr, hlo, hhi⟩
    obtain ⟨j, hj, rfl⟩ := getElem_of_mem hr
    rcases Nat.lt_or_eq_of_le (Nat.le_of_lt_succ ((hk j hj).2 hlo)) with hlt | rfl
    · have hi := (hk i hle).1 i.lt_succ_self
      have := ha j i hj hle hlt
      rw [UInt16.le_iff_toNat_le] at *
      omega
    · exact hhi

/-- The set is the union of the given ranges, kept as ranges that are in order and neither meet
nor touch. -/
theorem port_set_is_union (ranges : List Range) :
    (∀ p, contains (portRangeSet ranges) p = true ↔ ∃ r ∈ ranges, r.1 ≤ p ∧ p ≤ r.2) ∧
      (portRangeSet ranges).Pairwise Apart ∧ ∀ r ∈ portRangeSet ranges, r.1 ≤ r.2 := by
  have hs : (ranges.mergeSort notAfter).Pairwise (notAfter · ·) := by
    refine pairwise_mergeSort (fun a b c h h' ↦ ?_) (fun a b ↦ ?_) ranges
    · rw [notAfter_iff] at *
      omega
    · rw [Bool.or_eq_true, notAfter_iff, notAfter_iff]
      omega
  obtain ⟨hg, hm⟩ := foldl_add (hs.imp fun h ↦ start_le h) ⟨.nil, forall_mem_nil _⟩ (by simp)
  have ha : (portRangeSet ranges).Pairwise Apart := pairwise_reverse.2 hg.1
  have hr : ∀ r ∈ portRangeSet ranges, r.1 ≤ r.2 := fun r hr ↦ hg.2 r (mem_reverse.1 hr)
  refine ⟨fun p ↦ ?_, ha, hr⟩
  rw [contains_iff ha hr]
  simpa [portRangeSet] using hm p

end TrustTunnel.Core.Ports

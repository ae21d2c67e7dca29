import Mathlib.Data.List.AList
import Mathlib.Data.List.Count
import Mathlib.Logic.Function.Basic
import Mathlib.Tactic.Common

namespace TrustTunnel.Lib.TwoKeyStore

open Function

/-- Records that are found through two tables of keys. References are fresh, and dropped
explicitly. -/
structure Store (ρ : Type) where
  records : AList (fun _ : ℕ ↦ ρ) := ∅
  byLeft : AList (fun _ : ℕ ↦ ℕ) := ∅
  byRight : AList (fun _ : ℕ ↦ ℕ) := ∅
  next : ℕ := 0
  dropped : List ℕ := []

namespace Store

variable {ρ : Type} (s : Store ρ)

def get (r : ℕ) : Option ρ := s.records.lookup r

def leftRef (k : ℕ) : Option ℕ := s.byLeft.lookup k

def rightRef (k : ℕ) : Option ℕ := s.byRight.lookup k

def set (r : ℕ) (c : ρ) : Store ρ := { s with records := s.records.insert r c }

def alloc (c : ρ) : Store ρ := { s with records := s.records.insert s.next c, next := s.next + 1 }

def linkLeft (k r : ℕ) : Store ρ := { s with byLeft := s.byLeft.insert k r }

def linkRight (k r : ℕ) : Store ρ := { s with byRight := s.byRight.insert k r }

def unlinkLeft (k : ℕ) : Store ρ := { s with byLeft := s.byLeft.erase k }

def unlinkRight (k : ℕ) : Store ρ := { s with byRight := s.byRight.erase k }

def drop (r : ℕ) : Store ρ := { s with records := s.records.erase r, dropped := s.dropped ++ [r] }

section

variable {α : Type} (t : AList (fun _ : ℕ ↦ α)) (b : ℕ) (x : α)

theorem lookup_insert_update :
    (fun a ↦ (t.insert b x).lookup a) = update (fun a ↦ t.lookup a) b (some x) := by
  funext a
  by_cases h : a = b
  · rw [h, update_self, AList.lookup_insert]
  · rw [update_of_ne h, AList.lookup_insert_ne h]

theorem lookup_erase_update :
    (fun a ↦ (t.erase b).lookup a) = update (fun a ↦ t.lookup a) b none := by
  funext a
  by_cases h : a = b
  · rw [h, update_self, AList.lookup_erase]
  · rw [update_of_ne h, AList.lookup_erase_ne h]

end

@[simp] theorem get_set (r : ℕ) (c : ρ) : (s.set r c).get = update s.get r (some c) :=
  lookup_insert_update _ _ _

@[simp] theorem get_alloc (c : ρ) : (s.alloc c).get = update s.get s.next (some c) :=
  lookup_insert_update _ _ _

@[simp] theorem get_drop (r : ℕ) : (s.drop r).get = update s.get r none := lookup_erase_update _ _

@[simp] theorem leftRef_linkLeft (k r : ℕ) :
    (s.linkLeft k r).leftRef = update s.leftRef k (some r) := lookup_insert_update _ _ _

@[simp] theorem leftRef_unlinkLeft (k : ℕ) :
    (s.unlinkLeft k).leftRef = update s.leftRef k none := lookup_erase_update _ _

@[simp] theorem rightRef_linkRight (k r : ℕ) :
    (s.linkRight k r).rightRef = update s.rightRef k (some r) := lookup_insert_update _ _ _

@[simp] theorem rightRef_unlinkRight (k : ℕ) :
    (s.unlinkRight k).rightRef = update s.rightRef k none := lookup_erase_update _ _

@[simp] theorem set_frame (r : ℕ) (c : ρ) :
    (s.set r c).leftRef = s.leftRef ∧ (s.set r c).rightRef = s.rightRef ∧
      (s.set r c).next = s.next ∧ (s.set r c).dropped = s.dropped := ⟨rfl, rfl, rfl, rfl⟩

@[simp] theorem alloc_frame (c : ρ) :
    (s.alloc c).leftRef = s.leftRef ∧ (s.alloc c).rightRef = s.rightRef ∧
      (s.alloc c).next = s.next + 1 ∧ (s.alloc c).dropped = s.dropped := ⟨rfl, rfl, rfl, rfl⟩

@[simp] theorem drop_frame (r : ℕ) :
    (s.drop r).leftRef = s.leftRef ∧ (s.drop r).rightRef = s.rightRef ∧
      (s.drop r).next = s.next ∧ (s.drop r).dropped = s.dropped ++ [r] := ⟨rfl, rfl, rfl, rfl⟩

@[simp] theorem linkLeft_frame (k r : ℕ) :
    (s.linkLeft k r).get = s.get ∧ (s.linkLeft k r).rightRef = s.rightRef ∧
      (s.linkLeft k r).next = s.next ∧ (s.linkLeft k r).dropped = s.dropped := ⟨rfl, rfl, rfl, rfl⟩

@[simp] theorem linkRight_frame (k r : ℕ) :
    (s.linkRight k r).get = s.get ∧ (s.linkRight k r).leftRef = s.leftRef ∧
      (s.linkRight k r).next = s.next ∧ (s.linkRight k r).dropped = s.dropped :=
          ⟨rfl, rfl, rfl, rfl⟩

@[simp] theorem unlinkLeft_frame (k : ℕ) :
    (s.unlinkLeft k).get = s.get ∧ (s.unlinkLeft k).rightRef = s.rightRef ∧
      (s.unlinkLeft k).next = s.next ∧ (s.unlinkLeft k).dropped = s.dropped := ⟨rfl, rfl, rfl, rfl⟩

@[simp] theorem unlinkRight_frame (k : ℕ) :
    (s.unlinkRight k).get = s.get ∧ (s.unlinkRight k).leftRef = s.leftRef ∧
      (s.unlinkRight k).next = s.next ∧ (s.unlinkRight k).dropped = s.dropped :=
          ⟨rfl, rfl, rfl, rfl⟩

end Store

variable {ρ : Type} {ref : ℕ → Option ℕ} {get : ℕ → Option ρ} {key : ρ → Option ℕ} {r k : ℕ}
  {c c' : ρ}

theorem update_eq_some {a : ℕ} {x : ρ} :
    update get r (some c) a = some x ↔ a = r ∧ x = c ∨ a ≠ r ∧ get a = some x := by
  by_cases ha : a = r
  · simp [ha, eq_comm]
  · simp [ha]

theorem update_none_eq_some {a : ℕ} {x : ρ} :
    update get r none a = some x ↔ a ≠ r ∧ get a = some x := by
  by_cases ha : a = r <;> simp [ha]

theorem forall_update {P : ρ → Prop} (h : ∀ r c, get r = some c → P c) (hc : P c') :
    ∀ a x, update get r (some c') a = some x → P x := by
  intro a x hx
  by_cases ha : a = r
  · rw [ha, update_self] at hx
    exact Option.some.inj hx ▸ hc
  · rw [update_of_ne ha] at hx
    exact h a x hx

theorem forall_erase {P : ρ → Prop} (h : ∀ r c, get r = some c → P c) :
    ∀ a x, update get r none a = some x → P x := by
  intro a x hx
  by_cases ha : a = r
  · rw [ha, update_self] at hx
    cases hx
  · rw [update_of_ne ha] at hx
    exact h a x hx

/-- The table `ref` leads from a key only to the record with that key, and no two records share
one. -/
structure Keyed (ref : ℕ → Option ℕ) (get : ℕ → Option ρ) (key : ρ → Option ℕ) : Prop where
  sound : ∀ k r, ref k = some r → ∃ c, get r = some c ∧ key c = some k
  unique : ∀ r r' c c' k, get r = some c → get r' = some c' → key c = some k → key c' = some k →
    r = r'

namespace Keyed

theorem eq_of_ref (h : Keyed ref get key) (hk : ref k = some r) (hc : get r = some c) :
    key c = some k := by
  obtain ⟨x, hx, hy⟩ := h.sound k r hk
  rw [hc] at hx
  exact Option.some.inj hx ▸ hy

theorem edit (h : Keyed ref get key) (hc : get r = some c) (he : key c' = key c) :
    Keyed ref (update get r (some c')) key := by
  obtain ⟨hs, hu⟩ := h
  constructor <;> grind

theorem add (h : Keyed ref get key) (hr : get r = none) (hc : key c = some k)
    (hn : ∀ r x, get r = some x → key x ≠ some k) :
    Keyed (update ref k (some r)) (update get r (some c)) key := by
  obtain ⟨hs, hu⟩ := h
  constructor <;> grind

theorem addBare (h : Keyed ref get key) (hr : get r = none) (hc : key c = none) :
    Keyed ref (update get r (some c)) key := by
  obtain ⟨hs, hu⟩ := h
  constructor <;> grind

theorem assign (h : Keyed ref get key) (hc : get r = some c) (ho : key c = none)
    (hk : key c' = some k) (hn : ∀ r x, get r = some x → key x ≠ some k) :
    Keyed (update ref k (some r)) (update get r (some c')) key := by
  obtain ⟨hs, hu⟩ := h
  constructor <;> grind

theorem release (h : Keyed ref get key) (hc : get r = some c) (hk : key c = some k)
    (hn : key c' = none) : Keyed (update ref k none) (update get r (some c')) key := by
  obtain ⟨hs, hu⟩ := h
  constructor <;> grind

theorem move (h : Keyed ref get key) {r' : ℕ} {d d' : ρ} (hc : get r = some c)
    (hk : key c = some k) (hn : key c' = none) (hd : get r' = some d) (hd' : key d = none)
    (hdk : key d' = some k) :
    Keyed (update ref k (some r')) (update (update get r (some c')) r' (some d')) key := by
  have he : r' ≠ r := by
    rintro rfl
    rw [hc] at hd
    cases hd
    rw [hk] at hd'
    cases hd'
  have hr := h.release hc hk hn
  have hf : ∀ a x, update get r (some c') a = some x → key x ≠ some k := by
    intro a x hx hxk
    by_cases ha : a = r
    · subst ha
      rw [update_self] at hx
      cases hx
      rw [hn] at hxk
      cases hxk
    · rw [update_of_ne ha] at hx
      exact ha (h.unique a r x c k hx hc hxk hk)
  have := hr.assign (by rw [update_of_ne he]; exact hd) hd' hdk hf
  rwa [update_idem] at this

theorem unlink (h : Keyed ref get key) : Keyed (update ref k none) get key := by
  obtain ⟨hs, hu⟩ := h
  constructor <;> grind

theorem remove (h : Keyed ref get key) (hc : get r = some c) {r' : ℕ → Option ℕ}
    (hr : ∀ k r, r' k = some r ↔ ref k = some r ∧ key c ≠ some k) :
    Keyed r' (update get r none) key := by
  obtain ⟨hs, hu⟩ := h
  constructor <;> grind

end Keyed

/-- References are handed out in order, and each is dropped once, when its record goes. -/
structure Counted (get : ℕ → Option ρ) (next : ℕ) (dropped : List ℕ) : Prop where
  bounded : ∀ r c, get r = some c → r < next
  once : ∀ r, dropped.count r = if r < next ∧ get r = none then 1 else 0

namespace Counted

variable {n : ℕ} {dropped : List ℕ}

theorem get_next (h : Counted get n d) : get n = none := by
  cases hg : get n with
  | none => rfl
  | some c => exact absurd (h.bounded _ c hg) (by omega)

theorem edit (h : Counted get n dropped) (hc : get r = some c) :
    Counted (update get r (some c')) n dropped := by
  obtain ⟨hb, ho⟩ := h
  constructor <;> grind

theorem add (h : Counted get n dropped) : Counted (update get n (some c)) (n + 1) dropped := by
  obtain ⟨hb, ho⟩ := h
  constructor <;> grind

theorem remove (h : Counted get n d) (hc : get r = some c) :
    Counted (update get r none) n (d ++ [r]) := by
  obtain ⟨hb, ho⟩ := h
  constructor <;> grind

end Counted

def Complete (get : ℕ → Option ρ) (ref₁ : ℕ → Option ℕ) (key₁ : ρ → Option ℕ)
    (ref₂ : ℕ → Option ℕ) (key₂ : ρ → Option ℕ) : Prop :=
  ∀ r c, get r = some c → (∃ k, key₁ c = some k ∧ ref₁ k = some r) ∨
    ∃ k, key₂ c = some k ∧ ref₂ k = some r

namespace Complete

variable {ref₁ ref₂ ref₁' ref₂' : ℕ → Option ℕ} {key₁ key₂ : ρ → Option ℕ}

theorem edit (h : Complete get ref₁ key₁ ref₂ key₂) (hc : get r = some c) (h₁ : key₁ c' = key₁ c)
    (h₂ : key₂ c' = key₂ c) : Complete (update get r (some c')) ref₁ key₁ ref₂ key₂ := by
  intro a x hx
  by_cases ha : a = r
  · subst ha
    rw [update_self] at hx
    cases hx
    rw [h₁, h₂]
    exact h a c hc
  · rw [update_of_ne ha] at hx
    exact h a x hx

theorem store (h : Complete get ref₁ key₁ ref₂ key₂)
    (hc : (∃ k, key₁ c = some k ∧ ref₁' k = some r) ∨ ∃ k, key₂ c = some k ∧ ref₂' k = some r)
    (h₁ : ∀ a x k, a ≠ r → get a = some x → key₁ x = some k → ref₁ k = some a → ref₁' k = some a)
    (h₂ : ∀ a x k, a ≠ r → get a = some x → key₂ x = some k → ref₂ k = some a → ref₂' k = some a) :
    Complete (update get r (some c)) ref₁' key₁ ref₂' key₂ := by
  intro a x hx
  by_cases ha : a = r
  · subst ha
    rw [update_self] at hx
    cases hx
    exact hc
  · rw [update_of_ne ha] at hx
    rcases h a x hx with ⟨k, hk, hr⟩ | ⟨k, hk, hr⟩
    · exact .inl ⟨k, hk, h₁ a x k ha hx hk hr⟩
    · exact .inr ⟨k, hk, h₂ a x k ha hx hk hr⟩

end Complete

end TrustTunnel.Lib.TwoKeyStore

import Mathlib.Data.List.Basic

namespace TrustTunnel.Lib.Framing

open List

/-- Frames begin with a header of a fixed size, which announces how much follows it. -/
structure Format (α δ : Type*) where
  size : ℕ
  size_pos : 0 < size
  /-- What is to become of a frame with this header, and the length of its payload. -/
  announce : List α → δ × ℕ

inductive Position (α δ : Type*)
  | header (read : List α)
  | body (verdict : δ) (left : ℕ) (read : List α)

variable {α δ : Type*}

namespace Format

variable (F : Format α δ)

def pushHeader (read : List α) (b : α) : Position α δ :=
  if read.length + 1 < F.size then .header (read ++ [b])
  else .body (F.announce (read ++ [b])).1 (F.announce (read ++ [b])).2 []

/-- Receives one element. A frame without payload is only finished by the element after it. -/
def push : Position α δ → α → Position α δ × List (δ × List α)
  | .header read, b => (F.pushHeader read b, [])
  | .body verdict 0 read, b => (F.pushHeader [] b, [(verdict, read)])
  | .body verdict 1 read, b => (.header [], [(verdict, read ++ [b])])
  | .body verdict (left + 2) read, b => (.body verdict (left + 1) (read ++ [b]), [])

def feed : Position α δ → List α → Position α δ × List (δ × List α)
  | p, [] => (p, [])
  | p, b :: bs => ((feed (F.push p b).1 bs).1, (F.push p b).2 ++ (feed (F.push p b).1 bs).2)

@[simp] theorem feed_nil (p : Position α δ) : F.feed p [] = (p, []) := rfl

theorem feed_append (p : Position α δ) (a b : List α) :
    F.feed p (a ++ b) =
      ((F.feed (F.feed p a).1 b).1, (F.feed p a).2 ++ (F.feed (F.feed p a).1 b).2) := by
  induction a generalizing p with
  | nil => simp
  | cons x a ih => simp only [cons_append, feed, ih, append_assoc]

theorem feed_header {r bs : List α} (h : r.length + bs.length < F.size) :
    F.feed (.header r) bs = (.header (r ++ bs), []) := by
  induction bs generalizing r with
  | nil => simp
  | cons b bs ih =>
    simp only [length_cons] at h
    have hb : F.pushHeader r b = .header (r ++ [b]) := if_pos (by omega)
    have hl : (r ++ [b]).length + bs.length < F.size := by
      rw [length_append, length_singleton]
      omega
    simp [feed, push, hb, ih hl]

theorem feed_header_full {r bs : List α} (h : r.length + bs.length = F.size)
    (hr : r.length < F.size) :
    F.feed (.header r) bs = (.body (F.announce (r ++ bs)).1 (F.announce (r ++ bs)).2 [], []) := by
  induction bs generalizing r with
  | nil => simp only [length_nil] at h; omega
  | cons b bs ih =>
    simp only [length_cons] at h
    by_cases hb : r.length + 1 < F.size
    · have hl : (r ++ [b]).length = r.length + 1 := by simp
      have hf : (r ++ [b]).length + bs.length = F.size := by omega
      have hp : (r ++ [b]).length < F.size := by omega
      simp [feed, push, pushHeader, hb, ih hf hp]
    · have hs : bs = [] := length_eq_zero_iff.1 (by omega)
      subst hs
      simp [feed, push, pushHeader, hb]

theorem feed_body {v : δ} {l : ℕ} {r bs : List α} (h : bs.length < l) :
    F.feed (.body v l r) bs = (.body v (l - bs.length) (r ++ bs), []) := by
  induction bs generalizing l r with
  | nil => simp
  | cons b bs ih =>
    simp only [length_cons] at h
    obtain ⟨n, rfl⟩ : ∃ n, l = n + 2 := ⟨l - 2, by omega⟩
    have hb : bs.length < n + 1 := by omega
    have hn : n + 2 - (b :: bs).length = n + 1 - bs.length := by
      rw [length_cons]
      omega
    rw [feed, push, ih hb, hn, append_assoc]
    rfl

theorem feed_body_full {v : δ} {r bs : List α} (h : bs ≠ []) :
    F.feed (.body v bs.length r) bs = (.header [], [(v, r ++ bs)]) := by
  induction bs generalizing r with
  | nil => exact absurd rfl h
  | cons b bs ih =>
    cases bs with
    | nil => simp [feed, push]
    | cons c bs =>
      have hc : c :: bs ≠ [] := cons_ne_nil c bs
      simp only [length_cons] at ih ⊢
      rw [feed, push, ih hc, append_assoc]
      rfl

theorem feed_body_zero (v : δ) (r : List α) {bs : List α} (h : bs ≠ []) :
    F.feed (.body v 0 r) bs =
      ((F.feed (.header []) bs).1, (v, r) :: (F.feed (.header []) bs).2) := by
  cases bs with
  | nil => exact absurd rfl h
  | cons b bs => simp [feed, push]

structure Frame where
  header : List α
  payload : List α
  header_length : header.length = F.size
  payload_length : payload.length = (F.announce header).2

def Frame.bytes {F : Format α δ} (f : F.Frame) : List α := f.header ++ f.payload

def Frame.content {F : Format α δ} (f : F.Frame) : δ × List α :=
  ((F.announce f.header).1, f.payload)

theorem feed_frame_header (f : F.Frame) : F.feed (.header []) f.header =
    (.body (F.announce f.header).1 f.payload.length [], []) := by
  have h : ([] : List α).length + f.header.length = F.size := by simpa using f.header_length
  rw [F.feed_header_full h F.size_pos, nil_append, f.payload_length]

theorem feed_frame (f : F.Frame) (h : f.payload ≠ []) :
    F.feed (.header []) f.bytes = (.header [], [f.content]) := by
  rw [Frame.bytes, feed_append, feed_frame_header, F.feed_body_full h]
  rfl

/-- Frames one after the other come out one after the other. -/
theorem feed_flatMap {ι : Type*} {bs : ι → List α} {c : ι → δ × List α} {is : List ι}
    (h : ∀ i ∈ is, F.feed (.header []) (bs i) = (.header [], [c i])) :
    F.feed (.header []) (is.flatMap bs) = (.header [], is.map c) := by
  induction is with
  | nil => simp
  | cons i is ih =>
    have hi := ih fun j hj ↦ h j (mem_cons_of_mem i hj)
    rw [flatMap_cons, feed_append, h i mem_cons_self, hi]
    rfl

end Format

end TrustTunnel.Lib.Framing

import TrustTunnel.Lib.Staged
import TrustTunnel.Lib.Transition

namespace TrustTunnel.Net.TcpSocket

open Lib.Staged Lib.Transition List

/-- The part of a TCP socket that holds what was received. -/
structure TcpSocket where
  sslPending : List (List UInt8)
  input : List UInt8
  gotEof : Bool := false
  frozen : Bool := false
  pending_ne_nil : ∀ buf ∈ sslPending, buf ≠ [] := by decide

inductive PeekResult
  | chunk (data : List UInt8)
  | eof
  | noData
deriving DecidableEq, Repr

/-- The loop of `tcp_socket_drain`, with what is left of the number of bytes after it. -/
def drainPending : List (List UInt8) → ℕ → List (List UInt8) × ℕ
  | [], n => ([], n)
  | buf :: rest, n =>
    if n = 0 then (buf :: rest, 0)
    else if buf.length ≤ n then drainPending rest (n - buf.length)
    else (buf.drop n :: rest, n)

theorem drainPending_ne_nil {p : List (List UInt8)} (h : ∀ bf ∈ p, bf ≠ []) (n : ℕ) :
    ∀ bf ∈ (drainPending p n).1, bf ≠ [] := by
  fun_induction drainPending p n with
  | case1 n => exact h
  | case2 bf r => exact h
  | case3 bf r n _ _ ih => exact ih fun b hb ↦ h b (mem_cons_of_mem _ hb)
  | case4 bf r n _ hl =>
    intro b hb
    rcases mem_cons.1 hb with rfl | hb
    · simpa using hl
    · exact h b (mem_cons_of_mem _ hb)

namespace TcpSocket

variable (s : TcpSocket)

/-- `evbuffer_peek` shows the first `shown + 1` bytes of the input at most. -/
def peek (shown : ℕ) : PeekResult :=
  match s.sslPending with
  | buf :: _ => .chunk buf
  | [] =>
    if s.input ≠ [] then .chunk (s.input.take (shown + 1))
    else if s.gotEof then .eof
    else .noData

def drain (n : ℕ) : TcpSocket × Bool :=
  let r := drainPending s.sslPending n
  let s := { s with sslPending := r.1, pending_ne_nil := drainPending_ne_nil s.pending_ne_nil n }
  if r.2 = 0 then (s, true)
  else if s.frozen then (s, false)
  else ({ s with input := s.input.drop r.2 }, true)

def content : List UInt8 := s.sslPending.flatten ++ s.input

end TcpSocket

inductive Call
  | peek (shown : ℕ)
  | drain (n : ℕ)

def step (s : TcpSocket) : Call → Option TcpSocket
  | .peek _ => some s
  | .drain n => if (s.drain n).2 then some (s.drain n).1 else none

def EndsInside (pending : List (List UInt8)) (n : ℕ) : Prop :=
  ∃ i ∈ List.range pending.length, size pending i < n ∧ n < size pending (i + 1)

instance (pending : List (List UInt8)) (n : ℕ) : Decidable (EndsInside pending n) := by
  unfold EndsInside
  infer_instance

/-- A drain that ends inside a pending buffer finds the input of the bufferevent empty. -/
def aligned (s : TcpSocket) : Call → Prop
  | .peek _ => True
  | .drain n => EndsInside s.sslPending n → s.input = []

instance (s : TcpSocket) (c : Call) : Decidable (aligned s c) := by
  cases c <;> unfold aligned <;> infer_instance

theorem endsInside_cons {b : List UInt8} {r : List (List UInt8)} {n : ℕ} :
    EndsInside (b :: r) n ↔ 0 < n ∧ n < b.length ∨
      b.length ≤ n ∧ EndsInside r (n - b.length) := by
  simp only [EndsInside, mem_range, length_cons]
  constructor
  · rintro ⟨_ | i, hi, hl, hh⟩
    · simp only [size_zero, size_cons] at hl hh
      exact .inl ⟨hl, by omega⟩
    · simp only [size_cons] at hl hh
      exact .inr ⟨by omega, i, by omega, by omega, by omega⟩
  · rintro (⟨hp, ht⟩ | ⟨he, i, hi, hl, hh⟩)
    · exact ⟨0, by omega, hp, by simp only [size_cons, size_zero]; omega⟩
    · exact ⟨i + 1, by omega, by simp only [size_cons]; omega,
        by simp only [size_cons] at hh ⊢; omega⟩

theorem flatten_drainPending (p : List (List UInt8)) (n : ℕ) :
    (drainPending p n).1.flatten = p.flatten.drop n := by
  fun_induction drainPending p n with
  | case1 n => simp
  | case2 b r => rfl
  | case3 b r n _ hl ih => simp [ih, drop_append, hl]
  | case4 b r n _ ht => simp [drop_append_of_le_length (by omega : n ≤ b.length)]

theorem left_drainPending (p : List (List UInt8)) (n : ℕ) :
    if EndsInside p n then 0 < (drainPending p n).2 ∧ n ≤ p.flatten.length
    else (drainPending p n).2 = n - p.flatten.length := by
  fun_induction drainPending p n with
  | case1 n => simp [EndsInside]
  | case2 b r => simp [EndsInside]
  | case3 b r n _ hl ih =>
    simp only [endsInside_cons, flatten_cons, length_append]
    grind
  | case4 b r n hp ht =>
    rw [if_pos (endsInside_cons.2 (.inl (by omega)))]
    simp
    omega

/-- A drain takes the bytes off the front, unless it ends inside the decrypted data with more
behind. -/
theorem content_drain_iff {s : TcpSocket} {n : ℕ} (h : (s.drain n).2 = true) :
    (s.drain n).1.content = s.content.drop n ↔ (EndsInside s.sslPending n → s.input = []) := by
  have hc : (s.drain n).1.content =
      s.sslPending.flatten.drop n ++ s.input.drop (drainPending s.sslPending n).2 := by
    rw [← flatten_drainPending]
    simp only [TcpSocket.drain] at h ⊢
    split
    · next hz => simp [TcpSocket.content, hz]
    · next hne =>
      rw [if_neg hne] at h
      split at h
      · cases h
      · next hf =>
        rw [if_neg hf]
        rfl
  rw [hc, TcpSocket.content, drop_append, append_cancel_left_eq]
  have hl := left_drainPending s.sslPending n
  split at hl
  · next hi =>
    rw [Nat.sub_eq_zero_of_le hl.2, drop_zero]
    constructor
    · intro hq _
      have hle := congrArg length hq
      rw [length_drop] at hle
      exact eq_nil_of_length_eq_zero (by omega)
    · intro he
      simp [he hi]
  · next hn => simp [hl, hn]

def remove (bytes : List UInt8) : Call → List UInt8
  | .peek _ => bytes
  | .drain n => bytes.drop n

/-- If the calls are aligned each drain removes the first bytes received, peeks show those of the
rest, and nothing only if nothing is left; a drain that is not aligned removes something else. -/
theorem received_is_queue {s t : TcpSocket} {calls : List Call} (h : Run step aligned s calls t) :
    t.content = calls.foldl remove s.content ∧
    (∀ shown, (∃ data, t.peek shown = .chunk data ∧ data ≠ [] ∧ data <+: t.content) ∨
        t.content = []) ∧
    ∀ n u, step t (.drain n) = some u → (u.content = t.content.drop n ↔ aligned t (.drain n)) := by
  have hd : ∀ {t n u}, step t (.drain n) = some u →
      (u.content = t.content.drop n ↔ aligned t (.drain n)) := by
    intro t n u hu
    rw [step] at hu
    split at hu
    · next ho =>
      cases hu
      exact content_drain_iff ho
    · cases hu
  refine ⟨?_, fun shown ↦ ?_, fun n u hu ↦ hd hu⟩
  · refine h.foldl_eq (P := fun _ ↦ True) trivial fun s c t _ ho hs ↦ ⟨trivial, ?_⟩
    cases c with
    | peek shown =>
      cases hs
      rfl
    | drain n => exact (hd hs).2 ho
  · cases hpending : t.sslPending with
    | cons b rest =>
      refine .inl ⟨b, by simp [TcpSocket.peek, hpending],
        t.pending_ne_nil b (by simp [hpending]), ?_⟩
      simp [TcpSocket.content, hpending]
    | nil =>
      by_cases hinput : t.input = []
      · exact .inr (by simp [TcpSocket.content, hpending, hinput])
      · refine .inl ⟨t.input.take (shown + 1), by simp [TcpSocket.peek, hpending, hinput],
          by simp [hinput], ?_⟩
        simp [TcpSocket.content, hpending, take_prefix]

def received : TcpSocket := ⟨[[1, 2], [3]], [4, 5], false, false, by decide⟩

/-- Drains that end where the decrypted data does. -/
theorem received_is_queue_of_calls :
    ∃ t, Run step aligned received
    [.peek 0, .drain 2, .drain 1, .drain 1] t ∧ t.content = [5] := by
  obtain ⟨t, h, -⟩ :=
    exists_run_of_execWhile step aligned received [.peek 0, .drain 2, .drain 1, .drain 1]
    (fun _ ↦ true) (by decide)
  exact ⟨t, h, (received_is_queue h).1⟩

/-- A drain that ends inside the pending buffer removes a byte of the input as well. -/
theorem drain_skips_input :
    received.content = [1, 2, 3, 4, 5] ∧ (received.drain 1).2 = true ∧
      (received.drain 1).1.content = [2, 3, 5] := by
  decide

end TrustTunnel.Net.TcpSocket

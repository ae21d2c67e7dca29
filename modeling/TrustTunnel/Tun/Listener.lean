import Mathlib.Algebra.Group.Int.Defs
import Mathlib.Algebra.Group.Nat.Defs
import TrustTunnel.Lib.Transition

namespace TrustTunnel.Tun.Listener

open Lib.Transition

structure Connection where
  scheduledToSend : ℤ := 0
  closing : Bool := false
  closeTask : Option Bool := none

/-- `send`, where `tcpip_send_to_client` answers `r`, if it is called. -/
def Connection.send (c : Connection) (r : ℤ) : Connection × ℤ :=
  if c.closing then (c, 0)
  else ({ c with scheduledToSend := c.scheduledToSend + max r 0 }, r)

def Connection.dataSent (c : Connection) (length : ℕ) : Connection :=
  let c := { c with scheduledToSend := c.scheduledToSend - length }
  if c.closing && c.scheduledToSend = 0 then { c with closeTask := some true } else c

section Writing

inductive Err
  | ok
  | mem
  | other
deriving DecidableEq

/-- The free send buffer and the segments of a pcb, with the bytes that were written to it. -/
structure Pcb where
  sndBuf : UInt32
  sndQueuelen : ℕ
  written : List UInt8 := []

/-- What `tcp_write` and `tcp_output` answer. -/
structure Stack where
  write : Err := .ok
  output : Err := .ok

def tcpSndQueuelen : ℕ := 512

def tcpCmFlowCtrlInfo (pcb : Pcb) : ℕ :=
  if pcb.sndQueuelen < tcpSndQueuelen then pcb.sndBuf.toNat else 0

/-- The size is cast to `u16_t`. -/
def tcpRawSend (stack : Stack) (pcb : Pcb) (data : List UInt8) (size : ℕ) : Pcb × Err :=
  match stack.write with
  | .ok => ({ pcb with written := pcb.written ++ data.take (size % 2 ^ 16) }, .ok)
  | e => (pcb, e)

def bytesToSend (pcb : Pcb) (data : List UInt8) : ℕ :=
  if tcpCmFlowCtrlInfo pcb < data.length then tcpCmFlowCtrlInfo pcb else data.length

/-- `tcp_cm_send_data` of an accepted connection. The result is cast to `int`. -/
def tcpCmSendData (stack : Stack) (pcb : Pcb) (data : List UInt8) : Pcb × ℤ :=
  if bytesToSend pcb data = 0 then (pcb, 0)
  else
    match tcpRawSend stack pcb data (bytesToSend pcb data) with
    | (pcb', .mem) => (pcb', 0)
    | (pcb', .other) => (pcb', -1)
    | (pcb', .ok) =>
      if stack.output = .ok then (pcb', (bytesToSend pcb data : ℤ).bmod (2 ^ 32)) else (pcb', -1)

variable {pcb : Pcb} {data : List UInt8}

theorem bytesToSend_le : bytesToSend pcb data ≤ pcb.sndBuf.toNat ∧
    bytesToSend pcb data ≤ data.length := by
  simp only [bytesToSend, tcpCmFlowCtrlInfo]
  split <;> split <;> omega

theorem bytesToSend_lt : bytesToSend pcb data < 2 ^ 32 :=
  Nat.lt_of_le_of_lt bytesToSend_le.1 pcb.sndBuf.toNat_lt

/-- What a connection that is not closing gets written, with the result. -/
def sent (pcb : Pcb) (data : List UInt8) : Pcb × ℤ :=
  ({ pcb with written := pcb.written ++ data.take (bytesToSend pcb data % 2 ^ 16) },
    (bytesToSend pcb data : ℤ).bmod (2 ^ 32))

theorem sendData_ok (h : bytesToSend pcb data ≠ 0) : tcpCmSendData {} pcb data = sent pcb data := by
  simp only [tcpCmSendData, if_neg h, tcpRawSend, if_true, sent]

/-- Data that is accepted at all is accepted as far as the send buffer goes. -/
theorem sendData_of_pos {s : Stack} (h : 0 < (tcpCmSendData s pcb data).2) :
    tcpCmSendData s pcb data = sent pcb data := by
  obtain ⟨w, o⟩ := s
  simp only [tcpCmSendData, tcpRawSend] at h ⊢
  split at h
  · cases h
  · next hn =>
    rw [if_neg hn]
    cases w with
    | ok =>
      simp only at h ⊢
      split at h
      · next ho => rw [if_pos ho, sent]
      · omega
    | mem => cases h
    | other =>
      simp only at h
      omega

/-- Whatever the stack answers, a positive result of `send` is the number of the bytes written, from
the first one on, exactly if the amount fits in 16 bits, the connection is closing, or the amount is
not an `int`. -/
theorem send_in_full_iff (c : Connection) (pcb : Pcb) (data : List UInt8) :
    (∀ stack r, (c.send (tcpCmSendData stack pcb data).2).2 = r → 0 < r →
      (tcpCmSendData stack pcb data).1.written = pcb.written ++ data.take r.toNat ∧
        r ≤ pcb.sndBuf.toNat) ↔
      c.closing = true ∨ bytesToSend pcb data < 2 ^ 16 ∨ 2 ^ 31 ≤ bytesToSend pcb data := by
  have ht : bytesToSend pcb data < 2 ^ 32 := bytesToSend_lt
  obtain ⟨hb, hd⟩ := @bytesToSend_le pcb data
  have hi : bytesToSend pcb data < 2 ^ 31 → (sent pcb data).2 = bytesToSend pcb data := by
    intro h
    rw [sent, Int.bmod_eq_of_le] <;> omega
  cases hc : c.closing with
  | true =>
    simp only [Connection.send, hc, if_true, true_or, iff_true]
    omega
  | false =>
    simp only [Connection.send, hc, Bool.false_eq_true, if_false, false_or]
    constructor
    · intro h
      by_contra hno
      have ho := @sendData_ok pcb data (by omega)
      have hr := hi (by omega)
      have hl := congrArg List.length (h {} _ (by rw [ho, hr]) (by omega)).1
      rw [ho] at hl
      simp only [sent, Int.toNat_natCast, List.length_append, List.length_take] at hl
      omega
    · rintro hfits stack r rfl hp
      have hs := sendData_of_pos hp
      rw [hs] at hp ⊢
      rcases hfits with hfits | hfits
      · rw [hi (by omega), Int.toNat_natCast]
        exact ⟨by rw [sent, Nat.mod_eq_of_lt hfits], by omega⟩
      · have hn : (sent pcb data).2 = bytesToSend pcb data - 2 ^ 32 := by
          simp only [sent, Int.bmod]
          omega
        omega

/-- A buffer of 1 MiB, and 65537 bytes of data. -/
theorem send_one_byte : ∃ data : List UInt8, data.length = 65537 ∧
    ((({} : Connection).send (tcpCmSendData {} ⟨1024 * 1024, 0, []⟩ data).2).2 = 65537) ∧
      (tcpCmSendData {} ⟨1024 * 1024, 0, []⟩ data).1.written = [0] := by
  have hs : bytesToSend ⟨1024 * 1024, 0, []⟩ (List.replicate 65537 0) = 65537 := by
    rw [bytesToSend, List.length_replicate]
    decide
  refine ⟨List.replicate 65537 0, List.length_replicate, ?_⟩
  rw [sendData_ok (by omega), sent, hs, List.take_replicate]
  decide

end Writing

section Closing

/-- A connection of the listener, with what the stack accepted, reported as sent and was told. -/
structure TunListener where
  connection : Option Connection := some {}
  accepted : ℕ := 0
  sent : ℕ := 0
  /-- The mode of `close_connection`, and what had been accepted before it. -/
  requested : Option (Bool × ℕ) := none
  closed : List (Bool × ℤ) := []

namespace TunListener

variable (s : TunListener)

/-- The stack raises `TCPIP_EVENT_CONNECTION_CLOSED` in the call. -/
def tcpipCloseConnection (c : Connection) (graceful : Bool) : TunListener :=
  { s with connection := none, closed := s.closed ++ [(graceful, c.scheduledToSend)] }

def closeConnection (graceful async : Bool) : TunListener :=
  match s.connection with
  | none => s
  | some c =>
    let s := { s with requested := some (graceful, s.accepted) }
    if graceful && 0 < c.scheduledToSend then
      { s with connection := some { c with closing := true } }
    else if !async then s.tcpipCloseConnection c graceful
    else { s with connection := some { c with closeTask := some true } }

end TunListener

inductive Input
  /-- The stack accepts `r` bytes, and for UDP reports them before it returns. -/
  | send (r : ℤ) (reported : ℕ)
  | dataSent (length : ℕ)
  | closeConnection (graceful async : Bool)
  | closeTask

/-- Only what was accepted is reported, and the connection is closed once. -/
def step (s : TunListener) (input : Input) : Option TunListener :=
  s.connection.elim none fun c ↦
    match input with
    | .send r reported =>
      if c.closing then some s
      else if reported ≤ max r 0 then
        some { s with
          connection := some ((c.dataSent reported).send r).1
          accepted := s.accepted + r.toNat
          sent := s.sent + reported }
      else none
    | .dataSent length =>
      if length ≤ c.scheduledToSend then
        some { s with connection := some (c.dataSent length), sent := s.sent + length }
      else none
    | .closeConnection graceful async =>
      if s.requested = none then some (s.closeConnection graceful async) else none
    | .closeTask => c.closeTask.map (s.tcpipCloseConnection c)

/-- A close is graceful or immediate, and nothing is sent while the task of a close is pending. -/
def undisturbed (s : TunListener) : Input → Bool
  | .send _ _ => s.connection.all fun c ↦ c.closeTask.isNone
  | .closeConnection graceful async => graceful || !async
  | _ => true

inductive Good : TunListener → Prop
  | idle (a b : ℕ) (h : b ≤ a) : Good ⟨some ⟨a - b, false, none⟩, a, b, none, []⟩
  | waits (a b : ℕ) (h : b < a) : Good ⟨some ⟨a - b, true, none⟩, a, b, some (true, a), []⟩
  | due (a : ℕ) (closing : Bool) : Good ⟨some ⟨0, closing, some true⟩, a, a, some (true, a), []⟩
  | gone (a b : ℕ) (graceful : Bool) (h : graceful = true → a = b) :
      Good ⟨none, a, b, some (graceful, a), [(graceful, a - b)]⟩

/-- The step lemma of the listener. -/
theorem Good.step {s t : TunListener} {i : Input} (h : Good s)
    (ho : undisturbed s i = true) (hs : step s i = some t) : Good t := by
  cases h with
  | idle a b ha =>
    cases i with
    | send r rd =>
      simp [Listener.step, Connection.dataSent, Connection.send] at hs
      obtain ⟨hr, rfl⟩ := hs
      have hq : (a : ℤ) - b - rd + max r 0 = (a + r.toNat : ℕ) - (b + rd : ℕ) := by
        omega
      rw [hq]
      exact .idle _ _ (by omega)
    | dataSent length =>
      simp [Listener.step, Connection.dataSent] at hs
      obtain ⟨hr, rfl⟩ := hs
      have hq : (a : ℤ) - b - length = a - (b + length : ℕ) := by omega
      rw [hq]
      exact .idle _ _ (by omega)
    | closeConnection g ac =>
      cases hs
      simp only [TunListener.closeConnection]
      split
      · next hw =>
        simp only [Bool.and_eq_true, decide_eq_true_eq] at hw
        obtain ⟨rfl, hp⟩ := hw
        exact .waits a b (by omega)
      · next hn =>
        have he : g = true → a = b := by
          rintro rfl
          simp only [Bool.true_and, decide_eq_true_eq] at hn
          omega
        cases ac with
        | false => exact .gone a b g he
        | true =>
          obtain rfl : g = true := by simpa [undisturbed] using ho
          obtain rfl := he rfl
          rw [Int.sub_self]
          exact .due a false
    | closeTask => cases hs
  | waits a b ha =>
    cases i with
    | send r rd =>
      cases hs
      exact .waits a b ha
    | dataSent length =>
      simp only [Listener.step, Option.elim_some, Connection.dataSent, Bool.true_and,
        decide_eq_true_eq] at hs
      split at hs
      · cases hs
        split
        · next hz =>
          obtain rfl : a = b + length := by omega
          rw [hz]
          exact .due _ true
        · have hq : (a : ℤ) - b - length = a - (b + length : ℕ) := by omega
          rw [hq]
          exact .waits _ _ (by omega)
      · cases hs
    | closeConnection g ac => cases hs
    | closeTask => cases hs
  | due a c =>
    cases i with
    | send r rd => cases ho
    | dataSent length =>
      obtain rfl : length = 0 := by
        by_contra hne
        simp [Listener.step, hne] at hs
      cases c <;> cases hs <;> exact .due a _
    | closeConnection g ac => cases hs
    | closeTask =>
      cases hs
      have hg := Good.gone a a true fun _ ↦ rfl
      rwa [Int.sub_self] at hg
  | gone a b g ha => cases hs

/-- What was scheduled is what the stack accepted and has not reported. A connection is closed once
at most and in the mode asked for, gracefully only when nothing is scheduled, and by the time its
task has run; after a graceful close was asked for nothing is accepted. -/
theorem closes_as_requested {ls : List Input} {s : TunListener}
    (h : Run step (fun s l ↦ undisturbed s l = true) {} ls s) :
    (∀ c ∈ s.connection, c.scheduledToSend = s.accepted - s.sent) ∧
      ∀ graceful accepted, s.requested = some (graceful, accepted) →
        (graceful = true → s.accepted = accepted) ∧
        ((∀ c ∈ s.connection, c.closeTask = none ∧ c.scheduledToSend = 0) →
          ∃ scheduled, s.closed = [(graceful, scheduled)]) ∧
        (s.closed = [] ∨ ∃ scheduled, s.closed = [(graceful, scheduled)] ∧
          (graceful = true → scheduled = 0)) := by
  have hd : Good s := h.invariant (.idle 0 0 (Nat.le_refl 0)) fun _ _ _ hs ho ↦ hs.step ho
  cases hd with
  | idle a b ha => simp
  | waits a b ha =>
    simp
    omega
  | due a cg => simp
  | gone a b graceful ha =>
    refine ⟨fun c hc ↦ (by cases hc), fun g n hg ↦ ?_⟩
    cases hg
    refine ⟨fun _ ↦ rfl, fun _ ↦ ⟨_, rfl⟩, .inr ⟨_, rfl, fun hg ↦ ?_⟩⟩
    rw [ha hg, Int.sub_self]

theorem closes_as_requested_later : ∃ s : TunListener, s.closed = [(true, 0)] ∧
    Run step (fun s l ↦ undisturbed s l = true) {} [.send 3 0, .closeConnection true true,
      .dataSent 3, .closeTask] s ∧
          (∀ c ∈ s.connection, c.scheduledToSend = s.accepted - s.sent) := by
  obtain ⟨s, hrun, hs⟩ : ∃ s, Run step (fun s l ↦ undisturbed s l = true) {} [.send 3 0,
      .closeConnection true true, .dataSent 3, .closeTask] s ∧ s.closed = [(true, 0)] :=
    exists_run (by decide)
  exact ⟨s, hs, hrun, (closes_as_requested hrun).1⟩

/-- The task of a close that is not graceful closes the connection gracefully. -/
theorem closes_gracefully : ∃ s : TunListener,
    Run step anyStep {} [.closeConnection false true, .closeTask] s ∧ s.closed = [(true, 0)] :=
  exists_run (by decide)

end Closing

end TrustTunnel.Tun.Listener

import TrustTunnel.Lib.Transition

namespace TrustTunnel.Tun.ClientData

open Lib.Transition List

/-- A TCP connection, with the bytes delivered and accepted, and whether reads were on at each
event. -/
structure Connection where
  readEnabled : Bool := false
  unreadData : List (List UInt8) := []
  completeReadTask : Bool := false
  delivered : List UInt8 := []
  accepted : List UInt8 := []
  raised : List Bool := []

/-- What a handler of `CLIENT_EVENT_READ` does: the switches of the reads and its result. -/
structure Answer where
  switches : List Bool := []
  result : ℕ

namespace Connection

def turnRead (c : Connection) (on : Bool) : Connection :=
  if c.readEnabled = on then c
  else
    { c with
      readEnabled := on
      completeReadTask := c.completeReadTask || (on && !c.unreadData.isEmpty) }

/-- The handler accepts no more than it is offered, and turns the reads off if it accepts
nothing. -/
def raise (c : Connection) (data : List UInt8) (a : Answer) : Option Connection :=
  let c' := a.switches.foldl turnRead { c with
    accepted := c.accepted ++ data.take a.result
    raised := c.raised ++ [c.readEnabled] }
  if a.result ≤ data.length ∧ (a.result = 0 → c'.readEnabled = false) then some c' else none

def keepRest (chunk : List UInt8) (rest : List (List UInt8)) : List (List UInt8) :=
  if chunk.isEmpty then rest else chunk :: rest

def readOutPendingData : List Answer → Connection → Option (Connection × List Answer)
  | [], c => if c.readEnabled && !c.unreadData.isEmpty then none else some (c, [])
  | a :: answers, c =>
    match c.unreadData with
    | [] => some (c, a :: answers)
    | chunk :: rest =>
      if c.readEnabled then
        (c.raise chunk a).bind fun c ↦
          readOutPendingData answers { c with unreadData := keepRest (chunk.drop a.result) rest }
      else some (c, a :: answers)

/-- The loops over the buffers of a read event. The result holds the buffers that are left. -/
def readIov : List Answer → Connection → List (List UInt8) → Option (Connection × List (List UInt8))
  | _, c, [] => some (c, [])
  | [], _, _ :: _ => none
  | a :: answers, c, v :: iov =>
    (c.raise v a).bind fun c ↦
      if c.readEnabled then readIov answers c (keepRest (v.drop a.result) iov)
      else some (c, v.drop a.result :: iov)

def read (c : Connection) (answers : List Answer) (iov : List (List UInt8)) : Option Connection :=
  (readOutPendingData answers { c with delivered := c.delivered ++ iov.flatten }).bind fun r ↦
    (if r.1.readEnabled && r.1.unreadData.isEmpty then readIov r.2 r.1 iov
      else some (r.1, iov)).map fun r ↦ { r.1 with unreadData := r.1.unreadData ++ r.2 }

def completeRead (c : Connection) (answers : List Answer) : Option Connection :=
  if c.completeReadTask then
    (readOutPendingData answers { c with completeReadTask := false }).map (·.1)
  else none

end Connection

/-- The answers are those of the handlers that are called. -/
inductive Input
  | read (iov : List (List UInt8)) (answers : List Answer)
  | turnRead (on : Bool)
  | completeRead (answers : List Answer)

def step (c : Connection) : Input → Option Connection
  | .read iov answers => c.read answers iov
  | .turnRead on => some (c.turnRead on)
  | .completeRead answers => c.completeRead answers

variable {c c' : Connection} {answers rest : List Answer} {d : List UInt8} {a : Answer}

structure Good (c : Connection) (left : List UInt8) : Prop where
  whole : c.accepted ++ left = c.delivered
  enabled : ∀ e ∈ c.raised, e = true

theorem foldl_turnRead (ss : List Bool) (c : Connection) : ∃ on t,
    ss.foldl Connection.turnRead c = { c with readEnabled := on, completeReadTask := t } := by
  induction ss generalizing c with
  | nil => exact ⟨_, _, rfl⟩
  | cons s ss ih =>
    obtain ⟨on, t, h⟩ := ih (c.turnRead s)
    refine ⟨on, t, h.trans ?_⟩
    unfold Connection.turnRead
    split <;> rfl

theorem Good.raise {l : List UInt8} (hg : Good c (d ++ l)) (ho : c.readEnabled = true)
    (h : c.raise d a = some c') :
    Good c' (d.drop a.result ++ l) ∧ c'.unreadData = c.unreadData := by
  obtain ⟨on, t, hf⟩ := foldl_turnRead a.switches { c with
    accepted := c.accepted ++ d.take a.result
    raised := c.raised ++ [c.readEnabled] }
  simp only [Connection.raise, hf, Option.ite_none_right_eq_some, Option.some.injEq] at h
  obtain ⟨-, rfl⟩ := h
  refine ⟨⟨?_, ?_⟩, rfl⟩
  · rw [← hg.whole, append_assoc, ← append_assoc (take _ _), take_append_drop]
  · simpa [ho] using hg.enabled

theorem flatten_keepRest (c : List UInt8) (r : List (List UInt8)) :
    (Connection.keepRest c r).flatten = c ++ r.flatten := by
  cases c <;> rfl

theorem Good.readOut {l : List UInt8} (hg : Good c (c.unreadData.flatten ++ l))
    (h : Connection.readOutPendingData an c = some (c', rest)) :
    Good c' (c'.unreadData.flatten ++ l) := by
  induction an generalizing c with
  | nil =>
    simp only [Connection.readOutPendingData, Option.ite_none_left_eq_some] at h
    cases h.2
    exact hg
  | cons a an ih =>
    unfold Connection.readOutPendingData at h
    split at h
    · cases h
      exact hg
    · rename_i ck cs hc
      split at h
      · rename_i ho
        obtain ⟨c₁, hr, h⟩ := Option.bind_eq_some_iff.1 h
        rw [hc, flatten_cons, append_assoc] at hg
        obtain ⟨hg₁, -⟩ := hg.raise ho hr
        refine ih ?_ h
        rw [flatten_keepRest, append_assoc]
        exact ⟨hg₁.whole, hg₁.enabled⟩
      · cases h
        exact hg

theorem Good.readIov {i l : List (List UInt8)} (hg : Good c i.flatten)
    (ho : c.readEnabled = true) (h : Connection.readIov an c i = some (c', l)) :
    Good c' l.flatten ∧ c'.unreadData = c.unreadData := by
  induction an generalizing c i with
  | nil =>
    cases i with
    | nil =>
      cases h
      exact ⟨hg, rfl⟩
    | cons v i => cases h
  | cons a an ih =>
    cases i with
    | nil =>
      cases h
      exact ⟨hg, rfl⟩
    | cons v i =>
      obtain ⟨c₁, hr, h⟩ := Option.bind_eq_some_iff.1 h
      obtain ⟨hg₁, hu⟩ := hg.raise ho hr
      split at h
      · rename_i hon₁
        obtain ⟨hg', hu'⟩ := ih (by rwa [flatten_keepRest]) hon₁ h
        exact ⟨hg', hu'.trans hu⟩
      · cases h
        exact ⟨hg₁, hu⟩

theorem Good.read {i : List (List UInt8)} (hg : Good c c.unreadData.flatten)
    (h : c.read answers i = some c') : Good c' c'.unreadData.flatten := by
  obtain ⟨⟨c₁, left⟩, ho, h⟩ := Option.bind_eq_some_iff.1 h
  obtain ⟨⟨c₂, last⟩, hi, rfl⟩ := Option.map_eq_some_iff.1 h
  have hs : Good { c with delivered := c.delivered ++ i.flatten }
      (c.unreadData.flatten ++ i.flatten) :=
    ⟨(append_assoc ..).symm.trans (congrArg (· ++ _) hg.whole), hg.enabled⟩
  have hg₁ := hs.readOut ho
  rw [flatten_append]
  split at hi
  · rename_i hn
    simp only [Bool.and_eq_true, List.isEmpty_iff] at hn
    rw [hn.2] at hg₁
    obtain ⟨hg₂, hu⟩ := hg₁.readIov hn.1 hi
    rw [hu, hn.2]
    exact ⟨hg₂.whole, hg₂.enabled⟩
  · cases hi
    exact ⟨hg₁.whole, hg₁.enabled⟩

/-- The step lemma: what is unread is what was received and not taken. -/
theorem Good.step {i : Input} (hg : Good c c.unreadData.flatten) (h : step c i = some c') :
    Good c' c'.unreadData.flatten := by
  cases i with
  | read iov a => exact hg.read h
  | turnRead on =>
    cases h
    unfold Connection.turnRead
    split
    · exact hg
    · exact ⟨hg.whole, hg.enabled⟩
  | completeRead a =>
    simp only [ClientData.step, Connection.completeRead, Option.ite_none_right_eq_some] at h
    obtain ⟨⟨c₁, left⟩, ho, rfl⟩ := Option.map_eq_some_iff.1 h.2
    have hs : Good { c with completeReadTask := false } (c.unreadData.flatten ++ []) :=
      ⟨by simpa using hg.whole, hg.enabled⟩
    simpa using hs.readOut ho

/-- What the handlers accepted and what waits are the bytes that the stack delivered, in order, and
no handler was called while the reads were disabled. -/
theorem client_data_whole {ls : List Input} (h : Run step anyStep {} ls c) :
    c.accepted ++ c.unreadData.flatten = c.delivered ∧ ∀ e ∈ c.raised, e = true := by
  have hg := h.invariant (P := fun c ↦ Good c c.unreadData.flatten) ⟨rfl, by simp⟩
    fun _ _ _ hg _ hs ↦ hg.step hs
  exact ⟨hg.whole, hg.enabled⟩

/-- The handler accepts the first byte and turns the reads off. The rest waits, and is read by the
task when the reads are enabled again. -/
theorem client_data_whole_of_task :
    ∃ c, Run step anyStep {} [.turnRead true, .read [[1, 2], [3]] [⟨[false], 1⟩], .turnRead true,
      .completeRead [⟨[], 1⟩, ⟨[], 1⟩]] c ∧ c.delivered = [1, 2, 3] ∧
        c.accepted ++ c.unreadData.flatten = [1, 2, 3] :=
  exists_run_imp (P := fun c : Connection ↦ c.delivered = [1, 2, 3]) (by decide) fun _ h hc ↦
    ⟨hc, (client_data_whole h).1.trans hc⟩

end TrustTunnel.Tun.ClientData

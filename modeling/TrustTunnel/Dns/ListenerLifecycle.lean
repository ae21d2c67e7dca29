import TrustTunnel.Dns.ClientListener
import TrustTunnel.Lib.Transition

namespace TrustTunnel.Dns.ListenerLifecycle

open ClientListener Lib.Assoc Lib.Transition ListenerBase Traffic.Types Option List
open Messages (connMaxBuffered)

def closedId : Event → Option ℕ
  | .connectionClosed id => some id
  | _ => none

def closedIds (trace : List Event) : List ℕ := trace.filterMap closedId

theorem mem_closedIds {trace : List Event} {id : ℕ} :
    id ∈ closedIds trace ↔ .connectionClosed id ∈ trace := by
  rw [closedIds, mem_filterMap]
  constructor
  · rintro ⟨e, he, hi⟩
    cases e <;> simp only [closedId, some.injEq, reduceCtorEq] at hi
    exact hi ▸ he
  · exact fun h ↦ ⟨_, h, rfl⟩

/-- No connection is taken out of the table, and exactly the given close events are raised, for
connections that are in the table. -/
structure Extends (closed : List ℕ) (l t : ListenerBase) : Prop where
  kept : ∀ id, (l.connections.lookup id).isSome → (t.connections.lookup id).isSome
  there : ∀ id ∈ closed, (t.connections.lookup id).isSome
  closed : closedIds t.trace = closedIds l.trace ++ closed

section Extends

variable {l t t' : ListenerBase} {closed : List ℕ} {id : ℕ}

theorem Extends.refl (l : ListenerBase) : Extends [] l l := ⟨fun _ h ↦ h, by simp, by simp⟩

theorem Extends.trans (h : Extends [] l t) (h' : Extends closed t t') : Extends closed l t' where
  kept := fun id hid ↦ h'.kept id (h.kept id hid)
  closed := by rw [h'.closed, h.closed, append_nil]
  there := h'.there

theorem extends_emit {e : Event} (he : closedId e = none) : Extends [] l (l.emit e) where
  kept := fun _ h ↦ h
  closed := by simp [closedIds, emit, he]
  there := by simp

theorem extends_push (f : Frame) : Extends [] l (l.push f) := ⟨fun _ h ↦ h, by simp, by simp [push]⟩

theorem extends_modifyConnection (f : Connection → Connection) :
    Extends [] l (l.modifyConnection id f) where
  kept := by
    intro i hi
    change ((modify l.connections id f).lookup i).isSome
    rw [lookup_modify]
    split
    · next he => rwa [isSome_map, ← he]
    · exact hi
  closed := by simp [modifyConnection]
  there := by simp

def closeOf (l : ListenerBase) (id : ℕ) (async : Bool) : Option ℕ :=
  if async || (l.connections.lookup id).isNone then none else some id

theorem extends_closeConnection (a : Bool) :
    Extends (closeOf l id a).toList l (l.closeConnection id a) := by
  simp only [closeConnection, closeOf]
  cases hl : l.connections.lookup id with
  | none => simpa using Extends.refl l
  | some c =>
    cases a with
    | true => exact ⟨fun _ h ↦ h, by simp, by simp⟩
    | false => exact ⟨fun _ h ↦ h, by simp [emit, hl], by simp [closedIds, emit, closedId]⟩

theorem extends_raiseUdp (c : Connection) : Extends [] l (l.raiseUdp id c) := by
  simp only [raiseUdp]
  split
  · exact .refl l
  · exact (extends_emit rfl).trans (extends_push _)

theorem extends_raiseRead (a : Bool) : Extends [] l (l.raiseRead id a) := by
  simp only [raiseRead]
  split
  · exact .refl l
  split
  · exact .refl l
  split
  · exact extends_raiseUdp _
  split
  · exact .refl l
  · exact (extends_emit rfl).trans (extends_push _)

theorem extends_finishReadUdp (r : ℤ) : Extends [] l (l.finishReadUdp id r) := by
  simp only [finishReadUdp]
  split
  · exact .refl l
  split
  · exact extends_modifyConnection _
  · exact (extends_modifyConnection _).trans (extends_raiseUdp _)

def readFails (l : ListenerBase) (id : ℕ) (result : ℤ) : Bool :=
  result < 0 || (l.connections.lookup id).any fun conn ↦
    connMaxBuffered < (conn.sndBuf.drop result.toNat).length

theorem closeOf_modifyConnection (f : Connection → Connection) (async : Bool) :
    closeOf (l.modifyConnection id f) id async = closeOf l id async := by
  have h : ((l.modifyConnection id f).connections.lookup id).isNone =
      (l.connections.lookup id).isNone := by
    change ((modify l.connections id f).lookup id).isNone = _
    rw [lookup_modify, if_pos rfl, isNone_map]
  rw [closeOf, closeOf, h]

theorem extends_finishReadTcp (a : Bool) (r : ℤ) :
    Extends (if readFails l id r then closeOf l id a else none).toList l
      (l.finishReadTcp id a r) := by
  have hc : Extends (closeOf l id a).toList l (l.closeConnection id a) :=
    extends_closeConnection a
  cases hl : l.connections.lookup id with
  | none =>
    have hn : closeOf l id a = none := by simp [closeOf, hl]
    simpa [finishReadTcp, hl, hn] using Extends.refl l
  | some cn =>
    have hm : Extends [] l
        (l.modifyConnection id fun c ↦ { c with sndBuf := cn.sndBuf.drop r.toNat }) :=
      extends_modifyConnection _
    simp only [finishReadTcp, readFails, hl, any_some, Bool.or_eq_true, decide_eq_true_eq]
    by_cases hneg : r < 0
    · rw [if_pos (Or.inl hneg), if_pos hneg]
      exact hc
    · rw [if_neg hneg]
      by_cases hlong : connMaxBuffered < (cn.sndBuf.drop r.toNat).length
      · rw [if_pos (Or.inr hlong), if_pos hlong, ← closeOf_modifyConnection]
        exact hm.trans (extends_closeConnection a)
      · rw [if_neg (not_or.2 ⟨hneg, hlong⟩), if_neg hlong]
        exact hm

theorem extends_sendAsListener (s : ℕ) (io : ConnectionInfo) (m : Messages.Message)
    (fb : Bool) : Extends [] l (l.sendAsListener s io m fb) := by
  simp only [sendAsListener]
  split
  · refine ⟨fun i hi ↦ ?_, by simp, by simp [requestConnection, closedIds, emit, push, closedId]⟩
    change ((l.connections.insert _ _).lookup i).isSome
    rw [lookup_insert]
    split
    · rfl
    · exact hi
  simp only [sendOn]
  split
  · exact .refl l
  split
  · split
    · exact extends_emit rfl
    · exact extends_modifyConnection _
  · exact (extends_modifyConnection _).trans (extends_raiseRead true)

theorem extends_completeConnectRequest (r : ClientConnectResult) :
    Extends (if r = .pass then none else closeOf l id false).toList l
      (l.completeConnectRequest id r) := by
  have hc : Extends (closeOf l id false).toList l (l.closeConnection id false) :=
    extends_closeConnection false
  simp only [completeConnectRequest]
  cases hl : l.connections.lookup id with
  | none =>
    have hn : closeOf l id false = none := by simp [closeOf, hl]
    simpa [hn] using Extends.refl l
  | some c =>
    by_cases hpass : r = .pass
    · simp only [hpass, ne_eq, not_true_eq_false, if_false, if_true]
      exact ((extends_modifyConnection _).trans (extends_emit rfl)).trans (extends_push _)
    · simpa [hpass] using hc

theorem extends_send (d : List UInt8) : Extends [] l (l.send id d).1 := by
  simp only [ListenerBase.send]
  split
  · exact .refl l
  next c _ =>
  refine (extends_modifyConnection fun c ↦ (receive d c).1).trans
    ⟨fun _ h ↦ h, by simp, ?_⟩
  have hn : ∀ ms : List Messages.Message,
      (ms.map (Event.dnsResponse c.upstreamConnId)).filterMap closedId = [] := by
    intro ms
    induction ms with
    | nil => rfl
    | cons m ms ih => simp [closedId]
  simp [dnsResponses, closedIds, hn]

theorem extends_turnRead (readEnabled : Bool) : Extends [] l (l.turnRead id readEnabled) := by
  simp only [turnRead]
  split
  · exact .refl l
  have hm : Extends [] l (l.modifyConnection id fun c ↦ { c with readEnabled }) :=
    extends_modifyConnection _
  split
  · exact ⟨hm.kept, by simp, hm.closed⟩
  · exact hm

def closesOn (l : ListenerBase) (result : ℤ) : Frame → Option ℕ
  | .raisedTcp id async => if readFails l id result then closeOf l id async else none
  | .closing (id :: _) => closeOf l id false
  | _ => none

theorem extends_goOn (r : ℤ) (f : Frame) : Extends (closesOn l r f).toList l (l.goOn r f) := by
  cases f with
  | requested id m => exact extends_modifyConnection _
  | accepted id => exact extends_raiseRead false
  | raisedUdp id => exact extends_finishReadUdp r
  | raisedTcp id a => exact extends_finishReadTcp a r
  | closing i =>
    cases i with
    | nil => exact ⟨fun _ h ↦ h, by simp [closesOn], by simp [goOn, push, closesOn]⟩
    | cons id i =>
      have hc : Extends (closeOf l id false).toList l (l.closeConnection id false) :=
        extends_closeConnection false
      exact ⟨hc.kept, hc.there, hc.closed⟩
  | sending i =>
    cases i with
    | nil => exact .refl l
    | cons id i => exact (extends_push _).trans (extends_raiseRead false)

end Extends

def closesNow (l : ListenerBase) : Input → Option ℕ
  | .completeConnectRequest id result => if result = .pass then none else closeOf l id false
  | .upstreamConnectionClosed upstreamConnId =>
    (l.connIdByUpstreamConnId.lookup upstreamConnId).bind fun id ↦ closeOf l id false
  | .closeConnection id async => closeOf l id async
  | .resume result => l.frames.head?.bind (closesOn l result)
  | _ => none

def Keeps (l : ListenerBase) (input : Input) : Prop := closesNow l input = none

instance (l : ListenerBase) (input : Input) : Decidable (Keeps l input) :=
  inferInstanceAs (Decidable (_ = _))

variable {l t : ListenerBase} {it : Input}

theorem extends_handle : Extends (closesNow l it).toList l (handle l it) := by
  cases it with
  | sendAsListener s i m fb =>
    exact extends_sendAsListener s i m fb
  | completeConnectRequest id r => exact extends_completeConnectRequest r
  | upstreamConnectionClosed u =>
    simp only [handle, closeListenerConnectionByUpstreamConnId, closesNow]
    cases l.connIdByUpstreamConnId.lookup u with
    | none => exact .refl l
    | some id => exact extends_closeConnection false
  | closeConnection id a => exact extends_closeConnection a
  | send id d => exact extends_send d
  | turnRead id re => exact extends_turnRead re
  | task => exact ⟨fun _ h ↦ h, by simp [closesNow], by simp [handle, runTask, closesNow]⟩
  | resume r =>
    simp only [handle, ListenerBase.resume, closesNow]
    cases hfs : l.frames with
    | nil => exact .refl l
    | cons f frames =>
      have hg := extends_goOn (l := { l with frames }) r f
      exact ⟨hg.kept, hg.there, hg.closed⟩

theorem extends_step (h : step l it = some t) : Extends (closesNow l it).toList l t := by
  simp only [step] at h
  split at h
  · rw [some.injEq] at h
    exact h ▸ extends_handle
  · cases h

def Stays (l : ListenerBase) : Prop := ∀ id ∈ closedIds l.trace, (l.connections.lookup id).isSome

theorem Stays.step (h : Stays l) (hp : step l it = some t) : Stays t := by
  have he := extends_step hp
  intro id hid
  rw [he.closed, mem_append] at hid
  rcases hid with hid | hid
  · exact he.kept id (h id hid)
  · exact he.there id hid

/-- A run in which no close was told is one in which no step closes. -/
theorem run_keeps_iff {s : ListenerBase} {ip : List Input} (h : Run step anyStep s ip t)
    (hs : closedIds s.trace = []) : closedIds t.trace = [] ↔ Run step Keeps s ip t := by
  constructor
  · intro ht
    induction h with
    | nil s => exact .nil s
    | @cons s u t it ip _ hp hr ih =>
      have hm : closedIds u.trace <+: closedIds t.trace := by
        refine hr.invariant (P := fun v ↦ closedIds u.trace <+: closedIds v.trace)
          prefix_rfl fun a i b ha _ hb ↦ ?_
        rw [(extends_step hb).closed]
        exact ha.trans (prefix_append _ _)
      have hu : closedIds u.trace = [] := prefix_nil.1 (ht ▸ hm)
      have hc := (extends_step hp).closed
      rw [hs, hu, nil_append] at hc
      exact .cons (toList_eq_nil_iff.1 hc.symm) hp (ih hu ht)
  · intro hk
    refine hk.invariant (P := fun v ↦ closedIds v.trace = []) hs fun a i b ha ho hb ↦ ?_
    rw [(extends_step hb).closed, ha, show closesNow a i = none from ho]
    rfl

/-- Closed connections are in no table and get no other event, and the tables lead to open ones. -/
def ClosedGone (l : ListenerBase) : Prop :=
  (∀ before id after, l.trace = before ++ .connectionClosed id :: after →
    l.connections.lookup id = none ∧ (∀ u, l.connIdByUpstreamConnId.lookup u ≠ some id) ∧
    .connectionClosed id ∉ after ∧ ∀ data, .read id data ∉ after) ∧
  (∀ id, (l.connections.lookup id).isSome → .connectionClosed id ∉ l.trace) ∧
  ∀ u id, l.connIdByUpstreamConnId.lookup u = some id → .connectionClosed id ∉ l.trace

/-- Closed connections are gone exactly in the runs in which no connection is closed. -/
theorem closedGone_iff {inputs : List Input} (hrun : Run step anyStep {} inputs l) :
    ClosedGone l ↔ Run step Keeps {} inputs l := by
  have ha : Stays l :=
    hrun.invariant (P := Stays) (by simp [Stays, closedIds]) fun s i t hs _ hst ↦ hs.step hst
  rw [← run_keeps_iff hrun rfl]
  constructor
  · intro hg
    rw [eq_nil_iff_forall_not_mem]
    intro id hi
    exact hg.2.1 id (ha id hi) (mem_closedIds.1 hi)
  · intro hl
    have hn : ∀ id, .connectionClosed id ∉ l.trace := by
      intro id hi
      have hm := mem_closedIds.2 hi
      rw [hl] at hm
      cases hm
    refine ⟨fun b id a ht ↦ ?_, fun id _ ↦ hn id, fun _ id _ ↦ hn id⟩
    refine absurd ?_ (hn id)
    rw [ht]
    simp

def someInfo : ConnectionInfo :=
  { upstreamConnId := 5
    proto := .tcp
    addrs := ⟨⟨.inet, 0, 0⟩, .socketAddress ⟨.inet, 0, plainDnsPortNumber⟩⟩ }

/-- One connection, which stays open. -/
theorem closedGone_iff_of_open : ∃ l, Run step Keeps {}
    [.sendAsListener 0 someInfo [7] false, .resume 0, .completeConnectRequest 0 .pass, .resume 0,
      .resume 3] l ∧ ClosedGone l :=
  exists_run_imp (P := fun _ ↦ True) (by decide)
    fun _ hr _ ↦ (closedGone_iff (hr.mono fun _ _ _ ↦ trivial)).2 hr

/-- The tunnel closes a connection; the next message is sent on it nevertheless, and the
connection is closed once more. -/
theorem closed_connection_reused : ∃ l, Run step anyStep {}
    [.sendAsListener 0 someInfo [7] false, .resume 0, .completeConnectRequest 0 .pass, .resume 0,
      .resume 3, .closeConnection 0 false, .sendAsListener 0 someInfo [8] false, .resume (-1),
      .task, .resume 0] l ∧
      l.trace = [.connectRequest 0 .tcp someInfo.addrs false, .connectionAccepted 0,
        .read 0 [0, 1, 7], .connectionClosed 0, .read 0 [0, 1, 8], .connectionClosed 0] ∧
      (l.connections.lookup 0).isSome ∧ l.connIdByUpstreamConnId.lookup 5 = some 0 :=
  exists_run (by decide)

end TrustTunnel.Dns.ListenerLifecycle

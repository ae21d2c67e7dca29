import Mathlib.Logic.Relation
import TrustTunnel.Lib.Trace
import TrustTunnel.Upstream.Http3.Connections

namespace TrustTunnel.Upstream.Http3.Moves

open Connections Http3Upstream Lib.Assoc Lib.Trace Upstream.Types Option
open Relation (ReflTransGen)

variable {e : Event}

def subject : Event → Option ℕ
  | .connectionOpened id => some id
  | .connectionClosed id _ _ => some id
  | .error id _ => some id
  | .read id _ _ => some id
  | .dataSent id _ => some id
  | _ => none

def silent : Event → Bool
  | .closeRequested _ | .connectRequest _ _ | .resetStream _ _ => true
  | _ => false

abbrev Over (id : ℕ) (trace : List Event) : Prop := Ended Event.terminal id trace

def view (conn : TcpConnection) : ℕ × List UInt8 := (conn.streamId, conn.unread)

def unreadSum (u : Http3Upstream) : ℕ :=
  sumOf (fun conn : TcpConnection ↦ conn.unread.length) u.tcpConnections

def IsMux (u : Http3Upstream) (streamId : ℕ) : Prop :=
  u.udpMuxStream = some streamId ∨ u.icmpMuxStream = some streamId ∨
    u.healthCheckStream = some streamId

structure Calm (u v : Http3Upstream) : Prop where
  conns : ∀ id, (v.tcpConnections.lookup id).map view = (u.tcpConnections.lookup id).map view
  unreadSum : unreadSum v = unreadSum u
  byStream : v.tcpConnByStreamId = u.tcpConnByStreamId
  retriable : v.retriableTcpRequests = u.retriableTcpRequests
  total : v.totalUnreadBytes = u.totalUnreadBytes
  surplus : v.connFcSurplus = u.connFcSurplus
  session : v.session = u.session
  nextStreamId : v.nextStreamId = u.nextStreamId
  mux : ∀ streamId, IsMux v streamId → IsMux u streamId
  events : ∃ es, v.trace = u.trace ++ es ∧ ∀ e ∈ es, silent e
  closing : ∀ id, (v.closingConnections.lookup id).isSome →
    (u.closingConnections.lookup id).isSome ∨ (.accepted id ∈ u.trace ∧ ¬ Over id u.trace)

variable {ev : Env} {u v w : Http3Upstream} {id : ℕ}

theorem terminal_of_silent (h : silent e) : e.terminal = none := by
  cases e <;> first | rfl | cases h

theorem subject_of_silent (h : silent e) : subject e = none := by
  cases e <;> first | rfl | cases h

namespace Calm

theorem refl (u : Http3Upstream) : Calm u u :=
  ⟨fun _ ↦ rfl, rfl, rfl, rfl, rfl, rfl, rfl, rfl, fun _ h ↦ h, ⟨[], by simp, by simp⟩,
    fun _ h ↦ .inl h⟩

theorem over_iff (h : Calm u v) : Over id v.trace ↔ Over id u.trace := by
  obtain ⟨es, ht, hs⟩ := h.events
  rw [ht]
  exact ended_append_of_forall fun e he ↦ terminal_of_silent (hs e he)

theorem mem_iff (h : Calm u v) (he : silent e = false) : e ∈ v.trace ↔ e ∈ u.trace := by
  obtain ⟨es, ht, hs⟩ := h.events
  rw [ht, List.mem_append, or_iff_left]
  intro hm
  rw [hs e hm] at he
  cases he

theorem trans (h : Calm u v) (h' : Calm v w) : Calm u w where
  conns := fun id ↦ (h'.conns id).trans (h.conns id)
  unreadSum := h'.unreadSum.trans h.unreadSum
  byStream := h'.byStream.trans h.byStream
  retriable := h'.retriable.trans h.retriable
  total := h'.total.trans h.total
  surplus := h'.surplus.trans h.surplus
  session := h'.session.trans h.session
  nextStreamId := h'.nextStreamId.trans h.nextStreamId
  mux := fun s hs ↦ h.mux s (h'.mux s hs)
  events := by
    obtain ⟨es, htr, hes⟩ := h.events
    obtain ⟨es', ht, hes'⟩ := h'.events
    refine ⟨es ++ es', by rw [ht, htr, List.append_assoc], fun e he ↦ ?_⟩
    rcases List.mem_append.1 he with he | he
    · exact hes e he
    · exact hes' e he
  closing := by
    intro id hi
    rcases h'.closing id hi with hi | ⟨ha, ho⟩
    · exact h.closing id hi
    · exact .inr ⟨(h.mem_iff rfl).1 ha, fun hc ↦ ho (h.over_iff.2 hc)⟩

theorem isSome_lookup (h : Calm u v) (id : ℕ) :
    (v.tcpConnections.lookup id).isSome = (u.tcpConnections.lookup id).isSome := by
  have hc := congrArg isSome (h.conns id)
  rwa [isSome_map, isSome_map] at hc

theorem exists_conn (h : Calm u v) {cn : TcpConnection}
    (hn : u.tcpConnections.lookup id = some cn) :
    ∃ c, v.tcpConnections.lookup id = some c ∧ c.streamId = cn.streamId ∧ c.unread = cn.unread := by
  have hs := h.conns id
  rw [hn, map_some, map_eq_some_iff] at hs
  obtain ⟨c, hc, hv⟩ := hs
  exact ⟨c, hc, congrArg Prod.fst hv, congrArg Prod.snd hv⟩

theorem symm_conn (h : Calm u v) {c : TcpConnection} (hn : v.tcpConnections.lookup id = some c) :
    ∃ cn, u.tcpConnections.lookup id = some cn ∧ cn.streamId = c.streamId ∧
      cn.unread = c.unread := by
  have hc := (h.conns id).symm
  rw [hn, map_some, map_eq_some_iff] at hc
  obtain ⟨cn, hn, hv⟩ := hc
  exact ⟨cn, hn, congrArg Prod.fst hv, congrArg Prod.snd hv⟩

theorem streamIds (h : Calm u v) (id : ℕ) :
    (v.tcpConnections.lookup id).map TcpConnection.streamId =
    (u.tcpConnections.lookup id).map TcpConnection.streamId := by
  have hv := congrArg (Option.map Prod.fst) (h.conns id)
  rwa [Option.map_map, Option.map_map] at hv

theorem unreadOf (h : Calm u v) (id : ℕ) : v.unreadOf id = u.unreadOf id := by
  have hs := h.conns id
  rw [Http3Upstream.unreadOf, Http3Upstream.unreadOf]
  cases hu : u.tcpConnections.lookup id with
  | none =>
    rw [hu, map_none, map_eq_none_iff] at hs
    rw [hs]
  | some conn =>
    obtain ⟨c, hc, _, hr⟩ := h.exists_conn hu
    rw [hc]
    exact hr

end Calm

theorem calm_emit (he : silent e) : Calm u (u.emit e)  where
  conns := fun _ ↦ rfl
  unreadSum := rfl
  byStream := rfl
  retriable := rfl
  total := rfl
  surplus := rfl
  session := rfl
  nextStreamId := rfl
  mux := fun _ h ↦ h
  events := ⟨[e], rfl, by simpa using he⟩
  closing := fun _ h ↦ .inl h

theorem calm_modifyConnection {f : TcpConnection → TcpConnection}
    (hf : ∀ c, u.tcpConnections.lookup id = some c → view (f c) = view c) :
    Calm u (u.modifyConnection id f) where
  conns := by
    intro i
    change ((modify u.tcpConnections id f).lookup i).map view = _
    rw [lookup_modify]
    split
    · next hi =>
      subst hi
      cases hc : u.tcpConnections.lookup i with
      | none => rfl
      | some c => exact congrArg some (hf c hc)
    · rfl
  unreadSum := sumOf_modify_same _ fun c hc ↦
    congrArg (fun p : ℕ × List UInt8 ↦ p.2.length) (hf c hc)
  byStream := rfl
  retriable := rfl
  total := rfl
  surplus := rfl
  session := rfl
  nextStreamId := rfl
  mux := fun _ h ↦ h
  events := ⟨[], by simp [modifyConnection], by simp⟩
  closing := fun _ h ↦ .inl h

theorem accepted_of_mayClose (h : u.mayClose id) : .accepted id ∈ u.trace ∧ ¬ Over id u.trace := by
  simp only [mayClose, Bool.and_eq_true, List.contains_iff_mem, Bool.not_eq_true',
    List.any_eq_false, decide_eq_true_eq] at h
  exact ⟨h.1.1, fun ⟨e, he, ht⟩ ↦ h.2 e he ht⟩

theorem calm_deferClose (h : u.mayClose id) (g : Bool) :
    Calm u ((u.emit (.closeRequested id)).deferClose id g) where
  conns := fun _ ↦ rfl
  unreadSum := rfl
  byStream := rfl
  retriable := rfl
  total := rfl
  surplus := rfl
  session := rfl
  nextStreamId := rfl
  mux := fun _ h ↦ h
  events := ⟨[.closeRequested id], rfl, by simp [silent]⟩
  closing := by
    intro i hi
    change ((u.closingConnections.insert id g).lookup i).isSome at hi
    rw [lookup_insert] at hi
    split at hi
    · next he =>
      subst he
      exact .inr (accepted_of_mayClose h)
    · exact .inl hi

theorem calm_updateFlowControl (on : Bool) : Calm u (u.updateFlowControl id on) := by
  simp only [updateFlowControl]
  split
  · exact .refl u
  · have hm : Calm u (u.modifyConnection id fun c ↦ { c with readEnabled := on }) :=
      calm_modifyConnection fun _ _ ↦ rfl
    exact ⟨hm.conns, hm.unreadSum, rfl, rfl, rfl, rfl, rfl, rfl, hm.mux, hm.events, hm.closing⟩

theorem calm_call (c : Call) : Calm u (u.call c) := by
  cases c with
  | updateFlowControl id on => exact calm_updateFlowControl on
  | closeConnection id g =>
    simp only [call]
    split
    · next h => exact calm_deferClose h g
    · exact .refl u

theorem calm_calls (cs : List Call) : Calm u (cs.foldl call u) := by
  induction cs generalizing u with
  | nil => exact .refl u
  | cons c cs ih => exact (calm_call c).trans ih

theorem calm_runHandler : Calm u (u.runHandler ev) := calm_calls _

theorem calm_closeStream (si : ℕ) (g : Bool) : Calm u (u.closeStream si g) := by
  have he : Calm u (u.emit (.resetStream si g)) := calm_emit rfl
  simp only [closeStream]
  split
  · exact he
  · exact he.trans (calm_modifyConnection fun _ _ ↦ rfl)

theorem calm_noteAppProgress : Calm u u.noteAppProgress := by
  simp only [noteAppProgress]
  split
  · exact .refl u
  · next si _ =>
    have hc : Calm u (u.closeStream si true) := calm_closeStream si true
    refine hc.trans ⟨fun _ ↦ rfl, rfl, rfl, rfl, rfl, rfl, rfl, rfl, fun s hs ↦ ?_,
      ⟨[], by simp, by simp⟩, fun _ h ↦ .inl h⟩
    rcases hs with hs | hs | hs
    · exact .inl hs
    · exact .inr (.inl hs)
    · cases hs

/-- What the upstream does to the connections that it has. -/
inductive Move : Http3Upstream → Http3Upstream → Prop
  | calm {u v : Http3Upstream} (h : Calm u v) : Move u v
  | tell (u : Http3Upstream) (id : ℕ) (e : Event)
      (hid : (u.tcpConnections.lookup id).isSome)
      (he : e = .connectionOpened id ∨ ∃ n, e = .dataSent id n) : Move u (u.emit e)
  | pass (u : Http3Upstream) (id : ℕ) (data : List UInt8) (r : Option ℕ)
      (hid : (u.tcpConnections.lookup id).isSome) (hr : r = none ∨ r = some 0) :
      Move u (u.emit (.read id data r))
  | take {u v : Http3Upstream} (id : ℕ) (conn : TcpConnection) (data : List UInt8) (r : ℕ)
      (hconn : u.tcpConnections.lookup id = some conn) (hdata : data <+: conn.unread)
      (hpos : 0 < r) (hr : r ≤ data.length) (h : Calm (u.emit (.read id data (some r))) v) :
      Move u ((v.drain id r).creditStreamFc conn.streamId r)
  | finish (u : Http3Upstream) (id : ℕ) (e : Event)
      (hid : (u.tcpConnections.lookup id).isSome) (he : e.terminal = some id)
      (hpeer : ∀ unread, e = .connectionClosed id .peer unread → unread = []) :
      Move u ((u.emit e).cleanTcpConnectionData id)

abbrev Moved : Http3Upstream → Http3Upstream → Prop := ReflTransGen Move

theorem Calm.moves (h : Calm u v) : Moved u v := .single (.calm h)

theorem moves_modifyConnection {f : TcpConnection → TcpConnection}
    (hf : ∀ c, view (f c) = view c) : Moved u (u.modifyConnection id f) :=
  (calm_modifyConnection fun c _ ↦ hf c).moves

theorem moves_finishClosed {c : Cause} (hi : (u.tcpConnections.lookup id).isSome)
    (h : c = .peer → u.unreadOf id = []) : Moved u (u.finishClosed ev id c) := by
  have hc : Calm u (u.runHandler ev) := calm_runHandler
  refine hc.moves.tail (.finish _ id _ (by rwa [hc.isSome_lookup]) rfl ?_)
  intro ud he
  cases he
  rw [hc.unreadOf]
  exact h rfl

theorem moves_finishError (hi : (u.tcpConnections.lookup id).isSome) (e : ServerError) :
    Moved u (u.finishError ev id e) := by
  have hc : Calm u (u.runHandler ev) := calm_runHandler
  refine hc.moves.tail (.finish _ id _ (by rwa [hc.isSome_lookup]) rfl ?_)
  intro ud he
  cases he

theorem calm_closeStreamOf (g : Bool) : Calm u (u.closeStreamOf id g) := by
  simp only [closeStreamOf]
  split
  · exact .refl u
  split
  · exact .refl u
  · exact calm_closeStream _ _

theorem closeTcpConnection_eq (ev : Env) (u : Http3Upstream) (id : ℕ) (g : Bool) :
    ∃ v, Calm u v ∧ u.closeTcpConnection ev id g =
      (v.emit (.connectionClosed id .own (v.unreadOf id))).cleanTcpConnectionData id :=
  ⟨_, (calm_closeStreamOf g).trans calm_runHandler, rfl⟩

theorem moves_closeTcpConnection (hi : (u.tcpConnections.lookup id).isSome) (g : Bool) :
    Moved u (u.closeTcpConnection ev id g) := by
  obtain ⟨v, hc, hq⟩ := closeTcpConnection_eq ev u id g
  rw [hq]
  refine hc.moves.tail (.finish v id _ (by rwa [hc.isSome_lookup]) rfl ?_)
  intro ud he
  cases he

theorem raiseReadEvent_cases (ev : Env) (u : Http3Upstream) (id : ℕ) (d : List UInt8) :
    ∃ v, Calm u v ∧ Calm (v.emit (.read id d (u.raiseReadEvent ev id d).2))
        (u.raiseReadEvent ev id d).1 ∧ ∀ r ∈ (u.raiseReadEvent ev id d).2, r ≤ d.length := by
  refine ⟨u.runHandler ev, calm_runHandler, ?_, ?_⟩
  · simp only [raiseReadEvent]
    split
    · exact calm_noteAppProgress
    · exact .refl _
  · intro r hr
    simp only [raiseReadEvent] at hr
    obtain ⟨n, _, rfl⟩ := map_eq_some_iff.1 hr
    exact Nat.min_le_right _ _

theorem moves_raiseReadEvent (ev : Env) (hi : (u.tcpConnections.lookup id).isSome)
    (d : List UInt8)
    (hr : (u.raiseReadEvent ev id d).2 = none ∨ (u.raiseReadEvent ev id d).2 = some 0) :
    Moved u (u.raiseReadEvent ev id d).1 := by
  obtain ⟨v, hc, ha, _⟩ := raiseReadEvent_cases ev u id d
  exact (hc.moves.tail (.pass v id d _ (by rwa [hc.isSome_lookup]) hr)).trans ha.moves

theorem moves_readOutLoop (id fuel : ℕ) : Moved u (readOutLoop env id fuel u).1 := by
  induction fuel generalizing u with
  | zero => exact .refl
  | succ fuel ih =>
    simp only [readOutLoop]
    split
    · exact .refl
    next conn hn =>
    split
    · exact .refl
    split
    · exact .refl
    next size _ =>
    have hi : (u.tcpConnections.lookup id).isSome := by rw [hn]; rfl
    have hp := moves_raiseReadEvent env hi (conn.unread.take (size + 1))
    obtain ⟨v, hc, ha, hl⟩ := raiseReadEvent_cases env u id (conn.unread.take (size + 1))
    split
    · next next he =>
      rw [he] at hp
      exact hp (.inl rfl)
    · next next he =>
      rw [he] at hp
      exact hp (.inr rfl)
    · next next r he =>
      rw [he] at ha hl
      obtain ⟨c, h', hs, hu⟩ := hc.exists_conn hn
      refine (hc.moves.tail ?_).trans ih
      rw [← hs]
      exact .take id c _ (r + 1) h' (hu ▸ List.take_prefix _ _) (Nat.succ_pos r) (hl _ rfl) ha

theorem moves_readOutPendingData (id : ℕ) (c : TcpConnection) :
    Moved u (u.readOutPendingData ev id c).1 := by
  have hl : Moved u (readOutLoop ev id c.unread.length u).1 := moves_readOutLoop id _
  simp only [readOutPendingData]
  split
  · exact .refl
  split
  · next h =>
    refine hl.trans (Calm.moves (calm_modifyConnection fun c' hc ↦ ?_))
    have hu := h.2
    rw [unreadOf, hc] at hu
    rw [view, view]
    exact congrArg (Prod.mk _) (Eq.symm hu)
  · exact hl

theorem moves_finishPending (id : ℕ) : Moved u (u.finishPending ev id) := by
  simp only [finishPending]
  split
  · exact .refl
  next c hc =>
  split
  · next h =>
    rw [Bool.and_eq_true, List.isEmpty_iff] at h
    refine moves_finishClosed (by rw [hc]; rfl) fun _ ↦ ?_
    rw [unreadOf, hc]
    exact h.2
  · exact .refl

theorem isSome_modifyConnection (f : TcpConnection → TcpConnection) (i : ℕ) :
    ((u.modifyConnection id f).tcpConnections.lookup i).isSome =
      (u.tcpConnections.lookup i).isSome := by
  change ((modify u.tcpConnections id f).lookup i).isSome = _
  rw [lookup_modify]
  split
  · next hi => rw [isSome_map, hi]
  · rfl

theorem tcpConnections_creditStreamFc (si l : ℕ) :
    (u.creditStreamFc si l).tcpConnections = u.tcpConnections := by
  rw [creditStreamFc]
  split <;> rfl

theorem isSome_readOutLoop (fuel : ℕ) :
    ((readOutLoop env id fuel u).1.tcpConnections.lookup id).isSome =
      (u.tcpConnections.lookup id).isSome := by
  induction fuel generalizing u with
  | zero => rfl
  | succ fuel ih =>
    simp only [readOutLoop]
    split
    · rfl
    next conn hn =>
    split
    · rfl
    split
    · rfl
    next size _ =>
    obtain ⟨v, hc, ha, _⟩ := raiseReadEvent_cases env u id (conn.unread.take (size + 1))
    have hr := (ha.isSome_lookup id).trans (hc.isSome_lookup id)
    split
    · next next he =>
      rw [he] at hr
      exact hr
    · next next he =>
      rw [he] at hr
      exact hr
    · next next r he =>
      rw [he] at hr
      rw [ih, tcpConnections_creditStreamFc]
      exact (isSome_modifyConnection _ id).trans hr

theorem isSome_readOutPendingData (c : TcpConnection) :
    ((u.readOutPendingData ev id c).1.tcpConnections.lookup id).isSome =
      (u.tcpConnections.lookup id).isSome := by
  simp only [readOutPendingData]
  split
  · rfl
  split
  · exact (isSome_modifyConnection _ id).trans (isSome_readOutLoop _)
  · exact isSome_readOutLoop _

theorem lookup_of_getTcpConnByStreamId {si : ℕ} {conn : TcpConnection}
    (h : u.getTcpConnByStreamId si = some (id, conn)) :
    u.tcpConnByStreamId.lookup si = some id ∧ u.tcpConnections.lookup id = some conn := by
  simp only [getTcpConnByStreamId, bind_eq_bind, bind_eq_some_iff, pure_def,
    some.injEq, Prod.mk.injEq] at h
  obtain ⟨i, hi, c, hc, rfl, rfl⟩ := h
  exact ⟨hi, hc⟩

theorem moves_processPendingData (si : ℕ) : Moved u (u.processPendingData ev si) := by
  simp only [processPendingData]
  split
  · exact .refl
  next id c hg =>
  have hr : Moved u (u.readOutPendingData ev id c).1 := moves_readOutPendingData id c
  split
  · exact hr.trans (moves_finishPending id)
  · refine hr.trans (moves_closeTcpConnection ?_ false)
    rw [isSome_readOutPendingData, (lookup_of_getTcpConnByStreamId hg).2]
    rfl

theorem moves_completeReadOf (id : ℕ) : Moved u (u.completeReadOf ev id) := by
  simp only [completeReadOf]
  split
  · exact .refl
  split
  · exact .refl
  · exact moves_processPendingData _

theorem moves_foldl {α : Type} {f : Http3Upstream → α → Http3Upstream}
    (hf : ∀ u a, Moved u (f u a)) (l : List α) : Moved u (l.foldl f u) := by
  induction l generalizing u with
  | nil => exact .refl
  | cons a l ih => exact (hf u a).trans ih

theorem calm_tasks (cr ns cs pr : Bool) {up i hc : Option ℕ}
    (hu : up = u.udpMuxStream ∨ up = none) (hp : i = u.icmpMuxStream ∨ i = none)
    (hh : hc = u.healthCheckStream ∨ hc = none) : Calm u { u with
      completeReadTask := cr
      notifySentTask := ns
      closeConnectionsTask := cs
      postReceiveTask := pr
      udpMuxStream := up
      icmpMuxStream := i
      healthCheckStream := hc } := by
  refine ⟨fun _ ↦ rfl, rfl, rfl, rfl, rfl, rfl, rfl, rfl, fun s hs ↦ ?_, ⟨[], by simp, by simp⟩,
    fun _ h ↦ .inl h⟩
  have he : ∀ {a b : Option ℕ}, a = b ∨ a = none → a = some s → b = some s := by
    rintro a b (rfl | rfl) h
    · exact h
    · cases h
  rcases hs with hs | hs | hs
  · exact .inl (he hu hs)
  · exact .inr (.inl (he hp hs))
  · exact .inr (.inr (he hh hs))

theorem calm_healthCheckFailed (f : Bool) : Calm u { u with healthCheckFailed := f } :=
  ⟨fun _ ↦ rfl, rfl, rfl, rfl, rfl, rfl, rfl, rfl, fun _ hs ↦ hs, ⟨[], by simp, by simp⟩,
    fun _ h ↦ .inl h⟩

theorem moves_completeRead (o : List ℕ) : Moved u (u.completeRead ev o) :=
  (Calm.moves (calm_tasks false _ _ _ (.inl rfl) (.inl rfl) (.inl rfl))).trans
    (moves_foldl (fun _ id ↦ moves_completeReadOf id) o)

theorem moves_pollRead (id : ℕ) : Moved u (u.pollRead ev id) := by
  simp only [pollRead]
  split
  · exact .refl
  split
  · exact moves_processPendingData _
  · exact .refl

theorem moves_raise_tell (id : ℕ) (hi : (u.tcpConnections.lookup id).isSome)
    (he : e = .connectionOpened id ∨ ∃ n, e = .dataSent id n) : Moved u (u.raise ev e) := by
  have hc : Calm u (u.runHandler ev) := calm_runHandler
  exact hc.moves.tail (.tell _ id e (by rwa [hc.isSome_lookup]) he)

theorem moves_pollSent (id : ℕ) : Moved u (u.pollSent ev id) := by
  simp only [pollSent]
  split
  · exact .refl
  next c hc =>
  split
  · refine ReflTransGen.trans ?_ (moves_raise_tell id ?_ (.inr ⟨_, rfl⟩))
    · exact moves_modifyConnection fun _ ↦ rfl
    · rw [isSome_modifyConnection, hc]
      rfl
  · exact .refl

theorem moves_pollTcpConnections (o : List ℕ) : Moved u (u.pollTcpConnections ev o) :=
  moves_foldl (fun _ id ↦ (moves_pollRead id).trans (moves_pollSent id)) o

theorem moves_handleResponse (si sc : ℕ) (e : ServerError) :
    Moved u (u.handleResponse ev si sc e) := by
  simp only [handleResponse]
  split
  · exact .refl
  split
  · exact .refl
  split
  · exact (calm_healthCheckFailed _).moves
  split
  · exact (calm_closeStream _ _).moves
  next id c hg =>
  split
  · refine ReflTransGen.trans ?_ (moves_raise_tell id ?_ (.inl rfl))
    · exact moves_modifyConnection fun _ ↦ rfl
    · rw [isSome_modifyConnection, (lookup_of_getTcpConnByStreamId hg).2]
      rfl
  · exact moves_modifyConnection fun _ ↦ rfl

theorem moves_onTcpStreamClosed (si : ℕ) : Moved u (u.onTcpStreamClosed ev si).1 := by
  simp only [onTcpStreamClosed]
  split
  · exact .refl
  next id c hg =>
  have hc := (lookup_of_getTcpConnByStreamId hg).2
  have hi : (u.tcpConnections.lookup id).isSome := by rw [hc]; rfl
  split
  · exact moves_finishError hi _
  split
  · next he =>
    refine moves_finishClosed hi fun _ ↦ ?_
    rw [unreadOf, hc]
    exact List.isEmpty_iff.1 he
  · exact moves_modifyConnection fun _ ↦ rfl

/-- The end of a stream is made of moves, whatever the stream was for. -/
theorem moves_onStreamClosed (si : ℕ) : Moved u (u.onStreamClosed ev si) := by
  simp only [onStreamClosed]
  split
  · exact ((calm_tasks _ _ _ _ (.inr rfl) (.inl rfl) (.inl rfl)).trans (calm_closeStream _ _)).moves
  split
  · exact ((calm_tasks _ _ _ _ (.inl rfl) (.inr rfl) (.inl rfl)).trans (calm_closeStream _ _)).moves
  split
  · exact ((calm_tasks _ _ _ _ (.inl rfl) (.inl rfl) (.inr rfl)).trans (calm_closeStream _ _)).moves
  split
  · exact moves_onTcpStreamClosed si
  · exact (moves_onTcpStreamClosed si).trans (calm_closeStream _ _).moves

theorem calm_send (l : ℕ) (s : Bool) : Calm u (u.send id l s) := by
  rw [send]
  split
  · exact calm_modifyConnection fun _ _ ↦ rfl
  · exact .refl u

theorem calm_availableToSend : Calm u (u.availableToSend ev id) := by
  simp only [availableToSend]
  split
  · exact .refl u
  split
  · exact calm_modifyConnection fun _ _ ↦ rfl
  · exact .refl u

theorem calm_consume (l : ℕ) : Calm u (u.consume id l) := by
  rw [consume]
  split
  · exact .refl u
  · exact calm_noteAppProgress

end TrustTunnel.Upstream.Http3.Moves

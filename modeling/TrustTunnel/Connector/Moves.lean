import TrustTunnel.Connector.Handover

namespace TrustTunnel.Connector.Moves

open Connector.Composition Handover Session.Types Relation List Option
open Fallbackable hiding Record
open Single hiding State Event fsm raiseConnected raiseDisconnected submitDisconnect
open Session.Client hiding Move

variable {c c' : EndpointConnector} {data : Option VpnError} {event : SessionEvent}

structure View where
  state : State
  tasks : List DeferredTask
  pending : Option VpnError
  connector : Option EndpointConnector
  upstream : Option ServerUpstream
  connects : ℕ
  trace : List Record

def view (s : System) : View where
  state := s.client.state
  tasks := s.client.deferredTasks
  pending := s.client.pendingError
  connector := s.connector
  upstream := s.upstream
  connects := s.connects
  trace := s.trace

def finalEvent : Option VpnError → Event
  | none => .disconnected
  | some e => .error e

structure Allowance where
  dnsFailure : Bool
  interrupt : Bool

/-- What the moves may be: a DNS listener that fails, and the states in which `disconnect` comes. -/
structure Limits where
  dnsFailure : Bool
  disconnects : View → Prop

def closed (upstream : Option ServerUpstream) : Option ServerUpstream :=
  upstream.map ServerUpstream.closeSession

def Steps (c c' : EndpointConnector) (r : Option EndpointConnectorResult) : Prop :=
  ∃ input, c.step input = some (c', r) ∧
    ∀ child event, input = .handedEvent child event → endsSession event = false

/-- What a step of the system can do, if no open session ends while there is a connector. -/
inductive Move (m : Limits) (v : View) : View → Prop
  | connect (c : EndpointConnector) (started : Option VpnError) (bypassOpened : Bool)
      (returned : VpnError) (hstate : v.state = .disconnected) (hc : HandsOpen c)
      (hreturned : returned.code = .noerror) : Move m v { v with
        state := .connecting
        pending := none
        connector := some c
        connects := v.connects + 1
        trace := v.trace ++ [.connectReturned (v.connects + 1) started bypassOpened returned] }
  | connectFailed (started : Option VpnError) (bypassOpened : Bool) (returned : VpnError)
      (hstate : v.state = .disconnected)
      (hreason : v.pending = none → (∃ e, started = some e ∧ e.code ≠ .noerror ∧
        returned = connectFailure e) ∨ bypassOpened = false) : Move m v { v with
        tasks := []
        pending := none
        connector := none
        upstream := closed v.upstream
        connects := v.connects + 1
        trace := v.trace ++ [.connectReturned (v.connects + 1) started bypassOpened returned] }
  | disconnectIdle (hstate : v.state = .disconnected) :
      Move m v { v with trace := v.trace ++ [.disconnectCalled v.connects] }
  | disconnect (hstate : v.state ≠ .disconnected) (hallowed : m.disconnects v) : Move m v { v with
        state := .disconnected
        tasks := []
        connector := none
        upstream := closed v.upstream
        trace := v.trace ++ [.disconnectCalled v.connects] }
  | silent {c c' : EndpointConnector} (hc : v.connector = some c) (hstep : Steps c c' none) :
      Move m v { v with connector := some c' }
  | outcomeError {c c' : EndpointConnector} {e : VpnError} (hc : v.connector = some c)
      (hstep : Steps c c' (some (.error e))) : Move m v { v with
        connector := some c'
        pending := some e
        tasks := v.tasks ++ [.connectorFinalizer]
        trace := v.trace ++ [.errorArose v.connects e] }
  | outcome {c c' : EndpointConnector} {u : ServerUpstream} (hc : v.connector = some c)
      (hstep : Steps c c' (some (.upstream u))) : Move m v { v with
        connector := some c'
        upstream := some u
        pending := none
        tasks := v.tasks ++ [.connectorFinalizer] }
  | outcomeDns {c c' : EndpointConnector} {u : ServerUpstream} (e : VpnError)
      (ha : m.dnsFailure = true) (hc : v.connector = some c)
      (hstep : Steps c c' (some (.upstream u))) : Move m v { v with
        connector := some c'
        upstream := some u
        pending := some e
        tasks := v.tasks ++ [.connectorFinalizer]
        trace := v.trace ++ [.errorArose v.connects e] }
  | errorIgnored (e : VpnError) :
      Move m v { v with trace := v.trace ++ [.errorArose v.connects e] }
  | fail {data : Option VpnError} (hstate : v.state = .connected)
      (hdata : ∀ e, data = some e → .errorArose v.connects e ∈ v.trace) : Move m v { v with
        state := .disconnecting
        pending := keepFirstError v.pending data
        tasks := v.tasks ++ [.deferredDisconnect] }
  | sessionError {u u' : ServerUpstream} {e : VpnError} (hconnector : v.connector = none)
      (hu : v.upstream = some u) (hraise : u.raise (.error e) = some u')
      (hstate : v.state ≠ .connected) : Move m v { v with
        upstream := some u'
        trace := v.trace ++ [.sessionEnded v.connects u'.id, .errorArose v.connects e] }
  | sessionErrorConnected {u u' : ServerUpstream} {e : VpnError} (hu : v.upstream = some u)
      (hraise : u.raise (.error e) = some u') (hstate : v.state = .connected) : Move m v { v with
        upstream := some u'
        state := .disconnecting
        pending := keepFirstError v.pending (some e)
        tasks := v.tasks ++ [.deferredDisconnect]
        trace := v.trace ++ [.sessionEnded v.connects u'.id, .errorArose v.connects e] }
  | sessionClosed {u u' : ServerUpstream} (hconnector : v.connector = none)
      (hu : v.upstream = some u) (hraise : u.raise .sessionClosed = some u') : Move m v { v with
        upstream := some u'
        state := .disconnected
        pending := none
        trace := v.trace ++ [.sessionEnded v.connects u'.id,
          .raised v.connects (finalEvent v.pending) (some u')] }
  /-- The assertion of `vpn_upstream_handler` that the session is not opened again. -/
  | sessionOpened {u u' : ServerUpstream} (hu : v.upstream = some u)
      (hraise : u.raise .sessionOpened = some u') : Move m v { v with upstream := some u' }
  | finalizeError {e : VpnError} (htask : .connectorFinalizer ∈ v.tasks)
      (hpending : v.pending = some e) : Move m v { v with
        state := .disconnected
        pending := none
        connector := none
        tasks := v.tasks.erase .connectorFinalizer
        trace := v.trace ++ [.raised v.connects (.error e) v.upstream] }
  | finalize (htask : .connectorFinalizer ∈ v.tasks) (hpending : v.pending = none)
      (hstate : v.state = .connecting) : Move m v { v with
        state := .connected
        connector := none
        tasks := v.tasks.erase .connectorFinalizer
        trace := v.trace ++ [.raised v.connects .connected v.upstream] }
  | finalizeLate (hstate : v.state ≠ .connecting) : Move m v { v with
        connector := none
        tasks := v.tasks.erase .connectorFinalizer }
  | deferred (hstate : v.state = .disconnecting) : Move m v { v with
        state := .disconnected
        tasks := []
        pending := none
        connector := none
        upstream := closed v.upstream
        trace := v.trace ++ [.raised v.connects (finalEvent v.pending) (closed v.upstream)] }
  | deferredLate (hstate : v.state ≠ .disconnecting) : Move m v { v with
        tasks := v.tasks.erase .deferredDisconnect }

/-- No open session ends while there is a connector; what else may happen is up to `a`. -/
def undisturbed (a : Allowance) (s : System) : Input → Bool
  | .connector (.handedEvent _ event) _ => !endsSession event
  | .connector _ dnsProxy => a.dnsFailure || dnsProxy.isNone
  | .endpoint event => !endsSession event || s.connector.isNone
  | .disconnect => a.interrupt || s.client.pendingError.isNone
  | _ => true

section Steps

variable {a : Allowance} {m : Limits} {s t : System}

abbrev Moves (m : Limits) (s t : System) : Prop := ReflTransGen (Move m) (view s) (view t)

theorem moves_of_eq (h : view t = view s) : Moves m s t := by
  rw [Moves, h]

theorem moves_of_move {v : View} (h : Move m (view s) v) (hv : view t = v) : Moves m s t := by
  rw [Moves, hv]
  exact .single h

theorem performTransition_stays (h : System.runsDisconnect s.client.state event = false) :
    s.performTransition event data = s.setClient (s.client.performTransition event data) := by
  rw [System.performTransition, h, if_neg Bool.false_ne_true]

theorem performTransition_runs (h : System.runsDisconnect s.client.state event = true) :
    s.performTransition event data =
      s.runDisconnect.setClient (s.client.performTransition event data) := by
  rw [System.performTransition, h, if_pos rfl]

theorem moves_submit (s : System)
    (h : event = .sessionError ∨ event = .runPreparationFail ∨ event = .healthCheckError)
    (ha : ∀ e, data = some e → .errorArose s.connects e ∈ s.trace) :
    Moves m s (s.performTransition event data) := by
  have hr : System.runsDisconnect s.client.state event = false := by
    rcases h with rfl | rfl | rfl <;> rfl
  rw [performTransition_stays hr, System.setClient, performTransition_submitDisconnect _ _ h]
  by_cases hst : s.client.state = .connected
  · rw [if_pos hst]
    exact moves_of_move (.fail hst ha) (by simp [view, submitDisconnect])
  · rw [if_neg hst]
    exact moves_of_eq (by simp [view])

theorem moves_connect (s : System) (c : EndpointConnectionConfig) (f i os bo : Bool) :
    Moves m s (s.connect c f i os bo) := by
  rw [System.connect]
  by_cases hst : s.client.state = .disconnected
  · rw [if_neg (not_not.2 hst)]
    dsimp only
    set r := (EndpointConnector.make f s.nextUpstreamId).connect i os
    obtain ⟨hd, hr, hl⟩ := connect_leaves hst c r.1 bo
    split
    · next hc =>
      rw [if_pos hc] at hl
      refine moves_of_move (.connect r.2 r.1 bo _ hst ?_ hc) ?_
      · exact handsOpen_connect f _ i os
      · simp [view, hd, hl]
    · next hc =>
      rw [if_neg hc] at hl
      refine moves_of_move (.connectFailed r.1 bo
        (s.client.connect c r.1 bo).1 hst fun hp ↦ ?_) ?_
      · exact connect_error hst hp c r.1 bo hc
      · simp [view, hd, hl, System.runDisconnect, closed, hst]
  · rw [if_pos hst]

theorem moves_disconnect (s : System) (h : m.disconnects (view s)) :
    Moves m s s.disconnect := by
  by_cases hst : s.client.state = .disconnected
  · have hr : System.runsDisconnect s.client.state .disconnect = false := bne_eq_false_iff_eq.2 hst
    have hc : s.client.performTransition .disconnect = { s.client with raised := none } :=
      (disconnect_eq s.client).trans (if_pos hst)
    refine moves_of_move (.disconnectIdle hst) ?_
    rw [System.disconnect, performTransition_stays (s := s.record [_]) hr]
    dsimp only [System.record]
    rw [hc]
    simp [view, System.setClient]
  · have hr : System.runsDisconnect s.client.state .disconnect = true := bne_iff_ne.2 hst
    have hc : s.client.performTransition .disconnect =
        { runDisconnect { s.client with raised := none } none with state := .disconnected } :=
      (disconnect_eq s.client).trans (if_neg hst)
    refine moves_of_move (.disconnect hst h) ?_
    rw [System.disconnect, performTransition_runs (s := s.record [_]) hr]
    dsimp only [System.record]
    rw [hc]
    simp [view, System.setClient, System.runDisconnect, runDisconnect, keepFirstError, closed]

theorem moves_listen (s : System) (ds : Bool) (an : ListenAnswers) :
    Moves m s (s.listen ds an) := by
  have hf : ∀ s' : System, view s' = view s →
    Moves m s (s'.performTransition .runPreparationFail) :=
    fun s' hs' ↦ (moves_of_eq hs').trans
      (moves_submit s' (.inr (.inl rfl)) fun e he ↦ (by cases he))
  rw [System.listen]
  dsimp only
  split
  · exact hf _ rfl
  split
  · split
    · exact hf _ rfl
    · split
      · exact moves_of_eq rfl
      · exact hf _ rfl
  · split
    · exact moves_of_eq rfl
    · exact hf _ rfl

theorem moves_outcome {r : EndpointConnectorResult} {dp : Option DnsProxyFailure}
    (hc : s.connector = some c) (hp : Steps c c' (some r)) (hs : m.dnsFailure = true ∨ dp = none) :
    Moves m s ({ s with connector := some c' }.endpointConnectorHandler r dp) := by
  cases r with
  | error e => exact moves_of_move (.outcomeError hc hp) rfl
  | upstream u =>
    simp only [System.endpointConnectorHandler]
    split
    · split
      · exact moves_of_move (.outcome hc hp) rfl
      · next f =>
        have ha : m.dnsFailure = true := hs.resolve_right fun h ↦ (by cases h)
        exact moves_of_move (.outcomeDns f.error ha hc hp) rfl
    · exact moves_of_move (.outcome hc hp) rfl

theorem moves_healthCheckError (s : System) (id : ℕ) (e : VpnError) :
    Moves m s (s.vpnUpstreamHandler id (.healthCheckError e)) := by
  have ha : Moves m s (s.record [.errorArose s.connects e]) := moves_of_move (.errorIgnored e) rfl
  refine ha.trans (moves_submit _ (.inr (.inr rfl)) fun e' he' ↦ ?_)
  cases he'
  exact mem_concat_self

theorem setClient_raiseDisconnected (s : System) (c : VpnClient) :
    view (s.setClient (raiseDisconnected c none)) =
      { view s with
        state := c.state
        tasks := c.deferredTasks
        pending := none
        trace := s.trace ++ [.raised s.connects (finalEvent c.pendingError) s.upstream] } := by
  rw [raiseDisconnected]
  split
  · next h => simp [view, System.setClient, h, finalEvent]
  · next h => simp [view, System.setClient, h, finalEvent]

theorem moves_sessionError {u u' : ServerUpstream} {e : VpnError} (hu : s.upstream = some u)
    (hr : u.raise (.error e) = some u') (h : s.connector = none) :
    Moves m s ({ s with upstream := some u' }.vpnUpstreamHandler u'.id (.error e)) := by
  by_cases hst : s.client.state = .connected
  · have hc : s.client.performTransition .sessionError (some e) =
        { submitDisconnect { s.client with raised := none } (some e) with state :=
            .disconnecting } :=
      (performTransition_submitDisconnect _ _ (.inl rfl)).trans (if_pos hst)
    refine moves_of_move (.sessionErrorConnected hu hr hst) ?_
    rw [System.vpnUpstreamHandler, performTransition_stays rfl]
    dsimp only [System.record]
    rw [hc]
    simp [view, System.setClient, submitDisconnect]
  · have hc : s.client.performTransition .sessionError (some e) =
        { s.client with raised := none } :=
      (performTransition_submitDisconnect _ _ (.inl rfl)).trans (if_neg hst)
    refine moves_of_move (.sessionError h hu hr hst) ?_
    rw [System.vpnUpstreamHandler, performTransition_stays rfl]
    dsimp only [System.record]
    rw [hc]
    simp [view, System.setClient]

theorem moves_endpoint {u u' : ServerUpstream} {et : ServerEvent} (hu : s.upstream = some u)
    (hr : u.raise et = some u') (h : endsSession et = true → s.connector = none) :
    Moves m s ({ s with upstream := some u' }.vpnUpstreamHandler u'.id et) := by
  cases et with
  | sessionOpened => exact moves_of_move (.sessionOpened hu hr) rfl
  | sessionClosed =>
    refine moves_of_move (.sessionClosed (h rfl) hu hr) ?_
    rw [System.vpnUpstreamHandler, performTransition_stays rfl, performTransition_sessionClosed,
      setClient_raiseDisconnected]
    simp [view, System.record]
  | healthCheckError e =>
    have hs : u' = u := by
      obtain ⟨id, session⟩ := u
      cases session with
      | opening => exact (some.inj hr).symm
      | opened => exact (some.inj hr).symm
      | idle => cases hr
      | ended => cases hr
      | closed => cases hr
    rw [hs, ← hu]
    exact moves_healthCheckError s u.id e
  | error e => exact moves_sessionError hu hr (h rfl)

theorem moves_task (s : System) {task : DeferredTask} (h : task ∈ s.client.deferredTasks) :
    Moves m s (s.runTask task) := by
  cases task with
  | connectorFinalizer =>
    simp only [System.runTask, endpointConnectorFinalizer]
    split
    · next e hp =>
      refine moves_of_move (.finalizeError h hp) ?_
      rw [performTransition_sessionClosed, setClient_raiseDisconnected]
      simp [view, finalEvent, hp]
    · next hp =>
      rw [performTransition_sessionOpened]
      by_cases hst : s.client.state = .connecting
      · rw [if_pos hst]
        exact moves_of_move (.finalize h hp hst) (by simp [view, System.setClient])
      · rw [if_neg hst]
        exact moves_of_move (.finalizeLate hst) (by simp [view, System.setClient])
  | deferredDisconnect =>
    simp only [System.runTask]
    set s' := { s with
      client := { s.client with
        deferredTasks := s.client.deferredTasks.erase .deferredDisconnect } }
    by_cases hst : s.client.state = .disconnecting
    · have hr : System.runsDisconnect s'.client.state .deferredDisconnect = true :=
        beq_iff_eq.2 hst
      refine moves_of_move (.deferred hst) ?_
      rw [performTransition_runs hr, performTransition_deferredDisconnect, if_pos hst,
        setClient_raiseDisconnected]
      simp [view, System.runDisconnect, runDisconnect, keepFirstError, closed, s']
    · have hr : System.runsDisconnect s'.client.state .deferredDisconnect = false :=
        beq_eq_false_iff_ne.2 hst
      refine moves_of_move (.deferredLate hst) ?_
      rw [performTransition_stays hr, performTransition_deferredDisconnect, if_neg hst]
      simp [view, System.setClient, s']

theorem moves_deliver (s : System) (c : EndpointConnector)
    {i : FallbackableUpstreamConnector.Input}
    (h : ∀ cd et, i = .handedEvent cd et → endsSession et = false) : Moves m s (deliver s c i) := by
  cases i with
  | handedEvent cd et =>
    simp only [deliver]
    split
    · exact .refl
    · next u _ =>
      cases et with
      | sessionOpened => exact .refl
      | sessionClosed => cases h _ _ rfl
      | healthCheckError e => exact moves_healthCheckError s u.id e
      | error e => cases h _ _ rfl
  | childEvent cd et => exact .refl
  | childTask cd => exact .refl
  | resultTask cd => exact .refl
  | delayTask init os => exact .refl

theorem undisturbed_connector {i : FallbackableUpstreamConnector.Input}
    {dp : Option DnsProxyFailure} (h : undisturbed a s (.connector i dp) = true) :
    (∀ c e, i = .handedEvent c e → endsSession e = false) ∧
      ((∃ c e, i = .handedEvent c e) ∨ a.dnsFailure = true ∨ dp = none) := by
  cases i with
  | handedEvent c e =>
    refine ⟨fun c' e' he ↦ ?_, .inl ⟨c, e, rfl⟩⟩
    cases he
    simpa [undisturbed] using h
  | childEvent c e =>
    exact ⟨fun _ _ he ↦ (by cases he), .inr (by simpa [undisturbed] using h)⟩
  | childTask c => exact ⟨fun _ _ he ↦ (by cases he), .inr (by simpa [undisturbed] using h)⟩
  | resultTask c => exact ⟨fun _ _ he ↦ (by cases he), .inr (by simpa [undisturbed] using h)⟩
  | delayTask init os =>
    exact ⟨fun _ _ he ↦ (by cases he), .inr (by simpa [undisturbed] using h)⟩

theorem moves_of_step {i : Input} {p : View → Prop} (hi : undisturbed a s i = true)
    (hb : i = .disconnect → p (view s)) (h : step s i = some t) : Moves ⟨a.dnsFailure, p⟩ s t := by
  cases i with
  | connect cg f it os bo =>
    cases h
    exact moves_connect s cg f it os bo
  | disconnect =>
    cases h
    exact moves_disconnect s (hb rfl)
  | listen ds an =>
    cases h
    exact moves_listen s ds an
  | connector i dp =>
    obtain ⟨hh, hd⟩ := undisturbed_connector hi
    obtain ⟨c, hc, hm⟩ := bind_eq_some_iff.1 h
    obtain ⟨⟨c', r⟩, hp, rfl⟩ := map_eq_some_iff.1 hm
    cases r with
    | none =>
      have hs : Moves ⟨a.dnsFailure, p⟩ s { s with connector := some c' } :=
        moves_of_move (.silent hc ⟨i, hp, hh⟩) rfl
      exact hs.trans (moves_deliver _ c hh)
    | some rt =>
      refine moves_outcome hc ⟨i, hp, hh⟩ (hd.resolve_left ?_)
      rintro ⟨cd, e, rfl⟩
      exact some_ne_none rt (silent_of_handed hp)
  | endpoint e =>
    obtain ⟨u, hu, hm⟩ := bind_eq_some_iff.1 h
    obtain ⟨u', hr, rfl⟩ := map_eq_some_iff.1 hm
    refine moves_endpoint hu hr fun he ↦ ?_
    rw [undisturbed, he, Bool.not_true, Bool.false_or, isNone_iff_eq_none] at hi
    exact hi
  | task task =>
    rw [step, ite_none_right_eq_some, some.injEq] at h
    obtain ⟨ht, rfl⟩ := h
    exact moves_task s ht

/-- What every move keeps holds in every run whose inputs are as assumed. -/
theorem invariant_of_moves {P p : View → Prop} {ok : System → Input → Prop}
    (hP : ∀ v w, P v → Move ⟨a.dnsFailure, p⟩ v w → P w)
    (ho : ∀ s i, ok s i → undisturbed a s i = true ∧ (i = .disconnect → p (view s)))
    {k : Bool} {ls : List Input} (h : Lib.Transition.Run step ok (start k) ls s)
    (ht : P (view (start k))) : P (view s) := by
  refine h.invariant (P := fun s ↦ P (view s)) ht fun s i t hs hi hp ↦ ?_
  have hm : ∀ w, ReflTransGen (Move ⟨a.dnsFailure, p⟩) (view s) w → P w := by
    intro w hw
    induction hw with
    | refl => exact hs
    | tail _ hm ih => exact hP _ _ ih hm
  exact hm _ (moves_of_step (ho s i hi).1 (ho s i hi).2 hp)

end Steps

/-- There is a connector exactly while the client is connecting, with one outcome at most. -/
structure Placed (v : View) : Prop where
  idle : v.state ≠ .connecting → v.connector = none ∧ .connectorFinalizer ∉ v.tasks
  busy : v.state = .connecting → ∃ c, v.connector = some c ∧
    (.connectorFinalizer ∉ v.tasks ∨ v.tasks.count .connectorFinalizer = 1 ∧ Quiet c)

section Placed

variable {m : Limits} {v w : View}

theorem Placed.state_of_connector (h : Placed v) (hc : v.connector = some c) :
    v.state = .connecting := by
  by_contra hst
  rw [(h.idle hst).1] at hc
  cases hc

theorem Placed.state_of_task (h : Placed v) (hk : .connectorFinalizer ∈ v.tasks) :
    v.state = .connecting := by
  by_contra hst
  exact (h.idle hst).2 hk

theorem Placed.ne_connecting (h : Placed v) (hc : v.connector = none) : v.state ≠ .connecting := by
  intro hs
  obtain ⟨c, hc', -⟩ := h.busy hs
  rw [hc] at hc'
  cases hc'

theorem Placed.raised (h : Placed v) {r : EndpointConnectorResult} (hc : v.connector = some c)
    (hp : Steps c c' (some r)) : .connectorFinalizer ∉ v.tasks ∧ Quiet c' := by
  obtain ⟨c₁, hc₁, hs⟩ := h.busy (h.state_of_connector hc)
  obtain rfl : c = c₁ := some.inj (hc.symm.trans hc₁)
  obtain ⟨i, hi, -⟩ := hp
  refine ⟨hs.resolve_right fun hq ↦ ?_, quiet_of_raised hi⟩
  exact some_ne_none r (step_of_quiet hq.2 hi).2

theorem count_erase_finalizer {ts : List DeferredTask} (h : ts.count .connectorFinalizer = 1) :
    .connectorFinalizer ∉ ts.erase .connectorFinalizer := by
  rw [← count_eq_zero, count_erase_self, h]

theorem Placed.unfinalized (h : Placed v) (hk : .connectorFinalizer ∈ v.tasks) :
    .connectorFinalizer ∉ v.tasks.erase .connectorFinalizer := by
  obtain ⟨c, -, hc⟩ := h.busy (h.state_of_task hk)
  rcases hc with hn | ⟨ht, -⟩
  · exact absurd hk hn
  · exact count_erase_finalizer ht

theorem placed_of_idle (hst : w.state ≠ .connecting) (hn : w.connector = none)
    (htk : .connectorFinalizer ∉ w.tasks) : Placed w :=
  ⟨fun _ ↦ ⟨hn, htk⟩, fun h ↦ absurd h hst⟩

theorem Placed.congr (h : Placed v) (hs : w.state = v.state) (hn : w.connector = v.connector)
    (ht : w.tasks = v.tasks) : Placed w := by
  constructor
  · rw [hs, hn, ht]
    exact h.idle
  · rw [hs, hn, ht]
    exact h.busy

theorem Placed.outcome (h : Placed v) {r : EndpointConnectorResult} (hc : v.connector = some c)
    (hp : Steps c c' (some r)) (hst : w.state = v.state) (hn : w.connector = some c')
    (hk : w.tasks = v.tasks ++ [.connectorFinalizer]) : Placed w := by
  obtain ⟨ht, hq⟩ := h.raised hc hp
  have hg := h.state_of_connector hc
  refine ⟨fun hs ↦ absurd (hst.trans hg) hs, fun _ ↦ ⟨c', hn, .inr ⟨?_, hq⟩⟩⟩
  rw [hk, count_append, count_eq_zero.2 ht]
  rfl

/-- The step lemma: the tasks and the connector go with the state of the client. -/
theorem Placed.move (h : Placed v) (he : Move m v w) : Placed w := by
  have hd : v.state = .connected → v.state ≠ .connecting := by
    intro hs hc
    rw [hs] at hc
    cases hc
  have hco : .connectorFinalizer ∉ v.tasks →
      .connectorFinalizer ∉ v.tasks ++ [.deferredDisconnect] := by
    intro ho hmem
    rcases mem_append.1 hmem with hmem | hmem
    · exact ho hmem
    · cases mem_singleton.1 hmem
  have hdi : v.state = .disconnected → v.state ≠ .connecting := by
    intro hs hc
    rw [hs] at hc
    cases hc
  cases he with
  | connect c s bo r hst hc hre =>
    exact ⟨fun hs ↦ absurd rfl hs, fun _ ↦ ⟨c, rfl, .inl (h.idle (hdi hst)).2⟩⟩
  | connectFailed s bo r hst hrs =>
    exact placed_of_idle (hdi hst) rfl not_mem_nil
  | disconnectIdle hst => exact h.congr rfl rfl rfl
  | disconnect hst hp =>
    exact placed_of_idle (fun hs ↦ (by cases hs)) rfl not_mem_nil
  | @silent c c' hc hsp =>
    have hg := h.state_of_connector hc
    refine ⟨fun hs ↦ absurd hg hs, fun _ ↦ ⟨c', rfl, ?_⟩⟩
    obtain ⟨c₁, hc₁, hca⟩ := h.busy hg
    obtain rfl : c = c₁ := some.inj (hc.symm.trans hc₁)
    obtain ⟨i, hi, -⟩ := hsp
    exact hca.imp_right fun hq ↦ ⟨hq.1, (step_of_quiet hq.2 hi).1⟩
  | outcomeError hc hsp => exact h.outcome hc hsp rfl rfl rfl
  | outcome hc hsp => exact h.outcome hc hsp rfl rfl rfl
  | outcomeDns e ha hc hsp => exact h.outcome hc hsp rfl rfl rfl
  | errorIgnored e => exact h.congr rfl rfl rfl
  | fail hst hda =>
    obtain ⟨hn, hk⟩ := h.idle (hd hst)
    exact placed_of_idle (fun hs ↦ (by cases hs)) hn (hco hk)
  | sessionError hn hu hr hst => exact h.congr rfl rfl rfl
  | sessionErrorConnected hu hr hst =>
    obtain ⟨hn, hk⟩ := h.idle (hd hst)
    exact placed_of_idle (fun hs ↦ (by cases hs)) hn (hco hk)
  | sessionClosed hn hu hr =>
    exact placed_of_idle (fun hs ↦ (by cases hs)) hn
      (h.idle (h.ne_connecting hn)).2
  | sessionOpened hu hr => exact h.congr rfl rfl rfl
  | finalizeError ht hp =>
    exact placed_of_idle (fun hs ↦ (by cases hs)) rfl (h.unfinalized ht)
  | finalize ht hp hst =>
    exact placed_of_idle (fun hs ↦ (by cases hs)) rfl (h.unfinalized ht)
  | finalizeLate hst =>
    exact placed_of_idle hst rfl fun hmem ↦ (h.idle hst).2 (mem_of_mem_erase hmem)
  | deferred hst => exact placed_of_idle (fun hs ↦ (by cases hs)) rfl not_mem_nil
  | deferredLate hst =>
    have hcn : (v.tasks.erase .deferredDisconnect).count .connectorFinalizer =
        v.tasks.count .connectorFinalizer := count_erase_of_ne (by decide)
    have hmem : .connectorFinalizer ∈ v.tasks.erase .deferredDisconnect ↔
        .connectorFinalizer ∈ v.tasks := mem_erase_of_ne (by decide)
    constructor
    · rw [hmem]
      exact h.idle
    · rw [hmem, hcn]
      exact h.busy

end Placed

end TrustTunnel.Connector.Moves

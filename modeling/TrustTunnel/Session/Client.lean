import TrustTunnel.Fsm
import TrustTunnel.Session.Types

namespace TrustTunnel.Session.Client

open Fsm Net.Address Session.Types

variable {vpn : VpnClient}

inductive State
  | disconnected
  | connecting
  | connected
  | disconnecting
deriving DecidableEq, Repr

inductive SessionEvent
  | runConnect
  | disconnect
  | deferredDisconnect
  | runPreparationFail
  | sessionOpened
  | sessionClosed
  | sessionError
  | healthCheckError
deriving DecidableEq, Repr

inductive Event
  | connected
  | disconnected
  | error (e : VpnError)
deriving DecidableEq, Repr

inductive DeferredTask
  | connectorFinalizer
  | deferredDisconnect
deriving DecidableEq, Repr

structure EndpointConnectionConfig where
  mainProtocol : VpnUpstreamProtocol
  connectionsNum : ℕ
  endpoint : VpnEndpoint
  verificationAddress : SocketAddress
  timeout : ℕ
  healthCheckTimeout : ℕ
  username : Option String
  password : Option String
  ipv6Available : Bool
  antiDpi : Bool
deriving DecidableEq, Repr

structure VpnClient where
  state : State := .disconnected
  pendingError : Option VpnError := none
  upstreamConfig : Option EndpointConnectionConfig := none
  killSwitchOn : Bool
  endpointConnector : Bool := false
  quicConnector : Bool := false
  tcpSocket : Bool := false
  deferredTasks : List DeferredTask := []
  raised : Option Event := none
deriving DecidableEq

def keepFirstError (pending data : Option VpnError) : Option VpnError :=
  match pending, data with
  | none, some e => if e.code == .noerror then none else some e
  | pending, _ => pending

/-- `endpoint_connector->connect` answers with the error in `data`, if any. -/
def runConnect (vpn : VpnClient) (data : Option VpnError) : VpnClient :=
  match data with
  | some e => if e.code == .noerror then vpn else { vpn with pendingError := some e }
  | none => vpn

def raiseConnected (vpn : VpnClient) (_ : Option VpnError) : VpnClient :=
  { vpn with raised := some .connected }

def raiseDisconnected (vpn : VpnClient) (_ : Option VpnError) : VpnClient :=
  match vpn.pendingError with
  | none => { vpn with raised := some .disconnected }
  | some e => { vpn with raised := some (.error e), pendingError := none }

def runDisconnect (vpn : VpnClient) (data : Option VpnError) : VpnClient :=
  { vpn with
    pendingError := keepFirstError vpn.pendingError data
    deferredTasks := []
    endpointConnector := false
    tcpSocket := false
    quicConnector := false }

def submitDisconnect (vpn : VpnClient) (data : Option VpnError) : VpnClient :=
  { vpn with
    pendingError := keepFirstError vpn.pendingError data
    deferredTasks := vpn.deferredTasks ++ [.deferredDisconnect] }

def transitionTable : List (TransitionEntry State SessionEvent VpnClient (Option VpnError)) :=
  [⟨some .disconnected, .runConnect, none, some runConnect, some .connecting, none⟩,
   ⟨some .disconnected, .sessionClosed, none, none, some .disconnected, some raiseDisconnected⟩,
   ⟨some .disconnected, .disconnect, none, none, some .disconnected, none⟩,

   ⟨some .connecting, .sessionOpened, none, none, some .connected, some raiseConnected⟩,
   ⟨some .connecting, .sessionClosed, none, none, some .disconnected, some raiseDisconnected⟩,

   ⟨some .connected, .sessionClosed, none, none, some .disconnected, some raiseDisconnected⟩,
   ⟨some .connected, .sessionError, none, some submitDisconnect, some .disconnecting, none⟩,
   ⟨some .connected, .runPreparationFail, none, some submitDisconnect, some .disconnecting, none⟩,
   ⟨some .connected, .healthCheckError, none, some submitDisconnect, some .disconnecting, none⟩,

   ⟨some .disconnecting, .sessionClosed, none, none, some .disconnected, some raiseDisconnected⟩,
   ⟨some .disconnecting, .deferredDisconnect, none, some runDisconnect, some .disconnected,
    some raiseDisconnected⟩,

   ⟨none, .disconnect, none, some runDisconnect, some .disconnected, none⟩]

def fsm : FsmParameters State SessionEvent VpnClient (Option VpnError) where
  table := transitionTable
  getState := VpnClient.state
  setState vpn s := { vpn with state := s }

def VpnClient.performTransition (vpn : VpnClient) (event : SessionEvent)
    (data : Option VpnError := none) : VpnClient :=
  Fsm.performTransition fsm event data { vpn with raised := none }

def VpnClient.disconnect (vpn : VpnClient) : VpnClient := vpn.performTransition .disconnect

def connectFailure (error : VpnError) : VpnError where
  code := if error.code == .noerror then .error else error.code
  text := if error.text == "" then "Internal error" else error.text

/-- `started` is the answer of the endpoint connector. -/
def clientConnect (vpn : VpnClient) (started : Option VpnError) : VpnError × VpnClient :=
  let vpn := vpn.performTransition .runConnect started
  (vpn.pendingError.getD {}, { vpn with pendingError := none })

/-- `bypassOpened` is the answer of `bypass_upstream->open_session`. -/
def VpnClient.connect (vpn : VpnClient) (config : EndpointConnectionConfig)
    (started : Option VpnError) (bypassOpened : Bool) : VpnError × VpnClient :=
  if vpn.state ≠ .disconnected then
    (⟨.error, "Invalid state"⟩, vpn)
  else
    let vpn := { vpn with upstreamConfig := some config, endpointConnector := true }
    let (error, vpn) := clientConnect vpn started
    if error.code ≠ .noerror then
      (connectFailure error, vpn.disconnect)
    else if bypassOpened then
      (error, vpn)
    else
      (connectFailure { error with text := "Failed to start upstream for direct connections" },
        vpn.disconnect)

/-- The connector's outcome: `none` once the upstream and the DNS proxy listener are in place. -/
def endpointConnectorHandler (vpn : VpnClient) (result : Option VpnError) : VpnClient :=
  { vpn with
    pendingError := result
    deferredTasks := vpn.deferredTasks ++ [.connectorFinalizer] }

def endpointConnectorFinalizer (vpn : VpnClient) : VpnClient :=
  let vpn := { vpn with endpointConnector := false }
  match vpn.pendingError with
  | some _ => vpn.performTransition .sessionClosed
  | none => vpn.performTransition .sessionOpened

def DeferredTask.run (task : DeferredTask) (vpn : VpnClient) : VpnClient :=
  match task with
  | .connectorFinalizer => endpointConnectorFinalizer vpn
  | .deferredDisconnect => vpn.performTransition .deferredDisconnect

@[simp] theorem disconnect_state (v : VpnClient) : v.disconnect.state = .disconnected := by
  obtain ⟨s⟩ := v
  cases s <;> rfl

@[simp] theorem disconnect_killSwitchOn (v : VpnClient) :
    v.disconnect.killSwitchOn = v.killSwitchOn := by
  obtain ⟨s⟩ := v
  cases s <;> rfl

theorem runConnect_killSwitchOn (v : VpnClient) (d : Option VpnError) :
    (runConnect v d).killSwitchOn = v.killSwitchOn := by
  unfold runConnect
  split
  · split <;> rfl
  · rfl

theorem clientConnect_spec (v : VpnClient) (h : v.state = .disconnected) (s : Option VpnError) :
    (clientConnect v s).2.state = .connecting ∧
      (clientConnect v s).2.killSwitchOn = v.killSwitchOn := by
  have ht : v.performTransition .runConnect s =
      { runConnect { v with raised := none } s with state := .connecting } := by
    obtain ⟨state⟩ := v
    cases h
    rfl
  unfold clientConnect
  rw [ht]
  exact ⟨rfl, runConnect_killSwitchOn _ s⟩

theorem connectFailure_code (e : VpnError) : (connectFailure e).code ≠ .noerror := by
  unfold connectFailure
  dsimp only
  split
  · decide
  · rename_i h
    simpa using h

theorem connect_spec (v : VpnClient) (c : EndpointConnectionConfig)
    (s : Option VpnError) (bo : Bool) :
    ((v.connect c s bo).1.code = .noerror ∧ v.state = .disconnected ∧
        (v.connect c s bo).2.state = .connecting) ∨
      ((v.connect c s bo).1.code ≠ .noerror ∧ (v.connect c s bo).2.state = v.state) := by
  unfold VpnClient.connect
  split
  · exact .inr ⟨by simp, rfl⟩
  · rename_i h
    have hd : v.state = .disconnected := not_not.1 h
    have hc := clientConnect_spec
      { v with upstreamConfig := some c, endpointConnector := true } hd s
    dsimp only
    split
    · exact .inr ⟨connectFailure_code _, by rw [hd]; exact disconnect_state _⟩
    · rename_i he
      split
      · exact .inl ⟨not_not.1 he, hd, hc.1⟩
      · exact .inr ⟨connectFailure_code _, by rw [hd]; exact disconnect_state _⟩

@[simp] theorem connect_killSwitchOn (v : VpnClient) (c : EndpointConnectionConfig)
    (s : Option VpnError) (bo : Bool) : (v.connect c s bo).2.killSwitchOn = v.killSwitchOn := by
  unfold VpnClient.connect
  split
  · rfl
  · rename_i h
    have hc := clientConnect_spec
      { v with upstreamConfig := some c, endpointConnector := true } (not_not.1 h) s
    dsimp only
    split
    · simpa using hc.2
    · split
      · exact hc.2
      · simpa using hc.2

theorem killSwitchOn_performTransition (c : VpnClient) (e : SessionEvent) (er : Option VpnError) :
    (c.performTransition e er).killSwitchOn = c.killSwitchOn := by
  have hr : ∀ v d, (raiseDisconnected v d).killSwitchOn = v.killSwitchOn := by
    intro v d
    unfold raiseDisconnected
    split <;> rfl
  refine Fsm.performTransition_frame VpnClient.killSwitchOn fsm (fun _ _ ↦ rfl) ?_ ?_ e
    er { c with raised := none }
  · simp [fsm, transitionTable, runConnect_killSwitchOn, runDisconnect, submitDisconnect]
  · simp [fsm, transitionTable, hr, raiseConnected]

theorem killSwitchOn_deferredTask (t : DeferredTask) (c : VpnClient) :
    (t.run c).killSwitchOn = c.killSwitchOn := by
  cases t with
  | connectorFinalizer =>
    simp only [DeferredTask.run, endpointConnectorFinalizer]
    split <;> exact killSwitchOn_performTransition _ _ _
  | deferredDisconnect => exact killSwitchOn_performTransition _ _ _

inductive Move : State → State → Option Event → Prop
  | stay (s : State) : Move s s none
  | closing : Move .connected .disconnecting none
  | opened : Move .connecting .connected (some .connected)
  | closed (s : State) : Move s .disconnected (some .disconnected)
  | failed (s : State) (e : VpnError) : Move s .disconnected (some (.error e))

theorem move_raiseDisconnected (s : State) (v : VpnClient) (h : v.state = .disconnected)
    (d : Option VpnError) :
    Move s (raiseDisconnected v d).state (raiseDisconnected v d).raised := by
  unfold raiseDisconnected
  split
  · dsimp only
    rw [h]
    exact .closed s
  · dsimp only
    rw [h]
    exact .failed s _

theorem performTransition_sessionClosed (v : VpnClient) (data : Option VpnError) :
    v.performTransition .sessionClosed data =
      raiseDisconnected { v with raised := none, state := .disconnected } data := by
  obtain ⟨state⟩ := v
  cases state <;> rfl

theorem move_sessionClosed (v : VpnClient) (d : Option VpnError) :
    Move v.state (v.performTransition .sessionClosed d).state
      (v.performTransition .sessionClosed d).raised := by
  rw [performTransition_sessionClosed]
  exact move_raiseDisconnected _ _ rfl d

theorem move_sessionOpened (v : VpnClient) :
    Move v.state (v.performTransition .sessionOpened).state
      (v.performTransition .sessionOpened).raised := by
  obtain ⟨s⟩ := v
  cases s
  case connecting => exact .opened
  all_goals exact .stay _

theorem move_deferredDisconnect (v : VpnClient) :
    Move v.state (v.performTransition .deferredDisconnect).state
      (v.performTransition .deferredDisconnect).raised := by
  obtain ⟨s⟩ := v
  cases s
  case disconnecting => exact move_raiseDisconnected _ _ rfl none
  all_goals exact .stay _

theorem move_submitDisconnect (vpn : VpnClient) (d : Option VpnError) {e : SessionEvent}
    (h : e = .sessionError ∨ e = .runPreparationFail ∨ e = .healthCheckError) :
    Move vpn.state (vpn.performTransition e d).state (vpn.performTransition e d).raised := by
  obtain ⟨s⟩ := vpn
  rcases h with rfl | rfl | rfl <;> cases s
  case inl.connected => exact .closing
  case inr.inl.connected => exact .closing
  case inr.inr.connected => exact .closing
  all_goals exact .stay _

theorem move_deferredTask (t : DeferredTask) (v : VpnClient) :
    Move v.state (t.run v).state (t.run v).raised := by
  cases t with
  | connectorFinalizer =>
    simp only [DeferredTask.run, endpointConnectorFinalizer]
    split
    · exact move_sessionClosed { v with endpointConnector := false } none
    · exact move_sessionOpened { v with endpointConnector := false }
  | deferredDisconnect => exact move_deferredDisconnect v

theorem performTransition_sessionOpened (v : VpnClient) :
    v.performTransition .sessionOpened =
      if v.state = .connecting then { v with state := .connected, raised := some .connected }
      else { v with raised := none } := by
  obtain ⟨state⟩ := v
  cases state <;> rfl

theorem performTransition_deferredDisconnect (v : VpnClient) :
    v.performTransition .deferredDisconnect =
      if v.state = .disconnecting then
        raiseDisconnected { runDisconnect { v with raised := none } none with
          state := .disconnected } none else { v with raised := none } := by
  obtain ⟨state⟩ := v
  cases state <;> rfl

theorem performTransition_submitDisconnect (vpn : VpnClient) (d : Option VpnError)
    {e : SessionEvent} (h : e = .sessionError ∨ e = .runPreparationFail ∨ e = .healthCheckError) :
    vpn.performTransition e d =
      if vpn.state = .connected then
        { submitDisconnect { vpn with raised := none } d with state := .disconnecting }
      else { vpn with raised := none } := by
  obtain ⟨state⟩ := vpn
  rcases h with rfl | rfl | rfl <;> cases state <;> rfl

theorem disconnect_eq (v : VpnClient) :
    v.disconnect = if v.state = .disconnected then { v with raised := none }
      else { runDisconnect { v with raised := none } none with state := .disconnected } := by
  obtain ⟨state⟩ := v
  cases state <;> rfl

theorem clientConnect_eq (v : VpnClient) (h : v.state = .disconnected) (s : Option VpnError) :
    clientConnect v s = ((runConnect v s).pendingError.getD {},
      { v with raised := none, state := .connecting, pendingError := none }) := by
  obtain ⟨state⟩ := v
  cases h
  cases s with
  | none => rfl
  | some e =>
    by_cases he : e.code == .noerror
    · simp [clientConnect, VpnClient.performTransition, Fsm.performTransition, fsm,
        transitionTable, fireFirst, TransitionEntry.isMatched, TransitionEntry.fire, runConnect, he]
    · simp [clientConnect, VpnClient.performTransition, Fsm.performTransition, fsm,
        transitionTable, fireFirst, TransitionEntry.isMatched, TransitionEntry.fire, runConnect, he]

theorem connect_eq (h : vpn.state = .disconnected) (c : EndpointConnectionConfig)
    (started : Option VpnError) (bo : Bool) :
    ∃ cg : VpnClient, cg.state = .connecting ∧ cg.pendingError = none ∧
      cg.raised = none ∧ cg.deferredTasks = vpn.deferredTasks ∧
      ∃ er, er = (runConnect vpn started).pendingError.getD {} ∧
        vpn.connect c started bo =
          if er.code ≠ .noerror then (connectFailure er, cg.disconnect)
          else if bo then (er, cg)
          else
            (connectFailure { er with text := "Failed to start upstream for direct connections" },
              cg.disconnect) := by
  have hc := clientConnect_eq { vpn with upstreamConfig := some c, endpointConnector := true } h
    started
  have hr : (runConnect { vpn with upstreamConfig := some c, endpointConnector := true }
      started).pendingError = (runConnect vpn started).pendingError := by
    cases started with
    | none => rfl
    | some e =>
      simp only [runConnect]
      split <;> rfl
  refine ⟨{ vpn with
    upstreamConfig := some c
    endpointConnector := true
    raised := none
    state := .connecting
    pendingError := none }, rfl, rfl, rfl, rfl, _, rfl, ?_⟩
  rw [VpnClient.connect, if_neg (not_not.2 h)]
  dsimp only
  rw [hc, hr]

theorem connect_leaves (h : vpn.state = .disconnected) (c : EndpointConnectionConfig)
    (s : Option VpnError) (bo : Bool) :
    (vpn.connect c s bo).2.pendingError = none ∧
    (vpn.connect c s bo).2.raised = none ∧
    if (vpn.connect c s bo).1.code = .noerror then
      (vpn.connect c s bo).2.state = .connecting ∧
        (vpn.connect c s bo).2.deferredTasks = vpn.deferredTasks
    else
      (vpn.connect c s bo).2.state = .disconnected ∧ (vpn.connect c s bo).2.deferredTasks = [] := by
  obtain ⟨cg, hs, hp, hr, ht, e, -, he⟩ := connect_eq h c s bo
  have hd : cg.disconnect =
      { runDisconnect { cg with raised := none } none with state := .disconnected } := by
    rw [disconnect_eq, hs, if_neg (by decide)]
  have hk : keepFirstError cg.pendingError none = none := by rw [hp]; rfl
  rw [he, hd]
  split
  · rw [if_neg (connectFailure_code _)]
    exact ⟨hk, rfl, rfl, rfl⟩
  · next hc =>
    split
    · rw [if_pos (not_not.1 hc)]
      exact ⟨hp, hr, hs, ht⟩
    · rw [if_neg (connectFailure_code _)]
      exact ⟨hk, rfl, rfl, rfl⟩

theorem connect_error (h : vpn.state = .disconnected) (hd : vpn.pendingError = none)
    (c : EndpointConnectionConfig) (s : Option VpnError) (bo : Bool)
    (hr : (vpn.connect c s bo).1.code ≠ .noerror) :
    (∃ e, s = some e ∧ e.code ≠ .noerror ∧
        (vpn.connect c s bo).1 = connectFailure e) ∨ bo = false := by
  obtain ⟨cg, -, -, -, -, error, rfl, hq⟩ := connect_eq h c s bo
  rw [hq] at hr ⊢
  cases s with
  | none =>
    rw [runConnect, hd] at hr ⊢
    cases bo with
    | false => exact .inr rfl
    | true => exact absurd rfl hr
  | some e =>
    by_cases he : e.code = .noerror
    · have hk : (runConnect vpn (some e)).pendingError = none := by
        rw [runConnect, if_pos (beq_iff_eq.2 he), hd]
      rw [hk] at hr ⊢
      cases bo with
      | false => exact .inr rfl
      | true => exact absurd rfl hr
    · have hs : (runConnect vpn (some e)).pendingError = some e := by
        rw [runConnect, if_neg fun hc ↦ he (beq_iff_eq.1 hc)]
      rw [hs, Option.getD_some, if_pos he]
      exact .inl ⟨e, rfl, he, rfl⟩

end TrustTunnel.Session.Client

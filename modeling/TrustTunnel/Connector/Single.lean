import TrustTunnel.Session.Client

namespace TrustTunnel.Connector.Single

open Fsm Session.Types

/-- How far the session of an upstream has come; it is `closed` by `close_session` and `ended` by an
event of its own. -/
inductive SessionStatus
  | idle
  | opening
  | opened
  | ended
  | closed
deriving DecidableEq, Repr

inductive UpstreamHandler
  | connector
  | client
deriving DecidableEq, Repr

structure ServerUpstream where
  id : ℕ
  session : SessionStatus := .idle
  handler : UpstreamHandler := .connector
deriving DecidableEq, Repr

namespace ServerUpstream

variable (upstream : ServerUpstream)

def setHandler (handler : UpstreamHandler) : ServerUpstream := { upstream with handler }

def openSession : ServerUpstream := { upstream with session := .opening }

def closeSession : ServerUpstream := { upstream with session := .closed }

end ServerUpstream

/-- The events of `ServerEvent` that concern the session; an `error` has the id `NON_ID`. -/
inductive ServerEvent
  | sessionOpened
  | sessionClosed
  | healthCheckError (e : VpnError)
  | error (e : VpnError)
deriving DecidableEq, Repr

/-- The upstream after an event: a session opens once, ends once, and neither after
`close_session`. -/
def ServerUpstream.raise (upstream : ServerUpstream) (event : ServerEvent) :
    Option ServerUpstream :=
  match event, upstream.session with
  | .sessionOpened, .opening => some { upstream with session := .opened }
  | .sessionClosed, .opening => some { upstream with session := .ended }
  | .sessionClosed, .opened => some { upstream with session := .ended }
  | .error _, .opening => some { upstream with session := .ended }
  | .error _, .opened => some { upstream with session := .ended }
  | .healthCheckError _, .opening => some upstream
  | .healthCheckError _, .opened => some upstream
  | _, _ => none

theorem ServerUpstream.session_of_raise_opened {u u' : ServerUpstream}
    (h : u.raise .sessionOpened = some u') : u'.session = .opened := by
  obtain ⟨id, s⟩ := u
  cases s with
  | opening =>
    cases h
    rfl
  | idle => cases h
  | opened => cases h
  | ended => cases h
  | closed => cases h

inductive EndpointConnectorResult
  | upstream (upstream : ServerUpstream)
  | error (e : VpnError)
deriving DecidableEq, Repr

inductive State
  | disconnected
  | connecting
  | disconnecting
deriving DecidableEq, Repr

inductive Event
  | runConnect
  | disconnect
  | deferredDisconnect
  | sessionOpened
  | sessionClosed
  | sessionError
  | healthCheckError
deriving DecidableEq, Repr

structure SingleUpstreamConnector where
  state : State := .disconnected
  upstream : Option ServerUpstream
  pendingError : Option VpnError := none
  deferredTask : Bool := false
  reported : Option EndpointConnectorResult := none
deriving DecidableEq, Repr

/-- What an action is given; `openSession` is the answer of the upstream. -/
structure Data where
  openSession : Bool := true
  error : Option VpnError := none

section Actions

variable (c : SingleUpstreamConnector)

def doConnect (data : Data) : SingleUpstreamConnector :=
  let upstream : Option ServerUpstream := c.upstream.map fun u ↦ u.setHandler .connector
  if data.openSession then { c with upstream := upstream.map ServerUpstream.openSession }
  else
    { c with
      upstream
      pendingError := some ⟨.error, "Failed to open session with endpoint"⟩ }

def doDisconnect (data : Data) : SingleUpstreamConnector :=
  { c with
    pendingError := Session.Client.keepFirstError c.pendingError data.error
    upstream := c.upstream.map ServerUpstream.closeSession
    deferredTask := false }

def submitDisconnect (data : Data) : SingleUpstreamConnector :=
  { c with
    pendingError := Session.Client.keepFirstError c.pendingError data.error
    deferredTask := true }

def raiseConnected (_ : Data) : SingleUpstreamConnector :=
  { c with
    reported := c.upstream.map fun u ↦ .upstream (u.setHandler .client)
    upstream := none }

def raiseDisconnected (data : Data) : SingleUpstreamConnector :=
  { c with
    reported := some (.error (c.pendingError.getD (data.error.getD {})))
    pendingError := none }

end Actions

def transitionTable : List (TransitionEntry State Event SingleUpstreamConnector Data) :=
  [⟨some .disconnected, .runConnect, none, some doConnect, some .connecting, none⟩,
   ⟨some .disconnected, .sessionClosed, none, none, none, none⟩,
   ⟨some .disconnected, .disconnect, none, none, none, none⟩,

   ⟨some .connecting, .sessionOpened, none, none, some .disconnected, some raiseConnected⟩,
   ⟨some .connecting, .sessionClosed, none, none, some .disconnected, some raiseDisconnected⟩,
   ⟨some .connecting, .sessionError, none, some submitDisconnect, some .disconnecting, none⟩,

   ⟨some .disconnecting, .sessionClosed, none, none, some .disconnected, some raiseDisconnected⟩,
   ⟨some .disconnecting, .deferredDisconnect, none, some doDisconnect, some .disconnected,
    some raiseDisconnected⟩,

   ⟨none, .disconnect, none, some doDisconnect, some .disconnected, none⟩]

def fsm : FsmParameters State Event SingleUpstreamConnector Data where
  table := transitionTable
  getState := SingleUpstreamConnector.state
  setState c s := { c with state := s }

namespace SingleUpstreamConnector

section Calls

variable (c : SingleUpstreamConnector)

def performTransition (event : Event) (data : Data := {}) : SingleUpstreamConnector :=
  Fsm.performTransition fsm event data { c with reported := none }

def disconnect : SingleUpstreamConnector := c.performTransition .disconnect

def connect (init openSession : Bool) : Option VpnError × SingleUpstreamConnector :=
  if c.state ≠ .disconnected then (some ⟨.error, "Invalid state"⟩, c)
  else if !init then (some ⟨.error, "Failed to initialize upstream"⟩, c)
  else
    let c := c.performTransition .runConnect { openSession }
    match c.pendingError with
    | some e => (some e, { c with pendingError := none }.disconnect)
    | none => (none, c)

def upstreamHandler : ServerEvent → SingleUpstreamConnector
  | .sessionOpened => c.performTransition .sessionOpened
  | .sessionClosed => c.performTransition .sessionClosed
  | .healthCheckError e => c.performTransition .healthCheckError { error := some e }
  | .error e => c.performTransition .sessionError { error := some e }

def receive (event : ServerEvent) : Option SingleUpstreamConnector :=
  (c.upstream.bind fun u ↦ u.raise event).map fun u ↦
    { c with upstream := some u }.upstreamHandler event

def runDeferredTask : Option SingleUpstreamConnector :=
  if c.deferredTask then
    some ({ c with deferredTask := false }.performTransition .deferredDisconnect)
  else none

end Calls

section Reports

variable {c c' : SingleUpstreamConnector} {event : ServerEvent}

theorem disconnect_spec (c : SingleUpstreamConnector) :
    c.disconnect.state = .disconnected ∧ c.disconnect.reported = none ∧
      (c.state ≠ .disconnected → c.disconnect.upstream =
          c.upstream.map ServerUpstream.closeSession) ∧
      (c.state = .disconnected → c.disconnect.upstream = c.upstream) := by
  obtain ⟨s⟩ := c
  cases s with
  | disconnected => exact ⟨rfl, rfl, fun h ↦ absurd rfl h, fun _ ↦ rfl⟩
  | connecting => exact ⟨rfl, rfl, fun _ ↦ rfl, fun h ↦ (by cases h)⟩
  | disconnecting => exact ⟨rfl, rfl, fun _ ↦ rfl, fun h ↦ (by cases h)⟩

theorem exists_of_receive (hr : c.receive event = some c') : ∃ u u', c.upstream = some u ∧
    u.raise event = some u' ∧ c' = upstreamHandler { c with upstream := some u' } event := by
  obtain ⟨u', hu', rfl⟩ := Option.map_eq_some_iff.1 hr
  obtain ⟨u, hu, ha⟩ := Option.bind_eq_some_iff.1 hu'
  exact ⟨u, u', hu, ha, rfl⟩

theorem receive_of_disconnected (h : c.state = .disconnected) (hr : c.receive event = some c') :
    c'.state = .disconnected ∧ c'.reported = none := by
  obtain ⟨u, u', -, -, rfl⟩ := exists_of_receive hr
  obtain ⟨s⟩ := c
  cases h
  cases event <;> exact ⟨rfl, rfl⟩

theorem runDeferredTask_spec (hr : c.runDeferredTask = some c') :
    (c.state = .disconnected → c'.state = .disconnected ∧ c'.reported = none) ∧
      ∀ r, c'.reported = some r → c'.state = .disconnected ∧ ∃ e, r = .error e := by
  simp only [runDeferredTask, Option.ite_none_right_eq_some, Option.some.injEq] at hr
  obtain ⟨-, rfl⟩ := hr
  obtain ⟨s⟩ := c
  cases s with
  | disconnected => exact ⟨fun _ ↦ ⟨rfl, rfl⟩, fun r hr ↦ (by cases hr)⟩
  | connecting => exact ⟨fun h ↦ (by cases h), fun r hr ↦ (by cases hr)⟩
  | disconnecting => exact ⟨fun h ↦ (by cases h), fun r hr ↦ ⟨rfl, _, (Option.some.inj hr).symm⟩⟩

theorem receive_reported {r : EndpointConnectorResult} (hr : c.receive event = some c')
    (h : c'.reported = some r) : c'.state = .disconnected ∧
      ∀ u, r = .upstream u → u.session = .opened := by
  obtain ⟨u, u', -, ha, rfl⟩ := exists_of_receive hr
  obtain ⟨s⟩ := c
  cases event with
  | sessionOpened =>
    cases s with
    | disconnected => cases h
    | connecting =>
      cases h
      refine ⟨rfl, fun v hv ↦ ?_⟩
      cases hv
      exact (ServerUpstream.session_of_raise_opened ha : u'.session = .opened)
    | disconnecting => cases h
  | sessionClosed =>
    cases s with
    | disconnected => cases h
    | connecting =>
      cases h
      exact ⟨rfl, fun v hv ↦ (by cases hv)⟩
    | disconnecting =>
      cases h
      exact ⟨rfl, fun v hv ↦ (by cases hv)⟩
  | healthCheckError e =>
    cases s with
    | disconnected => cases h
    | connecting => cases h
    | disconnecting => cases h
  | error e =>
    cases s <;> cases h

end Reports

end SingleUpstreamConnector

end TrustTunnel.Connector.Single

import TrustTunnel.Connector.Fallbackable
import TrustTunnel.Lib.Transition

namespace TrustTunnel.Connector.Composition

open Fallbackable hiding Record
open Session.Client Session.Types
open Single hiding State Event transitionTable fsm raiseConnected raiseDisconnected submitDisconnect

inductive EndpointConnector
  | single (c : SingleUpstreamConnector)
  | fallbackable (f : FallbackableUpstreamConnector)
deriving DecidableEq

namespace EndpointConnector

def make (fallback : Bool) (id : ℕ) : EndpointConnector :=
  if fallback then .fallbackable (.make { id } { id := id + 1 })
  else .single { upstream := some { id } }

def connect (connector : EndpointConnector) (init openSession : Bool) :
    Option VpnError × EndpointConnector :=
  match connector with
  | .single c => ((c.connect init openSession).1, .single (c.connect init openSession).2)
  | .fallbackable f => (none, .fallbackable (f.connect init openSession))

def raisedResult : Fallbackable.Record → Option EndpointConnectorResult
  | .raised result => some result
  | _ => none

/-- What happens to the connector, and what it passes to `connector_handler`. -/
def step (connector : EndpointConnector) (input : FallbackableUpstreamConnector.Input) :
    Option (EndpointConnector × Option EndpointConnectorResult) :=
  match connector with
  | .single c =>
    match input with
    | .childEvent .main event => (c.receive event).map fun c ↦ (.single c, c.reported)
    | .childTask .main => c.runDeferredTask.map fun c ↦ (.single c, c.reported)
    | _ => none
  | .fallbackable f =>
    (f.step input).map fun f' ↦
      (.fallbackable f', (f'.trace.drop f.trace.length).findSome? raisedResult)

def handed (connector : EndpointConnector) (child : Child) : Option ServerUpstream :=
  match connector with
  | .single _ => none
  | .fallbackable f =>
    match (f.info child).resultTask with
    | some ⟨_, .upstream u⟩ => some u
    | _ => none

end EndpointConnector

/-- Where `start_dns_proxy_listener` fails. -/
inductive DnsProxyFailure
  | password
  | init
  | handler
deriving DecidableEq, Repr

namespace DnsProxyFailure

def error : DnsProxyFailure → VpnError
  | .password => ⟨.error, "Failed to generate DNS proxy listener password"⟩
  | .init => ⟨.invalidSettings, "Failed to initialize DNS proxy listener"⟩
  | .handler => ⟨.error, "Failed to initialize the DNS handler"⟩

def listenerSet : DnsProxyFailure → Bool
  | .password => false
  | _ => true

end DnsProxyFailure

inductive Record
  | connectReturned (connect : ℕ) (started : Option VpnError) (bypassOpened : Bool)
      (returned : VpnError)
  | disconnectCalled (connect : ℕ)
  | sessionEnded (connect id : ℕ)
  | errorArose (connect : ℕ) (e : VpnError)
  | raised (connect : ℕ) (event : Event) (upstream : Option ServerUpstream)
deriving DecidableEq

structure System where
  client : VpnClient
  connector : Option EndpointConnector := none
  upstream : Option ServerUpstream := none
  dnsUpstreams : Bool := false
  dnsProxyListener : Bool := false
  nextUpstreamId : ℕ := 0
  connects : ℕ := 0
  trace : List Record := []
deriving DecidableEq

structure ListenAnswers where
  init : Bool := true
  dnsProxy : Option DnsProxyFailure := none
  dnsHealthCheck : Bool := true
  updateDnsHandler : Bool := true
deriving DecidableEq, Repr

namespace System

variable (s : System)

def record (records : List Record) : System := { s with trace := s.trace ++ records }

/-- What `run_disconnect` does besides: the connector is destroyed, the session is closed. -/
def runDisconnect : System :=
  { s with
    connector := none
    upstream := s.upstream.map ServerUpstream.closeSession
    dnsProxyListener := false }

/-- Whether the row of the table that an event fires has the action `run_disconnect`. -/
def runsDisconnect (state : State) : SessionEvent → Bool
  | .disconnect => state != .disconnected
  | .deferredDisconnect => state == .disconnecting
  | _ => false

def setClient (client : VpnClient) : System :=
  { s with
    client
    trace := s.trace ++ (client.raised.map fun event ↦ .raised s.connects event s.upstream).toList }

def performTransition (event : SessionEvent) (data : Option VpnError := none) : System :=
  (if runsDisconnect s.client.state event then s.runDisconnect else s).setClient
    (s.client.performTransition event data)

def connect (config : EndpointConnectionConfig) (fallback init openSession bypassOpened : Bool) :
    System :=
  if s.client.state ≠ .disconnected then s
  else
    let r := (EndpointConnector.make fallback s.nextUpstreamId).connect init openSession
    let c := s.client.connect config r.1 bypassOpened
    let s := { s with
      client := c.2
      connector := some r.2
      nextUpstreamId := s.nextUpstreamId + 2
      connects := s.connects + 1
      trace := s.trace ++ [.connectReturned (s.connects + 1) r.1 bypassOpened c.1] }
    if c.1.code = .noerror then s else s.runDisconnect

def disconnect : System := (s.record [.disconnectCalled s.connects]).performTransition .disconnect

/-- `endpoint_connector_handler`; `dnsProxy` is the failure of the DNS proxy listener. -/
def endpointConnectorHandler (result : EndpointConnectorResult)
    (dnsProxy : Option DnsProxyFailure) : System :=
  match result with
  | .error e =>
    { s.record [.errorArose s.connects e] with
      client := Session.Client.endpointConnectorHandler s.client (some e) }
  | .upstream u =>
    let s := { s with upstream := some u }
    if s.dnsUpstreams && !s.dnsProxyListener then
      match dnsProxy with
      | none =>
        { s with
          dnsProxyListener := true
          client := Session.Client.endpointConnectorHandler s.client none }
      | some failure =>
        { s.record [.errorArose s.connects failure.error] with
          dnsProxyListener := failure.listenerSet
          client := Session.Client.endpointConnectorHandler s.client (some failure.error) }
    else { s with client := Session.Client.endpointConnectorHandler s.client none }

def vpnUpstreamHandler (id : ℕ) : ServerEvent → System
  | .sessionOpened => s
  | .sessionClosed => (s.record [.sessionEnded s.connects id]).performTransition .sessionClosed
  | .healthCheckError e =>
    (s.record [.errorArose s.connects e]).performTransition .healthCheckError (some e)
  | .error e =>
    (s.record [.sessionEnded s.connects id, .errorArose s.connects e]).performTransition
      .sessionError (some e)

/-- `endpoint_connector_finalizer` and the task of `submit_disconnect`. -/
def runTask (task : DeferredTask) : System :=
  let s := { s with
    client := { s.client with deferredTasks := s.client.deferredTasks.erase task } }
  match task with
  | .connectorFinalizer =>
    { s with connector := none }.setClient (endpointConnectorFinalizer s.client)
  | .deferredDisconnect => s.performTransition .deferredDisconnect

def listen (dnsUpstreams : Bool) (answers : ListenAnswers) : System :=
  let s := { s with dnsUpstreams }
  if !answers.init then s.performTransition .runPreparationFail
  else if s.client.state = .connected ∧ dnsUpstreams = true ∧ s.dnsProxyListener = false then
    match answers.dnsProxy with
    | some failure =>
      { s with dnsProxyListener := failure.listenerSet }.performTransition .runPreparationFail
    | none =>
      let s := { s with dnsProxyListener := true }
      if answers.dnsHealthCheck then s else s.performTransition .runPreparationFail
  else if answers.updateDnsHandler then s
  else s.performTransition .runPreparationFail

end System

inductive Input
  | connect (config : EndpointConnectionConfig) (fallback init openSession bypassOpened : Bool)
  | disconnect
  | listen (dnsUpstreams : Bool) (answers : ListenAnswers)
  /-- Something happens to the connector; `dnsProxy` is consulted if it has an upstream then. -/
  | connector (input : FallbackableUpstreamConnector.Input) (dnsProxy : Option DnsProxyFailure)
  | endpoint (event : ServerEvent)
  | task (task : DeferredTask)
deriving DecidableEq

/-- What an event that reaches the client through a connector's upstream does there. -/
def deliver (s : System) (connector : EndpointConnector) :
    FallbackableUpstreamConnector.Input → System
  | .handedEvent child event =>
    match connector.handed child with
    | none => s
    | some u => s.vpnUpstreamHandler u.id event
  | _ => s

def step (s : System) : Input → Option System
  | .connect config fallback init openSession bypassOpened =>
    some (s.connect config fallback init openSession bypassOpened)
  | .disconnect => some s.disconnect
  | .listen dnsUpstreams answers => some (s.listen dnsUpstreams answers)
  | .connector input dnsProxy =>
    s.connector.bind fun connector ↦ (connector.step input).map fun r ↦
      let s := { s with connector := some r.1 }
      match r.2 with
      | none => deliver s connector input
      | some result => s.endpointConnectorHandler result dnsProxy
  | .endpoint event =>
    s.upstream.bind fun u ↦ (u.raise event).map fun u ↦
      { s with upstream := some u }.vpnUpstreamHandler u.id event
  | .task task => if task ∈ s.client.deferredTasks then some (s.runTask task) else none

def start (killSwitchOn : Bool) : System := { client := { killSwitchOn } }

/-- The configuration of the runs that are executed. -/
def config : EndpointConnectionConfig where
  mainProtocol := .http2
  connectionsNum := 1
  endpoint := { address := {}, name := none }
  verificationAddress := {}
  timeout := 0
  healthCheckTimeout := 0
  username := none
  password := none
  ipv6Available := false
  antiDpi := false

end TrustTunnel.Connector.Composition

import TrustTunnel.Session.Client

namespace TrustTunnel.Session.Manager

open Session.Types Client

inductive Task
  | connect (config : VpnUpstreamConfig) (retryInfo : ConnectRetryInfo)
  | forceReconnect
  | forceDisconnect (fatalConnectivityError : Bool)
  | shutdown
  | completeConnectRequest (result : ConnectRequestResult)
  | notifyNetworkChange (state : VpnNetworkState)
  | abandonEndpoint (endpoint : VpnEndpoint)
  | listen
  | clientDisconnected
  | retryConnect
  | recoveryAttemptsExhausted
  | listenFailed (error : VpnError)

inductive StateInfo
  | waitingRecovery (error : VpnError) (timeToNextMs : ℕ)
  | connected (endpoint : Option VpnEndpoint) (relay : Option VpnRelay)
  | error (error : VpnError)

inductive Site
  | completeRequest
  | rejectRequest
  | bypassUntilConnected
  | completePostponedRequests
  | postponementWindowTimerCb
deriving DecidableEq, Repr

/-- What the session manager does to the pinger, the client and the application, in order. -/
inductive Call
  | startPinger (state : VpnSessionState) (relayParallel : Option VpnRelay)
  | stopPinger
  /-- `client.connect`; the configuration is missing when no endpoint is selected. -/
  | connectClient (config : Option EndpointConnectionConfig) (timeout : Option ℕ)
  | disconnectClient
  | retryConnect (info : ConnectRetryInfo)
  | stateChanged (state : VpnSessionState) (info : StateInfo)
  | postponeRequest (request : ConnectRequestResult)
  | completeConnectRequest (site : Site) (id : ℕ) (action : Option VpnConnectAction)
  | rejectConnectRequest (site : Site) (id : ℕ)
  | resetConnection (id : ℕ)
  | healthCheck

structure LocationsPinger where
  reported : Bool := false

structure Vpn where
  state : VpnSessionState := .disconnected
  pendingError : Option VpnError := none
  recovery : RecoveryInfo := {}
  lastRecoveryFireTs : ℕ := 0
  upstreamConfig : VpnUpstreamConfig
  selectedEndpoint : Option SelectedEndpoint := none
  networkChangedBeforeRecovery : Bool := false
  connectedOnce : Bool := false
  pinger : Option LocationsPinger := none
  pingFailureInducesLocationUnavailable : Bool := false
  clientState : ClientConnectionState := .disconnected
  client : VpnClient
  connectRetryInfo : ConnectRetryInfo := .severalAttempts vpnDefaultConnectAttemptsNum
  bypassedConnectionIds : List ℕ := []
  postponedRequests : List ConnectRequestResult := []
  /-- When the postponement window closes; `none` while no timer is set. -/
  postponementWindowTimer : Option ℕ := none
  taskQueue : List Task := []
  executorThread : Bool := false
  running : Bool := false
  stopping : Bool := false
  /-- Set when a missing endpoint is dereferenced: the process ends there. -/
  terminated : Bool := false
  calls : List Call := []

structure Env where
  now : ℕ
  connectorStarted : Option VpnError := none
  bypassOpened : Bool := true
  finalizedAction : Option VpnConnectAction := none
  completesImmediately : Bool := false
  listenResult : VpnError := {}

/-- The `void *data` of a session event, with the answers of the world to the transition. -/
structure Data where
  env : Env
  error : Option VpnError := none
  networkState : VpnNetworkState := .connected
  request : ConnectRequestResult := ⟨0, none, "", 0⟩

def Vpn.call (vpn : Vpn) (c : Call) : Vpn := { vpn with calls := vpn.calls ++ [c] }

def Vpn.submit (vpn : Vpn) (task : Task) : Vpn := { vpn with taskQueue := vpn.taskQueue ++ [task] }

/-- `std::chrono::round`: to the nearest, and to the even one of two. -/
def roundHalfEven (q : ℚ) : ℕ :=
  let low := ⌊q⌋.toNat
  if q - low < 1 / 2 then low
  else if q - low = 1 / 2 ∧ low % 2 = 0 then low
  else low + 1

def updateUpstreamConfig (config : VpnUpstreamConfig) : VpnUpstreamConfig :=
  let orDefault (n default : ℕ) : ℕ := if n = 0 then default else n
  let timeoutMs := orDefault config.timeoutMs vpnDefaultEndpointUpstreamTimeoutMs
  { config with
    locationPingTimeoutMs := orDefault config.locationPingTimeoutMs defaultLocationPingTimeoutMs
    timeoutMs := timeoutMs
    healthCheckTimeoutMs :=
      min (orDefault config.healthCheckTimeoutMs vpnDefaultHealthCheckTimeoutMs) timeoutMs
    recovery :=
      { backoffRate :=
          if config.recovery.backoffRate < 1 then vpnDefaultRecoveryBackoffRate
          else config.recovery.backoffRate
        locationUpdatePeriodMs := orDefault config.recovery.locationUpdatePeriodMs
          vpnDefaultRecoveryLocationUpdatePeriodMs
        attempts := orDefault config.recovery.attempts vpnDefaultRecoveryAttempts } }

/-- `none` when `selected_endpoint` is empty, where the source throws. -/
def makeClientUpstreamConfig (vpn : Vpn) : Option EndpointConnectionConfig :=
  vpn.selectedEndpoint.map fun selected ↦
    let chosen :=
      if vpn.upstreamConfig.mainProtocol == .auto then
        if vpn.client.quicConnector then .http3 else .http2
      else vpn.upstreamConfig.mainProtocol
    let endpoint := match selected.relay with
      | none => selected.endpoint
      | some relay =>
        { selected.endpoint with address := relay.address, additionalData := relay.additionalData }
    { mainProtocol := if chosen == .http3 then .http3 else .http2
      connectionsNum := vpn.upstreamConfig.httpConnectionsNum
      endpoint := endpoint
      verificationAddress := selected.endpoint.address
      timeout := vpn.upstreamConfig.timeoutMs
      healthCheckTimeout := vpn.upstreamConfig.healthCheckTimeoutMs
      username := vpn.upstreamConfig.username
      password := vpn.upstreamConfig.password
      ipv6Available := endpoint.hasIpv6
      antiDpi := vpn.upstreamConfig.antiDpi }

def disconnectClient (vpn : Vpn) : Vpn :=
  match vpn.clientState with
  | .disconnected => vpn
  | .connected | .connecting =>
    { vpn.call .disconnectClient with
      client := vpn.client.disconnect
      clientState := .disconnected }

def stopPinging (vpn : Vpn) : Vpn :=
  let vpn := match vpn.pinger with
    | none => vpn
    | some _ => { vpn.call .stopPinger with pinger := none }
  { vpn with pingFailureInducesLocationUnavailable := false }

def disconnect (vpn : Vpn) : Vpn := disconnectClient (stopPinging vpn)

def completePostponedRequests (vpn : Vpn) : Vpn :=
  { vpn with
    postponedRequests := []
    calls := vpn.calls ++
      vpn.postponedRequests.map fun request ↦
        .completeConnectRequest .completePostponedRequests request.id request.action }

def resetBypassedConnections (vpn : Vpn) : Vpn :=
  { vpn with
    bypassedConnectionIds := []
    calls := vpn.calls ++ vpn.bypassedConnectionIds.map .resetConnection }

end TrustTunnel.Session.Manager

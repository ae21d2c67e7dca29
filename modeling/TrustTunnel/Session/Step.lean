import TrustTunnel.Lib.Transition
import TrustTunnel.Session.Table

namespace TrustTunnel.Session.Step

open Lib.Transition Net.Address Session.Types Client Manager Actions Table

/-- What happens to a session: calls, work of its event loop, reports of the pinger and the
client. -/
inductive Input
  | vpnConnect (parameters : VpnConnectParameters)
  | vpnForceReconnect
  | vpnForceDisconnect (fatalConnectivityError : Bool)
  | vpnListen
  | vpnCompleteConnectRequest (result : ConnectRequestResult)
  | vpnNotifyNetworkChange (state : VpnNetworkState)
  | vpnAbandonEndpoint (endpoint : VpnEndpoint)
  | vpnStop
  | runTask
  | recoveryTask
  | postponementWindowTimer
  | pingerResult (result : LocationsPingerResult)
  | endpointConnectorResult (result : Option VpnError)
  | clientDeferredTask
  | sessionClosed
  | sessionError (error : VpnError)
  | healthCheckError (error : VpnError)
  | eventLoopFailure
  | eventLoopExited

/-- The session after an entry point did its own work, and the transition it then performs. -/
abbrev Dispatch := Vpn × Option (ConnectEvent × Data)

variable (vpn : Vpn) (env : Env)

/-- `vpn_abandon_endpoint`, with the error it leaves when the location runs out of the family. -/
def exhaustedEndpoints (remaining : List VpnEndpoint) (abandoned : VpnEndpoint) : VpnError :=
  if remaining.isEmpty then ⟨.locationUnavailable, "Exhausted all endpoints in location"⟩
  else if abandoned.address.family == .inet then
    ⟨.locationUnavailable, "Exhausted all IPv4 endpoints in location"⟩
  else ⟨.locationUnavailable, "Exhausted all IPv6 endpoints in location"⟩

def isSelectedEndpoint (endpoint : VpnEndpoint) : Bool :=
  vpn.selectedEndpoint.any fun selected ↦ vpnEndpointEquals selected.endpoint endpoint

def abandonEndpoint (endpoint : VpnEndpoint) : Dispatch :=
  let isSelected := isSelectedEndpoint vpn endpoint
  let remaining := vpn.upstreamConfig.endpoints.filter fun e ↦ !vpnEndpointEquals endpoint e
  let vpn :=
    { vpn with
      selectedEndpoint := if isSelected then none else vpn.selectedEndpoint
      upstreamConfig := { vpn.upstreamConfig with endpoints := remaining } }
  if remaining.all fun e ↦ endpoint.address.family != e.address.family then
    ({ vpn with
        pendingError := some (exhaustedEndpoints remaining endpoint)
        upstreamConfig := { vpn.upstreamConfig with endpoints := [] } },
      some (.abandonEndpoint, { env }))
  else if isSelected then
    ({ vpn with
        pendingError := some ⟨.error, "Current endpoint is abandoned"⟩
        pingFailureInducesLocationUnavailable := true },
      some (.abandonEndpoint, { env }))
  else (vpn, none)

def forceReconnect : Dispatch :=
  match vpn.state with
  | .disconnected => ({ vpn with pendingError := none }, some (.doConnect, { env }))
  | .waitingRecovery => (vpn, some (.doRecovery, { env }))
  | .connected | .recovering | .connecting =>
    let error : VpnError := ⟨.error, "Forced reconnect"⟩
    ({ vpn with pendingError := some error },
      some (.clientDisconnected, { env, error := some error }))
  | .waitingForNetwork => (vpn, none)

def Task.dispatch : Task → Dispatch
  | .connect config retryInfo =>
    ({ vpn with
        upstreamConfig := updateUpstreamConfig config
        connectRetryInfo := match retryInfo with
          | .severalAttempts attemptsLeft => .severalAttempts (sizePred attemptsLeft)
          | .fallIntoRecovery => .fallIntoRecovery },
      some (.doConnect, { env }))
  | .forceReconnect => forceReconnect vpn env
  | .forceDisconnect fatalConnectivityError =>
    ({ vpn with
        pendingError :=
          if fatalConnectivityError then
            some ⟨.fatalConnectivityError, "Fatal connectivity error occurred"⟩
          else vpn.pendingError },
      some (.shutdown, { env }))
  | .shutdown => (vpn, some (.shutdown, { env }))
  | .completeConnectRequest result =>
    (vpn, some (.completeRequest,
      { env, request := { result with action := env.finalizedAction } }))
  | .notifyNetworkChange networkState =>
    ({ vpn with networkChangedBeforeRecovery := true },
      some (.networkChange, { env, networkState }))
  | .abandonEndpoint endpoint => abandonEndpoint vpn env endpoint
  | .listen => (vpn, some (.startListening, { env }))
  | .clientDisconnected => (vpn, some (.clientDisconnected, { env }))
  | .retryConnect => (vpn, some (.retryConnect, { env }))
  | .recoveryAttemptsExhausted =>
    ({ vpn with
        recovery := {}
        pendingError :=
          some ⟨.locationUnavailable, "Maximum number of recovery attempts has been made"⟩ },
      some (.shutdown, { env }))
  | .listenFailed error => ({ vpn with pendingError := some error }, some (.shutdown, { env }))

def pingerHandler (result : LocationsPingerResult) : Dispatch :=
  let failureInducesLocationUnavailable := vpn.pingFailureInducesLocationUnavailable
  let vpn :=
    { vpn with
      selectedEndpoint := none
      client := { vpn.client with tcpSocket := false, quicConnector := false }
      pingFailureInducesLocationUnavailable := false }
  if result.pingMs < 0 then
    let error : VpnError :=
      if failureInducesLocationUnavailable then
        ⟨.locationUnavailable, "None of the endpoints were pinged successfully"⟩
      else ⟨.error, "Failed to ping location"⟩
    (vpn, some (.pingFail, { env, error := some error }))
  else if vpn.upstreamConfig.endpoints.all fun e ↦ !vpnEndpointEquals result.endpoint e then
    ({ vpn with pingFailureInducesLocationUnavailable := failureInducesLocationUnavailable },
      some (.pingFail,
        { env, error := some ⟨.error, "Best available endpoint wasn't found in location"⟩ }))
  else
    ({ vpn with
        selectedEndpoint := some ⟨result.endpoint, result.relay⟩
        client :=
          { vpn.client with
            quicConnector := result.isQuic && result.connState
            tcpSocket := !result.isQuic && result.connState } },
      some (.pingReady, { env }))

/-- `client_handler`, run on the event that a transition of the client raised. -/
def clientHandler (client : VpnClient) : Dispatch :=
  let vpn := { vpn with client := { client with raised := none } }
  match client.raised with
  | none => (vpn, none)
  | some .connected => ({ vpn with clientState := .connected }, some (.clientReady, { env }))
  | some .disconnected =>
    ({ vpn with clientState := .disconnected }, some (.clientDisconnected, { env }))
  | some (.error error) =>
    ({ vpn with clientState := .disconnected },
      some (.clientDisconnected, { env, error := some error }))

def finishStop : Vpn :=
  stopPinging
    { vpn with
      state := .disconnected
      pendingError := none
      clientState := .disconnected
      client :=
        { vpn.client with
          state := .disconnected, deferredTasks := [], endpointConnector := false }
      postponementWindowTimer := none
      recovery := {}
      selectedEndpoint := none
      postponedRequests := []
      bypassedConnectionIds := []
      taskQueue := []
      executorThread := false
      running := false }

def checkAddress (addr : SocketAddress) : Option String :=
  if !addr.valid then none
  else if addr.isIpv4 || addr.isIpv6 then
    if 0 < addr.port then none else some "Port must be specified"
  else some "Unknown family"

def validateEndpoint (multiple : Bool) (endpoint : VpnEndpoint) : Option VpnError :=
  if endpoint.name.isNone then
    some ⟨.invalidSettings, "Names must be specified for each endpoint"⟩
  else if multiple && endpoint.address.family == .unspec then
    some ⟨.invalidSettings,
      "In case of multiple endpoints addresses must be specified for each one"⟩
  else if (checkAddress endpoint.address).isSome then
    some ⟨.invalidSettings, "Invalid endpoint address"⟩
  else none

def validateUpstreamConfig (config : VpnUpstreamConfig) : Option VpnError :=
  if config.endpoints.isEmpty then
    some ⟨.invalidSettings, "At least one endpoint must be specified"⟩
  else if config.username.isNone || config.password.isNone then
    some ⟨.invalidSettings, "Both username and password must be specified"⟩
  else config.endpoints.findSome? (validateEndpoint (1 < config.endpoints.length))

def makeRetryInfo (info : VpnConnectRetryInfo) : ConnectRetryInfo :=
  match info.policy with
  | .severalAttempts =>
    .severalAttempts
      (if info.attemptsNum ≤ 0 then vpnDefaultConnectAttemptsNum
          else info.attemptsNum.toNatClampNeg)
  | .fallIntoRecovery => .fallIntoRecovery

def vpnOpen (killSwitchOn : Bool) : Vpn where
  upstreamConfig := ⟨.auto, 0, [], 0, 0, 0, none, none, ⟨0, 0, 0⟩, false⟩
  client := { killSwitchOn }

def vpnConnect (vpn : Vpn) (parameters : VpnConnectParameters) : Except VpnError Vpn :=
  match validateUpstreamConfig parameters.upstreamConfig with
  | some error => .error error
  | none =>
    if vpn.executorThread then .error ⟨.error, "VPN client worker is already running"⟩
    else
      .ok ({ vpn with executorThread := true, running := true }.submit
        (.connect parameters.upstreamConfig (makeRetryInfo parameters.retryInfo)))

def apiTask : Input → Option Task
  | .vpnForceReconnect => some .forceReconnect
  | .vpnForceDisconnect fatalConnectivityError => some (.forceDisconnect fatalConnectivityError)
  | .vpnListen => some .listen
  | .vpnCompleteConnectRequest result => some (.completeConnectRequest result)
  | .vpnNotifyNetworkChange state => some (.notifyNetworkChange state)
  | .vpnAbandonEndpoint endpoint => some (.abandonEndpoint endpoint)
  | _ => none

/-- The work of the running event loop: tasks, timers and what they are raised by. -/
def loopDispatch : Input → Option Dispatch
  | .runTask =>
    match vpn.taskQueue with
    | [] => none
    | task :: taskQueue => some (Task.dispatch { vpn with taskQueue } env task)
  | .recoveryTask =>
    match vpn.recovery.task with
    | none => none
    | some due =>
      if due ≤ env.now then
        some ({ vpn with
            recovery :=
              { vpn.recovery with
                task := none
                time := { vpn.recovery.time with attemptStartTs := env.now } }
            lastRecoveryFireTs := env.now },
          some (.doRecovery, { env }))
      else none
  | .postponementWindowTimer =>
    match vpn.postponementWindowTimer with
    | none => none
    | some due => if due ≤ env.now then some (postponementWindowTimerCb vpn, none) else none
  | .pingerResult result =>
    match vpn.pinger with
    | some ⟨false⟩ => some (pingerHandler { vpn with pinger := some ⟨true⟩ } env result)
    | _ => none
  | .endpointConnectorResult result =>
    if vpn.client.endpointConnector then
      some ({ vpn with client := endpointConnectorHandler vpn.client result }, none)
    else none
  | .clientDeferredTask =>
    match vpn.client.deferredTasks with
    | [] => none
    | task :: deferredTasks =>
      some (clientHandler vpn env (task.run { vpn.client with deferredTasks }))
  | .sessionClosed =>
    some (clientHandler vpn env (vpn.client.performTransition .sessionClosed))
  | .sessionError error =>
    some (clientHandler vpn env (vpn.client.performTransition .sessionError (some error)))
  | .healthCheckError error =>
    some (clientHandler vpn env (vpn.client.performTransition .healthCheckError (some error)))
  | .eventLoopFailure =>
    some ({ vpn with
        pendingError := some ⟨.eventLoopFailure, "Event loop run error"⟩
        running := false },
      some (.shutdown, { env }))
  | _ => none

def dispatch (input : Input) : Option Dispatch :=
  match input with
  | .vpnConnect parameters =>
    if vpn.stopping then none
    else match vpnConnect vpn parameters with
      | .error _ => some (vpn, none)
      | .ok vpn => some (vpn, none)
  | .vpnStop => some ({ vpn.submit .shutdown with stopping := true }, none)
  | .eventLoopExited => if vpn.stopping then some (finishStop vpn, none) else none
  | input =>
    match apiTask input with
    | some task => some (if vpn.running then vpn.submit task else vpn, none)
    | none => if vpn.running then loopDispatch vpn env input else none

def Dispatch.perform : Dispatch → Vpn
  | (vpn, none) => vpn
  | (vpn, some (event, data)) => performTransition vpn event data

def step (vpn : Vpn) (label : Env × Input) : Option Vpn :=
  if vpn.terminated then none else (dispatch vpn label.1 label.2).map Dispatch.perform

def performs (p : Vpn → ConnectEvent → Data → Bool) (vpn : Vpn) (label : Env × Input) : Bool :=
  match dispatch vpn label.1 label.2 with
  | some (vpn, some (event, data)) => p vpn event data
  | _ => true

def Started (parameters : VpnConnectParameters) (killSwitchOn : Bool) (vpn : Vpn) : Prop :=
  vpnConnect (vpnOpen killSwitchOn) parameters = .ok vpn

def runFrom (ok : Vpn → Env × Input → Prop) [∀ v l, Decidable (ok v l)]
    (parameters : VpnConnectParameters) (killSwitchOn : Bool) (labels : List (Env × Input)) :
    Option Vpn :=
  match vpnConnect (vpnOpen killSwitchOn) parameters with
  | .error _ => none
  | .ok vpn => execWhile step ok vpn labels

theorem exists_run_of_runFrom (ok : Vpn → Env × Input → Prop) [∀ v l, Decidable (ok v l)]
    (ps : VpnConnectParameters) (k : Bool) (ls : List (Env × Input)) (p : Vpn → Bool)
    (h : (runFrom ok ps k ls).any p = true) :
    ∃ s vn, Started ps k s ∧ Run step ok s ls vn ∧ p vn = true := by
  unfold runFrom at h
  split at h
  · simp at h
  · rename_i s hs
    obtain ⟨vn, hr, hp⟩ := exists_run_of_execWhile _ _ _ _ _ h
    exact ⟨s, vn, hs, hr, hp⟩

theorem exists_started_imp {ok : Vpn → Env × Input → Prop} [∀ v l, Decidable (ok v l)]
    {ps : VpnConnectParameters} {k : Bool} {ls : List (Env × Input)} {P : Vpn → Prop}
    {Q : Vpn → Vpn → Prop} [DecidablePred P]
    (h : (runFrom ok ps k ls).any (fun v ↦ decide (P v)) = true)
    (hq : ∀ s vpn, Started ps k s → Run step ok s ls vpn → P vpn → Q s vpn) :
    ∃ s vpn, Started ps k s ∧ Run step ok s ls vpn ∧ Q s vpn := by
  obtain ⟨s, vpn, hs, hr, hp⟩ := exists_run_of_runFrom ok ps k ls _ h
  exact ⟨s, vpn, hs, hr, hq s vpn hs hr (of_decide_eq_true hp)⟩

def atTime (now : ℕ) (input : Input) : Env × Input := ({ now }, input)

def endpointAt (host : ℕ) : VpnEndpoint := ⟨⟨.inet, host, 443⟩, some "endpoint", none, [], false⟩

def connectTo (endpoints : List VpnEndpoint) (retryInfo : VpnConnectRetryInfo) :
    VpnConnectParameters where
  upstreamConfig :=
    ⟨.http2, 0, endpoints, 0, 0, 0, some "user", some "password", ⟨0, 0, 0⟩, false⟩
  retryInfo := retryInfo

end TrustTunnel.Session.Step

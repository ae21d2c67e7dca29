import TrustTunnel.Session.Manager

namespace TrustTunnel.Session.Actions

open Session.Types Client Manager

def nanosPerMilli : ℕ := 10 ^ 6

def timeToNext (vpn : Vpn) (now : ℕ) : ℕ :=
  let time := vpn.recovery.time
  let elapsed := if time.startTs ≠ 0 then (now - time.attemptStartTs) / nanosPerMilli else 0
  let toNext := if elapsed ≤ time.betweenAttempts then time.betweenAttempts - elapsed else 0
  let sinceFire := (now - vpn.lastRecoveryFireTs) / nanosPerMilli
  if vpn.lastRecoveryFireTs ≠ 0 ∧ sinceFire < vpnMinRecoveryFireGapMs then
    max toNext (vpnMinRecoveryFireGapMs - sinceFire)
  else toNext

/-- The timing after an attempt was scheduled `toNext` milliseconds after `now`. -/
def advanceRecoveryTime (settings : VpnUpstreamSessionRecoverySettings) (time : RecoveryTime)
    (now toNext : ℕ) : RecoveryTime :=
  let startTs := if time.startTs ≠ 0 then time.startTs else now
  let betweenAttempts :=
    if time.betweenAttempts = 0 then 1000
    else roundHalfEven (time.betweenAttempts * settings.backoffRate)
  if startTs + settings.locationUpdatePeriodMs * nanosPerMilli ≤ now + toNext * nanosPerMilli then
    { toNext := toNext }
  else
    { startTs, attemptStartTs := time.attemptStartTs, betweenAttempts, toNext }

def initiateRecovery (vpn : Vpn) (now : ℕ) : Vpn :=
  if vpn.upstreamConfig.recovery.attempts ≤ vpn.recovery.attempts then
    vpn.submit .recoveryAttemptsExhausted
  else
    let toNext := timeToNext vpn now
    { vpn with
      postponementWindowTimer :=
        if vpn.recovery.time.startTs ≠ 0 then vpn.postponementWindowTimer
        else some (now + vpnDefaultPostponementWindowMs * nanosPerMilli)
      recovery :=
        { time := advanceRecoveryTime vpn.upstreamConfig.recovery vpn.recovery.time now toNext
          attempts := vpn.recovery.attempts + 1
          -- `vpn_event_loop_schedule` casts the delay to 32 bits
          task := some (now + toNext % 2 ^ 32 * nanosPerMilli) } }

def runClientConnect (vpn : Vpn) (env : Env) (timeout : Option ℕ) : Vpn :=
  match makeClientUpstreamConfig vpn with
  | none => { vpn.call (.connectClient none timeout) with terminated := true }
  | some config =>
    let result := vpn.client.connect config env.connectorStarted env.bypassOpened
    let vpn := { vpn.call (.connectClient (some config) timeout) with client := result.2 }
    if result.1.code = .noerror then
      { vpn with clientState := .connecting, pendingError := none }
    else
      { vpn.submit .clientDisconnected with pendingError := some result.1 }

def needToPingOnRecovery (vpn : Vpn) (data : Data) : Bool :=
  vpn.selectedEndpoint.isNone || vpn.networkChangedBeforeRecovery ||
    vpn.recovery.time.startTs +
      vpn.upstreamConfig.recovery.locationUpdatePeriodMs * nanosPerMilli ≤ data.env.now

def fallIntoRecovery (vpn : Vpn) (_ : Data) : Bool := vpn.connectRetryInfo == .fallIntoRecovery

def noConnectAttempts (vpn : Vpn) (_ : Data) : Bool := vpn.connectRetryInfo == .severalAttempts 0

def networkLost (_ : Vpn) (data : Data) : Bool := data.networkState == .notConnected

def connectedOnce (vpn : Vpn) (_ : Data) : Bool := vpn.connectedOnce

def isFatalError (vpn : Vpn) (data : Data) : Bool :=
  (data.error.any fun error ↦ isFatalErrorCode error.code) ||
    isFatalErrorCode (vpn.pendingError.getD {}).code

def runPing (vpn : Vpn) (data : Data) : Vpn :=
  let vpn := stopPinging vpn
  let relayParallel :=
    if vpn.recovery.time.startTs ≠ 0 then vpn.selectedEndpoint.bind (·.relay) else none
  { vpn.call (.startPinger vpn.state relayParallel) with
    pinger := some {}
    pendingError := none
    selectedEndpoint := none
    recovery :=
      if vpn.recovery.task.isSome then
        { vpn.recovery with
          task := none
          time := { vpn.recovery.time with attemptStartTs := data.env.now } }
      else vpn.recovery }

def connectClient (vpn : Vpn) (data : Data) : Vpn := runClientConnect vpn data.env none

/-- The first half of `complete_connect`: an error that nobody recorded yet ends the attempt. -/
def recordConnectError (vpn : Vpn) (data : Data) : Vpn :=
  match vpn.pendingError, data.error with
  | none, some error =>
    if error.code == .noerror then vpn else { disconnect vpn with pendingError := some error }
  | _, _ => vpn

def attemptsExceeded : VpnError :=
  ⟨.initialConnectFailed, "Number of connection attempts exceeded"⟩

def completeConnect (vpn : Vpn) (data : Data) : Vpn :=
  let vpn := recordConnectError vpn data
  let vpn :=
    if vpn.pendingError.isSome && !isFatalError vpn data && noConnectAttempts vpn data then
      { vpn with pendingError := some attemptsExceeded }
    else vpn
  let vpn := { vpn with recovery := {} }
  if vpn.pendingError.isSome then vpn else vpn.call .healthCheck

def failConnectWithNoAttempts (vpn : Vpn) (data : Data) : Vpn :=
  completeConnect vpn { data with error := some attemptsExceeded }

/-- With the fall-into-recovery policy the source runs into `assert(0)` here. -/
def retryConnect (vpn : Vpn) (_ : Data) : Vpn :=
  let vpn := vpn.call (.retryConnect vpn.connectRetryInfo)
  let vpn := match vpn.connectRetryInfo with
    | .severalAttempts attemptsLeft =>
      { vpn with connectRetryInfo := .severalAttempts (sizePred attemptsLeft) }
    | .fallIntoRecovery => vpn
  (disconnect vpn).submit .retryConnect

def prepareForRecovery (vpn : Vpn) (data : Data) : Vpn :=
  let vpn := { vpn with pendingError := keepFirstError vpn.pendingError data.error }
  initiateRecovery (disconnect vpn) data.env.now

def prepareForRecoveryNc (vpn : Vpn) (data : Data) : Vpn :=
  prepareForRecovery vpn { data with error := none }

def reconnectClient (vpn : Vpn) (data : Data) : Vpn :=
  let vpn := disconnectClient vpn
  runClientConnect vpn data.env
    (some (min vpn.recovery.time.betweenAttempts vpn.upstreamConfig.timeoutMs))

def finalizeRecovery (vpn : Vpn) (_ : Data) : Vpn :=
  let vpn := stopPinging { vpn with recovery := {} }
  let vpn := completePostponedRequests { vpn with postponementWindowTimer := none }
  resetBypassedConnections vpn

def doDisconnect (vpn : Vpn) (_ : Data) : Vpn := disconnect { vpn with recovery := {} }

def startListening (vpn : Vpn) (data : Data) : Vpn :=
  if data.env.listenResult.code == .noerror then vpn
  else
    { vpn.submit (.listenFailed data.env.listenResult) with
      client := vpn.client.performTransition .runPreparationFail }

def onWrongConnectState (vpn : Vpn) (_ : Data) : Vpn :=
  { disconnect vpn with pendingError := some ⟨.invalidState, "Invalid state for connecting"⟩ }

/-- It only writes a log line. -/
def onWrongListenState (vpn : Vpn) (_ : Data) : Vpn := vpn

def raiseState (vpn : Vpn) (_ : Data) : Vpn :=
  match vpn.state with
  | .waitingRecovery =>
    let error := vpn.pendingError.getD {}
    { vpn.call (.stateChanged vpn.state
        (.waitingRecovery error (vpn.recovery.time.toNext % 2 ^ 32))) with
      pendingError := none }
  | .connected =>
    { vpn.call (.stateChanged vpn.state (.connected (vpn.selectedEndpoint.map (·.endpoint))
        (vpn.selectedEndpoint.bind (·.relay)))) with
      connectedOnce := true
      -- `selected_endpoint` is dereferenced unchecked
      terminated := vpn.terminated || vpn.selectedEndpoint.isNone }
  | .disconnected | .connecting | .recovering =>
    { vpn.call (.stateChanged vpn.state (.error (vpn.pendingError.getD {}))) with
      networkChangedBeforeRecovery := false
      pendingError := none }
  | .waitingForNetwork =>
    { vpn.call (.stateChanged vpn.state (.error (vpn.pendingError.getD {}))) with
      pendingError := none }

def canComplete (vpn : Vpn) (data : Data) : Bool :=
  data.request.action == some .forceBypass || vpn.state == .connected || vpn.state == .connecting ||
    vpn.state == .disconnected || vpn.state == .waitingForNetwork || data.env.completesImmediately

def isKillSwitchOn (vpn : Vpn) (_ : Data) : Bool := vpn.client.killSwitchOn

def completeRequest (vpn : Vpn) (data : Data) : Vpn :=
  vpn.call (.completeConnectRequest .completeRequest data.request.id data.request.action)

def rejectRequest (vpn : Vpn) (data : Data) : Vpn :=
  vpn.call (.rejectConnectRequest .rejectRequest data.request.id)

def bypassUntilConnected (vpn : Vpn) (data : Data) : Vpn :=
  { vpn.call
      (.completeConnectRequest .bypassUntilConnected data.request.id (some .forceBypass)) with
    bypassedConnectionIds := vpn.bypassedConnectionIds ++ [data.request.id] }

def shouldPostpone (vpn : Vpn) (_ : Data) : Bool := vpn.postponementWindowTimer.isSome

def postponeRequest (vpn : Vpn) (data : Data) : Vpn :=
  { vpn.call (.postponeRequest data.request) with
    postponedRequests := vpn.postponedRequests ++ [data.request] }

def expiredRequestCall (killSwitchOn : Bool) (request : ConnectRequestResult) : Call :=
  if killSwitchOn then .rejectConnectRequest .postponementWindowTimerCb request.id
  else .completeConnectRequest .postponementWindowTimerCb request.id (some .forceBypass)

def postponementWindowTimerCb (vpn : Vpn) : Vpn :=
  { vpn with
    postponementWindowTimer := none
    postponedRequests := []
    bypassedConnectionIds :=
      if vpn.client.killSwitchOn then vpn.bypassedConnectionIds
      else vpn.bypassedConnectionIds ++ vpn.postponedRequests.map (·.id)
    calls := vpn.calls ++ vpn.postponedRequests.map (expiredRequestCall vpn.client.killSwitchOn) }

end TrustTunnel.Session.Actions

import Mathlib.Data.Rat.Floor
import TrustTunnel.Net.Address

namespace TrustTunnel.Session.Types

open Net.Address

inductive VpnErrorCode
  | noerror
  | error
  | invalidSettings
  | addrInUse
  | invalidState
  | authRequired
  | locationUnavailable
  | certificateVerificationFailed
  | eventLoopFailure
  | initialConnectFailed
  | fatalConnectivityError
  /-- Socket and library codes that upstreams pass through unchanged. -/
  | system (code : ℤ)
deriving DecidableEq, Repr

structure VpnError where
  code : VpnErrorCode := .noerror
  text : String := ""
deriving DecidableEq, Repr

inductive VpnSessionState
  | disconnected
  | connecting
  | connected
  | waitingRecovery
  | recovering
  | waitingForNetwork
deriving DecidableEq, Repr

inductive ConnectEvent
  | doConnect
  | retryConnect
  | pingReady
  | pingFail
  | clientReady
  | clientDisconnected
  | doRecovery
  | shutdown
  | networkChange
  | startListening
  | abandonEndpoint
  | completeRequest
deriving DecidableEq, Repr

inductive VpnNetworkState
  | connected
  | notConnected
deriving DecidableEq, Repr

inductive VpnConnectAction
  | default
  | forceBypass
  | forceRedirect
  | reject
deriving DecidableEq, Repr

inductive VpnUpstreamProtocol
  | auto
  | http2
  | http3
deriving DecidableEq, Repr

structure VpnEndpoint where
  address : SocketAddress
  name : Option String
  remoteId : Option String := none
  additionalData : List UInt8 := []
  hasIpv6 : Bool := false
deriving DecidableEq, Repr

def vpnEndpointEquals (lh rh : VpnEndpoint) : Bool :=
  lh.address == rh.address && lh.name == rh.name && lh.remoteId == rh.remoteId

structure VpnRelay where
  address : SocketAddress
  additionalData : List UInt8 := []
deriving DecidableEq, Repr

structure SelectedEndpoint where
  endpoint : VpnEndpoint
  relay : Option VpnRelay
deriving DecidableEq, Repr

structure VpnUpstreamSessionRecoverySettings where
  backoffRate : ℚ
  locationUpdatePeriodMs : ℕ
  attempts : ℕ

structure VpnUpstreamConfig where
  mainProtocol : VpnUpstreamProtocol
  httpConnectionsNum : ℕ
  endpoints : List VpnEndpoint
  locationPingTimeoutMs : ℕ
  timeoutMs : ℕ
  healthCheckTimeoutMs : ℕ
  username : Option String
  password : Option String
  recovery : VpnUpstreamSessionRecoverySettings
  antiDpi : Bool

def defaultLocationPingTimeoutMs : ℕ := 5000
def vpnDefaultEndpointUpstreamTimeoutMs : ℕ := 30 * 1000
def vpnDefaultHealthCheckTimeoutMs : ℕ := 7000
def vpnDefaultRecoveryLocationUpdatePeriodMs : ℕ := 10 * 1000
def vpnDefaultInitialRecoveryIntervalMs : ℕ := 0
def vpnMinRecoveryFireGapMs : ℕ := 2000
def vpnDefaultConnectAttemptsNum : ℕ := 5
def vpnDefaultPostponementWindowMs : ℕ := 3 * 1000
def vpnDefaultRecoveryBackoffRate : ℚ := 13 / 10
def vpnDefaultRecoveryAttempts : ℕ := 30

inductive ClientConnectionState
  | disconnected
  | connecting
  | connected
deriving DecidableEq, Repr

/-- Time points are nanoseconds of the steady clock, where 0 is the default-constructed
time point; intervals are milliseconds. -/
structure RecoveryTime where
  startTs : ℕ := 0
  attemptStartTs : ℕ := 0
  betweenAttempts : ℕ := vpnDefaultInitialRecoveryIntervalMs
  toNext : ℕ := 0

structure RecoveryInfo where
  time : RecoveryTime := {}
  attempts : ℕ := 0
  task : Option ℕ := none

inductive ConnectRetryInfo
  | severalAttempts (attemptsLeft : ℕ)
  | fallIntoRecovery
deriving DecidableEq, Repr

def sizePred (n : ℕ) : ℕ := (n + (2 ^ 64 - 1)) % 2 ^ 64

theorem sizePred_succ {n : ℕ} (h : n + 1 < 2 ^ 64) : sizePred (n + 1) = n := by
  unfold sizePred
  omega

structure ConnectRequestResult where
  id : ℕ
  action : Option VpnConnectAction
  appname : String := ""
  uid : ℤ := 0
deriving DecidableEq, Repr

inductive VpnConnectRetryPolicy
  | severalAttempts
  | fallIntoRecovery
deriving DecidableEq, Repr

structure VpnConnectRetryInfo where
  policy : VpnConnectRetryPolicy
  attemptsNum : Int32 := 0

structure VpnConnectParameters where
  upstreamConfig : VpnUpstreamConfig
  retryInfo : VpnConnectRetryInfo

structure LocationsPingerResult where
  pingMs : ℤ
  endpoint : VpnEndpoint
  relay : Option VpnRelay := none
  isQuic : Bool := false
  connState : Bool := false
deriving DecidableEq, Repr

def isFatalErrorCode (code : VpnErrorCode) : Bool :=
  code == .authRequired || code == .locationUnavailable || code == .certificateVerificationFailed

end TrustTunnel.Session.Types

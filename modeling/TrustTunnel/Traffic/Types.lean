import TrustTunnel.Lib.TwoKeyStore
import TrustTunnel.Session.Types

namespace TrustTunnel.Traffic.Types

open Lib.TwoKeyStore Net.Address Session.Types

/-- The upstream objects; `vpn->endpoint_upstream` is a new one for every connection to an
endpoint. -/
inductive Upstream
  | endpoint (session : ℕ)
  | bypass
  | fake
  | dnsHandler
deriving DecidableEq, Repr

/-- The listener objects. `vpn->dns_proxy_listener` is made anew for every session. -/
inductive Listener
  | client
  | dnsResolver
  | dnsHandler
  | dnsProxy (session : ℕ)
deriving DecidableEq, Repr

inductive VpnConnectionState
  | waitingAction
  | waitingResolve
  | waitingResponse
  | waitingResponseMigrating
  | waitingAccept
  | connected
  | connectedMigrating
  | rejected
deriving DecidableEq, Repr

inductive TransportProtocol
  | tcp
  | udp
deriving DecidableEq, Repr

inductive VpnMode
  | general
  | selective
deriving DecidableEq, Repr

inductive VpnFinalConnectionAction
  | tunnel
  | bypass
  | reject
deriving DecidableEq, Repr

inductive DomainFilterMatchStatus
  | default
  | exclusion
  | suspectExclusion
deriving DecidableEq, Repr

inductive DomainExtractorStatus
  | notFound
  | found
  | pass
  | wantMore
deriving DecidableEq, Repr

structure DomainExtractorResult where
  status : DomainExtractorStatus := .notFound
  domain : String := ""
deriving DecidableEq, Repr

inductive ClientConnectResult
  | pass
  | drop
  | reject
  | unreach
deriving DecidableEq, Repr

inductive ErrorCode
  | none
  | timedOut
  | netUnreach
  | hostUnreach
  | connRefused
  | connReset
  | other
deriving DecidableEq, Repr

def serverErrorToConnectResult : ErrorCode → ClientConnectResult
  | .none => .pass
  | .timedOut => .drop
  | .netUnreach | .hostUnreach => .unreach
  | .connRefused | .connReset | .other => .reject

structure VpnConnectionFlags where
  firstPacket : Bool := false
  forciblyBypassed : Bool := false
  forciblyRedirected : Bool := false
  lookingupDomain : Bool := false
  sessionClosed : Bool := false
  suspectExclusion : Bool := false
  fakeConnection : Bool := false
  plainDnsConnection : Bool := false
  monitorStats : Bool := false
  connInfoSent : Bool := false
deriving DecidableEq, Repr

structure CompleteConnectRequestCtx where
  listenerConnId : Option ℕ
  errCode : ErrorCode
deriving DecidableEq, Repr

abbrev Packet := List UInt8

/-- In the ids `none` stands for `NON_ID`. -/
structure VpnConnection where
  clientId : Option ℕ := none
  serverId : Option ℕ := none
  listener : Listener
  upstream : Option Upstream := none
  state : VpnConnectionState := .waitingAction
  addr : TunnelAddressPair
  proto : TransportProtocol
  flags : VpnConnectionFlags := {}
  uid : ℤ := 0
  domainExtractorResult : DomainExtractorResult := {}
  migratingClientId : Option ℕ := none
  appName : String := ""
  completeConnectRequestTask : Option CompleteConnectRequestCtx := none
  incomingBytes : ℕ := 0
  outgoingBytes : ℕ := 0
  bufferedPackets : List Packet := []
  sendBufferedTask : Option (Option ℕ) := none
  lookupAttemptsNum : ℕ := 0
  action : Option VpnConnectAction := none
deriving DecidableEq, Repr

def plainDnsPortNumber : ℕ := 53

def TunnelAddressPair.socketAddress? (addr : TunnelAddressPair) : Option SocketAddress :=
  match addr.dst with
  | .socketAddress a => some a
  | .namePort _ => none

def VpnConnection.make (clientId : Option ℕ) (listener : Listener) (addr : TunnelAddressPair)
    (proto : TransportProtocol) : VpnConnection where
  clientId := clientId
  listener := listener
  addr := addr
  proto := proto
  flags :=
    { plainDnsConnection :=
        (TunnelAddressPair.socketAddress? addr).any fun dst ↦ dst.port == plainDnsPortNumber }

inductive LookupSource
  | outgoing
  | incoming
  | cache
deriving DecidableEq, Repr

/-- What the tunnel does to its surroundings, and what it decides its routes by, in order. -/
inductive Call
  | completeConnectRequest (listener : Listener) (id : Option ℕ) (result : ClientConnectResult)
  | closeClient (listener : Listener) (id : Option ℕ) (graceful async : Bool)
  | sendClient (id : Option ℕ) (data : Packet)
  | turnRead (id : Option ℕ) (on : Bool)
  | openConnection (upstream : Upstream) (client : Option ℕ) (addr : TunnelAddressPair)
      (id : Option ℕ)
  | closeServer (upstream : Upstream) (id : Option ℕ) (graceful async : Bool)
  | send (upstream : Upstream) (id : Option ℕ) (accepted : Packet)
  | resolve (name : String) (id : Option ℕ)
  | cancelResolve (id : ℕ)
  | notifyVpnResolverConnection (id : Option ℕ)
  | registerConn (id : ℕ)
  | unregisterConn (id : Option ℕ)
  | connectRequest (id : ℕ)
  | connectionClosed (id : Option ℕ)
  | connectionInfo (id : Option ℕ) (domain : Option String) (action : VpnFinalConnectionAction)
  | requested (listener : Listener) (id : ℕ) (addr : TunnelAddressPair)
  /-- `finalize_connect_action` saw the action `own` of the application and, if it asked for one,
  the match `status` of the destination. -/
  | finalized (id : ℕ) (own : Option VpnConnectAction) (status : Option DomainFilterMatchStatus)
  | completed (id : ℕ) (action : Option VpnConnectAction)
  | resolvedMatch (id : Option ℕ) (address : SocketAddress) (status : DomainFilterMatchStatus)
  | lookedUp (id : Option ℕ) (source : LookupSource) (domain : String)
      (status : DomainFilterMatchStatus)
  | accepted (id : Option ℕ) (data : Packet)
deriving DecidableEq

/-- What an upstream tells its handler about sessions and connections. -/
inductive ServerEvent
  | sessionOpened
  | sessionClosed
  | connectionOpened (id : ℕ)
  | connectionClosed (id : ℕ)
  | error (id : ℕ) (code : ErrorCode)
  | sessionError (error : VpnError)
deriving DecidableEq, Repr

/-- The tunnel with the parts of its client that it reads. -/
structure Tunnel where
  /-- The records, in `by_client_id` (left) and `by_server_id` (right). -/
  connections : Store VpnConnection := {}
  id : ℕ := 0
  endpointUpstreamConnected : Bool := false
  endpointUpstream : Option ℕ := none
  dnsProxyListener : Option ℕ := none
  upstreamConnIdGenerator : ℕ := 0
  dnsResolveWaiters : AList (fun _ : ℕ ↦ ℕ) := ∅
  udpCloseWaitHostnameCache : List (TunnelAddressPair × DomainExtractorResult) := []
  calls : List Call := []

namespace Tunnel

variable (t : Tunnel)

def call (c : Call) : Tunnel := { t with calls := t.calls ++ [c] }

/-- `vpn_connection_get_by_id` on `by_client_id`, with the reference to the record. -/
def byClientId (id : Option ℕ) : Option (ℕ × VpnConnection) :=
  id.bind fun k ↦ (t.connections.leftRef k).bind fun r ↦ (t.connections.get r).map fun c ↦ (r, c)

def byServerId (id : Option ℕ) : Option (ℕ × VpnConnection) :=
  id.bind fun k ↦ (t.connections.rightRef k).bind fun r ↦ (t.connections.get r).map fun c ↦ (r, c)

def modify (r : ℕ) (f : VpnConnection → VpnConnection) : Tunnel :=
  match t.connections.get r with
  | none => t
  | some c => { t with connections := t.connections.set r (f c) }

def removeClientId (id : Option ℕ) : Tunnel :=
  match id with
  | none => t
  | some k => { t with connections := t.connections.unlinkLeft k }

def removeServerId (id : Option ℕ) : Tunnel :=
  match id with
  | none => t
  | some k => { t with connections := t.connections.unlinkRight k }

def putClientId (id : Option ℕ) (r : ℕ) : Tunnel :=
  match id with
  | none => t
  | some k => { t with connections := t.connections.linkLeft k r }

def putServerId (id : Option ℕ) (r : ℕ) : Tunnel :=
  match id with
  | none => t
  | some k => { t with connections := t.connections.linkRight k r }

def lockUpstream (c : VpnConnection) : Option Upstream :=
  match c.upstream with
  | some (.endpoint session) =>
    if t.endpointUpstream = some session then some (.endpoint session) else none
  | upstream => upstream

def lockListener (c : VpnConnection) : Option Listener :=
  match c.listener with
  | .dnsProxy session =>
    if t.dnsProxyListener = some session then some (.dnsProxy session) else none
  | listener => some listener

def endpoint : Option Upstream := t.endpointUpstream.map .endpoint

end Tunnel

inductive QuicHeader
  | none
  | zeroRtt
  /-- An initial packet; `true` if it has data for a lookup. -/
  | initial (data : Bool)
  | other
deriving DecidableEq, Repr

/-- The settings of the client and the answers of the world to one step. -/
structure Env where
  mode : VpnMode := .general
  exclusionsTcpEarlyAckEnabled : Bool := false
  exclusionsScannablePorts : ℕ → Bool := fun _ ↦ false
  matchTag : SocketAddress → String → DomainFilterMatchStatus × Option String :=
    fun _ _ ↦ (.default, none)
  matchDomain : String → DomainFilterMatchStatus := fun _ ↦ .default
  /-- Reads an IP address off a host name that is one. -/
  ipLiteral : String → Option (AddressFamily × ℕ) := fun _ ↦ none
  ipVersionAvailability : Upstream → AddressFamily → Bool := fun _ _ ↦ true
  opens : Bool := true
  resolveId : Option ℕ := none
  /-- The listener raises `CLIENT_EVENT_CONNECTION_CLOSED` from inside the call that closes or
  rejects the connection with this id. -/
  closesNow : ℕ → Bool := fun _ ↦ false
  acceptsNow : Bool := false
  serverClosesNow : Bool := false
  sends : List (Option ℕ) := []
  canSend : Bool := true
  clientSend : Option ℕ := some 0
  quicHeader : QuicHeader := .none
  extracted : DomainExtractorResult := {}
  cacheAlive : Bool := true
  isVpnResolverConnection : ℕ → Bool := fun _ ↦ false

end TrustTunnel.Traffic.Types

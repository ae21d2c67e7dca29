import TrustTunnel.Traffic.Reading

namespace TrustTunnel.Traffic.Serving

open Net.Address Session.Types Traffic.Types Close Routing Reading

variable (t : Tunnel) (env : Env)

def serverClosed (id : Option ℕ) : Tunnel :=
  match t.byServerId id with
  | none => t
  | some (r, c) =>
    if (t.byClientId c.clientId).isSome && (t.lockListener c).isSome then
      closeClientSideConnection
        ((t.removeServerId c.serverId).call (.turnRead c.clientId false)) env r c .none false
    else destroyConnection t c.clientId c.serverId

/-- The pass of a connect request, which the listener may accept from inside. -/
def acceptNow (listener : Listener) (id : Option ℕ) : Tunnel :=
  let t := t.call (.completeConnectRequest listener id .pass)
  match id with
  | none => t
  | some id => if env.acceptsNow then clientAccepted t env listener id else t

def closeOldServer (c : VpnConnection) : Tunnel :=
  match t.lockUpstream c with
  | none => t
  | some upstream =>
    let t := t.call (.closeServer upstream c.serverId false false)
    if env.serverClosesNow then serverClosed t env c.serverId else t

def takeOver (src c : VpnConnection) : VpnConnection :=
  { c with
    clientId := src.clientId
    state := .connected
    migratingClientId := none
    bufferedPackets := if c.proto = .udp then src.bufferedPackets else c.bufferedPackets }

def handOver (c src : VpnConnection) : VpnConnection :=
  { src with
    clientId := c.clientId
    bufferedPackets := if c.proto = .udp then c.bufferedPackets else src.bufferedPackets }

/-- The replacement `c` at `r` takes the place of the connection `src` at `srcRef`. -/
def switchUpstream (r : ℕ) (c : VpnConnection) (srcRef : ℕ) (src : VpnConnection) : Tunnel :=
  addConnection ((t.modify r (takeOver src)).modify srcRef (handOver c)) r

def completeMigration (upstream : Upstream) (id r : ℕ) (c : VpnConnection) : Tunnel :=
  match t.byClientId c.migratingClientId with
  | none => t.call (.closeServer upstream (some id) false true)
  | some (srcRef, src) =>
    let t := closeOldServer (switchUpstream t r c srcRef src) env src
    match t.connections.get r with
    | none => t
    | some c =>
      if c.bufferedPackets.isEmpty then t.call (.turnRead c.clientId true)
      else scheduleSendBufferedData t r

def serverOpened (upstream : Upstream) (id : ℕ) : Tunnel :=
  match t.byServerId (some id) with
  | none => t.call (.closeServer upstream (some id) false true)
  | some (r, c) =>
    if t.lockUpstream c ≠ some upstream then t.call (.closeServer upstream (some id) false true)
    else
      match t.lockListener c with
      | none => t.call (.closeServer upstream (some id) false true)
      | some listener =>
        match c.state with
        | .waitingResponse =>
          let t := reportConnectionInfo t env r (some c.domainExtractorResult.domain)
          acceptNow (t.modify r fun c ↦ { c with state := .waitingAccept }) env listener c.clientId
        | .waitingResponseMigrating => completeMigration t env upstream id r c
        | _ => t.call (.closeServer upstream (some id) false true)

def sendToClient (r : ℕ) (c : VpnConnection) (data : Packet) : Tunnel × Option ℕ :=
  match env.clientSend with
  | none => (t, none)
  | some n =>
    ((t.modify r fun c ↦ { c with incomingBytes := c.incomingBytes + min data.length n }).call
      (.sendClient c.clientId (data.take n)), some (min data.length n))

def serverRead (upstream : Upstream) (id : ℕ) (data : Packet) : Tunnel × Option ℕ :=
  match t.byServerId (some id) with
  | none => (t, none)
  | some (r, c) =>
    if t.lockUpstream c ≠ some upstream || (t.lockListener c).isNone then (t, none)
    else if c.flags.lookingupDomain then
      let (t, action) := passThroughDomainLookup t env r c .incoming
      match action with
      | .done =>
        sendToClient
            (t.modify r fun c ↦ { c with flags := { c.flags with lookingupDomain := false } })
          env r c data
      | .pass | .wantMore | .drop => sendToClient t env r c data
      | .shutdown => (closeClientSideConnection t env r c .none false, some 0)
      | .block => (closeClientSideConnection t env r c .other false, some 0)
    else sendToClient t env r c data

/-- `SERVER_EVENT_DATA_SENT`. With another upstream, or without its listener, the connection that
is closed is the one numbered like the tunnel. -/
def serverDataSent (upstream : Upstream) (id : ℕ) : Tunnel :=
  match t.byServerId (some id) with
  | none => t
  | some (r, c) =>
    if t.lockUpstream c ≠ some upstream || (t.lockListener c).isNone then
      t.call (.closeServer upstream (some t.id) false true)
    else if c.state = .connected then
      let t := t.call (.turnRead c.clientId env.canSend)
      if c.bufferedPackets.isEmpty then t else scheduleSendBufferedData t r
    else t

/-- `SERVER_EVENT_ERROR` for the replacement `c` of a migrating connection. -/
def failMigration (upstream : Upstream) (c : VpnConnection) : Tunnel :=
  let t := match t.byClientId c.migratingClientId with
    | none => t
    | some (_, src) => t.call (.closeServer upstream src.serverId false true)
  match t.lockUpstream c with
  | none => t
  | some own => t.call (.closeServer own c.serverId false true)

/-- `SERVER_EVENT_ERROR`; without an id it is about the session. -/
def serverError (upstream : Upstream) (id : Option ℕ) (errCode : ErrorCode) : Tunnel :=
  if id.isNone then closeClientSide t env upstream
  else
    match t.byServerId id with
    | none => t
    | some (r, c) =>
      if c.state = .waitingResponseMigrating then failMigration t upstream c
      else if (t.byClientId c.clientId).isSome then
        closeClientSideConnection (t.removeServerId c.serverId) env r c errCode false
      else destroyConnection t c.clientId c.serverId

def sessionOpened (upstream : Upstream) : Tunnel :=
  if t.endpoint = some upstream then { t with endpointUpstreamConnected := true } else t

inductive Input
  | connectRequest (listener : Listener) (request : ClientConnectRequest)
  | clientAccepted (listener : Listener) (id : ℕ)
  | clientClosed (id : ℕ)
  | clientRead (id : ℕ) (packet : Packet)
  | sessionOpened (upstream : Upstream)
  | sessionClosed (upstream : Upstream)
  | serverOpened (upstream : Upstream) (id : ℕ)
  | serverClosed (id : ℕ)
  | serverRead (upstream : Upstream) (id : ℕ) (data : Packet)
  | serverDataSent (upstream : Upstream) (id : ℕ)
  | serverError (upstream : Upstream) (id : Option ℕ) (errCode : ErrorCode)
  | completeConnectRequest (id : ℕ) (action : Option VpnConnectAction)
  | finalizeConnectAction (request : ConnectRequestResult)
  | resolveResult (resolveId : ℕ) (addresses : Option (List SocketAddress))
  | completeTask (ctx : CompleteConnectRequestCtx)
  | sendTask (id : Option ℕ)
  | resetConnectionsByUid (uid : ℤ)
  | resetConnectionsByListener (listener : Listener)
  | resetConnection (id : ℕ)
  | onBeforeEndpointDisconnect (upstream : Option Upstream)
  | onAfterEndpointDisconnect (upstream : Upstream)
  | endpointReplaced (session : Option ℕ)
  | dnsProxyReplaced (session : Option ℕ)
deriving DecidableEq

/-- What only the session manager does to the tunnel. -/
def bySession : Input → Bool
  | .completeConnectRequest .. | .finalizeConnectAction _ | .resetConnection _ => true
  | _ => false

def handle : Input → Tunnel
  | .connectRequest listener request => connectRequest t env listener request
  | .clientAccepted listener id => clientAccepted t env listener id
  | .clientClosed id => clientClosed t id
  | .clientRead id packet => (clientRead t env id packet).1
  | .sessionOpened upstream => sessionOpened t upstream
  | .sessionClosed upstream => closeClientSide t env upstream
  | .serverOpened upstream id => serverOpened t env upstream id
  | .serverClosed id => serverClosed t env (some id)
  | .serverRead upstream id data => (serverRead t env upstream id data).1
  | .serverDataSent upstream id => serverDataSent t env upstream id
  | .serverError upstream id errCode => serverError t env upstream id errCode
  | .completeConnectRequest id action => completeConnectRequest t env id action
  | .finalizeConnectAction request => (finalizeConnectAction t env request).1
  | .resolveResult resolveId addresses => onDestinationResolveResult t env resolveId addresses
  | .completeTask ctx => completeConnectRequestTask t env ctx
  | .sendTask id => (sendBufferedData t env id).1
  | .resetConnectionsByUid uid => resetConnectionsByUid t env uid
  | .resetConnectionsByListener listener => resetConnectionsByListener t env listener
  | .resetConnection id => resetConnection t env id
  | .onBeforeEndpointDisconnect upstream => onBeforeEndpointDisconnect t env upstream
  | .onAfterEndpointDisconnect upstream => onAfterEndpointDisconnect t upstream
  | .endpointReplaced session => { t with endpointUpstream := session }
  | .dnsProxyReplaced session => { t with dnsProxyListener := session }

def Tunnel.listening (id : ℕ) : Bool :=
  (t.byClientId (some id)).all fun (_, c) ↦ (t.lockListener c).isSome

def Tunnel.pending (p : VpnConnection → Bool) : Bool :=
  t.connections.records.entries.any fun entry ↦ p entry.2

/-- What can happen: ids are announced once, by live listeners, and only pending tasks run. -/
def possible : Input → Bool
  | .connectRequest listener request =>
    t.calls.all (fun call ↦
      match call with
      | .requested _ id _ => id != request.id
      | _ => true) &&
    (match listener with
      | .dnsProxy session => t.dnsProxyListener == some session
      | _ => true)
  | .clientRead id _ => Tunnel.listening t id
  | .clientAccepted _ id => Tunnel.listening t id
  | .completeTask ctx => Tunnel.pending t fun c ↦ c.completeConnectRequestTask == some ctx
  | .sendTask id => Tunnel.pending t fun c ↦ c.sendBufferedTask == some id
  | _ => true

def step (label : Env × Input) : Option Tunnel :=
  if possible t label.2 then some (handle t label.1 label.2) else none

def webServer : TunnelAddressPair := ⟨⟨.inet, 10, 5000⟩, .socketAddress ⟨.inet, 20, 443⟩⟩

def connectedRun : List (Env × Input) :=
  [({}, .endpointReplaced (some 0)), ({}, .sessionOpened (.endpoint 0)),
    ({}, .connectRequest .client { id := 1, protocol := .tcp, addr := webServer }),
    ({}, .completeConnectRequest 1 none),
    ({ acceptsNow := true }, .serverOpened (.endpoint 0) 0)]

def excludedHello : Env :=
  { extracted := ⟨.found, "example.org"⟩, matchDomain := fun _ ↦ .exclusion }

end TrustTunnel.Traffic.Serving

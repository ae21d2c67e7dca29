import TrustTunnel.Traffic.Close

namespace TrustTunnel.Traffic.Routing

open Net.Address Session.Types Traffic.Types Close

variable (t : Tunnel) (env : Env)

def vpnModeToAction : VpnMode → VpnConnectAction
  | .general => .forceRedirect
  | .selective => .forceBypass

def invertAction : VpnConnectAction → VpnConnectAction
  | .forceBypass => .forceRedirect
  | .forceRedirect => .forceBypass
  | action => action

def exclusionAction : VpnConnectAction := invertAction (vpnModeToAction env.mode)

def getFinalAction (mode : VpnMode) : VpnConnectAction → VpnFinalConnectionAction
  | .default =>
    match mode with
    | .general => .tunnel
    | .selective => .bypass
  | .forceBypass => .bypass
  | .forceRedirect => .tunnel
  | .reject => .reject

def forcedUpstream : VpnConnectAction → Option Upstream
  | .forceBypass => some .bypass
  | .forceRedirect => t.endpoint
  | .default | .reject => none

def needsFake (c : VpnConnection) : Bool :=
  c.flags.lookingupDomain && (c.flags.suspectExclusion || env.exclusionsTcpEarlyAckEnabled) &&
    (TunnelAddressPair.socketAddress? c.addr).any fun dst ↦ env.exclusionsScannablePorts dst.port

def selectUpstream (action : VpnConnectAction) (c : Option VpnConnection) : Option Upstream :=
  match action, c with
  | .default, some c =>
    if t.lockListener c = some .dnsHandler then forcedUpstream t .forceRedirect
    else if c.flags.plainDnsConnection then some .dnsHandler
    else if needsFake env c then some .fake
    else forcedUpstream t (vpnModeToAction env.mode)
  | .default, none => forcedUpstream t (vpnModeToAction env.mode)
  | action, _ => forcedUpstream t action

/-- The domain that `report_connection_info` shows for a connection to `dst`. -/
def reportedDomain (dst : TunnelAddress) (domain : Option String) : Option String :=
  let shown := match dst with
    | .socketAddress _ => domain
    | .namePort n => some n.name
  shown.filter (· ≠ "")

def reportConnectionInfo (r : ℕ) (domain : Option String) : Tunnel :=
  match t.connections.get r with
  | none => t
  | some c =>
    if c.flags.plainDnsConnection || c.flags.lookingupDomain || c.flags.connInfoSent ||
        (TunnelAddressPair.socketAddress? c.addr).any SocketAddress.isLoopback then t
    else
      (t.modify r fun c ↦ { c with flags := { c.flags with connInfoSent := true } }).call
        (.connectionInfo c.clientId (reportedDomain c.addr.dst domain)
          (getFinalAction env.mode (c.action.getD .default)))

/-- What `finalize_connect_action` asks the filter about a connection, with the domain it gets. -/
def matchDestination (c : VpnConnection) : DomainFilterMatchStatus × Option String :=
  match c.addr.dst with
  | .socketAddress dst => env.matchTag dst c.appName
  | .namePort dst => (env.matchDomain dst.name, some dst.name)

/-- What the match of its destination makes of a connection whose request has no action. -/
def applyMatch (action : Option VpnConnectAction) (status : DomainFilterMatchStatus)
    (c : VpnConnection) : VpnConnection :=
  match c.addr.dst, status with
  | .socketAddress dst, .suspectExclusion =>
    if env.exclusionsScannablePorts dst.port then
      { c with flags := { c.flags with suspectExclusion := true } }
    else c
  | _, .exclusion => { c with action := some (exclusionAction env) }
  | _, _ => { c with action := action }

def applyRequest (request : ConnectRequestResult) (c : VpnConnection) : VpnConnection :=
  { c with
    appName := if request.appname = "" then c.appName else request.appname
    uid := request.uid }

def finalizeConnectAction (request : ConnectRequestResult) : Tunnel × Option VpnConnectAction :=
  match t.byClientId (some request.id) with
  | none => (t, none)
  | some (r, c) =>
    let c := applyRequest request c
    let t := t.modify r (applyRequest request)
    if (request.action.isSome && request.action != some .default) || c.flags.plainDnsConnection then
      ((t.modify r fun c ↦ { c with action := request.action }).call
        (.finalized request.id request.action none), request.action)
    else
      let (status, domain) := matchDestination env c
      let t := (t.modify r (applyMatch env request.action status)).call
        (.finalized request.id request.action (some status))
      let t := if status = .exclusion then reportConnectionInfo t env r domain else t
      (t, (applyMatch env request.action status c).action)

def opened (upstream : Upstream) (client : Option ℕ) (addr : TunnelAddressPair) : Tunnel :=
  { t.call (.openConnection upstream client addr (some t.upstreamConnIdGenerator)) with
    upstreamConnIdGenerator := t.upstreamConnIdGenerator + 1 }

def openConnection (upstream : Upstream) (client : Option ℕ) (addr : TunnelAddressPair) :
    Tunnel × Option ℕ :=
  if env.opens then (opened t upstream client addr, some t.upstreamConnIdGenerator)
  else (t.call (.openConnection upstream client addr none), none)

def connectRecord (r : ℕ) (c : VpnConnection) (upstream : Option Upstream) : Tunnel × Bool :=
  let (t, serverId) := match upstream with
    | none => (t, c.serverId)
    | some upstream => openConnection t env upstream c.clientId c.addr
  let t := t.modify r fun c ↦ { c with upstream := upstream, serverId := serverId }
  match serverId with
  | none => (t, false)
  | some _ => (addConnection (t.modify r fun c ↦ { c with state := .waitingResponse }) r, true)

/-- The action of a connection whose name was resolved to `address`. -/
def resolvedAction (c : VpnConnection) (address : SocketAddress) : VpnConnectAction :=
  if c.flags.forciblyBypassed then .forceBypass
  else if c.flags.forciblyRedirected then .forceRedirect
  else if (env.matchTag address "").1 = .exclusion then exclusionAction env
  else .default

/-- The upstream it would go to supports its family; for a forced connection, the default
upstream. -/
def suitableAddress (c : VpnConnection) (address : SocketAddress) : Bool :=
  let action :=
    if !c.flags.forciblyBypassed && !c.flags.forciblyRedirected &&
        (env.matchTag address "").1 == .exclusion then exclusionAction env
    else .default
  (selectUpstream t env action none).any fun upstream ↦
    env.ipVersionAvailability upstream address.family

def selectResolvedDestinationAddress (c : VpnConnection) (addresses : List SocketAddress) :
    Option SocketAddress :=
  (addresses.map fun address ↦ { address with port := c.addr.dstport }).find?
    (suitableAddress t env c)

def setDestination (address : SocketAddress) (c : VpnConnection) : VpnConnection :=
  { c with addr := { c.addr with dst := .socketAddress address } }

/-- The last part of `on_destination_resolve_result`: the connection goes to `address`. -/
def connectResolved (r : ℕ) (c : VpnConnection) (address : SocketAddress) : Tunnel :=
  let t := t.call (.resolvedMatch c.clientId address (env.matchTag address "").1)
  let upstream := selectUpstream t env (resolvedAction env c address) none
  let t := t.modify r (setDestination address)
  let c := setDestination address c
  let (t, connected) := connectRecord t env r c upstream
  if connected then t else closeClientSideConnection t env r c .none false

def onDestinationResolveResult (resolveId : ℕ) (addresses : Option (List SocketAddress)) : Tunnel :=
  match t.dnsResolveWaiters.lookup resolveId with
  | none => t.call (.cancelResolve resolveId)
  | some id =>
    let t := { t with dnsResolveWaiters := t.dnsResolveWaiters.erase resolveId }
    match t.byClientId (some id) with
    | none => t.call (.cancelResolve resolveId)
    | some (r, c) =>
      if c.state ≠ .waitingResolve then
        closeClientSideConnection (t.call (.cancelResolve resolveId)) env r c .connRefused false
      else
        match addresses with
        | none => closeClientSideConnection t env r c .none false
        | some addresses =>
          let t := t.call (.cancelResolve resolveId)
          match selectResolvedDestinationAddress t env c addresses with
          | none => closeClientSideConnection t env r c .none false
          | some address => connectResolved t env r c address

/-- The action that `need_resolve_hostname` takes a default one for. -/
def effectiveAction (action : VpnConnectAction) (name : String) : VpnConnectAction :=
  match action with
  | .default =>
    if env.matchDomain name = .default then vpnModeToAction env.mode else exclusionAction env
  | action => action

def needResolveHostname (action : VpnConnectAction) (c : VpnConnection) : Bool :=
  match c.addr.dst with
  | .socketAddress _ => false
  | .namePort dst =>
    -- two null pointers are equal as well
    if t.lockListener c = t.dnsProxyListener.map .dnsProxy then false
    else
      match effectiveAction env action dst.name with
      | .default | .reject => false
      | .forceBypass => true
      | .forceRedirect => t.dnsProxyListener.isSome

def isDestinationReachable (c : VpnConnection) (upstream : Option Upstream) : Bool :=
  match c.addr.dst with
  | .namePort _ => true
  | .socketAddress dst =>
    dst.valid &&
      !(c.flags.suspectExclusion &&
        ((t.endpoint.any fun endpoint ↦ !env.ipVersionAvailability endpoint dst.family) ||
          !env.ipVersionAvailability .bypass dst.family)) &&
      upstream.all fun upstream ↦ env.ipVersionAvailability upstream dst.family

def setActionFlags (action : VpnConnectAction) (c : VpnConnection) : VpnConnection :=
  match action with
  | .forceBypass => { c with flags := { c.flags with forciblyBypassed := true } }
  | .forceRedirect => { c with flags := { c.flags with forciblyRedirected := true } }
  | .default =>
    { c with
      flags :=
        { c.flags with
          lookingupDomain := (TunnelAddressPair.socketAddress? c.addr).isSome &&
            !c.flags.plainDnsConnection } }
  | .reject => c

def startResolve (r : ℕ) (c : VpnConnection) (name : String) : Tunnel :=
  let t := t.call (.resolve name env.resolveId)
  match env.resolveId with
  | none => closeClientSideConnection t env r c .connRefused true
  | some resolveId =>
    let t := match c.clientId with
      | none => t
      | some id =>
        -- `emplace` keeps the waiter of a key that is there already
        if resolveId ∈ t.dnsResolveWaiters then t
        else { t with dnsResolveWaiters := t.dnsResolveWaiters.insert resolveId id }
    t.modify r fun c ↦ { c with state := .waitingResolve }

/-- The last part of `complete_connect_request`: the connection goes to `upstream` at once. -/
def connectNow (r : ℕ) (c : VpnConnection) (upstream : Option Upstream) : Tunnel :=
  if !t.endpointUpstreamConnected && upstream == t.endpoint then
    closeClientSideConnection (t.modify r fun c ↦ { c with upstream := none }) env r c .none true
  else
    let t := t.modify r fun c ↦
      if upstream.isSome then
        { c with flags := { c.flags with fakeConnection := upstream == some .fake } }
      else c
    let (t, connected) := connectRecord t env r c upstream
    if connected then
      match t.connections.get r with
      | none => t
      | some c =>
        if c.flags.plainDnsConnection && t.lockListener c == some .dnsResolver then
          t.call (.notifyVpnResolverConnection c.serverId)
        else t
    else closeClientSideConnection t env r c .none true

/-- `complete_connect_request` for the record at `r` and an action that does not reject it. -/
def routeRequest (r : ℕ) (c : VpnConnection) (action : VpnConnectAction) : Tunnel :=
  let c := setActionFlags action c
  let t := t.modify r (setActionFlags action)
  let upstream := selectUpstream t env action (some c)
  if !isDestinationReachable t env c upstream then
    closeClientSideConnection t env r c .netUnreach true
  else if needResolveHostname t env action c then
    match c.addr.dst with
    | .socketAddress _ => t
    | .namePort dst => startResolve t env r c dst.name
  else connectNow t env r c upstream

def completeConnectRequest (id : ℕ) (action : Option VpnConnectAction) : Tunnel :=
  match t.byClientId (some id) with
  | none => t
  | some (r, c) =>
    let t := t.call (.completed id action)
    match action.getD .default with
    | .reject => closeClientSideConnection t env r c .connRefused true
    | action => routeRequest t env r c action

def shouldCompleteImmediately (id : ℕ) : Bool :=
  (t.byClientId (some id)).any fun (_, c) ↦
    c.flags.suspectExclusion == (env.mode == .general) || c.addr.dstport == plainDnsPortNumber

def requestAddress (addr : TunnelAddressPair) : TunnelAddressPair :=
  match addr.dst with
  | .socketAddress _ => addr
  | .namePort dst =>
    match env.ipLiteral dst.name with
    | none => addr
    | some (family, host) => { addr with dst := .socketAddress ⟨family, host, dst.port⟩ }

structure ClientConnectRequest where
  id : ℕ
  protocol : TransportProtocol
  addr : TunnelAddressPair
  appName : String := ""
  dnsHandlerBypass : Bool := false
deriving DecidableEq, Repr

def requestedConnection (listener : Listener) (request : ClientConnectRequest) : VpnConnection :=
  let c := VpnConnection.make (some request.id) listener (requestAddress env request.addr)
    request.protocol
  { c with appName := request.appName, flags := { c.flags with firstPacket := true } }

def announce (listener : Listener) (request : ClientConnectRequest) : Tunnel :=
  let t := t.call (.requested listener request.id request.addr)
  addConnection
    { t with connections := t.connections.alloc (requestedConnection env listener request) }
    t.connections.next

def connectRequest (listener : Listener) (request : ClientConnectRequest) : Tunnel :=
  let t := announce t env listener request
  match listener with
  | .dnsResolver => completeConnectRequest t env request.id none
  | .dnsProxy _ => completeConnectRequest t env request.id (some .forceRedirect)
  | .dnsHandler =>
    completeConnectRequest t env request.id
      (some (if request.dnsHandlerBypass then .forceBypass else .forceRedirect))
  | .client =>
    if !(requestedConnection env listener request).flags.plainDnsConnection &&
        (TunnelAddressPair.socketAddress? request.addr).any SocketAddress.isLoopback then
      completeConnectRequest t env request.id (some .forceBypass)
    else t.call (.connectRequest request.id)

end TrustTunnel.Traffic.Routing

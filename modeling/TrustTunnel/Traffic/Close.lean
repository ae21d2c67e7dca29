import TrustTunnel.Traffic.Types

namespace TrustTunnel.Traffic.Close

open Traffic.Types

variable (t : Tunnel) (env : Env)

def addConnection (r : ℕ) : Tunnel :=
  match t.connections.get r with
  | none => t
  | some c => (t.putClientId c.clientId r).putServerId c.serverId r

def cancelDestinationResolve (c : VpnConnection) : Tunnel :=
  match t.dnsResolveWaiters.entries.find? fun entry ↦ some entry.2 == c.clientId with
  | none => t
  | some entry =>
    { t.call (.cancelResolve entry.1) with
      dnsResolveWaiters := t.dnsResolveWaiters.erase entry.1 }

/-- What a record leaves behind: its domain, its statistics and a notice to the application. -/
def reportDestroyed (c : VpnConnection) : Tunnel :=
  let t :=
    if c.proto = .udp then
      { t with
        udpCloseWaitHostnameCache :=
          (c.addr, c.domainExtractorResult) ::
            t.udpCloseWaitHostnameCache.filter fun entry ↦ entry.1 ≠ c.addr }
    else t
  let t := if c.flags.monitorStats then t.call (.unregisterConn c.clientId) else t
  if c.listener = .client then t.call (.connectionClosed c.clientId) else t

def destroyRecord (r : ℕ) (c : VpnConnection) : Tunnel :=
  let t := if c.state = .waitingResolve then cancelDestinationResolve t c else t
  let t := (t.removeClientId c.clientId).removeServerId c.serverId
  let t := reportDestroyed t c
  { t with connections := t.connections.drop r }

def destroyConnection (clientId serverId : Option ℕ) : Tunnel :=
  match (t.byClientId clientId).or (t.byServerId serverId) with
  | none => t
  | some (r, c) => destroyRecord t r c

def clientClosed (id : ℕ) : Tunnel :=
  match t.byClientId (some id) with
  | none => t
  | some (_, c) =>
    if c.flags.sessionClosed || (t.byServerId c.serverId).isNone then
      destroyConnection t (some id) c.serverId
    else
      match t.lockUpstream c with
      | none => destroyConnection t (some id) c.serverId
      | some upstream =>
        (t.removeClientId (some id)).call (.closeServer upstream c.serverId true true)

/-- A close event that the listener raises from inside a call, if it does. -/
def closedNow (id : Option ℕ) : Tunnel :=
  match id with
  | none => t
  | some id => if env.closesNow id then clientClosed t id else t

def rejectClient (listener : Listener) (id : Option ℕ) (errCode : ErrorCode) : Tunnel :=
  let result := serverErrorToConnectResult errCode
  let t := closedNow (t.call (.completeConnectRequest listener id result)) env id
  if result = .pass then t
  else
    match t.byClientId id with
    | none => t
    | some (r, _) => t.modify r fun c ↦ { c with state := .rejected }

def closeClientSideConnection (r : ℕ) (c : VpnConnection) (errCode : ErrorCode) (async : Bool) :
    Tunnel :=
  match t.lockListener c with
  | none => destroyConnection t c.clientId c.serverId
  | some listener =>
    match c.state with
    | .waitingAccept | .connected | .connectedMigrating | .rejected =>
      let t := t.call (.closeClient listener c.clientId (errCode == .none) async)
      if async then t else closedNow t env c.clientId
    | .waitingResolve | .waitingResponse | .waitingAction =>
      let errCode := if errCode = .none then .connRefused else errCode
      if !async then rejectClient t env listener c.clientId errCode
      else if c.completeConnectRequestTask.isSome then t
      else
        t.modify r fun c ↦ { c with completeConnectRequestTask := some ⟨c.clientId, errCode⟩ }
    | .waitingResponseMigrating => t

def completeConnectRequestTask (ctx : CompleteConnectRequestCtx) : Tunnel :=
  match t.byClientId ctx.listenerConnId with
  | none => t
  | some (r, c) =>
    let t := t.modify r fun c ↦ { c with completeConnectRequestTask := none }
    match t.lockListener c with
    | none => destroyConnection t ctx.listenerConnId none
    | some listener =>
      match c.state with
      | .waitingResolve | .waitingResponse | .waitingAction =>
        rejectClient t env listener c.clientId ctx.errCode
      | _ =>
        closedNow (t.call (.closeClient listener ctx.listenerConnId false false)) env
          ctx.listenerConnId

/-- Closes the client sides of those that are still there, after `flag` was applied to them. -/
def closeEach (flag : VpnConnection → VpnConnection) (ids : List ℕ) : Tunnel :=
  ids.foldl
    (fun t id ↦
      match t.byClientId (some id) with
      | none => t
      | some (r, c) => closeClientSideConnection (t.modify r flag) env r c .other false) t

def clientIds (p : VpnConnection → Bool) : List ℕ :=
  t.connections.byLeft.keys.filterMap fun k ↦
    (t.byClientId (some k)).bind fun (_, c) ↦ if p c then c.clientId else none

def markSessionClosed (c : VpnConnection) : VpnConnection :=
  { c with flags := { c.flags with sessionClosed := true } }

def closeClientSide (upstream : Upstream) : Tunnel :=
  closeEach t env markSessionClosed (clientIds t fun c ↦ t.lockUpstream c == some upstream)

def resetConnectionsByUid (uid : ℤ) : Tunnel :=
  closeEach t env id (clientIds t fun c ↦
    (uid == -1 || c.uid == uid) && t.lockListener c != some .dnsResolver &&
      (t.lockListener c != some .dnsHandler || !c.clientId.any env.isVpnResolverConnection))

def resetConnectionsByListener (listener : Listener) : Tunnel :=
  closeEach t env id (clientIds t fun c ↦ t.lockListener c == some listener)

def resetConnection (clientId : ℕ) : Tunnel := closeEach t env id [clientId]

def onBeforeEndpointDisconnect (upstream : Option Upstream) : Tunnel :=
  if t.endpoint ≠ upstream then t
  else { closeEach t env id (clientIds t fun _ ↦ true) with endpointUpstreamConnected := false }

/-- The flags that `on_after_endpoint_disconnect` sets on the connections of `upstream`. -/
def onAfterEndpointDisconnect (upstream : Upstream) : Tunnel :=
  (clientIds t fun c ↦ t.lockUpstream c == some upstream).foldl
    (fun t id ↦
      match t.byClientId (some id) with
      | none => t
      | some (r, c) =>
        let t := t.modify r markSessionClosed
        if (t.lockListener c).isSome then t.call (.turnRead c.clientId false) else t) t

end TrustTunnel.Traffic.Close

import TrustTunnel.Traffic.Routing

namespace TrustTunnel.Traffic.Reading

open Traffic.Types Close Routing

variable (t : Tunnel) (env : Env)

inductive TunnelDomainLookupAction
  | done
  | pass
  | drop
  | shutdown
  | block
  | wantMore
deriving DecidableEq, Repr

def cachedHostname (c : VpnConnection) : Option DomainExtractorResult :=
  if env.cacheAlive then
    (t.udpCloseWaitHostnameCache.find? fun entry ↦ entry.1 = c.addr).map (·.2)
  else none

/-- `domain_lookup_process_udp`; without a result the lookup ends with the action. -/
def domainLookupProcessUdp (c : VpnConnection) (source : LookupSource) :
    TunnelDomainLookupAction ⊕ LookupSource × DomainExtractorResult :=
  match env.quicHeader with
  | .zeroRtt => .inl .drop
  | .initial false => .inl .done
  | .initial true => .inr (source, env.extracted)
  | .none | .other =>
    match cachedHostname t env c with
    | some result => .inr (.cache, result)
    | none => .inl .done

def passThroughDomainLookup (r : ℕ) (c : VpnConnection) (source : LookupSource) :
    Tunnel × TunnelDomainLookupAction :=
  match if c.proto = .udp then domainLookupProcessUdp t env c source
    else .inr (source, env.extracted) with
  | .inl action => (t, action)
  | .inr (source, result) =>
    let t := t.modify r fun c ↦ { c with domainExtractorResult := result }
    match result.status with
    | .notFound => (t, .done)
    | .found =>
      let status := env.matchDomain result.domain
      (t.call (.lookedUp c.clientId source result.domain status),
        if status = .exclusion then .shutdown else .done)
    | .pass => (t, .pass)
    | .wantMore => (t, .wantMore)

/-- What `upstream->send` answers: the accepted bytes, or nothing on an error and for `NON_ID`. -/
def sendAnswer (serverId : Option ℕ) (sends : List (Option ℕ)) (packet : Packet) : Option ℕ :=
  match serverId, sends with
  | none, _ => none
  | some _, [] => some packet.length
  | some _, answer :: _ => answer.map (min packet.length)

inductive SendOutcome
  | sent
  | zero
  | failed
deriving DecidableEq, Repr

structure SendResult where
  outcome : SendOutcome
  sent : List Packet := []
  left : List Packet := []
  counted : ℕ := 0
  sends : List (Option ℕ) := []
deriving DecidableEq, Repr

def sendPackets (serverId : Option ℕ) (sends : List (Option ℕ)) : List Packet → SendResult
  | [] => { outcome := .sent, sends }
  | packet :: packets =>
    match sendAnswer serverId sends packet with
    | none => { outcome := .failed, left := packet :: packets, sends := sends.tail }
    | some n =>
      if n = packet.length then
        let rest := sendPackets serverId sends.tail packets
        { rest with sent := packet :: rest.sent, counted := packet.length + rest.counted }
      else
        { outcome := if n = 0 then .zero else .sent
          sent := [packet.take n]
          left := packet.drop n :: packets
          sends := sends.tail }

def SendResult.apply (result : SendResult) (c : VpnConnection) : VpnConnection :=
  { c with
    bufferedPackets := result.left
    outgoingBytes := c.outgoingBytes + result.counted }

def sendAll (upstream : Upstream) (serverId : Option ℕ) (sent : List Packet) : Tunnel :=
  { t with calls := t.calls ++ sent.map (.send upstream serverId) }

/-- `send_buffered_data`: whether it succeeded, and the answers it did not use. -/
def sendBufferedData (id : Option ℕ) : Tunnel × Bool × List (Option ℕ) :=
  match t.byClientId id with
  | none => (t, false, env.sends)
  | some (r, c) =>
    let t := t.modify r fun c ↦ { c with sendBufferedTask := none }
    match t.lockUpstream c, t.lockListener c with
    | some upstream, some _ =>
      let result := sendPackets c.serverId env.sends c.bufferedPackets
      let t := (sendAll t upstream c.serverId result.sent).modify r result.apply
      match result.outcome with
      | .failed => (t, false, result.sends)
      | .sent => (t.call (.turnRead c.clientId env.canSend), true, result.sends)
      | .zero => (t.call (.turnRead c.clientId false), true, result.sends)
    | _, _ => (t, false, env.sends)

def scheduleSendBufferedData (r : ℕ) : Tunnel :=
  t.modify r fun c ↦ { c with sendBufferedTask := some c.clientId }

def replacement (c : VpnConnection) (upstream : Upstream) (serverId : ℕ) : VpnConnection :=
  let sw := VpnConnection.make none c.listener c.addr c.proto
  { sw with
    serverId := some serverId
    upstream := some upstream
    state := .waitingResponseMigrating
    flags := { sw.flags with lookingupDomain := c.flags.lookingupDomain }
    migratingClientId := c.clientId
    appName := c.appName
    domainExtractorResult := c.domainExtractorResult
    bufferedPackets := if c.proto = .udp then [] else c.bufferedPackets }

def addReplacement (c : VpnConnection) (upstream : Upstream) (serverId : ℕ) : Tunnel :=
  addConnection
    { t with connections := t.connections.alloc (replacement c upstream serverId) }
    t.connections.next

/-- A connection that waits for its replacement. What is buffered moves there, except for UDP. -/
def awaitReplacement (packet : Packet) (c : VpnConnection) : VpnConnection :=
  { c with
    bufferedPackets := if c.proto = .udp then c.bufferedPackets ++ [packet] else []
    state := .connectedMigrating }

/-- `initiate_connection_migration` for the record `c` at `r`, with the result for the event. -/
def initiateConnectionMigration (r : ℕ) (c : VpnConnection) (upstream : Option Upstream)
    (packet : Packet) : Tunnel × Option ℕ :=
  match upstream with
  | none => (t, none)
  | some upstream =>
    match openConnection t env upstream c.clientId c.addr with
    | (t, none) => (t, none)
    | (t, some serverId) =>
      let t := addReplacement t c upstream serverId
      if c.proto = .udp then (t.modify r (awaitReplacement packet), some packet.length)
      else
        match t.lockListener c with
        | none => (t.modify r fun c ↦ { c with bufferedPackets := [] }, none)
        | some _ =>
          ((t.modify r (awaitReplacement packet)).call (.turnRead c.clientId false), some 0)

def migrateRead (r : ℕ) (c : VpnConnection) (upstream : Option Upstream) (packet : Packet) :
    Tunnel × Option ℕ :=
  match initiateConnectionMigration t env r c upstream packet with
  | (t, none) =>
    (closeClientSideConnection (t.call (.turnRead c.clientId false)) env r c .connReset true, none)
  | (t, some n) =>
    (if n = 0 ∨ c.proto = .tcp then t else t.call (.accepted c.clientId (packet.take n)), some n)

/-- Counts a chunk that went to the upstream, and turns the reads on or off. -/
def countSent (r : ℕ) (c : VpnConnection) (upstream : Upstream) (packet : Packet)
    (n : ℕ) : Tunnel :=
  let t := (t.call (.send upstream c.serverId (packet.take n))).call
    (.accepted c.clientId (packet.take n))
  let t := t.modify r fun c ↦ { c with outgoingBytes := c.outgoingBytes + n }
  t.call (.turnRead c.clientId (env.canSend && (n != 0 || packet.isEmpty)))

def sendChunk (sends : List (Option ℕ)) (r : ℕ) (upstream : Upstream) (packet : Packet) :
    Tunnel × Option ℕ :=
  match t.connections.get r with
  | none => (t, none)
  | some c =>
    if !c.bufferedPackets.isEmpty then (t, some 0)
    else
      match sendAnswer c.serverId sends packet with
      | none => (t, none)
      | some n => (countSent t env r c upstream packet n, some n)

def sendRead (r : ℕ) (upstream : Upstream) (packet : Packet) : Tunnel × Option ℕ :=
  match t.connections.get r with
  | none => (t, none)
  | some c =>
    if c.bufferedPackets.isEmpty then sendChunk t env env.sends r upstream packet
    else
      match sendBufferedData t env c.clientId with
      | (t, false, _) => (t, none)
      | (t, true, sends) => sendChunk t env sends r upstream packet

def forwardRead (r : ℕ) (upstream : Upstream) (packet : Packet) : Tunnel × Option ℕ :=
  match t.connections.get r with
  | none => (t, none)
  | some c =>
    if c.flags.fakeConnection then
      let clear (c : VpnConnection) :=
        { c with flags := { c.flags with fakeConnection := false, suspectExclusion := false } }
      let t := t.modify r clear
      migrateRead t env r (clear c) (selectUpstream t env .default (some (clear c))) packet
    else
      let t := t.modify r fun c ↦
        { c with flags := { c.flags with firstPacket := false, fakeConnection := false } }
      match c.state, c.proto with
      | .connected, _ => sendRead t env r upstream packet
      | .connectedMigrating, .udp =>
        (t.modify r fun c ↦ { c with bufferedPackets := c.bufferedPackets ++ [packet] }, some 0)
      | _, _ => (t, none)

/-- `CLIENT_EVENT_READ` of a connection that turned out to be an exclusion. -/
def rerouteRead (r : ℕ) (c : VpnConnection) (upstream : Upstream) (packet : Packet) :
    Tunnel × Option ℕ :=
  let exclude (c : VpnConnection) :=
    { c with
      action := some (exclusionAction env)
      flags := { c.flags with lookingupDomain := false } }
  let t := reportConnectionInfo (t.modify r exclude) env r (some c.domainExtractorResult.domain)
  if !c.flags.firstPacket then
    ((t.call (.turnRead c.clientId false)).call
        (.closeServer upstream c.serverId false true), some 0)
  else
    match migrateRead t env r (exclude c)
      (selectUpstream t env (exclusionAction env) (some (exclude c))) packet with
    | (t, none) => (t, none)
    | (t, some n) =>
      (t.modify r fun c ↦ { c with flags := { c.flags with fakeConnection := false } }, some n)

def maxLookupAttempts : ℕ := 3

/-- `CLIENT_EVENT_READ` of a connection whose domain is being looked up. -/
def lookupRead (r : ℕ) (c : VpnConnection) (upstream : Upstream) (packet : Packet) :
    Tunnel × Option ℕ :=
  let (t, action) := passThroughDomainLookup t env r c .outgoing
  let c := (t.connections.get r).getD c
  let domain := some c.domainExtractorResult.domain
  match action with
  | .done =>
    let t := t.modify r fun c ↦ { c with flags := { c.flags with lookingupDomain := false } }
    forwardRead (reportConnectionInfo t env r domain) env r upstream packet
  | .pass => forwardRead (reportConnectionInfo t env r domain) env r upstream packet
  | .drop => (t.call (.accepted c.clientId packet), some packet.length)
  | .wantMore =>
    let t := t.modify r fun c ↦ { c with lookupAttemptsNum := c.lookupAttemptsNum + 1 }
    if c.lookupAttemptsNum < maxLookupAttempts then
      ((t.modify r fun c ↦ { c with bufferedPackets := c.bufferedPackets ++ [packet] }).call
        (.accepted c.clientId packet), some packet.length)
    else forwardRead (reportConnectionInfo t env r domain) env r upstream packet
  | .shutdown => rerouteRead t env r c upstream packet
  | .block =>
    (closeClientSideConnection (t.call (.turnRead c.clientId false)) env r c .other true, none)

/-- `CLIENT_EVENT_READ`, with the result of the event: the accepted bytes, or nothing. -/
def clientRead (id : ℕ) (packet : Packet) : Tunnel × Option ℕ :=
  match t.byClientId (some id) with
  | none => (t, none)
  | some (r, c) =>
    match t.lockUpstream c with
    | none => (t, none)
    | some upstream =>
      if c.flags.lookingupDomain then lookupRead t env r c upstream packet
      else forwardRead t env r upstream packet

def clientAccepted (listener : Listener) (id : ℕ) : Tunnel :=
  match t.byClientId (some id) with
  | none => t
  | some (r, c) =>
    if c.state ≠ .waitingAccept then closeClientSideConnection t env r c .other true
    else
      let t := (t.modify r fun c ↦ { c with state := .connected }).call (.turnRead (some id) true)
      match t.lockUpstream c with
      | none => t
      | some upstream =>
        if listener = .client ∧ some upstream = t.endpoint then
          (t.modify r fun c ↦ { c with flags := { c.flags with monitorStats := true } }).call
            (.registerConn id)
        else t

end TrustTunnel.Traffic.Reading

import TrustTunnel.Lib.Assoc
import TrustTunnel.Socks5.Messages

namespace TrustTunnel.Socks5.Listener

open Net.Address Net.Wire Messages

inductive ConnectionState
  | idle
  | waitingUsernamePassword
  | waitingRequest
  | waitingConnectResult
  | waitingAccept
  | established
  | failed
deriving DecidableEq, Repr

/-- The state is before `S5CONNS_WAITING_CONNECT_RESULT`. -/
def ConnectionState.early : ConnectionState → Bool
  | .idle => true
  | .waitingUsernamePassword => true
  | .waitingRequest => true
  | _ => false

inductive IpProto
  | tcp
  | udp
deriving DecidableEq, Repr

inductive Socks5ConnectResult
  | success
  | reject
  | timeout
  | unreachable
deriving DecidableEq, Repr

def Socks5ConnectResult.toStatus : Socks5ConnectResult → Socks5ReplyStatus
  | .success => .succeeded
  | .reject => .connectionRefused
  | .timeout => .ttlExpired
  | .unreachable => .hostUnreachable

structure Connection where
  id : ℕ
  state : ConnectionState := .idle
  proto : Option IpProto := none
  src : SocketAddress := {}
  dst : Socks5ConnectionAddress := .sockaddr {}
  appName : List UInt8 := []
  peer : SocketAddress := {}
  input : List UInt8 := []
  gotEof : Bool := false
  readable : Bool := false
  sentBytesSinceFlush : ℕ := 0
  pendingUdpPackets : List (List UInt8) := []
  relay : ℕ := 0
deriving DecidableEq, Repr

inductive Record
  | accepted (id : ℕ) (peer : SocketAddress)
  | segment (id : ℕ) (bytes : List UInt8)
  | datagram (relay : ℕ) (src : SocketAddress) (bytes : List UInt8)
  | reply (id : ℕ) (bytes : List UInt8)
  | associated (id : ℕ)
  | terminated (id : ℕ)
  | connectRequest (id : ℕ) (proto : IpProto) (src : SocketAddress) (dst : Socks5ConnectionAddress)
      (appName : List UInt8)
  | connectionAccepted (id : ℕ)
  | read (id : ℕ) (data : List UInt8)
  | dataSent (id : ℕ) (length : ℕ)
  | connectionClosed (id : ℕ)
deriving DecidableEq, Repr

structure Socks5Listener where
  username : List UInt8
  password : List UInt8
  listenAddress : SocketAddress := {}
  connections : AList (fun _ : ℕ ↦ Connection) := ∅
  /-- The control connections of the relays; the UDP connections of a relay are those that name
  it. -/
  udpRelays : List ℕ := []
  asyncTask : Bool := false
  connsWithPendingUdp : List ℕ := []
  nextConnId : ℕ := 0
  trace : List Record := []

/-- What the listener makes of the bytes it sees in one stage of the handshake. -/
inductive Verdict
  | wait
  | answer (reply : List UInt8) (toDrain : ℕ) (state : ConnectionState)
deriving DecidableEq, Repr

inductive Command
  | connect
  | udpAssociate
deriving DecidableEq, Repr

inductive RequestVerdict
  | wait (proto : Option IpProto)
  | invalid (status : Socks5ReplyStatus) (proto : Option IpProto)
  | valid (cmd : Command) (dst : Socks5ConnectionAddress) (appName : List UInt8) (toDrain : ℕ)
deriving DecidableEq, Repr

/-- What a READABLE event meets: the bytes that are peeked besides the first, whether the reply can
be written, the UDP socket, and for each READ its result and the next peek. -/
structure Surroundings where
  shown : ℕ
  written : Bool := true
  udpSocket : Option SocketAddress := none
  reads : List (ℤ × ℕ) := []

def readBudget : ℕ := 64

namespace Socks5Listener

variable (s : Socks5Listener)

def record (r : Record) : Socks5Listener := { s with trace := s.trace ++ [r] }

def put (conn : Connection) : Socks5Listener :=
  { s with connections := s.connections.insert conn.id conn }

def destroyConnection (id : ℕ) : Socks5Listener := { s with connections := s.connections.erase id }

def closeConnected (id : ℕ) : Socks5Listener :=
  (s.record (.connectionClosed id)).destroyConnection id

def isUdpAssociationTcpConnection (conn : Connection) : Bool :=
  conn.proto = none && s.udpRelays.contains conn.id

def connectionsOf (relay : ℕ) : List Connection :=
  (s.connections.entries.map (·.2)).filter fun conn ↦ conn.proto = some .udp ∧ conn.relay = relay

def terminateUdpAssociation (tcpId : ℕ) : Socks5Listener :=
  let s := ((s.connectionsOf tcpId).map (·.id)).foldl closeConnected s
  ({ s with udpRelays := s.udpRelays.erase tcpId }.record
      (.terminated tcpId)).destroyConnection tcpId

def close (conn : Connection) : Socks5Listener :=
  if conn.state.early then s.destroyConnection conn.id else s.closeConnected conn.id

def raiseConnectRequest (conn : Connection) (proto : IpProto) : Socks5Listener :=
  s.record (.connectRequest conn.id proto conn.src conn.dst conn.appName)

def supportedMethod : UInt8 :=
  if s.username.isEmpty then noAuthenticationRequired else usernamePassword

def authRequest (chunk : List UInt8) : Verdict :=
  let failed := Verdict.answer [socks5Ver, noAcceptableMethods] chunk.length .failed
  if chunk.length < 2 then .wait
  else if byteAt chunk 0 ≠ socks5Ver then failed
  else
    let nmethods := (byteAt chunk 1).toNat
    if chunk.length < 2 + nmethods then .wait
    else
      match chooseMethod s.supportedMethod none ((chunk.drop 2).take nmethods) with
      | none => failed
      | some method => .answer [socks5Ver, method] (2 + nmethods)
          (if method = usernamePassword ∨ method = usernamePassword + appname then
            .waitingUsernamePassword
          else .waitingRequest)

def usernamePasswordRequest (chunk : List UInt8) : Verdict :=
  match readUsernamePasswordRequest chunk with
  | none => .wait
  | some (req, processed) =>
    if req.ver = usernamePasswordVer ∧ s.username = req.uname ∧ s.password = req.passwd then
      .answer [usernamePasswordVer, 0] processed .waitingRequest
    else .answer [usernamePasswordVer, 1] chunk.length .failed

def dstAddr (chunk : List UInt8) : List UInt8 := chunk.drop 4

def request (proto : Option IpProto) (chunk : List UInt8) : RequestVerdict :=
  if chunk.length < 4 then .wait proto
  else
    let atyp := Socks5AddressType.ofByte? (byteAt chunk 3)
    let addrLen := addrLengthFromRequest atyp (dstAddr chunk)
    let cmd := byteAt chunk 1
    if byteAt chunk 0 ≠ socks5Ver then .invalid .socksServerFailure proto
    else if cmd ≠ cmdConnect ∧ cmd ≠ cmdUdpAssociate then .invalid .commandNotSupported proto
    else
      let proto := if cmd = cmdConnect then some .tcp else proto
      if byteAt chunk 2 ≠ 0 then .invalid .socksServerFailure proto
      else
        match atyp with
        | none => .invalid .addressTypeNotSupported proto
        | some type =>
          if addrLen < 0 ∨ 4 + addrLen + 2 > chunk.length then .wait proto
          else .valid (if cmd = cmdConnect then .connect else .udpAssociate)
            (dstAddrFromRequest type (dstAddr chunk)) (appNameFromRequest type (dstAddr chunk))
            (4 + addrLen.toNat + 2)

def invalidReply (status : Socks5ReplyStatus) (chunk : List UInt8) : List UInt8 :=
  let addrLen := addrLengthFromRequest (Socks5AddressType.ofByte? (byteAt chunk 3)) (dstAddr chunk)
  [socks5Ver, status.toByte, 0, byteAt chunk 3] ++ (dstAddr chunk).take addrLen.toNat ++
    putU16 s.listenAddress.port

def answer (conn : Connection) (written : Bool) : Verdict → Socks5Listener
  | .wait => s
  | .answer reply toDrain state =>
    if written then
      (s.record (.reply conn.id reply)).put { conn with state, input := conn.input.drop toDrain }
    else s.close { conn with state }

def associationReply (dst : Socks5ConnectionAddress) (udpSocket : Option SocketAddress) :
    List UInt8 :=
  match udpSocket, dst with
  | some a, _ => [socks5Ver, 0, 0, (socksAtypByAddr (.sockaddr a)).toByte] ++ putIp a ++
      putU16 a.port
  | none, .sockaddr a =>
    [socks5Ver, 1, 0, (socksAtypByAddr dst).toByte] ++
      (if a.isIpv4 then putU32 0x7f000001 else in6addrLoopback) ++ putU16 0
  | none, .domainName _ _ => [socks5Ver, 1, 0, (socksAtypByAddr dst).toByte] ++ putU16 0

/-- `complete_udp_association`. After a failed write the association is terminated, also one that
has got no relay, where the source looks up a relay that is not there. -/
def completeUdpAssociation (conn : Connection) (toDrain : ℕ) (env : Surroundings) :
    Socks5Listener :=
  let created := env.udpSocket.isSome
  let s := if created then { s with udpRelays := conn.id :: s.udpRelays }.record
      (.associated conn.id)
    else s
  if env.written then
    (s.record (.reply conn.id (associationReply conn.dst env.udpSocket))).put { conn with
      state := if created then .established else .failed
      input := conn.input.drop toDrain }
  else s.terminateUdpAssociation conn.id

def onRequest (conn : Connection) (chunk : List UInt8) (env : Surroundings) : Socks5Listener :=
  match request conn.proto chunk with
  | .wait proto => s.put { conn with proto }
  | .invalid status proto =>
    s.answer { conn with proto } env.written
      (.answer (s.invalidReply status chunk) chunk.length .failed)
  | .valid .connect dst appName toDrain =>
    let conn := { conn with
      state := .waitingConnectResult, proto := some .tcp, src := conn.peer, dst, appName
      input := conn.input.drop toDrain }
    (s.raiseConnectRequest conn .tcp).put conn
  | .valid .udpAssociate dst appName toDrain =>
    s.completeUdpAssociation { conn with dst, appName } toDrain env

def readLoop : List (ℤ × ℕ) → ℕ → Connection → Socks5Listener → Socks5Listener
  | [], _, conn, s => s.put conn
  | (result, next) :: reads, shown, conn, s =>
    let s := s.record (.read conn.id (conn.input.take (shown + 1)))
    if result < 0 then s.close conn
    else if result = 0 then s.put conn
    else
      let conn := { conn with input := conn.input.drop result.toNat }
      if conn.input.isEmpty then if conn.gotEof then s.close conn else s.put conn
      else readLoop reads next conn s

def onReadable (conn : Connection) (env : Surroundings) : Socks5Listener :=
  let chunk := conn.input.take (env.shown + 1)
  if conn.input.isEmpty && !conn.gotEof then s
  else if s.isUdpAssociationTcpConnection conn then s.terminateUdpAssociation conn.id
  else if conn.input.isEmpty then s.close conn
  else
    match conn.state with
    | .idle => s.answer conn env.written (s.authRequest chunk)
    | .waitingUsernamePassword => s.answer conn env.written (s.usernamePasswordRequest chunk)
    | .waitingRequest => s.onRequest conn chunk env
    | .waitingConnectResult => s.close conn
    | .waitingAccept => s.close conn
    | .established => readLoop (env.reads.take readBudget) env.shown conn s
    | .failed => s.put { conn with input := conn.input.drop chunk.length }

def onError (conn : Connection) : Socks5Listener :=
  if s.isUdpAssociationTcpConnection conn then s.terminateUdpAssociation conn.id else s.close conn

def onSent (conn : Connection) (bytes : ℕ) : Socks5Listener :=
  if !s.isUdpAssociationTcpConnection conn && conn.state = .established then
    s.record (.dataSent conn.id bytes)
  else s

/-- Tells how much was sent over a UDP connection since the last time. -/
def flushUdp (conn : Connection) : Socks5Listener :=
  if conn.state = .established ∧ 0 < conn.sentBytesSinceFlush then
    (s.record (.dataSent conn.id conn.sentBytesSinceFlush)).put
        { conn with sentBytesSinceFlush := 0 }
  else s

def onWriteFlush (conn : Connection) : Socks5Listener :=
  if s.isUdpAssociationTcpConnection conn then
    match conn.state with
    | .established => (s.connectionsOf conn.id).foldl flushUdp s
    | .failed => s.terminateUdpAssociation conn.id
    | _ => s
  else if conn.proto = some .tcp then
    match conn.state with
    | .waitingAccept =>
      (s.record (.connectionAccepted conn.id)).put { conn with state := .established }
    | .failed => s.close conn
    | _ => s
  else s

def connectReply (conn : Connection) (result : Socks5ConnectResult) : List UInt8 :=
  let address := match conn.dst with
    | .sockaddr a => putIp a
    | .domainName name _ => UInt8.ofNat name.length :: name
  [socks5Ver, result.toStatus.toByte, 0, (socksAtypByAddr conn.dst).toByte] ++ address ++
    putU16 s.listenAddress.port

def completeTcpConnection (conn : Connection) (result : Socks5ConnectResult) (written : Bool) :
    Socks5Listener :=
  if written then (s.record (.reply conn.id (s.connectReply conn result))).put conn
  else s.closeConnected conn.id

def completeUdpConnection (conn : Connection) (result : Socks5ConnectResult) : Socks5Listener :=
  if result = .success then
    { (s.record (.connectionAccepted conn.id)).put { conn with state := .established } with
      connsWithPendingUdp := s.connsWithPendingUdp ++ [conn.id]
      asyncTask := true }
  else s.closeConnected conn.id

def completeConnectRequest (conn : Connection) (result : Socks5ConnectResult) (written : Bool) :
    Socks5Listener :=
  if conn.state = .failed then s
  else
    let conn := { conn with state := if result = .success then .waitingAccept else .failed }
    if conn.proto = some .tcp then s.completeTcpConnection conn result written
    else s.completeUdpConnection conn result

/-- The loop over the pending packets; `refused` are the calls of the READ handler that fail. -/
def sendPackets (id : ℕ) : List (List UInt8) → List Bool → Socks5Listener → Socks5Listener
  | [], _, s => s
  | packet :: rest, refused, s =>
    let s := s.record (.read id packet)
    if refused.headD false then s.closeConnected id else sendPackets id rest refused.tail s

def sendPendingUdpData (refused : ℕ → List Bool) : Socks5Listener :=
  s.connsWithPendingUdp.foldl (fun s id ↦
    match s.connections.lookup id with
    | none => s
    | some conn =>
      sendPackets id conn.pendingUdpPackets (refused id)
          (s.put { conn with pendingUdpPackets := [] }))
    { s with asyncTask := false, connsWithPendingUdp := [] }

def udpHeader (data : List UInt8) : Option (Socks5ConnectionAddress × ℕ) :=
  let atyp := Socks5AddressType.ofByte? (byteAt data 3)
  let addrLen := addrLengthFromRequest atyp (dstAddr data)
  if data.length < 4 ∨ addrLen < 0 ∨ (data.length : ℤ) < 4 + addrLen + 2 then none
  else if byteAt data 0 ≠ 0 ∨ byteAt data 1 ≠ 0 ∨ byteAt data 2 ≠ 0 then none
  else
    match atyp with
    | some .ipv4 => some (dstAddrFromRequest .ipv4 (dstAddr data), 4 + addrLen.toNat + 2)
    | some .ipv6 => some (dstAddrFromRequest .ipv6 (dstAddr data), 4 + addrLen.toNat + 2)
    | _ => none

def handleUdpRead (conn : Connection) (data : List UInt8) : Socks5Listener :=
  let pended := { conn with pendingUdpPackets := conn.pendingUdpPackets ++ [data] }
  match conn.state with
  | .idle =>
    (s.raiseConnectRequest conn .udp).put { pended with state := .waitingConnectResult }
  | .waitingConnectResult => s.put pended
  | .established => if conn.readable then s.record (.read conn.id data) else s
  | .failed => s
  | _ => s.destroyConnection conn.id

/-- `udp_event_handler` with a datagram; a new connection gets the id `id`. -/
def onDatagram (relay : ℕ) (src : SocketAddress) (data : List UInt8) (id : ℕ) : Socks5Listener :=
  let s := s.record (.datagram relay src data)
  match udpHeader data with
  | none => s
  | some (dst, length) =>
    match (s.connectionsOf relay).find? fun conn ↦ conn.src = src ∧ conn.dst = dst with
    | some conn => s.handleUdpRead conn (data.drop length)
    | none =>
      { s with nextConnId := id + 1 }.handleUdpRead
        { id, src, dst, proto := some .udp, relay } (data.drop length)

/-- `clean_up_connections`; `places` are the places of the connections in the hash table. -/
def cleanUpConnections (places : ℕ → ℕ) : Socks5Listener :=
  (s.connections.entries.map (·.1)).foldl
    (fun s id ↦ (s.destroyConnection id).record (.connectionClosed (places id))) s

def stop (places : ℕ → ℕ) : Socks5Listener :=
  (s.udpRelays.foldl terminateUdpAssociation { s with asyncTask := false }).cleanUpConnections
      places

end Socks5Listener

inductive Input
  | accept (id : ℕ) (peer : SocketAddress) (created : Bool)
  | segment (id : ℕ) (bytes : List UInt8)
  | eof (id : ℕ)
  | readable (id : ℕ) (env : Surroundings)
  | error (id : ℕ)
  | sent (id : ℕ) (bytes : ℕ)
  | writeFlush (id : ℕ)
  | datagram (relay : ℕ) (src : SocketAddress) (data : List UInt8) (id : ℕ)
  | udpTimeout (relay : ℕ)
  | completeConnectRequest (id : ℕ) (result : Socks5ConnectResult) (written : Bool)
  | closeConnection (id : ℕ)
  | sendData (id : ℕ) (length : ℕ)
  | turnRead (id : ℕ) (on : Bool)
  | sendPending (refused : ℕ → List Bool)
  | stop (places : ℕ → ℕ)

open Socks5Listener in
/-- The ids that the handler hands out are new and fit the keys of the tables. -/
def step (s : Socks5Listener) : Input → Option Socks5Listener
  | .accept id peer created =>
    if s.nextConnId ≤ id ∧ id < 2 ^ 32 then
      let s := { s with nextConnId := id + 1 }
      some (if created then (s.record (.accepted id peer)).put { id, peer } else s)
    else none
  | .segment id bytes => (s.connections.lookup id).bind fun conn ↦
      if conn.proto = some .udp || bytes.isEmpty then none
      else some ((s.record (.segment id bytes)).put { conn with input := conn.input ++ bytes })
  | .eof id => (s.connections.lookup id).bind fun conn ↦
      if conn.proto = some .udp then none else some (s.put { conn with gotEof := true })
  | .readable id env => (s.connections.lookup id).bind fun conn ↦
      if conn.proto = some .udp then none else some (s.onReadable conn env)
  | .error id => (s.connections.lookup id).bind fun conn ↦
      if conn.proto = some .udp then none else some (s.onError conn)
  | .sent id bytes => (s.connections.lookup id).bind fun conn ↦
      if conn.proto = some .udp then none else some (s.onSent conn bytes)
  | .writeFlush id => (s.connections.lookup id).bind fun conn ↦
      if conn.proto = some .udp then none else some (s.onWriteFlush conn)
  | .datagram relay src data id =>
    if s.nextConnId ≤ id ∧ id < 2 ^ 32 ∧ relay ∈ s.udpRelays ∧ relay ∈ s.connections then
      some (s.onDatagram relay src data id)
    else none
  | .udpTimeout relay =>
    if relay ∈ s.udpRelays ∧ relay ∈ s.connections
        then some (s.terminateUdpAssociation relay) else none
  | .completeConnectRequest id result written =>
    some ((s.connections.lookup id).elim s fun conn ↦ s.completeConnectRequest conn result written)
  | .closeConnection id =>
    some (if (s.connections.lookup id).isSome then s.closeConnected id else s)
  | .sendData id length => (s.connections.lookup id).map fun conn ↦
      s.put { conn with sentBytesSinceFlush :=
        conn.sentBytesSinceFlush + if conn.proto = some .udp then length else 0 }
  | .turnRead id on => (s.connections.lookup id).map fun conn ↦
      s.put { conn with readable := if conn.proto = some .udp then on else conn.readable }
  | .sendPending refused => if s.asyncTask then some (s.sendPendingUdpData refused) else none
  | .stop places => some (s.stop places)

def start (username password : List UInt8) (listenAddress : SocketAddress) : Socks5Listener :=
  { username, password, listenAddress }

end TrustTunnel.Socks5.Listener

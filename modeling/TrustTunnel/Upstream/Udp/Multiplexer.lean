import TrustTunnel.Lib.Assoc
import TrustTunnel.Net.Wire
import TrustTunnel.Upstream.Types

namespace TrustTunnel.Upstream.Udp.Multiplexer

open Net.Address Net.Wire Upstream.Types

def udppktLengthSize : ℕ := 4

def udppktAddrSize : ℕ := 16

def udppktPortSize : ℕ := 2

def udppktInPrefixSize : ℕ := udppktLengthSize + 2 * (udppktAddrSize + udppktPortSize)

def udppktApplenSize : ℕ := 1

def maxUdpPayloadSize : ℕ := 65535 - 8

def maxUdpInPacketLength : ℕ := maxUdpPayloadSize + udppktInPrefixSize - udppktLengthSize

def vpnDefaultUdpTimeoutMs : ℕ := 5 * 60 * 1000

inductive MultiplexerState
  | idle
  | established
deriving DecidableEq, Repr

inductive RecvConnectionState
  | idle
  | payload
  | dropping
deriving DecidableEq, Repr

structure Connection where
  readEnabled : Bool := false
  addr : TunnelAddressPair
  appName : List UInt8
  sentBytesSinceFlush : ℕ := 0
  timeout : ℕ
  openTask : Bool := true
  closeTask : Bool := false
deriving DecidableEq, Repr

/-- `none` in the place of an id is `NON_ID`. -/
structure RecvConnection where
  state : RecvConnectionState := .idle
  id : Option ℕ := none
  bytesLeft : ℕ := 0
  buffer : List UInt8 := []
deriving DecidableEq, Repr

/-- The rest of a packet for the connection `id` is dropped. -/
def RecvConnection.abandon (rconn : RecvConnection) (id : ℕ) : RecvConnection :=
  if rconn.id = some id then { rconn with state := .dropping } else rconn

structure PacketInfo where
  id : Option ℕ := none
  payloadLength : ℕ := 0
deriving DecidableEq, Repr

/-- What happens at the multiplexer: its calls, the events it raises, and what it is told. -/
inductive Happening
  | connectRequest
  | sendData (streamId : ℕ) (packet : List UInt8)
  | consume (streamId size : ℕ)
  | accepted (id : ℕ) (addr : TunnelAddressPair)
  | connectionOpened (id : ℕ)
  | read (id : ℕ) (data : List UInt8)
  | dataSent (id length : ℕ)
  | connectionClosed (id : ℕ)
  | error (id : ℕ) (error : ServerError)
  | response (statusCode : ℕ)
deriving DecidableEq, Repr

structure HttpUdpMultiplexer where
  state : MultiplexerState := .idle
  streamId : ℕ := 0
  recvConnection : RecvConnection := {}
  addrToId : AList (fun _ : TunnelAddressPair ↦ ℕ) := ∅
  connections : AList (fun _ : ℕ ↦ Connection) := ∅
  timerEvent : Bool := false
  pendingError : Option ServerError := none
  trace : List Happening := []

def readAddresses (buffer : List UInt8) : Option TunnelAddressPair := do
  let (src, buffer) ← getEndpoint buffer
  let (dst, _) ← getEndpoint buffer
  return ⟨dst, .socketAddress src⟩

def composeUdpPacket (src dst : SocketAddress) (appName data : List UInt8) : List UInt8 :=
  let fullLength := udppktInPrefixSize + udppktApplenSize + appName.length + data.length
  let shortName := appName.take 255
  let written := putU32 (fullLength - udppktLengthSize) ++ putIpPadded src ++ putU16 src.port ++
    putIpPadded dst ++ putU16 dst.port ++ putU8 shortName.length ++ shortName ++ data
  written ++ List.replicate (fullLength - written.length) 0

namespace HttpUdpMultiplexer

variable (mux : HttpUdpMultiplexer)

def emit (h : Happening) : HttpUdpMultiplexer := { mux with trace := mux.trace ++ [h] }

def checkConnection (id : ℕ) : Bool := (mux.connections.lookup id).isSome

def connectionsNum : ℕ := mux.connections.entries.length

def getStreamId : Option ℕ :=
  match mux.state with
  | .idle => none
  | .established => some mux.streamId

def modifyConnection (id : ℕ) (f : Connection → Connection) : HttpUdpMultiplexer :=
  { mux with connections := Lib.Assoc.modify mux.connections id f }

def cleanConnectionData (id : ℕ) : HttpUdpMultiplexer × Bool :=
  match mux.connections.lookup id with
  | none => (mux, false)
  | some conn =>
    ({ mux with
        recvConnection := mux.recvConnection.abandon id
        addrToId := mux.addrToId.erase conn.addr
        connections := mux.connections.erase id }, true)

def reset : HttpUdpMultiplexer :=
  { mux with
    state := .idle, streamId := 0, addrToId := ∅, recvConnection := {}, timerEvent := false }

def closeEvent (error : Option ServerError) (id : ℕ) : Happening :=
  match error with
  | some e => .error id e
  | none => .connectionClosed id

def closeError (error : ServerError) : Option ServerError :=
  mux.pendingError.or (if error.code ≠ 0 then some error else none)

def finish (event : Happening) (id : ℕ) : HttpUdpMultiplexer :=
  ((mux.emit event).cleanConnectionData id).1

def close (error : ServerError) : HttpUdpMultiplexer :=
  let reason := mux.closeError error
  (mux.connections.keys.foldl (fun mux id ↦ mux.finish (closeEvent reason id) id) mux).reset

/-- Starts a stream, if there is none; `send_connect_request_callback` answers with `stream`. -/
def establish (stream : Option ℕ) : Option HttpUdpMultiplexer :=
  match mux.state with
  | .established => some mux
  | .idle => stream.map fun id ↦
      { mux.emit .connectRequest with streamId := id, state := .established }

def openConnection (now : ℕ) (connId : ℕ) (addr : TunnelAddressPair) (appName : List UInt8)
    (stream : Option ℕ) : HttpUdpMultiplexer × Bool :=
  match addr.dst with
  | .namePort _ => (mux, false)
  | .socketAddress _ =>
    if mux.checkConnection connId then (mux, false)
    else
      match mux.establish stream with
      | none => (mux, false)
      | some mux =>
        let conn : Connection := { addr, appName, timeout := now + vpnDefaultUdpTimeoutMs }
        ({ mux.emit (.accepted connId addr) with
            connections := mux.connections.insert connId conn, timerEvent := true }, true)

def closeConnectionNow (id : ℕ) : HttpUdpMultiplexer :=
  match mux.cleanConnectionData id with
  | (mux, true) => mux.emit (.connectionClosed id)
  | (mux, false) => mux

def closeConnection (id : ℕ) (async : Bool) : HttpUdpMultiplexer :=
  if async then
    if mux.checkConnection id then mux.modifyConnection id fun conn ↦
        { conn with closeTask := true }
    else mux.emit (.connectionClosed id)
  else mux.closeConnectionNow id

def send (now : ℕ) (id : ℕ) (data : List UInt8) (ok : Bool) : HttpUdpMultiplexer :=
  match mux.connections.lookup id with
  | none => mux
  | some conn =>
    match conn.addr.dst with
    | .namePort _ => mux
    | .socketAddress dst =>
      let mux := mux.emit
        (.sendData mux.streamId (composeUdpPacket conn.addr.src dst conn.appName data))
      if ok then
        mux.modifyConnection id fun conn ↦
          { conn with
            timeout := now + vpnDefaultUdpTimeoutMs
            sentBytesSinceFlush := conn.sentBytesSinceFlush + data.length }
      else mux

def setReadEnabled (id : ℕ) (v : Bool) : HttpUdpMultiplexer :=
  mux.modifyConnection id fun conn ↦ { conn with readEnabled := v }

def readPrefix (data : List UInt8) : PacketInfo :=
  match getU32 data with
  | none => {}
  | some (length, rest) =>
    if length < udppktInPrefixSize - udppktLengthSize then {}
    else
      match readAddresses rest with
      | none => {}
      | some addr =>
        if length > maxUdpInPacketLength then {}
        else
          { id := mux.addrToId.lookup addr
            payloadLength := length - (udppktInPrefixSize - udppktLengthSize) }

def isReadEnabled (id : ℕ) : Bool := (mux.connections.lookup id).any (·.readEnabled)

/-- The state after a packet prefix; what is not for a connection with reads on is dropped. -/
def expect (info : PacketInfo) : RecvConnection :=
  match info.id.filter mux.isReadEnabled with
  | some id => { state := .payload, id := some id, bytesLeft := info.payloadLength }
  | none =>
    { state := .dropping, id := mux.recvConnection.id, bytesLeft := info.payloadLength }

def handleResponse (statusCode : ℕ) : HttpUdpMultiplexer :=
  let mux := mux.emit (.response statusCode)
  if statusCode ≠ httpOkStatus then
    { mux with pendingError := some ⟨econnrefused, "HTTP stream creation failed"⟩ }
  else mux

def timerCallback (now : ℕ) : HttpUdpMultiplexer :=
  mux.connections.keys.foldl (fun mux id ↦
    if (mux.connections.lookup id).any (·.timeout ≤ now) then mux.closeConnectionNow id
        else mux) mux

def reportSentBytes : HttpUdpMultiplexer :=
  mux.connections.keys.foldl (fun mux id ↦
    match mux.connections.lookup id with
    | none => mux
    | some conn =>
      if conn.sentBytesSinceFlush > 0 then
        (mux.emit (.dataSent id conn.sentBytesSinceFlush)).modifyConnection id fun conn ↦
          { conn with sentBytesSinceFlush := 0 }
      else mux) mux

end HttpUdpMultiplexer

inductive Request
  | openConnection (id : ℕ) (addr : TunnelAddressPair) (appName : List UInt8) (stream : Option ℕ)
  | closeConnection (id : ℕ) (async : Bool)
  | send (id : ℕ) (data : List UInt8) (ok : Bool)
  | setReadEnabled (id : ℕ) (v : Bool)
deriving DecidableEq

structure Env where
  now : ℕ := 0
  /-- The upstream asks `check_connection` before it closes a connection. -/
  checks : Bool := true
  reaction : List Happening → List Request := fun _ ↦ []

section

variable (env : Env)

def request (mux : HttpUdpMultiplexer) : Request → HttpUdpMultiplexer
  | .openConnection id addr appName stream => (mux.openConnection env.now id addr appName stream).1
  | .closeConnection id async =>
    if env.checks && !mux.checkConnection id then mux else mux.closeConnection id async
  | .send id data ok => mux.send env.now id data ok
  | .setReadEnabled id v => mux.setReadEnabled id v

def raise (event : Happening) (mux : HttpUdpMultiplexer) : HttpUdpMultiplexer :=
  (env.reaction (mux.trace ++ [event])).foldl (request env) (mux.emit event)

def completeUdpConnection (mux : HttpUdpMultiplexer) (id : ℕ) : HttpUdpMultiplexer :=
  match mux.connections.lookup id with
  | none => mux
  | some conn =>
    let done := mux.modifyConnection id fun conn ↦ { conn with openTask := false }
    match mux.state with
    | .idle => done
    | .established =>
      raise env (.connectionOpened id) { done with addrToId := mux.addrToId.insert conn.addr id }

/-- One turn of the loop of `process_read_event`; the second part is what is left of the data. -/
def receive (mux : HttpUdpMultiplexer) (data : List UInt8) : HttpUdpMultiplexer × List UInt8 :=
  let rconn := mux.recvConnection
  match rconn.state with
  | .idle =>
    let toRead := min (udppktInPrefixSize - rconn.buffer.length) data.length
    let buffer := rconn.buffer ++ data.take toRead
    if buffer.length < udppktInPrefixSize then
      ({ mux with recvConnection := { rconn with buffer } }, data.drop toRead)
    else
      ({ mux with recvConnection := mux.expect (mux.readPrefix buffer) }, data.drop toRead)
  | .payload =>
    let mux := mux.modifyConnection (rconn.id.getD 0) fun conn ↦
      { conn with timeout := env.now + vpnDefaultUdpTimeoutMs }
    let toRead := min rconn.bytesLeft data.length
    let rconn :=
      { rconn with
        buffer := rconn.buffer ++ data.take toRead, bytesLeft := rconn.bytesLeft - toRead }
    let mux := { mux with recvConnection := rconn }
    if rconn.bytesLeft = 0 then
      let mux := raise env (.read (rconn.id.getD 0) rconn.buffer) mux
      ({ mux with recvConnection := {} }, data.drop toRead)
    else (mux, data.drop toRead)
  | .dropping =>
    let toDrop := min rconn.bytesLeft data.length
    if rconn.bytesLeft - toDrop = 0 then ({ mux with recvConnection := {} }, data.drop toDrop)
    else
      ({ mux with recvConnection := { rconn with bytesLeft := rconn.bytesLeft - toDrop } },
        data.drop toDrop)

def receiveLoop : ℕ → HttpUdpMultiplexer → List UInt8 → HttpUdpMultiplexer
  | 0, mux, _ => mux
  | fuel + 1, mux, data =>
    if data.isEmpty then mux
    else receiveLoop fuel (receive env mux data).1 (receive env mux data).2

def processReadEvent (mux : HttpUdpMultiplexer) (data : List UInt8) : HttpUdpMultiplexer :=
  let mux := receiveLoop env (2 * data.length + 1) mux data
  mux.emit (.consume mux.streamId data.length)

end

inductive Input
  | request (r : Request)
  | openTask (id : ℕ)
  | closeTask (id : ℕ)
  | timer
  | processReadEvent (data : List UInt8)
  | handleResponse (statusCode : ℕ)
  | reportSentBytes
  | close (error : ServerError)
deriving DecidableEq

/-- Tasks run while they are pending, and the stream speaks only while there is one. -/
def enabled (mux : HttpUdpMultiplexer) : Input → Bool
  | .openTask id => (mux.connections.lookup id).any (·.openTask)
  | .closeTask id => (mux.connections.lookup id).any (·.closeTask)
  | .timer => mux.timerEvent
  | .processReadEvent _ | .handleResponse _ => mux.state == .established
  | .request _ | .reportSentBytes | .close _ => true

def handle (env : Env) (mux : HttpUdpMultiplexer) : Input → HttpUdpMultiplexer
  | .request r => request env mux r
  | .openTask id => completeUdpConnection env mux id
  | .closeTask id => mux.closeConnectionNow id
  | .timer => mux.timerCallback env.now
  | .processReadEvent data => processReadEvent env mux data
  | .handleResponse statusCode => mux.handleResponse statusCode
  | .reportSentBytes => mux.reportSentBytes
  | .close error => mux.close error

def step (mux : HttpUdpMultiplexer) (label : Env × Input) : Option HttpUdpMultiplexer :=
  if enabled mux label.2 then some (handle label.1 mux label.2) else none

end TrustTunnel.Upstream.Udp.Multiplexer

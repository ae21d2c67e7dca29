import TrustTunnel.Dns.Messages
import TrustTunnel.Lib.Assoc
import TrustTunnel.Traffic.Types

namespace TrustTunnel.Dns.ClientListener

open Lib.Assoc Net.Address Traffic.Types Messages

structure Connection where
  upstreamConnId : ℕ
  proto : TransportProtocol
  readEnabled : Bool := false
  rcvBuf : List UInt8 := []
  sndBuf : List UInt8 := []
  udpPending : List Message := []
deriving DecidableEq

inductive Event
  | connectRequest (id : ℕ) (proto : TransportProtocol) (addrs : TunnelAddressPair) (bypass : Bool)
  | connectionAccepted (id : ℕ)
  | connectionClosed (id : ℕ)
  | read (id : ℕ) (data : List UInt8)
  | dnsResponse (upstreamConnId : ℕ) (message : Message)
deriving DecidableEq

/-- What is left to do of a function when a handler that it called, and that may call in turn,
returns. -/
inductive Frame
  | requested (id : ℕ) (message : Message)
  | accepted (id : ℕ)
  | raisedUdp (id : ℕ)
  | raisedTcp (id : ℕ) (async : Bool)
  | closing (ids : List ℕ)
  | sending (ids : List ℕ)
deriving DecidableEq

structure ListenerBase where
  connIdGenerator : ℕ := 0
  closedConnections : List ℕ := []
  connectionsToSend : List ℕ := []
  connections : AList (fun _ : ℕ ↦ Connection) := ∅
  connIdByUpstreamConnId : AList (fun _ : ℕ ↦ ℕ) := ∅
  task : Bool := false
  frames : List Frame := []
  trace : List Event := []

structure ConnectionInfo where
  upstreamConnId : ℕ
  proto : TransportProtocol
  addrs : TunnelAddressPair
deriving DecidableEq

def enqueue (message : Message) (conn : Connection) : Connection :=
  match conn.proto with
  | .udp => { conn with udpPending := conn.udpPending ++ [message] }
  | .tcp => { conn with sndBuf := conn.sndBuf ++ writeDnsMessage message }

def enqueueFresh (message : Message) (conn : Connection) : Connection :=
  if conn.udpPending.length < maxUdpQueueSize then
    { conn with udpPending := conn.udpPending ++ [message] }
  else { conn with udpPending := conn.udpPending.tail ++ [message] }

/-- What `send` makes of the connection, and the messages that it passes on. -/
def receive (data : List UInt8) (conn : Connection) : Connection × List Message :=
  match conn.proto with
  | .udp => (conn, [data])
  | .tcp =>
    let r := readMessages (conn.rcvBuf ++ data).length (conn.rcvBuf ++ data)
    ({ conn with rcvBuf := r.2 }, r.1)

namespace ListenerBase

variable (l : ListenerBase)

def emit (e : Event) : ListenerBase := { l with trace := l.trace ++ [e] }

def push (frame : Frame) : ListenerBase := { l with frames := frame :: l.frames }

def modifyConnection (id : ℕ) (f : Connection → Connection) : ListenerBase :=
  { l with connections := modify l.connections id f }

def closeConnection (id : ℕ) (async : Bool) : ListenerBase :=
  match l.connections.lookup id with
  | none => l
  | some _ =>
    if async then { l with closedConnections := l.closedConnections ++ [id], task := true }
    else l.emit (.connectionClosed id)

def closeListenerConnectionByUpstreamConnId (upstreamConnId : ℕ) : ListenerBase :=
  match l.connIdByUpstreamConnId.lookup upstreamConnId with
  | none => l
  | some id => l.closeConnection id false

def raiseUdp (id : ℕ) (conn : Connection) : ListenerBase :=
  match conn.udpPending with
  | [] => l
  | message :: _ => (l.emit (.read id message)).push (.raisedUdp id)

def raiseRead (id : ℕ) (async : Bool) : ListenerBase :=
  match l.connections.lookup id with
  | none => l
  | some conn =>
    if !conn.readEnabled then l
    else
      match conn.proto with
      | .udp => l.raiseUdp id conn
      | .tcp =>
        if conn.sndBuf = [] then l
        else (l.emit (.read id conn.sndBuf)).push (.raisedTcp id async)

def finishReadUdp (id : ℕ) (result : ℤ) : ListenerBase :=
  match l.connections.lookup id with
  | none => l
  | some conn =>
    if result ≤ 0 then l.modifyConnection id fun conn ↦ { conn with udpPending := [] }
    else
      let conn := { conn with udpPending := conn.udpPending.tail }
      (l.modifyConnection id fun _ ↦ conn).raiseUdp id conn

/-- `raise_read` of a TCP connection after the event, and the close of the connection if it
fails. -/
def finishReadTcp (id : ℕ) (async : Bool) (result : ℤ) : ListenerBase :=
  match l.connections.lookup id with
  | none => l
  | some conn =>
    if result < 0 then l.closeConnection id async
    else
      let sndBuf := conn.sndBuf.drop result.toNat
      let l := l.modifyConnection id fun conn ↦ { conn with sndBuf }
      if connMaxBuffered < sndBuf.length then l.closeConnection id async else l

/-- The part of `send_as_listener` that requests a connection, with the number of ids that others
got in the meantime. -/
def requestConnection (skipped : ℕ) (info : ConnectionInfo) (message : Message)
    (forceBypass : Bool) : ListenerBase :=
  let id := l.connIdGenerator + skipped
  { (l.emit (.connectRequest id info.proto info.addrs forceBypass)).push
      (.requested id message) with
    connIdGenerator := id + 1
    connections :=
      l.connections.insert id { upstreamConnId := info.upstreamConnId, proto := info.proto }
    connIdByUpstreamConnId := l.connIdByUpstreamConnId.insert info.upstreamConnId id }

def sendOn (id : ℕ) (message : Message) : ListenerBase :=
  match l.connections.lookup id with
  | none => l
  | some conn =>
    match conn.proto with
    | .udp =>
      if conn.readEnabled then l.emit (.read id message)
      else l.modifyConnection id (enqueueFresh message)
    | .tcp => (l.modifyConnection id (enqueue message)).raiseRead id true

def sendAsListener (skipped : ℕ) (info : ConnectionInfo) (message : Message)
    (forceBypass : Bool) : ListenerBase :=
  match l.connIdByUpstreamConnId.lookup info.upstreamConnId with
  | none => l.requestConnection skipped info message forceBypass
  | some id => l.sendOn id message

def completeConnectRequest (id : ℕ) (result : ClientConnectResult) : ListenerBase :=
  match l.connections.lookup id with
  | none => l
  | some _ =>
    if result ≠ .pass then l.closeConnection id false
    else
      ((l.modifyConnection id fun conn ↦ { conn with readEnabled := true }).emit
        (.connectionAccepted id)).push (.accepted id)

def dnsResponses (upstreamConnId : ℕ) (messages : List Message) : ListenerBase :=
  { l with trace := l.trace ++ messages.map (.dnsResponse upstreamConnId) }

def send (id : ℕ) (data : List UInt8) : ListenerBase × Option ℕ :=
  match l.connections.lookup id with
  | none => (l, none)
  | some conn =>
    ((l.modifyConnection id fun conn ↦ (receive data conn).1).dnsResponses conn.upstreamConnId
      (receive data conn).2, some data.length)

def turnRead (id : ℕ) (readEnabled : Bool) : ListenerBase :=
  match l.connections.lookup id with
  | none => l
  | some conn =>
    let l := l.modifyConnection id fun conn ↦ { conn with readEnabled }
    if conn.proto = .tcp ∧ !conn.readEnabled ∧ readEnabled ∧ conn.sndBuf ≠ [] then
      { l with connectionsToSend := l.connectionsToSend ++ [id], task := true }
    else l

def runTask : ListenerBase :=
  { l with
    task := false
    closedConnections := []
    frames := .closing l.closedConnections :: l.frames }

def goOn (result : ℤ) : Frame → ListenerBase
  | .requested id message => l.modifyConnection id (enqueue message)
  | .accepted id => l.raiseRead id false
  | .raisedUdp id => l.finishReadUdp id result
  | .raisedTcp id async => l.finishReadTcp id async result
  | .closing (id :: ids) => (l.closeConnection id false).push (.closing ids)
  | .closing [] => { l with connectionsToSend := [] }.push (.sending l.connectionsToSend)
  | .sending (id :: ids) => (l.push (.sending ids)).raiseRead id false
  | .sending [] => l

def resume (result : ℤ) : ListenerBase :=
  match l.frames with
  | [] => l
  | frame :: frames => { l with frames }.goOn result frame

end ListenerBase

inductive Input
  | sendAsListener (skipped : ℕ) (info : ConnectionInfo) (message : Message) (forceBypass : Bool)
  | completeConnectRequest (id : ℕ) (result : ClientConnectResult)
  | upstreamConnectionClosed (upstreamConnId : ℕ)
  | closeConnection (id : ℕ) (async : Bool)
  | send (id : ℕ) (data : List UInt8)
  | turnRead (id : ℕ) (readEnabled : Bool)
  | task
  | resume (result : ℤ)
deriving DecidableEq

def enabled (l : ListenerBase) : Input → Bool
  | .task => l.task && l.frames.isEmpty
  | .resume _ => !l.frames.isEmpty
  | _ => true

def handle (l : ListenerBase) : Input → ListenerBase
  | .sendAsListener skipped info message forceBypass =>
    l.sendAsListener skipped info message forceBypass
  | .completeConnectRequest id result => l.completeConnectRequest id result
  | .upstreamConnectionClosed id => l.closeListenerConnectionByUpstreamConnId id
  | .closeConnection id async => l.closeConnection id async
  | .send id data => (l.send id data).1
  | .turnRead id readEnabled => l.turnRead id readEnabled
  | .task => l.runTask
  | .resume result => l.resume result

def step (l : ListenerBase) (input : Input) : Option ListenerBase :=
  if enabled l input then some (handle l input) else none

end TrustTunnel.Dns.ClientListener

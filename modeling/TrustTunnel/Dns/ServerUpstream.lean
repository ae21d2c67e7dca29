import TrustTunnel.Dns.Messages
import TrustTunnel.Lib.Assoc
import TrustTunnel.Traffic.Types

namespace TrustTunnel.Dns.ServerUpstream

open Lib.Assoc Net.Address Traffic.Types Messages

structure Connection where
  proto : TransportProtocol
  addrs : TunnelAddressPair
  appName : String
  readEnabled : Bool := true
  unansweredDnsRequests : ℤ := 0
  sndBuf : List UInt8 := []
  rcvBuf : List UInt8 := []
deriving DecidableEq

inductive Event
  | openConnection (id : ℕ)
  | closeConnection (id : ℕ)
  | connectionOpened (id : ℕ)
  | connectionClosed (id : ℕ)
  | read (id : ℕ) (data : List UInt8)
  | dnsRequest (id : ℕ) (message : Message)
  | upstreamConnectionClosed (id : ℕ)
deriving DecidableEq

/-- What is left to do of a function when a handler that it called, and that may call in turn,
returns. -/
inductive Frame
  | opening (ids : List ℕ)
  | closing (ids : List ℕ)
  | removed (id : ℕ) (async : Bool)
  | responded (id : ℕ)
  | raised (id : ℕ)
deriving DecidableEq

structure UpstreamBase where
  connIdGenerator : ℕ := 0
  newConnections : List ℕ := []
  closedConnections : List ℕ := []
  connections : AList (fun _ : ℕ ↦ Connection) := ∅
  task : Bool := false
  frames : List Frame := []
  trace : List Event := []

namespace UpstreamBase

variable (u : UpstreamBase)

def emit (e : Event) : UpstreamBase := { u with trace := u.trace ++ [e] }

def push (frame : Frame) : UpstreamBase := { u with frames := frame :: u.frames }

def modifyConnection (id : ℕ) (f : Connection → Connection) : UpstreamBase :=
  { u with connections := modify u.connections id f }

/-- `open_connection`, with the number of ids that others got in the meantime. -/
def openConnection (skipped : ℕ) (addrs : TunnelAddressPair) (proto : TransportProtocol)
    (appName : String) : UpstreamBase :=
  if addrs.dstport ≠ plainDnsPortNumber then u
  else
    let id := u.connIdGenerator + skipped
    { u.emit (.openConnection id) with
      connIdGenerator := id + 1
      connections := u.connections.insert id { proto, addrs, appName }
      newConnections := u.newConnections ++ [id]
      task := true }

/-- `close_connection`, up to `on_upstream_connection_closed`. -/
def closeConnection (id : ℕ) (async : Bool) : UpstreamBase :=
  if id ∈ u.newConnections then
    { u.emit (.closeConnection id) with newConnections := u.newConnections.filter (· ≠ id) }
  else
    match u.connections.lookup id with
    | none => u.emit (.closeConnection id)
    | some _ =>
      (({ u with connections := u.connections.erase id }.emit (.closeConnection id)).emit
        (.upstreamConnectionClosed id)).push (.removed id async)

def finishClose (id : ℕ) (async : Bool) : UpstreamBase :=
  if async then { u with closedConnections := u.closedConnections ++ [id], task := true }
  else u.emit (.connectionClosed id)

def dnsRequests (id : ℕ) (messages : List Message) : UpstreamBase :=
  { u with trace := u.trace ++ messages.map (.dnsRequest id) }

/-- What `send` makes of the connection, and the messages that it passes on. -/
def receive (data : List UInt8) (conn : Connection) : Connection × List Message :=
  match conn.proto with
  | .udp => ({ conn with unansweredDnsRequests := conn.unansweredDnsRequests + 1 }, [data])
  | .tcp =>
    let r := readMessages (conn.sndBuf ++ data).length (conn.sndBuf ++ data)
    ({ conn with sndBuf := r.2 }, r.1)

def send (id : ℕ) (data : List UInt8) : UpstreamBase × Option ℕ :=
  match u.connections.lookup id with
  | none => (u, none)
  | some conn =>
    ((u.modifyConnection id fun conn ↦ (receive data conn).1).dnsRequests id (receive data conn).2,
      some data.length)

def sendResponse (id : ℕ) (message : Message) : UpstreamBase :=
  match u.connections.lookup id with
  | none => u
  | some conn =>
    match conn.proto with
    | .udp =>
      if conn.readEnabled then (u.emit (.read id message)).push (.responded id) else u
    | .tcp =>
      let rcvBuf := conn.rcvBuf ++ writeDnsMessage message
      let u := u.modifyConnection id fun conn ↦ { conn with rcvBuf }
      if conn.readEnabled then (u.emit (.read id rcvBuf)).push (.raised id) else u

def finishResponse (id : ℕ) (result : ℤ) : UpstreamBase :=
  if result ≤ 0 then u
  else
    match u.connections.lookup id with
    | none => u
    | some conn =>
      let unanswered := conn.unansweredDnsRequests - 1
      let u := u.modifyConnection id fun conn ↦ { conn with unansweredDnsRequests := unanswered }
      if unanswered = 0 then u.closeConnection id false else u

/-- `raise_read` after the event. The code uses the connection even if it is gone by then. -/
def finishRead (id : ℕ) (result : ℤ) : UpstreamBase :=
  if result < 0 then u.closeConnection id false
  else
    match u.connections.lookup id with
    | none => u
    | some conn =>
      let rcvBuf := conn.rcvBuf.drop result.toNat
      let u := u.modifyConnection id fun conn ↦ { conn with rcvBuf }
      if connMaxBuffered < rcvBuf.length then u.closeConnection id false else u

def runTask : UpstreamBase :=
  { u with
    task := false
    newConnections := []
    frames := .opening u.newConnections :: u.frames }

def goOn (result : ℤ) : Frame → UpstreamBase
  | .opening (id :: ids) => (u.emit (.connectionOpened id)).push (.opening ids)
  | .opening [] => { u with closedConnections := [] }.push (.closing u.closedConnections)
  | .closing (id :: ids) => (u.emit (.connectionClosed id)).push (.closing ids)
  | .closing [] => u
  | .removed id async => u.finishClose id async
  | .responded id => u.finishResponse id result
  | .raised id => u.finishRead id result

def resume (result : ℤ) : UpstreamBase :=
  match u.frames with
  | [] => u
  | frame :: frames => { u with frames }.goOn result frame

end UpstreamBase

inductive Input
  | openConnection (skipped : ℕ) (addrs : TunnelAddressPair) (proto : TransportProtocol)
      (appName : String)
  | closeConnection (id : ℕ) (async : Bool)
  | send (id : ℕ) (data : List UInt8)
  | sendResponse (id : ℕ) (message : Message)
  | task
  | resume (result : ℤ)
deriving DecidableEq

def enabled (u : UpstreamBase) : Input → Bool
  | .task => u.task && u.frames.isEmpty
  | .resume _ => !u.frames.isEmpty
  | _ => true

def handle (u : UpstreamBase) : Input → UpstreamBase
  | .openConnection skipped addrs proto appName => u.openConnection skipped addrs proto appName
  | .closeConnection id async => u.closeConnection id async
  | .send id data => (u.send id data).1
  | .sendResponse id message => u.sendResponse id message
  | .task => u.runTask
  | .resume result => u.resume result

def step (u : UpstreamBase) (input : Input) : Option UpstreamBase :=
  if enabled u input then some (handle u input) else none

end TrustTunnel.Dns.ServerUpstream

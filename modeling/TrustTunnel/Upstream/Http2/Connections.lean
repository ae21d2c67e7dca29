import TrustTunnel.Lib.Assoc
import TrustTunnel.Upstream.Types

namespace TrustTunnel.Upstream.Http2.Connections

open Upstream.Types

structure Answer where
  result : Option ℕ := some 0
  flow : Option Bool := none
deriving DecidableEq, Repr

structure Env where
  answer : ℕ → Answer := fun _ ↦ {}
  /-- The size of the next peeked chunk less one, or a failure of `peek`. -/
  peek : ℕ → Option ℕ := fun _ ↦ some 0
  init : Bool := true
  push : Bool := true

/-- How a function that returns a negative value in case of an error ends. -/
inductive Outcome
  | done
  | refused
  | broken
deriving DecidableEq, Repr

structure TcpConnection where
  streamId : ℕ := 0
  readEnabled : Bool := false
  streamClosed : Bool := false
  clientClosed : Bool := false
  unreadData : Option (List UInt8) := none
  completeReadTask : Bool := false
  pendingError : Option ServerError := none
  closeTask : Option Bool := none
  raised : ℕ := 0
  received : List UInt8 := []
  accepted : List UInt8 := []
  failed : Bool := false
deriving DecidableEq, Repr

namespace TcpConnection

variable (env : Env) (conn : TcpConnection)

def unread : List UInt8 := conn.unreadData.getD []

def fail : TcpConnection := { conn with failed := true }

def arrive (data : List UInt8) : TcpConnection := { conn with received := conn.received ++ data }

/-- `update_flow_control`; a task reads out what is unread once the reads are on. -/
def updateFlowControl (on : Bool) : TcpConnection :=
  { conn with
    readEnabled := on
    completeReadTask := conn.completeReadTask || (on && !conn.unread.isEmpty) }

/-- Raises `SERVER_EVENT_READ`; the handler may change the flow control. -/
def raiseRead : TcpConnection :=
  let next := { conn with raised := conn.raised + 1 }
  match (env.answer conn.raised).flow with
  | none => next
  | some on => next.updateFlowControl on

def handleRead (data : List UInt8) : TcpConnection × Option ℕ :=
  match (env.answer conn.raised).result with
  | none => ((conn.raiseRead env).fail, none)
  | some n =>
    let r := min n data.length
    ({ conn.raiseRead env with accepted := conn.accepted ++ data.take r }, some r)

/-- The loop of `read_out_pending_data`; each turn but the last one takes something. -/
def readOutLoop : ℕ → TcpConnection → TcpConnection × Outcome
  | 0, conn => (conn, .done)
  | fuel + 1, conn =>
    if !conn.readEnabled || conn.unread.isEmpty then (conn, .done)
    else
      match env.peek conn.raised with
      | none => (conn.fail, .broken)
      | some size =>
        match conn.handleRead env (conn.unread.take (size + 1)) with
        | (conn, none) => (conn, .refused)
        | (conn, some 0) => (conn, .done)
        | (conn, some (r + 1)) =>
          readOutLoop fuel { conn with unreadData := some (conn.unread.drop (r + 1)) }

def readOutPendingData : TcpConnection × Outcome :=
  if conn.unreadData.isNone then (conn, .done)
  else
    let r := readOutLoop env conn.unread.length conn
    (if r.2 = .done ∧ r.1.unread = [] then { r.1 with unreadData := none } else r.1, r.2)

def pushUnread (data : List UInt8) : TcpConnection × Outcome :=
  if env.push then ({ conn with unreadData := some (conn.unread ++ data) }, .done)
  else (conn.fail, .broken)

/-- Keeps what the handler did not take. If there was a buffer when the data came (`pending`), it is
used even if it has been destroyed since. -/
def keep (pending : Bool) (data : List UInt8) : TcpConnection × Outcome :=
  if pending then
    match conn.unreadData with
    | none => (conn, .done)
    | some _ => conn.pushUnread env data
  else
    let conn := { conn with unreadData := some [] }
    if env.init then conn.pushUnread env data else (conn.fail, .broken)

/-- Hands data to the handler, if the reads are on, and keeps the rest. -/
def deliver (pending : Bool) (data : List UInt8) : TcpConnection × Outcome :=
  match if conn.readEnabled then conn.handleRead env data else (conn, some 0) with
  | (conn, none) => (conn, .refused)
  | (conn, some r) =>
    if r < data.length then conn.keep env pending (data.drop r) else (conn, .done)

def receiveData (data : List UInt8) : TcpConnection × Outcome :=
  let r := (conn.arrive data).readOutPendingData env
  match r.2 with
  | .done => r.1.deliver env conn.unreadData.isSome data
  | .refused | .broken => r

end TcpConnection

inductive Event
  | connectionOpened (id : ℕ)
  | connectionClosed (id : ℕ)
  | error (id : ℕ) (error : ServerError)
  | resetStream (streamId : ℕ) (graceful : Bool)
deriving DecidableEq, Repr

structure Http2Upstream where
  session : Bool := true
  tcpConnections : AList (fun _ : ℕ ↦ TcpConnection) := ∅
  connIdByStreamId : AList (fun _ : ℕ ↦ ℕ) := ∅
  streamsToReset : List ℕ := []
  events : List Event := []

namespace Http2Upstream

variable (env : Env) (u : Http2Upstream)

def emit (e : Event) : Http2Upstream := { u with events := u.events ++ [e] }

def setConnection (id : ℕ) (conn : TcpConnection) : Http2Upstream :=
  { u with tcpConnections := u.tcpConnections.replace id conn }

def getConnByStreamId (streamId : ℕ) : Option (ℕ × TcpConnection) := do
  let id ← u.connIdByStreamId.lookup streamId
  let conn ← u.tcpConnections.lookup id
  return (id, conn)

def cleanTcpConnectionData (id : ℕ) : Http2Upstream :=
  match u.tcpConnections.lookup id with
  | none => u
  | some conn =>
    { u with
      connIdByStreamId := u.connIdByStreamId.erase conn.streamId
      tcpConnections := u.tcpConnections.erase id }

def closeTcpConnection (id : ℕ) (graceful : Bool) : Http2Upstream :=
  match u.session, u.tcpConnections.lookup id with
  | true, some conn =>
    if conn.streamClosed then (u.emit (.connectionClosed id)).cleanTcpConnectionData id
    else
      (u.emit (.resetStream conn.streamId graceful)).setConnection id
        { conn with clientClosed := true }
  | _, _ => u.cleanTcpConnectionData id

/-- A connection whose data was refused is closed by `handle_read`. -/
def closeRefused (id : ℕ) : Outcome → Http2Upstream
  | .refused => u.closeTcpConnection id false
  | .done | .broken => u

/-- The connect request for a TCP connection was sent on the stream. -/
def openConnection (id streamId : ℕ) : Http2Upstream :=
  let conn := (u.tcpConnections.lookup id).getD {}
  { u with
    tcpConnections := u.tcpConnections.insert id { conn with streamId }
    connIdByStreamId := u.connIdByStreamId.insert streamId id }

def handleResponse (streamId statusCode : ℕ) (error : ServerError) : Http2Upstream :=
  match u.getConnByStreamId streamId with
  | none => { u with streamsToReset := u.streamsToReset ++ [streamId] }
  | some (id, conn) =>
    if statusCode = httpOkStatus then u.emit (.connectionOpened id)
    else u.setConnection id { conn with pendingError := some error }

def handleData (streamId : ℕ) (data : List UInt8) : Http2Upstream :=
  match u.getConnByStreamId streamId with
  | none => u
  | some (id, conn) =>
    let r := conn.receiveData env data
    (u.setConnection id r.1).closeRefused id r.2

/-- `errorText` tells the error of the stream, if there is one. -/
def streamProcessed (streamId : ℕ) (errorText : Option String) : Http2Upstream :=
  match u.getConnByStreamId streamId with
  | none => u
  | some (id, conn) =>
    let u := u.setConnection id { conn with streamClosed := true }
    match conn.pendingError.or (errorText.map fun text ↦ ⟨econnrefused, text⟩) with
    | some e => (u.emit (.error id e)).cleanTcpConnectionData id
    | none =>
      if conn.clientClosed || conn.unread.isEmpty then
        (u.emit (.connectionClosed id)).cleanTcpConnectionData id
      else u

def completeRead (id : ℕ) : Http2Upstream :=
  match u.tcpConnections.lookup id with
  | none => u
  | some conn =>
    let r := { conn with completeReadTask := false }.readOutPendingData env
    let u := (u.setConnection id r.1).closeRefused id r.2
    match r.2 with
    | .done =>
      if r.1.unread.isEmpty && r.1.streamClosed then
        (u.emit (.connectionClosed id)).cleanTcpConnectionData id
      else u
    | .refused | .broken => u.closeTcpConnection id false

def updateFlowControl (id : ℕ) (on : Bool) : Http2Upstream :=
  match u.tcpConnections.lookup id with
  | none => u
  | some conn => u.setConnection id (conn.updateFlowControl on)

def closeConnection (id : ℕ) (graceful async : Bool) : Http2Upstream :=
  match u.tcpConnections.lookup id with
  | none => u.emit (.connectionClosed id)
  | some conn =>
    if async then u.setConnection id { conn with closeTask := some graceful }
    else u.closeTcpConnection id graceful

def runCloseTask (id : ℕ) : Http2Upstream :=
  match u.tcpConnections.lookup id with
  | none => u
  | some conn =>
    match conn.closeTask with
    | none => u
    | some graceful =>
      (u.setConnection id { conn with closeTask := none }).closeTcpConnection id graceful

end Http2Upstream

inductive Input
  | openConnection (id streamId : ℕ)
  | headers (streamId statusCode : ℕ) (error : ServerError)
  | data (streamId : ℕ) (data : List UInt8)
  | streamProcessed (streamId : ℕ) (errorText : Option String)
  | completeRead (id : ℕ)
  | updateFlowControl (id : ℕ) (on : Bool)
  | closeConnection (id : ℕ) (graceful async : Bool)
  | closeTask (id : ℕ)
deriving DecidableEq

def enabled (u : Http2Upstream) : Input → Bool
  | .completeRead id => (u.tcpConnections.lookup id).any (·.completeReadTask)
  | .closeTask id => (u.tcpConnections.lookup id).any (·.closeTask.isSome)
  | _ => true

def handle (env : Env) (u : Http2Upstream) : Input → Http2Upstream
  | .openConnection id streamId => u.openConnection id streamId
  | .headers streamId statusCode error => u.handleResponse streamId statusCode error
  | .data streamId data => u.handleData env streamId data
  | .streamProcessed streamId errorText => u.streamProcessed streamId errorText
  | .completeRead id => u.completeRead env id
  | .updateFlowControl id on => u.updateFlowControl id on
  | .closeConnection id graceful async => u.closeConnection id graceful async
  | .closeTask id => u.runCloseTask id

def step (u : Http2Upstream) (label : Env × Input) : Option Http2Upstream :=
  if enabled u label.2 then some (handle label.1 u label.2) else none

end TrustTunnel.Upstream.Http2.Connections

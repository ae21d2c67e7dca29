import TrustTunnel.Lib.Assoc
import TrustTunnel.Net.Address
import TrustTunnel.Upstream.Types

namespace TrustTunnel.Upstream.Http3.Connections

open Lib.Assoc Net.Address Upstream.Types

inductive Call
  | updateFlowControl (id : ℕ) (on : Bool)
  | closeConnection (id : ℕ) (graceful : Bool)
deriving DecidableEq, Repr

/-- How `send_connect_request` ends: with a stream, an error that allows a retry, or another one. -/
inductive RequestResult
  | stream (skipped : ℕ)
  | retriable
  | failed
deriving DecidableEq, Repr

/-- What the environment does during a step, by the number of events before it. -/
structure Env where
  answer : ℕ → Option ℕ := fun _ ↦ some 0
  calls : ℕ → List Call := fun _ ↦ []
  /-- The size of the next peeked chunk less one, or a failure of `peek`. -/
  peek : ℕ → Option ℕ := fun _ ↦ some 0
  init : Bool := true
  push : Bool := true
  request : ℕ → RequestResult := fun _ ↦ .failed
  streamSendCapacity : ℕ → ℕ := fun _ ↦ 0

/-- Why a connection was closed: by the peer, once everything was read out, or from this side. -/
inductive Cause
  | peer
  | own
deriving DecidableEq, Repr

/-- An event is recorded when its handler returns, after the calls that the handler makes. -/
inductive Event
  | accepted (id : ℕ)
  | closeRequested (id : ℕ)
  | connectionOpened (id : ℕ)
  /-- With the content of `unread_data` at that time. -/
  | connectionClosed (id : ℕ) (cause : Cause) (unread : List UInt8)
  | error (id : ℕ) (error : ServerError)
  | read (id : ℕ) (data : List UInt8) (result : Option ℕ)
  | dataSent (id length : ℕ)
  | body (streamId : ℕ) (data : List UInt8)
  | connectRequest (dst : TunnelAddress) (appName : String)
  | resetStream (streamId : ℕ) (graceful : Bool)
  | consumeStream (streamId length : ℕ)
  | consumeConnection (length : ℕ)
deriving DecidableEq, Repr

def Event.terminal : Event → Option ℕ
  | .connectionClosed id _ _ => some id
  | .error id _ => some id
  | _ => none

structure TcpConnection where
  streamId : ℕ := 0
  readEnabled : Bool := false
  established : Bool := false
  streamClosed : Bool := false
  needNotifySentBytes : Bool := false
  unreadData : Option (List UInt8) := none
  pendingError : Option ServerError := none
  sentBytesToNotify : ℕ := 0
deriving DecidableEq, Repr

def TcpConnection.unread (conn : TcpConnection) : List UInt8 := conn.unreadData.getD []

structure RetriableTcpConnectRequest where
  dstAddr : TunnelAddress
  appName : String
deriving DecidableEq, Repr

structure Http3Upstream where
  session : Bool := true
  nextStreamId : ℕ := 0
  tcpConnections : AList (fun _ : ℕ ↦ TcpConnection) := ∅
  tcpConnByStreamId : AList (fun _ : ℕ ↦ ℕ) := ∅
  retriableTcpRequests : AList (fun _ : ℕ ↦ RetriableTcpConnectRequest) := ∅
  closingConnections : AList (fun _ : ℕ ↦ Bool) := ∅
  completeReadTask : Bool := false
  notifySentTask : Bool := false
  closeConnectionsTask : Bool := false
  postReceiveTask : Bool := false
  udpMuxStream : Option ℕ := none
  icmpMuxStream : Option ℕ := none
  healthCheckStream : Option ℕ := none
  /-- The health check has an error. -/
  healthCheckFailed : Bool := false
  totalUnreadBytes : ℕ := 0
  connFcSurplus : ℕ := 0
  trace : List Event := []

def httpAuthRequiredStatus : ℕ := 407

/-- How many bytes of the connection window to extend, and the surplus that is left. -/
def h3ConnCreditToExtend (received surplus : ℕ) : ℕ × ℕ :=
  if received = 0 then (0, surplus)
  else if received ≤ surplus then (0, surplus - received)
  else (received - surplus, 0)

namespace Http3Upstream

variable (env : Env) (u : Http3Upstream)

def emit (e : Event) : Http3Upstream := { u with trace := u.trace ++ [e] }

def modifyConnection (id : ℕ) (f : TcpConnection → TcpConnection) : Http3Upstream :=
  { u with tcpConnections := modify u.tcpConnections id f }

def getTcpConnByStreamId (streamId : ℕ) : Option (ℕ × TcpConnection) := do
  let id ← u.tcpConnByStreamId.lookup streamId
  let conn ← u.tcpConnections.lookup id
  return (id, conn)

/-- The connection is known, was not closed by the caller, and its end has not been told. -/
def mayClose (id : ℕ) : Bool :=
  u.trace.contains (.accepted id) && !u.trace.contains (.closeRequested id) &&
    !u.trace.any fun e ↦ e.terminal = some id

def deferClose (id : ℕ) (graceful : Bool) : Http3Upstream :=
  { u with
    closingConnections := u.closingConnections.insert id graceful
    closeConnectionsTask := true }

def updateFlowControl (id : ℕ) (on : Bool) : Http3Upstream :=
  match u.tcpConnections.lookup id with
  | none => u
  | some conn =>
    { u.modifyConnection id fun conn ↦ { conn with readEnabled := on } with
      completeReadTask := u.completeReadTask || (on && !conn.unread.isEmpty) }

/-- A call of a handler. Callers close a connection only once and before its end. -/
def call : Call → Http3Upstream
  | .updateFlowControl id on => u.updateFlowControl id on
  | .closeConnection id graceful =>
    if u.mayClose id then (u.emit (.closeRequested id)).deferClose id graceful else u

def runHandler : Http3Upstream := (env.calls u.trace.length).foldl call u

def raise (e : Event) : Http3Upstream := (u.runHandler env).emit e

def closeStream (streamId : ℕ) (graceful : Bool) : Http3Upstream :=
  let u := u.emit (.resetStream streamId graceful)
  match u.getTcpConnByStreamId streamId with
  | none => u
  | some (id, _) => u.modifyConnection id fun conn ↦ { conn with streamClosed := true }

def noteAppProgress : Http3Upstream :=
  match u.healthCheckStream with
  | none => u
  | some streamId => { u.closeStream streamId true with healthCheckStream := none }

def unreadOf (id : ℕ) : List UInt8 := (u.tcpConnections.lookup id).elim [] TcpConnection.unread

def cleanTcpConnectionData (id : ℕ) : Http3Upstream :=
  let u := { u with closingConnections := u.closingConnections.erase id }
  if (u.retriableTcpRequests.lookup id).isSome then
    { u with retriableTcpRequests := u.retriableTcpRequests.erase id }
  else
    match u.tcpConnections.lookup id with
    | none => u
    | some conn =>
      { u with
        totalUnreadBytes := u.totalUnreadBytes - conn.unread.length
        tcpConnByStreamId := u.tcpConnByStreamId.erase conn.streamId
        tcpConnections := u.tcpConnections.erase id }

def finishClosed (id : ℕ) (cause : Cause) : Http3Upstream :=
  let u := u.runHandler env
  (u.emit (.connectionClosed id cause (u.unreadOf id))).cleanTcpConnectionData id

def finishError (id : ℕ) (e : ServerError) : Http3Upstream :=
  (u.raise env (.error id e)).cleanTcpConnectionData id

def closeStreamOf (id : ℕ) (graceful : Bool) : Http3Upstream :=
  match u.tcpConnections.lookup id with
  | none => u
  | some conn => if conn.streamClosed then u else u.closeStream conn.streamId graceful

def closeTcpConnection (id : ℕ) (graceful : Bool) : Http3Upstream :=
  (u.closeStreamOf id graceful).finishClosed env id .own

def consumeStream (streamId length : ℕ) : Http3Upstream := u.emit (.consumeStream streamId length)

def creditConnectionFc (length : ℕ) : Http3Upstream :=
  if length = 0 then u
  else
    let r := h3ConnCreditToExtend length u.connFcSurplus
    let u := { u with connFcSurplus := r.2 }
    if 0 < r.1 then u.emit (.consumeConnection r.1) else u

def creditStreamFc (streamId length : ℕ) : Http3Upstream :=
  if length = 0 then u
  else { u.consumeStream streamId length with connFcSurplus := u.connFcSurplus + length }

def raiseReadEvent (id : ℕ) (data : List UInt8) : Http3Upstream × Option ℕ :=
  let r := (env.answer u.trace.length).map fun n ↦ min n data.length
  let u := u.raise env (.read id data r)
  (if r.any (0 < ·) then u.noteAppProgress else u, r)

def drain (id r : ℕ) : Http3Upstream :=
  { u.modifyConnection id fun conn ↦ { conn with unreadData := some (conn.unread.drop r) } with
    totalUnreadBytes := u.totalUnreadBytes - r }

/-- The loop of `read_out_pending_data`. Each turn but the last one takes something. -/
def readOutLoop (id : ℕ) : ℕ → Http3Upstream → Http3Upstream × Bool
  | 0, u => (u, true)
  | fuel + 1, u =>
    match u.tcpConnections.lookup id with
    | none => (u, true)
    | some conn =>
      if !conn.readEnabled || conn.unread.isEmpty then (u, true)
      else
        match env.peek u.trace.length with
        | none => (u, false)
        | some size =>
          match u.raiseReadEvent env id (conn.unread.take (size + 1)) with
          | (u, none) => (u, false)
          | (u, some 0) => (u, true)
          | (u, some (r + 1)) =>
            readOutLoop id fuel ((u.drain id (r + 1)).creditStreamFc conn.streamId (r + 1))

def readOutPendingData (id : ℕ) (conn : TcpConnection) : Http3Upstream × Bool :=
  if conn.unreadData.isNone then (u, true)
  else
    let r := readOutLoop env id conn.unread.length u
    if r.2 ∧ r.1.unreadOf id = [] then
      (r.1.modifyConnection id fun conn ↦ { conn with unreadData := none }, true)
    else r

/-- `process_pending_data` after a successful `read_out_pending_data`. -/
def finishPending (id : ℕ) : Http3Upstream :=
  match u.tcpConnections.lookup id with
  | none => u
  | some conn =>
    if conn.streamClosed && conn.unread.isEmpty then u.finishClosed env id .peer else u

def processPendingData (streamId : ℕ) : Http3Upstream :=
  match u.getTcpConnByStreamId streamId with
  | none => u
  | some (id, conn) =>
    let r := u.readOutPendingData env id conn
    if r.2 then r.1.finishPending env id else r.1.closeTcpConnection env id false

def pushUnreadData (id : ℕ) (data : List UInt8) : Http3Upstream × Bool :=
  match u.tcpConnections.lookup id with
  | none => (u, false)
  | some conn =>
    if conn.unreadData.isNone && !env.init then
      (u.modifyConnection id fun conn ↦ { conn with unreadData := some [] }, false)
    else if env.push then
      ({ u.modifyConnection id fun conn ↦
          { conn with unreadData := some (conn.unread ++ data) } with
          totalUnreadBytes := u.totalUnreadBytes + data.length }, true)
    else
      (u.modifyConnection id fun conn ↦ { conn with unreadData := some conn.unread }, false)

/-- The end of `on_body`: what is left of the body is kept, and the connection window is
extended. -/
def keepBody (streamId id : ℕ) (rest : List UInt8) (bodyLen : ℕ) : Http3Upstream :=
  if rest = [] then u.creditConnectionFc bodyLen
  else
    let r := u.pushUnreadData env id rest
    if r.2 then r.1.creditConnectionFc bodyLen
    else (r.1.closeTcpConnection env id false).consumeStream streamId bodyLen

/-- `on_body` once older data was read out. -/
def deliverBody (streamId : ℕ) (chunk : List UInt8) : Http3Upstream :=
  match u.getTcpConnByStreamId streamId with
  | none => u.consumeStream streamId chunk.length
  | some (id, conn) =>
    if conn.readEnabled && conn.unread.isEmpty then
      let r := u.raiseReadEvent env id chunk
      match r.2 with
      | none => (r.1.closeTcpConnection env id false).consumeStream streamId chunk.length
      | some n =>
        (r.1.creditStreamFc streamId n).keepBody env streamId id (chunk.drop n) chunk.length
    else u.keepBody env streamId id chunk chunk.length

def onBody (streamId : ℕ) (chunk : List UInt8) : Http3Upstream :=
  let u := u.emit (.body streamId chunk)
  if u.udpMuxStream = some streamId ∨ u.icmpMuxStream = some streamId then
    (u.consumeStream streamId chunk.length).noteAppProgress
  else if u.healthCheckStream = some streamId then u.consumeStream streamId chunk.length
  else
    match u.getTcpConnByStreamId streamId with
    | none => u.consumeStream streamId chunk.length
    | some (_, conn) =>
      (if conn.unread.isEmpty then u else u.processPendingData env streamId).deliverBody env
        streamId chunk

/-- `on_stream_closed` of a TCP connection, and whether the close was postponed. -/
def onTcpStreamClosed (streamId : ℕ) : Http3Upstream × Bool :=
  match u.getTcpConnByStreamId streamId with
  | none => (u, false)
  | some (id, conn) =>
    match conn.pendingError with
    | some e => (u.finishError env id e, false)
    | none =>
      if conn.unread.isEmpty then (u.finishClosed env id .peer, false)
      else (u.modifyConnection id fun conn ↦ { conn with streamClosed := true }, true)

def onStreamClosed (streamId : ℕ) : Http3Upstream :=
  if u.udpMuxStream = some streamId then { u with udpMuxStream := none }.closeStream streamId false
  else if u.icmpMuxStream = some streamId then
    { u with icmpMuxStream := none }.closeStream streamId false
  else if u.healthCheckStream = some streamId then
    { u with healthCheckStream := none }.closeStream streamId !u.healthCheckFailed
  else
    let r := u.onTcpStreamClosed env streamId
    if r.2 then r.1 else r.1.closeStream streamId false

/-- Status 407 only makes the session close, as soon as the packets are processed. -/
def handleResponse (streamId statusCode : ℕ) (error : ServerError) : Http3Upstream :=
  if statusCode = httpAuthRequiredStatus then u
  else if u.udpMuxStream = some streamId ∨ u.icmpMuxStream = some streamId then u
  else if u.healthCheckStream = some streamId then
    { u with healthCheckFailed := u.healthCheckFailed || statusCode != httpOkStatus }
  else
    match u.getTcpConnByStreamId streamId with
    | none => u.closeStream streamId false
    | some (id, _) =>
      if statusCode = httpOkStatus then
        (u.modifyConnection id fun conn ↦ { conn with established := true }).raise env
          (.connectionOpened id)
      else u.modifyConnection id fun conn ↦ { conn with pendingError := some error }

def openStream (id skipped : ℕ) : Http3Upstream :=
  let streamId := u.nextStreamId + skipped
  let conn := (u.tcpConnections.lookup id).getD {}
  { u with
    nextStreamId := streamId + 1
    tcpConnections := u.tcpConnections.insert id { conn with streamId }
    tcpConnByStreamId := u.tcpConnByStreamId.insert streamId id }

def openConnection (id : ℕ) (dst : TunnelAddress) (appName : String) : Http3Upstream :=
  let next := u.emit (.connectRequest dst appName)
  match env.request u.trace.length with
  | .stream skipped => (next.openStream id skipped).emit (.accepted id)
  | .retriable =>
    { next with
      retriableTcpRequests := next.retriableTcpRequests.insert id ⟨dst, appName⟩ }.emit
      (.accepted id)
  | .failed => next

/-- `close_connection` of a TCP connection. It does not return after a synchronous close. -/
def closeConnection (id : ℕ) (graceful async : Bool) : Http3Upstream :=
  (if async then u else u.closeTcpConnection env id graceful).deferClose id graceful

def send (id length : ℕ) (submitted : Bool) : Http3Upstream :=
  if submitted then
    u.modifyConnection id fun conn ↦
      { conn with
        sentBytesToNotify := conn.sentBytesToNotify + length
        needNotifySentBytes := true }
  else u

def availableToSend (id : ℕ) : Http3Upstream :=
  match u.tcpConnections.lookup id with
  | none => u
  | some conn =>
    if env.streamSendCapacity conn.streamId = 0 then
      u.modifyConnection id fun conn ↦ { conn with needNotifySentBytes := true }
    else u

def consume (id length : ℕ) : Http3Upstream :=
  if length = 0 ∨ (u.tcpConnections.lookup id).isNone then u else u.noteAppProgress

def completeReadOf (id : ℕ) : Http3Upstream :=
  match u.tcpConnections.lookup id with
  | none => u
  | some conn => if conn.unread.isEmpty then u else u.processPendingData env conn.streamId

def completeRead (order : List ℕ) : Http3Upstream :=
  order.foldl (completeReadOf env) { u with completeReadTask := false }

/-- The first half of a turn of the loop of `poll_tcp_connections`. -/
def pollRead (id : ℕ) : Http3Upstream :=
  match u.tcpConnections.lookup id with
  | none => u
  | some conn =>
    if conn.established && conn.readEnabled && !conn.streamClosed && !conn.unread.isEmpty then
      u.processPendingData env conn.streamId
    else u

/-- The second half. A connection that was closed in the first one is not used any more. -/
def pollSent (id : ℕ) : Http3Upstream :=
  match u.tcpConnections.lookup id with
  | none => u
  | some conn =>
    if conn.established && !conn.streamClosed && conn.needNotifySentBytes &&
        decide (0 < env.streamSendCapacity conn.streamId) then
      (u.modifyConnection id fun conn ↦
        { conn with needNotifySentBytes := false, sentBytesToNotify := 0 }).raise env
        (.dataSent id conn.sentBytesToNotify)
    else u

def pollTcpConnections (order : List ℕ) : Http3Upstream :=
  order.foldl (fun u id ↦ (u.pollRead env id).pollSent env id) u

/-- The loop of `retry_connect_requests`, in the given order, with the requests that are left. -/
def retryLoop : List (ℕ × RetriableTcpConnectRequest) → Http3Upstream →
    Http3Upstream × List (ℕ × RetriableTcpConnectRequest)
  | [], u => (u, [])
  | (id, request) :: requests, u =>
    let next := u.emit (.connectRequest request.dstAddr request.appName)
    match env.request u.trace.length with
    | .stream skipped => retryLoop requests (next.openStream id skipped)
    | .retriable => (next, (id, request) :: requests)
    | .failed =>
      retryLoop requests (next.finishError env id ⟨-1, "Failed to send connect request"⟩)

def mapOf (requests : List (ℕ × RetriableTcpConnectRequest)) :
    AList (fun _ : ℕ ↦ RetriableTcpConnectRequest) :=
  requests.foldr (fun r map ↦ map.insert r.1 r.2) ∅

def retryConnectRequests (requests : List (ℕ × RetriableTcpConnectRequest)) : Http3Upstream :=
  let r := retryLoop env requests { u with retriableTcpRequests := ∅ }
  { r.1 with retriableTcpRequests := mapOf r.2 }

/-- The task of `close_connection`, which visits the connections in the given order. -/
def closeConnections (connections : List (ℕ × Bool)) : Http3Upstream :=
  connections.foldl (fun u c ↦ u.closeTcpConnection env c.1 c.2)
    { u with closeConnectionsTask := false, closingConnections := ∅ }

def closeMuxStream (streamId : Option ℕ) : Http3Upstream :=
  match streamId with
  | none => u
  | some streamId => u.closeStream streamId false

/-- `close_session`, which visits the remaining connections in the given order. -/
def closeSession (order : List ℕ) : Http3Upstream :=
  let u := order.foldl (fun u id ↦ u.closeConnection env id false false) u
  let u := u.closeMuxStream u.udpMuxStream
  let u := u.closeMuxStream u.icmpMuxStream
  { session := false, nextStreamId := u.nextStreamId, trace := u.trace }

end Http3Upstream

inductive Input
  | openConnection (id : ℕ) (dst : TunnelAddress) (appName : String)
  | closeConnection (id : ℕ) (graceful async : Bool)
  | updateFlowControl (id : ℕ) (on : Bool)
  | send (id length : ℕ) (submitted : Bool)
  | availableToSend (id : ℕ)
  | consume (id length : ℕ)
  | response (streamId statusCode : ℕ) (error : ServerError)
  | body (streamId : ℕ) (chunk : List UInt8)
  | streamClosed (streamId : ℕ)
  | sent
  | received
  /-- The multiplexers and the health check use streams as well. -/
  | udpMuxStream (skipped : ℕ)
  | icmpMuxStream (skipped : ℕ)
  | healthCheckStream (skipped : ℕ)
  | completeRead (order : List ℕ)
  | notifySent (order : List ℕ)
  | closeConnections (connections : List (ℕ × Bool))
  | postReceive (requests : List (ℕ × RetriableTcpConnectRequest)) (order : List ℕ)
  | closeSession (order : List ℕ)
deriving DecidableEq

def pairs {β : Type} (map : AList (fun _ : ℕ ↦ β)) : List (ℕ × β) :=
  map.entries.map fun e ↦ (e.1, e.2)

def remaining (u : Http3Upstream) : List ℕ :=
  (u.tcpConnections.keys ++ u.retriableTcpRequests.keys ++ u.closingConnections.keys).dedup

/-- Ids are new, connections are closed once, data comes on streams, and pending tasks run. -/
def enabled (u : Http3Upstream) : Input → Bool
  | .openConnection id _ _ => !u.trace.contains (.accepted id)
  | .closeConnection id _ _ => u.mayClose id
  | .body streamId _ => streamId < u.nextStreamId
  | .completeRead order => u.completeReadTask && decide (order.Perm u.tcpConnections.keys)
  | .notifySent order => u.notifySentTask && decide (order.Perm u.tcpConnections.keys)
  | .closeConnections connections =>
    u.closeConnectionsTask && decide (connections.Perm (pairs u.closingConnections))
  | .postReceive requests _ =>
    u.postReceiveTask && decide (requests.Perm (pairs u.retriableTcpRequests))
  | .closeSession order => decide (order.Perm (remaining u))
  | _ => true

def handle (env : Env) (u : Http3Upstream) : Input → Http3Upstream
  | .openConnection id dst appName => u.openConnection env id dst appName
  | .closeConnection id graceful async =>
    (u.emit (.closeRequested id)).closeConnection env id graceful async
  | .updateFlowControl id on => u.updateFlowControl id on
  | .send id length submitted => u.send id length submitted
  | .availableToSend id => u.availableToSend env id
  | .consume id length => u.consume id length
  | .response streamId statusCode error => u.handleResponse env streamId statusCode error
  | .body streamId chunk => u.onBody env streamId chunk
  | .streamClosed streamId => u.onStreamClosed env streamId
  | .sent => { u with notifySentTask := true }
  | .received => { u with postReceiveTask := true }
  | .udpMuxStream skipped =>
    { u with
      udpMuxStream := some (u.nextStreamId + skipped)
      nextStreamId := u.nextStreamId + skipped + 1 }
  | .icmpMuxStream skipped =>
    { u with
      icmpMuxStream := some (u.nextStreamId + skipped)
      nextStreamId := u.nextStreamId + skipped + 1 }
  | .healthCheckStream skipped =>
    { u with
      healthCheckStream := some (u.nextStreamId + skipped)
      healthCheckFailed := false
      nextStreamId := u.nextStreamId + skipped + 1 }
  | .completeRead order => u.completeRead env order
  | .notifySent order => { u with notifySentTask := false }.pollTcpConnections env order
  | .closeConnections connections => u.closeConnections env connections
  | .postReceive requests order =>
    ({ u with postReceiveTask := false }.retryConnectRequests env requests).pollTcpConnections env
      order
  | .closeSession order => u.closeSession env order

def step (u : Http3Upstream) (label : Env × Input) : Option Http3Upstream :=
  if u.session && enabled u label.2 then some (handle label.1 u label.2) else none

end TrustTunnel.Upstream.Http3.Connections

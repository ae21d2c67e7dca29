import TrustTunnel.Upstream.Http2.Connections

namespace TrustTunnel.Upstream.Http2.Session

open Connections Http2Upstream Upstream.Types

inductive Record
  | accepted (id : ℕ)
  | closeRequested (id : ℕ)
  | sessionClosing
  | connectionOpened (id : ℕ)
  /-- With the content of `unread_data` at that time. -/
  | connectionClosed (id : ℕ) (unread : List UInt8)
  | error (id : ℕ) (error : ServerError)
  | read (id : ℕ)
  | refused (id : ℕ)
  | bufferFailed (id : ℕ)
  | dataSent (id length : ℕ)
  | resetStream (streamId : ℕ) (graceful : Bool)
deriving DecidableEq, Repr

def Record.terminal : Record → Option ℕ
  | .connectionClosed id _ => some id
  | .error id _ => some id
  | _ => none

structure Report where
  streamId : ℕ
  errorText : Option String := none
deriving DecidableEq, Repr

structure State where
  upstream : Http2Upstream := {}
  nextStreamId : ℕ := 0
  /-- The streams that the HTTP/2 session has not reported as processed. -/
  openStreams : List ℕ := []
  trace : List Record := []

def httpAuthRequiredStatus : ℕ := 407

/-- `nghttp2_http2_strerror` of `HTTP_SESSION_INVALID_STATE_ERROR`. -/
def invalidStateText : String := "unknown"

def unreadOf (u : Http2Upstream) (id : ℕ) : List UInt8 :=
  (u.tcpConnections.lookup id).elim [] TcpConnection.unread

/-- What is recorded of an event that a function raises in the given state. -/
def recordOf (u : Http2Upstream) : Event → Record
  | .connectionOpened id => .connectionOpened id
  | .connectionClosed id => .connectionClosed id (unreadOf u id)
  | .error id e => .error id e
  | .resetStream streamId graceful => .resetStream streamId graceful

namespace State

variable (env : Env) (s : State)

def note (r : Record) : State := { s with trace := s.trace ++ [r] }

def raisedBy (f : Http2Upstream → Http2Upstream) : List Record :=
  ((f s.upstream).events.drop s.upstream.events.length).map (recordOf s.upstream)

def perform (f : Http2Upstream → Http2Upstream) : State :=
  { s with upstream := f s.upstream, trace := s.trace ++ s.raisedBy f }

/-- The HTTP/2 session reports a stream, which it does only once. -/
def report (r : Report) : State :=
  if r.streamId ∈ s.openStreams then
    { s with openStreams := s.openStreams.erase r.streamId }.perform
      (·.streamProcessed r.streamId r.errorText)
  else s

def reportAll (reports : List Report) : State := reports.foldl report s

def isReset : Record → Bool
  | .resetStream _ _ => true
  | _ => false

/-- Calls a function that may reset a stream at its end, during which streams may be reported. -/
def resetting (f : Http2Upstream → Http2Upstream) (reports : List Report) : State :=
  if (s.raisedBy f).any isReset then (s.perform f).reportAll reports else s.perform f

def outcomeRecords (id : ℕ) : Outcome → List Record
  | .done => []
  | .refused => [.refused id]
  | .broken => [.bufferFailed id]

def noteReads (id count : ℕ) (outcome : Outcome) : State :=
  { s with trace := s.trace ++ (List.replicate count (.read id) ++ outcomeRecords id outcome) }

/-- A connection changes while data is read out, and is closed if the data was refused. -/
def finishRead (id : ℕ) (conn conn' : TcpConnection) (outcome : Outcome) (reports : List Report) :
    State :=
  ((s.noteReads id (conn'.raised - conn.raised) outcome).perform
    (·.setConnection id conn')).resetting (·.closeRefused id outcome) reports

/-- Status 407 only makes the session close. -/
def handleResponse (streamId statusCode : ℕ) (error : ServerError) : State :=
  if statusCode = httpAuthRequiredStatus then s
  else s.perform (·.handleResponse streamId statusCode error)

def handleData (streamId : ℕ) (data : List UInt8) (reports : List Report) : State :=
  match s.upstream.getConnByStreamId streamId with
  | none => s
  | some (id, conn) =>
    let r := conn.receiveData env data
    s.finishRead id conn r.1 r.2 reports

def dataSent (streamId length : ℕ) : State :=
  match s.upstream.getConnByStreamId streamId with
  | none => s
  | some (id, _) => s.note (.dataSent id length)

/-- `TCP_SOCKET_EVENT_WRITE_FLUSH`, which visits the connections in the given order. -/
def writeFlushed (order : List ℕ) : State :=
  { s with trace := s.trace ++ order.map fun id ↦ .dataSent id 0 }

def resetStreams (reports : List Report) : State :=
  { s with
    upstream := { s.upstream with streamsToReset := [] }
    trace := s.trace ++ s.upstream.streamsToReset.map fun x ↦ Record.resetStream x false }.reportAll
    (if s.upstream.streamsToReset.isEmpty then [] else reports)

def finishCompleteRead (id : ℕ) (conn : TcpConnection) (reports : List Report) : Outcome → State
  | .done =>
    if conn.unread.isEmpty && conn.streamClosed then
      s.perform fun u ↦ (u.emit (.connectionClosed id)).cleanTcpConnectionData id
    else s
  | .refused | .broken => s.resetting (·.closeTcpConnection id false) reports

def completeRead (id : ℕ) (reports reports' : List Report) : State :=
  match s.upstream.tcpConnections.lookup id with
  | none => s
  | some conn =>
    let r := { conn with completeReadTask := false }.readOutPendingData env
    (s.finishRead id conn r.1 r.2 reports).finishCompleteRead id r.1 reports' r.2

def closeConnection (id : ℕ) (graceful async : Bool) (reports : List Report) : State :=
  s.resetting (·.closeConnection id graceful async) reports

def runCloseTask (id : ℕ) (reports : List Report) : State := s.resetting (·.runCloseTask id) reports

/-- `close_session` closes the connections in the given order, each with the reports that come in
the meantime; at the end the streams that are left are reported. -/
def closeSession (visits : List (ℕ × List Report)) (reports : List Report) (leftovers : List ℕ) :
    State :=
  let s := s.note .sessionClosing
  let s := visits.foldl (fun s v ↦ s.closeConnection v.1 false false v.2) s
  let s := s.reportAll reports
  let s := { s with upstream := { s.upstream with session := false } }
  let s := s.reportAll ((leftovers ++ s.openStreams).map fun x ↦ ⟨x, some invalidStateText⟩)
  { s with upstream := { s.upstream with tcpConnections := ∅, connIdByStreamId := ∅ } }

/-- The connection is known, was not closed by the caller, and its end has not been told. -/
def mayClose (id : ℕ) : Bool :=
  s.trace.contains (.accepted id) && !s.trace.contains (.closeRequested id) &&
    !s.trace.any fun r ↦ r.terminal = some id

end State

inductive Input
  | openConnection (id streamId : ℕ)
  | headers (streamId statusCode : ℕ) (error : ServerError)
  | data (streamId : ℕ) (data : List UInt8) (reports : List Report)
  | streamProcessed (r : Report)
  | dataSent (streamId length : ℕ)
  | writeFlushed (order : List ℕ)
  | resetStreams (reports : List Report)
  | completeRead (id : ℕ) (reports reports' : List Report)
  | updateFlowControl (id : ℕ) (on : Bool)
  | closeConnection (id : ℕ) (graceful async : Bool) (reports : List Report)
  | closeTask (id : ℕ) (reports : List Report)
  | closeSession (visits : List (ℕ × List Report)) (reports : List Report) (leftovers : List ℕ)
deriving DecidableEq

/-- Ids are new, events come on open streams, connections are closed once, and pending tasks run. -/
def enabled (s : State) : Input → Bool
  | .openConnection id streamId =>
    !s.trace.contains (.accepted id) && decide (s.nextStreamId ≤ streamId)
  | .headers streamId _ _ => s.openStreams.contains streamId
  | .data streamId _ _ => s.openStreams.contains streamId
  | .streamProcessed r => s.openStreams.contains r.streamId
  | .writeFlushed order => decide (order.Perm s.upstream.tcpConnections.keys)
  | .completeRead id _ _ => (s.upstream.tcpConnections.lookup id).any (·.completeReadTask)
  | .closeConnection id _ _ _ => s.mayClose id
  | .closeTask id _ => (s.upstream.tcpConnections.lookup id).any (·.closeTask.isSome)
  | .closeSession visits _ _ =>
    decide ((visits.map Prod.fst).Perm s.upstream.tcpConnections.keys)
  | _ => true

def handle (env : Env) (s : State) : Input → State
  | .openConnection id streamId =>
    { s.perform (·.openConnection id streamId) with
      nextStreamId := streamId + 1
      openStreams := streamId :: s.openStreams }.note (.accepted id)
  | .headers streamId statusCode error => s.handleResponse streamId statusCode error
  | .data streamId data reports => s.handleData env streamId data reports
  | .streamProcessed r => s.report r
  | .dataSent streamId length => s.dataSent streamId length
  | .writeFlushed order => s.writeFlushed order
  | .resetStreams reports => s.resetStreams reports
  | .completeRead id reports reports' => s.completeRead env id reports reports'
  | .updateFlowControl id on => s.perform (·.updateFlowControl id on)
  | .closeConnection id graceful async reports =>
    (s.note (.closeRequested id)).closeConnection id graceful async reports
  | .closeTask id reports => s.runCloseTask id reports
  | .closeSession visits reports leftovers => s.closeSession visits reports leftovers

def step (s : State) (label : Env × Input) : Option State :=
  if s.upstream.session && enabled s label.2 then some (handle label.1 s label.2) else none

end TrustTunnel.Upstream.Http2.Session

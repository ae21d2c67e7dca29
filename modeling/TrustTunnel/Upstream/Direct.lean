import TrustTunnel.Traffic.Types

namespace TrustTunnel.Upstream.Direct

open Traffic.Types

/-- `DirectUpstream`. Its ids come from one generator, so that `m_tcp_connections` and
`m_udp_connections` are one table here. -/
structure DirectUpstream where
  connections : AList (fun _ : ℕ ↦ TransportProtocol) := ∅
  openingConnections : List ℕ := []
  closingConnections : AList (fun _ : ℕ ↦ Bool) := ∅
  asyncTask : Bool := false

namespace DirectUpstream

def knows (u : DirectUpstream) (id : ℕ) : Bool := (u.connections.lookup id).isSome

def erase (u : DirectUpstream) (id : ℕ) : DirectUpstream :=
  { u with connections := u.connections.erase id }

def openTcpConnection (u : DirectUpstream) (id : ℕ) : DirectUpstream :=
  { u with connections := u.connections.insert id .tcp }

end DirectUpstream

inductive SocketEvent
  | connected (id : ℕ)
  | eof (id : ℕ)
  | tcpError (id : ℕ) (code : ErrorCode)
  | udpTimeout (id : ℕ)
deriving DecidableEq, Repr

section Handlers

-- the handler of the events may call the upstream, so it gets it with the state of the rest
variable {τ : Type} (raise : ServerEvent → DirectUpstream × τ → DirectUpstream × τ)

/-- `close_connection` with `async`: nothing is raised before the task runs. -/
def closeLater (id : ℕ) (graceful : Bool) (u : DirectUpstream) : DirectUpstream :=
  { u with
    openingConnections := u.openingConnections.filter (· ≠ id)
    closingConnections := u.closingConnections.insert id graceful
    asyncTask := true }

def dropTasks (id : ℕ) (u : DirectUpstream) : DirectUpstream :=
  { u with
    openingConnections := u.openingConnections.filter (· ≠ id)
    closingConnections := u.closingConnections.erase id }

/-- `close_connection` without `async`. -/
def closeNow (id : ℕ) (s : DirectUpstream × τ) : DirectUpstream × τ :=
  if s.1.knows id then raise (.connectionClosed id) ((dropTasks id s.1).erase id, s.2)
  else (dropTasks id s.1, s.2)

/-- `tcp_socket_handler` and `udp_socket_handler`. A failed connection is forgotten after its
event. -/
def socketHandler (s : DirectUpstream × τ) : SocketEvent → DirectUpstream × τ
  | .connected id => raise (.connectionOpened id) s
  | .eof id =>
    if s.1.connections.lookup id = some .tcp then
      let s := raise (.connectionClosed id) s
      (s.1.erase id, s.2)
    else s
  | .tcpError id code =>
    let s := raise (.error id code) s
    (s.1.erase id, s.2)
  | .udpTimeout id =>
    let s := raise (.error id .timedOut) s
    (s.1.erase id, s.2)

end Handlers

@[simp] theorem knows_erase (u : DirectUpstream) (id j : ℕ) :
    (u.erase id).knows j = (j ≠ id && u.knows j) := by
  by_cases h : j = id
  · subst h
    simp [DirectUpstream.knows, DirectUpstream.erase]
  · simp [DirectUpstream.knows, DirectUpstream.erase, h]

end TrustTunnel.Upstream.Direct

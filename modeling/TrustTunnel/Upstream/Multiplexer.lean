import TrustTunnel.Traffic.Types

namespace TrustTunnel.Upstream.Multiplexer

open Session.Types Traffic.Types

inductive UpstreamState
  | openingSession
  | sessionOpened
deriving DecidableEq, Repr

inductive ChildCall
  | openSession (upstreamId : ℕ)
  | closeSession (upstreamId : ℕ)
  | openConnection (upstreamId connId : ℕ)
  | closeConnection (upstreamId connId : ℕ) (graceful async : Bool)
deriving DecidableEq, Repr

structure Children where
  opensSession : ℕ → Bool := fun _ ↦ true
  opensConnection : ℕ → ℕ → Bool := fun _ _ ↦ true
  connectionsNum : ℕ → ℕ := fun _ ↦ 0
  ended : ℕ → List (ℕ × Option ErrorCode) := fun _ ↦ []

inductive ChildEvent
  | sessionOpened
  | sessionClosed
  | connectionOpened (id : ℕ)
  | connectionClosed (id : ℕ)
  | error (id : ℕ) (code : ErrorCode)
  | sessionError (error : VpnError)
deriving DecidableEq, Repr

def newUpstreamConnectionsNumThreshold : ℕ := 5

def emplace (map : AList (fun _ : ℕ ↦ ℕ)) (key value : ℕ) : AList (fun _ : ℕ ↦ ℕ) :=
  if key ∈ map then map else map.insert key value

/-- `UpstreamMultiplexer`. A pending connection is here only with the child it waits for. -/
structure UpstreamMultiplexer where
  connections : AList (fun _ : ℕ ↦ ℕ) := ∅
  upstreamsPool : AList (fun _ : ℕ ↦ UpstreamState) := ∅
  maxUpstreamsNum : ℕ := 8
  pendingConnections : AList (fun _ : ℕ ↦ ℕ) := ∅
  pendingError : Option VpnError := none
  sessionOpen : Bool := false
  nextUpstreamId : ℕ := 0
  closeTasks : List (List ℕ) := []
  calls : List ChildCall := []

namespace UpstreamMultiplexer

variable (mux : UpstreamMultiplexer) (children : Children)

def call (c : ChildCall) : UpstreamMultiplexer := { mux with calls := mux.calls ++ [c] }

def hasUpstream (id : ℕ) : Bool := (mux.upstreamsPool.lookup id).isSome

def getUpstreamByConn (id : ℕ) : Option ℕ := (mux.connections.lookup id).filter mux.hasUpstream

def closeConnection (id : ℕ) (graceful async : Bool) : UpstreamMultiplexer :=
  match mux.getUpstreamByConn id with
  | some upstreamId => mux.call (.closeConnection upstreamId id graceful async)
  | none => mux

def pendingOf (upstreamId : ℕ) : List ℕ :=
  (mux.pendingConnections.entries.filter fun entry ↦ entry.2 = upstreamId).map (·.1)

def connectionsNumByUpstream (upstreamId : ℕ) : ℕ :=
  children.connectionsNum upstreamId + (mux.pendingOf upstreamId).length

def leastLoaded (ids : List ℕ) : Option ℕ :=
  ids.foldl (fun best id ↦
    match best with
    | none => some id
    | some b => if children.connectionsNum id < children.connectionsNum b then some id else some b)
    none

def selectExistingUpstream (ignoredUpstream : Option ℕ) (allowUnderflow : Bool) : Option ℕ :=
  let candidates := mux.upstreamsPool.keys.filter fun id ↦ ignoredUpstream ≠ some id
  (candidates.find? fun id ↦
      mux.connectionsNumByUpstream children id < newUpstreamConnectionsNumThreshold).or
    (if allowUnderflow ∨ mux.maxUpstreamsNum ≤ mux.upstreamsPool.entries.length then
      leastLoaded children candidates
    else none)

def selectUpstreamForConnection : UpstreamMultiplexer × ℕ :=
  match mux.selectExistingUpstream children none false with
  | some id => (mux, id)
  | none => ({ mux with nextUpstreamId := mux.nextUpstreamId + 1 }, mux.nextUpstreamId)

def openNewUpstream (upstreamId : ℕ) : UpstreamMultiplexer × Bool :=
  let mux := mux.call (.openSession upstreamId)
  if children.opensSession upstreamId then
    ({ mux with upstreamsPool := mux.upstreamsPool.insert upstreamId .openingSession }, true)
  else (mux, false)

def openSession : UpstreamMultiplexer × Bool :=
  if !mux.upstreamsPool.entries.isEmpty then (mux, false)
  else
    let (mux, upstreamId) := mux.selectUpstreamForConnection children
    mux.openNewUpstream children upstreamId

def postpone (upstreamId connId : ℕ) : UpstreamMultiplexer :=
  { mux with pendingConnections := emplace mux.pendingConnections connId upstreamId }

/-- `open_connection` on the child `upstreamId`. -/
def openConnectionOn (upstreamId connId : ℕ) : UpstreamMultiplexer × Bool :=
  match mux.upstreamsPool.lookup upstreamId with
  | none => (mux, false)
  | some .openingSession => (mux.postpone upstreamId connId, true)
  | some .sessionOpened =>
    let mux := mux.call (.openConnection upstreamId connId)
    if children.opensConnection upstreamId connId then
      ({ mux with connections := emplace mux.connections connId upstreamId }, true)
    else (mux, false)

/-- `open_connection` for the id `connId` of the generator; `false` stands for `NON_ID`. -/
def openConnection (connId : ℕ) : UpstreamMultiplexer × Bool :=
  if mux.upstreamsPool.entries.isEmpty then (mux, false)
  else
    let (mux, upstreamId) := mux.selectUpstreamForConnection children
    if mux.hasUpstream upstreamId then mux.openConnectionOn children upstreamId connId
    else
      match mux.openNewUpstream children upstreamId with
      | (mux, true) => (mux.postpone upstreamId connId, true)
      | (mux, false) =>
        match mux.selectExistingUpstream children (some upstreamId) true with
        | some reserveId => mux.openConnectionOn children reserveId connId
        | none => (mux, false)

def eraseConnection (id : ℕ) : UpstreamMultiplexer :=
  { mux with connections := mux.connections.erase id }

def erasePending (id : ℕ) : UpstreamMultiplexer :=
  { mux with pendingConnections := mux.pendingConnections.erase id }

end UpstreamMultiplexer

section Handlers

-- the handler of the events may call the multiplexer, so it gets it with the state of the rest
variable {τ : Type} (children : Children)
  (raise : ServerEvent → UpstreamMultiplexer × τ → UpstreamMultiplexer × τ)

def refuse (id : ℕ) (s : UpstreamMultiplexer × τ) : UpstreamMultiplexer × τ :=
  raise (.error id .connRefused) s

def refusePending (id : ℕ) (s : UpstreamMultiplexer × τ) : UpstreamMultiplexer × τ :=
  let s := refuse raise id s
  (s.1.erasePending id, s.2)

def refuseAll (upstreamId : ℕ) (s : UpstreamMultiplexer × τ) : UpstreamMultiplexer × τ :=
  (s.1.pendingOf upstreamId).foldl (fun s id ↦ refusePending raise id s) s

def proceedPendingConnection (upstreamId connId : ℕ) (s : UpstreamMultiplexer × τ) :
    UpstreamMultiplexer × τ :=
  match s.1.openConnectionOn children upstreamId connId with
  | (mux, true) => (mux, s.2)
  | (mux, false) =>
    match mux.upstreamsPool.keys.head? with
    | none => (mux, s.2)
    | some fallbackId =>
      match mux.openConnectionOn children fallbackId connId with
      | (mux, true) => (mux, s.2)
      | (mux, false) => refuse raise connId (mux, s.2)

/-- `SERVER_EVENT_SESSION_OPENED` of a child. -/
def childOpened (upstreamId : ℕ) (s : UpstreamMultiplexer × τ) : UpstreamMultiplexer × τ :=
  let s :=
    if s.1.sessionOpen then s else raise .sessionOpened ({ s.1 with sessionOpen := true }, s.2)
  let s := ({ s.1 with upstreamsPool := s.1.upstreamsPool.replace upstreamId .sessionOpened }, s.2)
  (s.1.pendingOf upstreamId).foldl
    (fun s id ↦
      let s := proceedPendingConnection children raise upstreamId id s
      (s.1.erasePending id, s.2)) s

def childConnectionEnded (id : ℕ) (code : Option ErrorCode) (s : UpstreamMultiplexer × τ) :
    UpstreamMultiplexer × τ :=
  raise (code.elim (.connectionClosed id) (.error id)) (s.1.eraseConnection id, s.2)

def closeChildSession (upstreamId : ℕ) (s : UpstreamMultiplexer × τ) : UpstreamMultiplexer × τ :=
  (children.ended upstreamId).foldl (fun s e ↦ childConnectionEnded raise e.1 e.2 s)
    (s.1.call (.closeSession upstreamId), s.2)

def isFatalError (error : VpnError) : Bool :=
  error.code == .authRequired || error.code == .certificateVerificationFailed

/-- `SERVER_EVENT_ERROR` of the session of a child. -/
def childFailed (upstreamId : ℕ) (error : VpnError) (s : UpstreamMultiplexer × τ) :
    UpstreamMultiplexer × τ :=
  let ids := if isFatalError error then s.1.upstreamsPool.keys else [upstreamId]
  let mux := if isFatalError error then { s.1 with pendingError := some error } else s.1
  let s := ids.foldl (fun s id ↦ closeChildSession children raise id s) (mux, s.2)
  ({ s.1 with closeTasks := s.1.closeTasks ++ [ids] }, s.2)

def childUpstreamHandler (upstreamId : ℕ) (event : ChildEvent) (s : UpstreamMultiplexer × τ) :
    UpstreamMultiplexer × τ :=
  if !s.1.hasUpstream upstreamId then s
  else
    match event with
    | .sessionOpened => childOpened children raise upstreamId s
    | .sessionClosed =>
      let s := refuseAll raise upstreamId s
      ({ s.1 with closeTasks := s.1.closeTasks ++ [[upstreamId]] }, s.2)
    | .connectionOpened id => raise (.connectionOpened id) s
    | .connectionClosed id => childConnectionEnded raise id none s
    | .error id code => childConnectionEnded raise id (some code) s
    | .sessionError error => childFailed children raise upstreamId error s

def escalate (s : UpstreamMultiplexer × τ) : UpstreamMultiplexer × τ :=
  if !s.1.upstreamsPool.entries.isEmpty then s
  else
    match s.1.pendingError with
    | some error =>
      raise (.sessionError error) ({ s.1 with sessionOpen := false, pendingError := none }, s.2)
    | none => raise .sessionClosed ({ s.1 with sessionOpen := false }, s.2)

def closeUpstream (upstreamId : ℕ) (s : UpstreamMultiplexer × τ) : UpstreamMultiplexer × τ :=
  if !s.1.hasUpstream upstreamId then s
  else
    let dropped := (s.1.connections.entries.filter fun entry ↦ entry.2 = upstreamId).map (·.1)
    let s := refuseAll raise upstreamId
      (dropped.foldl (fun mux id ↦ mux.eraseConnection id) s.1, s.2)
    escalate raise ({ s.1 with upstreamsPool := s.1.upstreamsPool.erase upstreamId }, s.2)

def runCloseTask (s : UpstreamMultiplexer × τ) : UpstreamMultiplexer × τ :=
  match s.1.closeTasks with
  | [] => s
  | ids :: tasks =>
    ids.foldl (fun s id ↦ closeUpstream raise id s) ({ s.1 with closeTasks := tasks }, s.2)

/-- The last part of `close_session`. -/
def resetPending (ids : List ℕ) (s : UpstreamMultiplexer × τ) : UpstreamMultiplexer × τ :=
  ids.foldl (fun s id ↦ raise (.error id .connReset) s) s

def closeSession (s : UpstreamMultiplexer × τ) : UpstreamMultiplexer × τ :=
  let s := s.1.upstreamsPool.keys.foldl (fun s id ↦ closeChildSession children raise id s) s
  let s := resetPending raise s.1.pendingConnections.keys
    ({ s.1 with upstreamsPool := ∅, connections := ∅, pendingConnections := ∅ }, s.2)
  ({ s.1 with pendingError := none }, s.2)

end Handlers

end TrustTunnel.Upstream.Multiplexer

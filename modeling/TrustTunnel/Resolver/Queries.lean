import Mathlib.Algebra.Group.Int.Defs
import Mathlib.Data.Finset.Basic
import TrustTunnel.Lib.Assoc
import TrustTunnel.Lib.Multimap
import TrustTunnel.Net.Address

namespace TrustTunnel.Resolver.Queries

open Lib Lib.Assoc Net.Address

inductive VpnDnsResolverQueue
  | background
  | foreground
deriving DecidableEq, Repr

inductive RecordType
  | a
  | aaaa
deriving DecidableEq, Repr

def RecordType.values : List RecordType := [.a, .aaaa]

theorem RecordType.mem_values (rt : RecordType) : rt ∈ RecordType.values := by
  cases rt <;> decide

def maxParallelBackgroundResolves : ℕ := 32

def resolveCapacity : VpnDnsResolverQueue → ℕ
  | .background => maxParallelBackgroundResolves
  | .foreground => 2 ^ 64 - 1

def defaultQueryTimeout : ℕ := 5000

def fallbackResolverAddress : SocketAddress where
  family := .inet
  host := 0x01010101
  port := 53

def customSrcIp : SocketAddress where
  family := .inet
  host := 0x7f00000b

inductive VpnDnsResolverResult
  | success (addresses : List SocketAddress)
  | failure
deriving DecidableEq, Repr

structure Resolve where
  name : String
  recordTypes : Finset RecordType
  handler : Bool
  resolvedAddresses : List SocketAddress := []
  queries : RecordType → Option UInt16 := fun _ ↦ none

structure Query where
  id : UInt32
  recordType : RecordType
  name : String
  queueKind : VpnDnsResolverQueue
deriving DecidableEq, Repr

structure ResolveState where
  connectionId : Option ℕ := none
  connectionAccepted : Bool := false
  queries : AList (fun _ : UInt16 ↦ Query) := ∅
  connectionTimeoutTask : Bool := false
  /-- The time at which the task is to run, if it is scheduled. -/
  periodicQueriesCheckTask : Option ℕ := none
  deadlines : List (ℕ × UInt16) := []

inductive Record
  | resolving (id : UInt32)
  | cancelled (id : UInt32)
  | result (id : UInt32) (handler : Bool) (result : VpnDnsResolverResult)
  | unsent (id : UInt32) (recordType : RecordType)
  | connectRequest (connection : ℕ) (src dst : SocketAddress)
  | connectionAccepted (connection : Option ℕ)
  | read (connection : Option ℕ) (queryId : UInt16)
  | connectionClosed (connection : Option ℕ)
  | stopped
deriving DecidableEq, Repr

structure VpnDnsResolver where
  nextId : UInt32 := 0
  resolutions : AList (fun _ : UInt32 ↦ Resolve) := ∅
  queues : VpnDnsResolverQueue → List UInt32 := fun _ ↦ []
  state : ResolveState := {}
  deferredAcceptTask : Bool := false
  deferredCloseTask : Bool := false
  deferredResolveTask : Bool := false
  dnsChangeSubscription : Bool := true
  resolverAddress : SocketAddress := fallbackResolverAddress
  nextConnectionPort : UInt16 := 1
  queryTimeout : ℕ := defaultQueryTimeout
  trace : List Record := []

inductive Request
  | unencodable
  | encoded (queryId : UInt16) (sent : Bool)
deriving DecidableEq, Repr

/-- What a step asks for: the clock, the next connection id, the orders of the queues and the
outcomes of the requests. -/
structure Environment where
  now : ℕ
  connectionId : ℕ
  order : VpnDnsResolverQueue → List UInt32
  requests : List Request

inductive Packet
  | error
  | inapplicable (id : UInt16)
  | request (id : UInt16)
  | reply (id : UInt16) (addresses : List SocketAddress)
deriving DecidableEq, Repr

def Packet.id : Packet → Option UInt16
  | .error => none
  | .inapplicable id => some id
  | .request id => some id
  | .reply id _ => some id

def Packet.addresses : Packet → List SocketAddress
  | .reply _ addresses => addresses
  | _ => []

/-- The system DNS servers, as socket addresses that need not be valid. -/
structure SystemDnsServers where
  main : List SocketAddress
  fallback : List SocketAddress

def Resolve.queryIds (r : Resolve) : List UInt16 := RecordType.values.filterMap r.queries

def resultOf (addresses : List SocketAddress) : VpnDnsResolverResult :=
  if addresses.isEmpty then .failure else .success addresses

namespace VpnDnsResolver

variable (s : VpnDnsResolver)

def record (r : Record) : VpnDnsResolver := { s with trace := s.trace ++ [r] }

def setQueue (queue : VpnDnsResolverQueue) (ids : List UInt32) : VpnDnsResolver :=
  { s with queues := Function.update s.queues queue ids }

def eraseQuery (queryId : UInt16) : VpnDnsResolver :=
  { s with state := { s.state with queries := s.state.queries.erase queryId } }

def eraseQueries (queryIds : List UInt16) : VpnDnsResolver := queryIds.foldl eraseQuery s

def finish (id : UInt32) (result : VpnDnsResolverResult) : VpnDnsResolver :=
  match s.resolutions.lookup id with
  | none => s
  | some r =>
    { s with resolutions := s.resolutions.erase id }.record (.result id r.handler result)

theorem finish_of_none {id : UInt32} (r : VpnDnsResolverResult)
    (h : s.resolutions.lookup id = none) : s.finish id r = s := by
  rw [finish, h]

theorem finish_of_some {id : UInt32} {r : Resolve} (rt : VpnDnsResolverResult)
    (h : s.resolutions.lookup id = some r) :
    s.finish id rt = { s with resolutions := s.resolutions.erase id }.record
      (.result id r.handler rt) := by
  rw [finish, h]

@[simp] theorem finish_state (rt : VpnDnsResolverResult) (id : UInt32) :
    (s.finish id rt).state = s.state := by
  cases h : s.resolutions.lookup id with
  | none => rw [finish_of_none s rt h]
  | some r =>
    rw [finish_of_some s rt h]
    rfl

@[simp] theorem finish_queues (rt : VpnDnsResolverResult) (id : UInt32) :
    (s.finish id rt).queues = s.queues := by
  cases h : s.resolutions.lookup id with
  | none => rw [finish_of_none s rt h]
  | some r =>
    rw [finish_of_some s rt h]
    rfl

def resolve (queue : VpnDnsResolverQueue) (name : String) (recordTypes : Finset RecordType)
    (handler : Bool) : VpnDnsResolver :=
  let id := s.nextId
  { s with
    nextId := id + 1
    resolutions :=
      if (s.resolutions.lookup id).isSome then s.resolutions
      else s.resolutions.insert id { name, recordTypes, handler }
    queues := Function.update s.queues queue
      (if id ∈ s.queues queue then s.queues queue else id :: s.queues queue)
    deferredResolveTask := true }.record (.resolving id)

def extract (id : UInt32) : VpnDnsResolver :=
  match s.resolutions.lookup id with
  | none => s
  | some r =>
    ({ s with resolutions := s.resolutions.erase id }.record
        (.cancelled id)).eraseQueries r.queryIds

def cancel (id : UInt32) : VpnDnsResolver :=
  let s := s.extract id
  match s.state.queries.entries.find? (·.2.id == id) with
  | none => s
  | some e => s.eraseQuery e.1

def stopEntry (entryId : UInt32) : VpnDnsResolver :=
  match s.resolutions.lookup entryId with
  | none => s
  | some r => (s.finish entryId .failure).eraseQueries r.queryIds

def stopQueue (queue : VpnDnsResolverQueue) : VpnDnsResolver :=
  (s.queues queue).foldl stopEntry (s.setQueue queue [])

/-- The second part of `stop_resolving_queues`. -/
def stopQueries (stopping : Finset VpnDnsResolverQueue) : VpnDnsResolver :=
  let cancelled := s.state.queries.entries.filter fun e ↦ e.2.queueKind ∈ stopping
  (cancelled.map (·.2.id)).foldl (fun s id ↦ s.finish id .failure)
    (s.eraseQueries (cancelled.map (·.1)))

def stopResolvingQueues (stopping : Finset VpnDnsResolverQueue) : VpnDnsResolver :=
  let s := if .background ∈ stopping then s.stopQueue .background else s
  let s := if .foreground ∈ stopping then s.stopQueue .foreground else s
  s.stopQueries stopping

def deinit : VpnDnsResolver :=
  { s with
    dnsChangeSubscription := false
    queues := fun _ ↦ []
    state := {}
    deferredAcceptTask := false
    deferredCloseTask := false
    deferredResolveTask := false }

def onDnsUpdated (servers : SystemDnsServers) : VpnDnsResolver :=
  let selected := (servers.main.find? SocketAddress.valid).or
    (servers.fallback.find? SocketAddress.valid)
  { s with resolverAddress := selected.getD fallbackResolverAddress }

/-- `close_connection` once it is not deferred. -/
def closeNow : VpnDnsResolver :=
  { s with
    resolutions := ∅
    queues := fun _ ↦ []
    state := {}
    trace := s.trace ++ s.resolutions.entries.map (fun e ↦
      .result e.1 e.2.handler (resultOf e.2.resolvedAddresses)) ++
        [.connectionClosed s.state.connectionId] }

def closeConnection (id : Option ℕ) (async : Bool) : VpnDnsResolver :=
  if id ≠ s.state.connectionId then s
  else if async then { s with deferredCloseTask := true }
  else s.closeNow

def stopResolving : VpnDnsResolver :=
  let s := s.stopResolvingQueues {.background, .foreground}
  let s := if s.state.connectionId ≠ none then s.closeConnection s.state.connectionId false else s
  s.deinit.record .stopped

def completeConnectRequest (id : ℕ) (pass : Bool) : VpnDnsResolver :=
  if s.state.connectionId ≠ some id then s
  else if pass then { s with deferredAcceptTask := true }
  else s.closeConnection (some id) true

/-- When a task runs that is put off until `due`: the event loop casts the delay to `uint32_t`. -/
def fireTime (now due : ℕ) : ℕ := now + (((due : ℤ) - now) % 2 ^ 32).toNat

def sendRequest (now : ℕ) (queueType : VpnDnsResolverQueue) (entryId : UInt32) (entry : Resolve)
    (recordType : RecordType) : Request → VpnDnsResolver
  | .unencodable => s.record (.unsent entryId recordType)
  | .encoded queryId sent =>
    let query := { id := entryId, recordType, name := entry.name, queueKind := queueType }
    let queries :=
      if (s.state.queries.lookup queryId).isSome then s.state.queries
      else s.state.queries.insert queryId query
    let s := s.record (.read s.state.connectionId queryId)
    if sent then
      let deadlines := Multimap.insert (now + s.queryTimeout) queryId s.state.deadlines
      { s with
        resolutions := modify s.resolutions entryId fun entry ↦ { entry with
          recordTypes := insert recordType entry.recordTypes
          queries := Function.update entry.queries recordType (some queryId) }
        state := { s.state with
          queries
          deadlines
          periodicQueriesCheckTask := deadlines.head?.map fun d ↦ fireTime now d.1 } }
    else
      { s with state := { s.state with queries := queries.erase queryId } }.record
        (.unsent entryId recordType)

/-- The loop over the record types in `resolve_queue`, with the outcomes that are left after it. -/
def sendRequests (now : ℕ) (queueType : VpnDnsResolverQueue) (entryId : UInt32) :
    List RecordType → VpnDnsResolver → List Request → VpnDnsResolver × List Request
  | [], s, requests => (s, requests)
  | recordType :: rest, s, requests =>
    match s.resolutions.lookup entryId with
    | none => (s, requests)
    | some entry =>
      if recordType ∈ entry.recordTypes then
        sendRequests now queueType entryId rest
          (s.sendRequest now queueType entryId entry recordType (requests.headD .unencodable))
          requests.tail
      else sendRequests now queueType entryId rest s requests

def isDone (id : UInt32) : Bool := (s.resolutions.lookup id).any fun r ↦ r.recordTypes = ∅

/-- An iteration of `resolve_queue`, with an id that was taken from the queue. -/
def resolveEntry (now : ℕ) (queueType : VpnDnsResolverQueue) (entryId : UInt32)
    (requests : List Request) : VpnDnsResolver × List Request :=
  let r := sendRequests now queueType entryId RecordType.values s requests
  (if r.1.isDone entryId then r.1.finish entryId .failure else r.1, r.2)

/-- `resolve_queue`, with the ids in the order in which they are taken from the queue. -/
def resolveQueue (now : ℕ) (queueType : VpnDnsResolverQueue) :
    List UInt32 → VpnDnsResolver → List Request → VpnDnsResolver × List Request
  | [], s, requests => (s.setQueue queueType [], requests)
  | entryId :: rest, s, requests =>
    if s.state.queries.entries.length < resolveCapacity queueType then
      let r := (s.setQueue queueType rest).resolveEntry now queueType entryId requests
      resolveQueue now queueType rest r.1 r.2
    else (s.setQueue queueType (entryId :: rest), requests)

def resolveQueues (env : Environment) : VpnDnsResolver :=
  let r := resolveQueue env.now .background (env.order .background) s env.requests
  (resolveQueue env.now .foreground (env.order .foreground) r.1 r.2).1

def requestConnection (connectionId : ℕ) : VpnDnsResolver :=
  let src := { customSrcIp with port := s.nextConnectionPort.toNat }
  { s with
    state := { s.state with connectionId := some connectionId }
    nextConnectionPort := s.nextConnectionPort + 1 }.record
      (.connectRequest connectionId src s.resolverAddress)

def startConnectionTimeout : VpnDnsResolver :=
  { s with state := { s.state with connectionTimeoutTask := true } }

def resolvePendingDomains (env : Environment) : VpnDnsResolver :=
  if (s.queues .background).isEmpty && (s.queues .foreground).isEmpty then s
  else if s.state.connectionId = none
      then (s.requestConnection env.connectionId).startConnectionTimeout
  else if s.state.connectionAccepted then (s.resolveQueues env).startConnectionTimeout
  else s.startConnectionTimeout

def acceptConnection (env : Environment) : VpnDnsResolver :=
  let s := { s with state := { s.state with connectionAccepted := true } }
  (s.record (.connectionAccepted s.state.connectionId)).resolvePendingDomains env

def finishIfDone (id : UInt32) : VpnDnsResolver :=
  match s.resolutions.lookup id with
  | none => s
  | some r => if r.recordTypes = ∅ then s.finish id (resultOf r.resolvedAddresses) else s

def settleQuery (queryId : UInt16) (addresses : List SocketAddress) : VpnDnsResolver :=
  match s.state.queries.lookup queryId with
  | none => s
  | some query =>
    let s := s.eraseQuery queryId
    { s with
      resolutions := modify s.resolutions query.id fun r ↦ { r with
        recordTypes := r.recordTypes.erase query.recordType
        resolvedAddresses := r.resolvedAddresses ++ addresses } }.finishIfDone query.id

def send (env : Environment) (id : ℕ) (packet : Packet) (length : ℕ) : VpnDnsResolver × ℤ :=
  let s := s.startConnectionTimeout
  match packet.id with
  | none => (s, -1)
  | some replyId =>
    if s.state.connectionId ≠ some id then (s, -1)
    else
      match s.state.queries.lookup replyId with
      | none => (s, length)
      | some query =>
        if (s.resolutions.lookup query.id).isNone then (s.eraseQuery replyId, length)
        else ((s.settleQuery replyId packet.addresses).resolvePendingDomains env, length)

def onPeriodicQueriesCheck (env : Environment) : VpnDnsResolver :=
  let s := { s with state := { s.state with periodicQueriesCheckTask := none } }
  let s := (Multimap.upTo env.now s.state.deadlines).foldl (fun s d ↦ s.settleQuery d.2 []) s
  { s with state := { s.state with
    deadlines := Multimap.after env.now s.state.deadlines } }.resolvePendingDomains env

end VpnDnsResolver

inductive Input
  | resolve (queue : VpnDnsResolverQueue) (name : String) (recordTypes : Finset RecordType)
      (handler : Bool)
  | cancel (id : UInt32)
  | stopResolvingQueues (queues : Finset VpnDnsResolverQueue)
  | stopResolving
  | completeConnectRequest (id : ℕ) (pass : Bool)
  | closeConnection (id : ℕ) (async : Bool)
  | send (env : Environment) (id : ℕ) (packet : Packet) (length : ℕ)
  | connectionTimeout
  | queriesCheck (env : Environment)
  | deferredAccept (env : Environment)
  | deferredClose
  | deferredResolve (env : Environment)
  | setQueryTimeout (timeout : ℕ)
  | dnsUpdated (servers : SystemDnsServers)

def Input.environment : Input → Option Environment
  | .send env _ _ _ => some env
  | .queriesCheck env => some env
  | .deferredAccept env => some env
  | .deferredResolve env => some env
  | _ => none

def Input.enabled (s : VpnDnsResolver) : Input → Bool
  | .connectionTimeout => s.state.connectionTimeoutTask
  | .queriesCheck _ => s.state.periodicQueriesCheckTask.isSome
  | .deferredAccept _ => s.deferredAcceptTask
  | .deferredClose => s.deferredCloseTask
  | .deferredResolve _ => s.deferredResolveTask
  | .dnsUpdated _ => s.dnsChangeSubscription
  | _ => true

def Environment.fits (env : Environment) (s : VpnDnsResolver) : Bool :=
  (env.order .background).isPerm (s.queues .background) &&
    (env.order .foreground).isPerm (s.queues .foreground)

def handle (s : VpnDnsResolver) : Input → VpnDnsResolver
  | .resolve queue name recordTypes handler => s.resolve queue name recordTypes handler
  | .cancel id => s.cancel id
  | .stopResolvingQueues queues => s.stopResolvingQueues queues
  | .stopResolving => s.stopResolving
  | .completeConnectRequest id pass => s.completeConnectRequest id pass
  | .closeConnection id async => s.closeConnection (some id) async
  | .send env id packet length => (s.send env id packet length).1
  | .connectionTimeout =>
    let s := { s with state := { s.state with connectionTimeoutTask := false } }
    s.closeConnection s.state.connectionId false
  | .queriesCheck env => s.onPeriodicQueriesCheck env
  | .deferredAccept env => { s with deferredAcceptTask := false }.acceptConnection env
  | .deferredClose =>
    { s with deferredCloseTask := false }.closeConnection s.state.connectionId false
  | .deferredResolve env => { s with deferredResolveTask := false }.resolvePendingDomains env
  | .setQueryTimeout timeout => { s with queryTimeout := timeout }
  | .dnsUpdated servers => s.onDnsUpdated servers

def step (s : VpnDnsResolver) (input : Input) : Option VpnDnsResolver :=
  if input.enabled s && input.environment.all (·.fits s) then some (handle s input) else none

def start (servers : SystemDnsServers) : VpnDnsResolver :=
  ({} : VpnDnsResolver).onDnsUpdated servers

end TrustTunnel.Resolver.Queries

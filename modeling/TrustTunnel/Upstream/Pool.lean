import Mathlib.Logic.Relation
import TrustTunnel.Upstream.Multiplexer

namespace TrustTunnel.Upstream.Pool

open Traffic.Types Multiplexer

structure Raised where
  event : ServerEvent
  pool : List ℕ
deriving DecidableEq

structure Parent where
  connIdGenerator : ℕ := 0
  opened : List ℕ := []
  events : List Raised := []

inductive Request
  /-- `open_connection`, after other upstreams took `skipped` ids. -/
  | openConnection (skipped : ℕ)
  | closeConnection (id : ℕ) (graceful async : Bool)
deriving DecidableEq

structure Env where
  children : Children := {}
  requests : List Request := []

abbrev System := UpstreamMultiplexer × Parent

inductive Input
  | openSession
  | closeSession
  | request (r : Request)
  | child (upstreamId : ℕ) (event : ChildEvent)
  | closeTask
deriving DecidableEq

namespace Parent

variable (p : Parent)

def tell (pool : List ℕ) (event : ServerEvent) : Parent :=
  { p with events := p.events ++ [⟨event, pool⟩] }

def issue (id : ℕ) : Parent := { p with connIdGenerator := id + 1, opened := p.opened ++ [id] }

def skip (id : ℕ) : Parent := { p with connIdGenerator := id + 1 }

end Parent

def answer (p : Parent) (id : ℕ) (r : UpstreamMultiplexer × Bool) : System :=
  (r.1, if r.2 then p.issue id else p.skip id)

section

variable (env : Env)

def request : Request → System → System
  | .openConnection skipped, s =>
    if s.1.upstreamsPool.entries.isEmpty then s
    else answer s.2 (s.2.connIdGenerator + skipped)
      (s.1.openConnection env.children (s.2.connIdGenerator + skipped))
  | .closeConnection id graceful async, s => (s.1.closeConnection id graceful async, s.2)

def requests (s : System) : System := env.requests.foldl (fun s r ↦ request env r s) s

def raise (event : ServerEvent) (s : System) : System :=
  let s := (s.1, s.2.tell s.1.upstreamsPool.keys event)
  if event = .sessionOpened then requests env s else s

def handle : Input → System → System
  | .openSession, s => ((s.1.openSession env.children).1, s.2)
  | .closeSession, s => closeSession env.children (raise env) s
  | .request r, s => request env r s
  | .child upstreamId event, s => childUpstreamHandler env.children (raise env) upstreamId event s
  | .closeTask, s => runCloseTask (raise env) s

end

def step (s : System) (label : Env × Input) : Option System := some (handle label.1 label.2 s)

def start (max : ℕ) : System := ({ maxUpstreamsNum := max }, {})

def isSessionEvent : ServerEvent → Bool
  | .sessionOpened | .sessionClosed | .sessionError _ => true
  | _ => false

structure Quiet (s t : System) : Prop where
  connections : t.1.connections = s.1.connections
  pending : t.1.pendingConnections = s.1.pendingConnections
  pool : t.1.upstreamsPool = s.1.upstreamsPool
  max : t.1.maxUpstreamsNum = s.1.maxUpstreamsNum
  calls : ∃ calls, t.1.calls = s.1.calls ++ calls ∧ ∀ u id, .openConnection u id ∉ calls
  opened : t.2.opened = s.2.opened
  generator : s.2.connIdGenerator ≤ t.2.connIdGenerator
  sessionOpen : t.1.sessionOpen = s.1.sessionOpen
  pendingError : t.1.pendingError = s.1.pendingError
  events : t.2.events = s.2.events

structure Noted (s t : System) : Prop where
  mux : t.1 = { s.1 with sessionOpen := t.1.sessionOpen, pendingError := t.1.pendingError }
  parent : ∃ events, t.2 = { s.2 with events := s.2.events ++ events } ∧
    ∀ e ∈ events, isSessionEvent e.event = true

structure Rules where
  session : Prop
  kept : Prop
  /-- Children speak only of connections that they were asked to open. -/
  asked : Prop
  /-- The child of these pending connections does not open. -/
  held : ℕ → Prop

def Asked (mux : UpstreamMultiplexer) (id : ℕ) : Prop := ∃ u, .openConnection u id ∈ mux.calls

def AsksFor (id : ℕ) (calls : List ChildCall) : Prop := ∀ c ∈ calls, ∃ u, c = .openConnection u id

variable (A : Rules) in
inductive Move (s : System) : System → Prop
  | quiet {t : System} : Quiet s t → Move s t
  | note {t : System} : A.session → Noted s t → Move s t
  | addChild (u : ℕ) :
      s.1.upstreamsPool.entries.length < s.1.maxUpstreamsNum ∨ s.1.upstreamsPool.entries = [] →
      Move s ({ s.1 with upstreamsPool := s.1.upstreamsPool.insert u .openingSession }, s.2)
  | openChild (u : ℕ) :
      Move s ({ s.1 with upstreamsPool := s.1.upstreamsPool.replace u .sessionOpened }, s.2)
  | postpone {id u : ℕ} : s.2.connIdGenerator ≤ id → u ∈ s.1.upstreamsPool →
      Move s ({ s.1 with pendingConnections := emplace s.1.pendingConnections id u }, s.2.issue id)
  | attach {id u : ℕ} : s.2.connIdGenerator ≤ id → u ∈ s.1.upstreamsPool →
      Move s ({ s.1 with
        calls := s.1.calls ++ [.openConnection u id]
        connections := emplace s.1.connections id u }, s.2.issue id)
  | fail {id u : ℕ} : s.2.connIdGenerator ≤ id →
      Move s ({ s.1 with calls := s.1.calls ++ [.openConnection u id] }, s.2.skip id)
  | proceed {id u : ℕ} {asks : List ChildCall} : id ∈ s.1.pendingConnections → ¬ A.held id →
      AsksFor id asks → u ∈ s.1.upstreamsPool →
      Move s ({ s.1 with
        calls := s.1.calls ++ asks
        connections := emplace s.1.connections id u
        pendingConnections := s.1.pendingConnections.erase id }, s.2)
  | refuse {id : ℕ} {asks : List ChildCall} (pool : List ℕ) : id ∈ s.1.pendingConnections →
      AsksFor id asks → (asks ≠ [] → ¬ A.held id) →
      Move s ({ s.1 with
        calls := s.1.calls ++ asks
        pendingConnections := s.1.pendingConnections.erase id },
          s.2.tell pool (.error id .connRefused))
  | lose {id : ℕ} {asks : List ChildCall} : ¬ A.kept → id ∈ s.1.pendingConnections →
      ¬ A.held id → AsksFor id asks →
      Move s ({ s.1 with
        calls := s.1.calls ++ asks
        pendingConnections := s.1.pendingConnections.erase id }, s.2)
  | opened {id : ℕ} (pool : List ℕ) : (A.asked → Asked s.1 id) →
      Move s (s.1, s.2.tell pool (.connectionOpened id))
  | ended {id : ℕ} (pool : List ℕ) (code : Option ErrorCode) : (A.asked → Asked s.1 id) →
      Move s ({ s.1 with connections := s.1.connections.erase id },
        s.2.tell pool (code.elim (.connectionClosed id) (.error id)))
  | forget (id : ℕ) : ¬ A.kept →
      Move s ({ s.1 with connections := s.1.connections.erase id }, s.2)
  | drop {u : ℕ} : A.session → (∀ id, s.1.connections.lookup id ≠ some u) →
      (∀ id, s.1.pendingConnections.lookup id ≠ some u) →
      Move s ({ s.1 with upstreamsPool := s.1.upstreamsPool.erase u }, s.2)
  | clear : A.session → (A.kept → s.1.connections = ∅) →
      Move s ({ s.1 with upstreamsPool := ∅, connections := ∅, pendingConnections := ∅ },
        { s.2 with events := s.2.events ++
          (s.1.pendingConnections.keys.map fun id ↦ ⟨.error id .connReset, []⟩) })

def Steps (A : Rules) : System → System → Prop := Relation.ReflTransGen (Move A)

variable {A : Rules} {s t : System} {id : ℕ}

theorem Move.calls_subset (h : Move A s t) : s.1.calls ⊆ t.1.calls := by
  cases h with
  | quiet h =>
    obtain ⟨calls, hc, -⟩ := h.calls
    rw [hc]
    exact List.subset_append_left _ _
  | note _ h =>
    rw [h.mux]
    exact List.Subset.refl _
  | attach | fail | proceed | refuse | lose => exact List.subset_append_left _ _
  | _ => exact List.Subset.refl _

theorem Steps.calls_subset (h : Steps A s t) : s.1.calls ⊆ t.1.calls := by
  induction h with
  | refl => exact List.Subset.refl _
  | tail _ hm ih => exact List.Subset.trans ih hm.calls_subset

theorem Asked.mono {mx m : UpstreamMultiplexer} (h : Asked mx id)
    (hs : mx.calls ⊆ m.calls) : Asked m id := by
  obtain ⟨v, hv⟩ := h
  exact ⟨v, hs hv⟩

end TrustTunnel.Upstream.Pool

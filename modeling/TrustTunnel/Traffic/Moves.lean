import Mathlib.Logic.Relation
import TrustTunnel.Traffic.Types

namespace TrustTunnel.Traffic.Moves

open Function Lib.TwoKeyStore Net.Address Session.Types Traffic.Types List Option

variable {calls : List Call} {c : VpnConnection} {k r : ℕ}

/-- The connections of a tunnel as finite maps, with the ids and calls they are about. -/
structure View where
  record : ℕ → Option VpnConnection
  byClient : ℕ → Option ℕ
  byServer : ℕ → Option ℕ
  next : ℕ
  dropped : List ℕ
  nextServerId : ℕ
  calls : List Call

def view (t : Tunnel) : View where
  record := t.connections.get
  byClient := t.connections.leftRef
  byServer := t.connections.rightRef
  next := t.connections.next
  dropped := t.connections.dropped
  nextServerId := t.upstreamConnIdGenerator
  calls := t.calls

def Announced (calls : List Call) (k : ℕ) : Prop := ∃ l addr, .requested l k addr ∈ calls

def Completed (calls : List Call) (k : ℕ) : Prop := ∃ action, .completed k action ∈ calls

def Justified (calls : List Call) (k : ℕ) : Prop :=
  .completed k (some .forceBypass) ∈ calls ∨
    (∃ address, .resolvedMatch (some k) address .exclusion ∈ calls) ∨
      ∃ source domain, source ≠ .incoming ∧ .lookedUp (some k) source domain .exclusion ∈ calls

/-- A reason of its own to send the connection of the client `k` around the tunnel. -/
inductive Excused (calls : List Call) (k : ℕ) : Prop
  | demanded (status : Option DomainFilterMatchStatus) :
      .finalized k (some .forceBypass) status ∈ calls → Excused calls k
  | loopback {listener : Listener} {addr : TunnelAddressPair} {dst : SocketAddress} :
      .requested listener k addr ∈ calls → TunnelAddressPair.socketAddress? addr = some dst →
      dst.isLoopback = true → Excused calls k
  | destination (own : Option VpnConnectAction) :
      .finalized k own (some .exclusion) ∈ calls → Excused calls k
  | resolved (address : SocketAddress) :
      .resolvedMatch (some k) address .exclusion ∈ calls → Excused calls k
  | domain {source : LookupSource} (name : String) : source = .outgoing ∨ source = .cache →
      .lookedUp (some k) source name .exclusion ∈ calls → Excused calls k

def Foreign (calls : List Call) (k : ℕ) : Prop :=
  ∃ listener addr, listener ≠ .client ∧ .requested listener k addr ∈ calls

/-- A client on the fake upstream is known to be there, waits for another, or is not to be read. -/
def Marked (calls : List Call) (c : VpnConnection) : Prop :=
  ∀ k, c.clientId = some k → c.upstream = some .fake →
    c.flags.fakeConnection = true ∨ c.state = .connectedMigrating ∨ .turnRead (some k) false ∈ calls

def sentOn (calls : List Call) (id : Option ℕ) : Packet :=
  calls.flatMap fun
    | .send _ s data => if s = id ∧ s.isSome then data else []
    | _ => []

def acceptedFrom (calls : List Call) (k : ℕ) : Packet :=
  calls.flatMap fun
    | .accepted id data => if id = some k then data else []
    | _ => []

def isNeutral : Call → Bool
  | .openConnection .. | .send .. | .accepted .. | .requested .. | .completed .. => false
  | _ => true

theorem sentOn_append (cs c : List Call) (id : Option ℕ) :
    sentOn (cs ++ c) id = sentOn cs id ++ sentOn c id := flatMap_append

theorem sentOn_neutral (h : ∀ c ∈ calls, isNeutral c = true) (id : Option ℕ) :
    sentOn calls id = [] := by
  rw [sentOn, flatMap_eq_nil_iff]
  intro c hm
  have hn := h c hm
  cases c <;> simp_all [isNeutral]

namespace View

variable (v : View)

def Client (k r : ℕ) (c : VpnConnection) : Prop := v.byClient k = some r ∧ v.record r = some c

def Server (s r : ℕ) (c : VpnConnection) : Prop := v.byServer s = some r ∧ v.record r = some c

def put (r : ℕ) (c : VpnConnection) : View := { v with record := update v.record r (some c) }

def emit (calls : List Call) : View := { v with calls := v.calls ++ calls }

def Untasked (k : ℕ) : Prop := ∀ a x, v.record a = some x → x.sendBufferedTask ≠ some (some k)

end View

def eraseKey (table : ℕ → Option ℕ) : Option ℕ → ℕ → Option ℕ
  | none => table
  | some k => update table k none

theorem eraseKey_eq_some {t : ℕ → Option ℕ} {id : Option ℕ} :
    eraseKey t id k = some r ↔ t k = some r ∧ id ≠ some k := by
  cases id with
  | none => simp [eraseKey]
  | some j =>
    by_cases h : k = j
    · subst h
      simp [eraseKey]
    · simp [eraseKey, h, Ne.symm h]

def Routed (c : VpnConnection) : Prop :=
  c.upstream.isSome ∨ c.state ≠ .waitingAction ∧ c.state ≠ .rejected

structure Assumptions where
  once : Prop := False
  attached : Prop := False
  streams : Prop := False
  general : Prop := False
  /-- Where the connection of a client may migrate to while it is in a state. -/
  migrates : ℕ → VpnConnectionState → Upstream → Prop := fun _ _ _ ↦ True
  fake : Prop := False
  opens : Upstream → Prop := fun _ ↦ True

structure Marks where
  listener : Listener
  action : Option VpnConnectAction
  fake : Bool
  plainDns : Bool
  task : Option (Option ℕ)

def marks (c : VpnConnection) : Marks where
  listener := c.listener
  action := c.action
  fake := c.flags.fakeConnection
  plainDns := c.flags.plainDnsConnection
  task := c.sendBufferedTask

structure Idles (v : View) (c c' : VpnConnection) : Prop where
  marked : Marked v.calls c → Marked v.calls c'
  named : c'.flags.fakeConnection = true → c'.flags.plainDnsConnection = true →
    c.flags.fakeConnection = true ∧ c.flags.plainDnsConnection = true
  upstream : c'.upstream = some .fake → c.upstream = some .fake ∨
    ∃ k, c.clientId = some k ∧ v.Untasked k
  task : ∀ k, c'.sendBufferedTask = some (some k) → c.sendBufferedTask = some (some k) ∨
    c.clientId = some k ∧ c'.upstream ≠ some .fake ∧ Completed v.calls k

variable (A : Assumptions)

structure Kept (v : View) (c c' : VpnConnection) : Prop where
  clientId : c'.clientId = c.clientId
  serverId : A.once → c'.serverId = c.serverId
  proto : c'.proto = c.proto
  listener : c'.listener = c.listener
  migratingClientId : c'.migratingClientId = c.migratingClientId
  replacing : c'.state = .waitingResponseMigrating ↔ c.state = .waitingResponseMigrating
  migrating : A.once → (c'.state = .connectedMigrating ↔ c.state = .connectedMigrating)
  resolving : c'.state = .waitingResolve → c.state = .waitingResolve ∨ (A.once → c.serverId = none)
  routed : A.once → Routed c' → Routed c ∨ ∃ k, c.clientId = some k ∧ Completed v.calls k
  settled : A.once → c'.upstream = c.upstream ∨
    c.serverId = none ∧ c.state ≠ .connected ∧ c.state ≠ .connectedMigrating
  forced : c'.flags.forciblyBypassed = true → c.flags.forciblyBypassed = true ∨
    ∃ k, c.clientId = some k ∧ .completed k (some .forceBypass) ∈ v.calls
  action : c'.action = some .forceBypass → c.action = some .forceBypass ∨
    ∃ k, c.clientId = some k ∧ Excused v.calls k
  idle : A.once → A.fake → Idles v c c'

structure Quiet (v : View) (c c' : VpnConnection) : Prop extends Kept A v c c' where
  buffered : c.proto = .tcp → c'.bufferedPackets = c.bufferedPackets

structure Fresh (k : ℕ) (c : VpnConnection) : Prop where
  clientId : c.clientId = some k
  serverId : c.serverId = none
  migratingClientId : c.migratingClientId = none
  state : c.state = .waitingAction
  upstream : c.upstream = none
  forced : c.flags.forciblyBypassed = false
  buffered : c.bufferedPackets = []
  action : c.action = none
  fake : c.flags.fakeConnection = false
  task : c.sendBufferedTask = none

structure Attached (s : ℕ) (c c' : VpnConnection) : Prop where
  clientId : c'.clientId = c.clientId
  serverId : c'.serverId = some s
  proto : c'.proto = c.proto
  migratingClientId : c'.migratingClientId = c.migratingClientId
  state : c'.state = .waitingResponse
  forced : c'.flags.forciblyBypassed = c.flags.forciblyBypassed
  buffered : c'.bufferedPackets = c.bufferedPackets
  marks : marks c' = marks c

/-- `sw` is the replacement on `u` for the connection `c` of the client `k`, which becomes `c'`. -/
structure Migrates (k s : ℕ) (u : Upstream) (c c' sw : VpnConnection) : Prop where
  clientId : c'.clientId = c.clientId
  serverId : c'.serverId = c.serverId
  proto : c'.proto = c.proto
  migratingClientId : c'.migratingClientId = c.migratingClientId
  state : c'.state = .connectedMigrating
  upstream : c'.upstream = c.upstream
  forced : c'.flags.forciblyBypassed = c.flags.forciblyBypassed
  marks : ∃ fake, (fake = true → c.flags.fakeConnection = true) ∧
    marks c' = { marks c with fake := fake }
  sw_clientId : sw.clientId = none
  sw_serverId : sw.serverId = some s
  sw_proto : sw.proto = c.proto
  sw_migratingClientId : sw.migratingClientId = some k
  sw_state : sw.state = .waitingResponseMigrating
  sw_upstream : sw.upstream = some u
  sw_forced : sw.flags.forciblyBypassed = false
  sw_buffered : c.proto = .tcp → sw.bufferedPackets = c.bufferedPackets
  sw_marks : ∃ plainDns, Moves.marks sw = ⟨c.listener, none, false, plainDns, none⟩

/-- The replacement `c` takes the client `k` over from `c₀`. -/
structure Switches (k : ℕ) (c c' c₀ c₀' : VpnConnection) : Prop where
  clientId : c'.clientId = some k
  serverId : c'.serverId = c.serverId
  proto : c'.proto = c.proto
  migratingClientId : c'.migratingClientId = none
  state : c'.state = .connected
  upstream : c'.upstream = c.upstream
  forced : c'.flags.forciblyBypassed = c.flags.forciblyBypassed
  buffered : c.proto = .tcp → c'.bufferedPackets = c.bufferedPackets
  marks : marks c' = marks c
  old_clientId : c₀'.clientId = none
  old_serverId : c₀'.serverId = c₀.serverId
  old_state : c₀'.state = c₀.state
  old_migratingClientId : c₀'.migratingClientId = c₀.migratingClientId
  old_forced : c₀'.flags.forciblyBypassed = c₀.flags.forciblyBypassed
  old_marks : Moves.marks c₀' = Moves.marks c₀

/-- Everything a handler of the tunnel does to its connections, one change at a time. -/
inductive Move (v : View) : View → Prop
  | emit (call : Call) : isNeutral call = true → Move v (v.emit [call])
  | edit {r : ℕ} {c c' : VpnConnection} : v.record r = some c → Quiet A v c c' →
      Move v (v.put r c')
  | create {k : ℕ} {c : VpnConnection} (l : Listener) (addr : TunnelAddressPair) :
      ¬ Announced v.calls k → Fresh k c → c.listener = l →
      Move v
        { v.put v.next c with
          byClient := update v.byClient k (some v.next)
          next := v.next + 1
          calls := v.calls ++ [.requested l k addr] }
  | complete {k r : ℕ} {c : VpnConnection} (action : Option VpnConnectAction) : v.Client k r c →
      (A.once → ¬ Completed v.calls k) →
      (A.general → action = some .forceBypass → Excused v.calls k ∨ Foreign v.calls k) →
      Move v (v.emit [.completed k action])
  | openFailed {u : Upstream} {client : Option ℕ} (addr : TunnelAddressPair) :
      (A.general → u = .bypass → ∀ k, client = some k → Justified v.calls k) → A.opens u →
      Move v (v.emit [.openConnection u client addr none])
  | attach {k r : ℕ} {c c' : VpnConnection} {u : Upstream} (addr : TunnelAddressPair) :
      v.Client k r c →
      (A.once → Completed v.calls k ∧ c.serverId = none ∧ c.state ≠ .connected ∧
        c.state ≠ .connectedMigrating) →
      (A.general → u = .bypass → Justified v.calls k) → Attached v.nextServerId c c' →
      c'.upstream = some u →
      (A.fake → u = .fake → v.Untasked k ∧ c.flags.fakeConnection = true) → A.opens u →
      Move v
        { v.put r c' with
          byServer := update v.byServer v.nextServerId (some r)
          nextServerId := v.nextServerId + 1
          calls := v.calls ++ [.openConnection u (some k) addr (some v.nextServerId)] }
  | relink {k r s : ℕ} {c c' : VpnConnection} : ¬ A.once → v.Client k r c → Attached s c c' →
      Move v { v.put r c' with byServer := update v.byServer s (some r) }
  | migrate {k r : ℕ} {c c' sw : VpnConnection} {u : Upstream} (addr : TunnelAddressPair) :
      v.Client k r c → c.upstream.isSome → (A.general → u = .bypass → Justified v.calls k) →
      (A.streams → c.proto = .tcp →
        c.state ≠ .connectedMigrating ∧ sentOn v.calls c.serverId = []) →
      A.migrates k c.state u → Migrates k v.nextServerId u c c' sw →
      (A.fake → u ≠ .fake) → A.opens u →
      Move v
        { v with
          record := update (update v.record v.next (some sw)) r (some c')
          byServer := update v.byServer v.nextServerId (some v.next)
          next := v.next + 1
          nextServerId := v.nextServerId + 1
          calls := v.calls ++ [.openConnection u (some k) addr (some v.nextServerId)] }
  | switch {k s r r₀ : ℕ} {c c' c₀ c₀' : VpnConnection} : v.Server s r c →
      c.state = .waitingResponseMigrating → c.migratingClientId = some k → v.Client k r₀ c₀ →
      (A.attached → ∃ s₀, c₀.serverId = some s₀ ∧ v.byServer s₀ = some r₀) →
      Switches k c c' c₀ c₀' →
      Move v
        { v with
          record := update (update v.record r₀ (some c₀')) r (some c')
          byClient := update v.byClient k (some r)
          byServer := c.serverId.elim v.byServer fun s ↦ update v.byServer s (some r) }
  | forgetClient {k r : ℕ} {c : VpnConnection} : v.Client k r c →
      (∃ s r' c', c.serverId = some s ∧ v.Server s r' c') →
      Move v { v with byClient := update v.byClient k none }
  | forgetServer {s r : ℕ} {c : VpnConnection} : v.Server s r c →
      (∃ k r' c', c.clientId = some k ∧ v.Client k r' c') →
      Move v { v with byServer := eraseKey v.byServer c.serverId }
  | destroy {r : ℕ} {c : VpnConnection} (calls : List Call) : v.record r = some c →
      ((∃ k, v.Client k r c) ∨ (A.once → A.streams → c.state = .waitingResponseMigrating →
        ∀ k r₀ c₀, c.migratingClientId = some k → ¬ v.Client k r₀ c₀)) →
      (∀ call ∈ calls, isNeutral call = true) →
      Move v
        { v with
          record := update v.record r none
          byClient := eraseKey v.byClient c.clientId
          byServer := eraseKey v.byServer c.serverId
          dropped := v.dropped ++ [r]
          calls := v.calls ++ calls }
  | flush {k r : ℕ} {c c' : VpnConnection} (u : Upstream) (sent : List Packet) : v.Client k r c →
      Kept A v c c' → c'.serverId = c.serverId →
      (c.serverId = none → sent = []) →
      sent.flatten ++ c'.bufferedPackets.flatten = c.bufferedPackets.flatten →
      (A.fake → u ≠ .fake) →
      Move v { v.put r c' with calls := v.calls ++ sent.map (.send u c.serverId) }
  | take {k r : ℕ} {c c' : VpnConnection} (data : Packet) : v.Client k r c → Kept A v c c' →
      c'.serverId = c.serverId → (A.streams → c.proto = .tcp → c.state ≠ .connectedMigrating) →
      c'.bufferedPackets.flatten = c.bufferedPackets.flatten ++ data →
      Move v { v.put r c' with calls := v.calls ++ [.accepted (some k) data] }
  | forward {k r s : ℕ} {c : VpnConnection} (u : Upstream) (data : Packet) : v.Client k r c →
      c.serverId = some s → (c.proto = .tcp → c.bufferedPackets.flatten = []) →
      c.state ≠ .connectedMigrating → (A.fake → u ≠ .fake) →
      Move v (v.emit [.send u (some s) data, .accepted (some k) data])
  | discard {k r : ℕ} {c : VpnConnection} (data : Packet) : v.Client k r c → c.proto = .udp →
      Move v (v.emit [.accepted (some k) data])

structure RecordOk (calls : List Call) (c : VpnConnection) : Prop where
  replacing : c.state = .waitingResponseMigrating →
    c.clientId = none ∧ c.flags.forciblyBypassed = false
  undecided : c.state = .waitingResponseMigrating → c.action ≠ some .forceBypass
  voiced : ∀ k, c.clientId = some k ∨ c.migratingClientId = some k →
    ∃ addr, .requested c.listener k addr ∈ calls
  forced : ∀ k, c.flags.forciblyBypassed = true → c.clientId = some k →
    .completed k (some .forceBypass) ∈ calls
  excused : ∀ k, c.action = some .forceBypass → c.clientId = some k → Excused calls k

structure Base (v : View) : Prop where
  left : Keyed v.byClient v.record VpnConnection.clientId
  counted : Counted v.record v.next v.dropped
  each : ∀ r c, v.record r = some c → RecordOk v.calls c
  announced : ∀ k, Completed v.calls k → Announced v.calls k

/-- What every record satisfies if no connect request is completed twice. -/
structure RecordServed (calls : List Call) (nextServerId : ℕ) (c : VpnConnection) : Prop where
  fresh : ∀ s, c.serverId = some s → s < nextServerId
  unserved : ∀ k, c.clientId = some k → ¬ Completed calls k → c.serverId = none ∧ ¬ Routed c
  moved : ∀ k, c.migratingClientId = some k → Completed calls k
  resolving : c.state = .waitingResolve → c.serverId = none

structure Served (v : View) : Prop where
  right : Keyed v.byServer v.record VpnConnection.serverId
  each : ∀ r c, v.record r = some c → RecordServed v.calls v.nextServerId c

structure Good (v : View) : Prop where
  base : Base v
  served : A.once → Served v

section

variable {cs ca : List Call} {c c' c₀ c₀' sw : VpnConnection} {k s n n' : ℕ} {u : Upstream}

theorem Announced.mono (h : Announced cs k) (hc : cs ⊆ ca) : Announced ca k := by
  obtain ⟨l, a, hm⟩ := h
  exact ⟨l, a, hc hm⟩

theorem Completed.mono (h : Completed cs k) (hc : cs ⊆ ca) : Completed ca k := by
  obtain ⟨a, hm⟩ := h
  exact ⟨a, hc hm⟩

theorem Justified.mono (h : Justified cs k) (hc : cs ⊆ ca) : Justified ca k := by
  rcases h with h | ⟨a, h⟩ | ⟨s, d, hs, h⟩
  · exact .inl (hc h)
  · exact .inr (.inl ⟨a, hc h⟩)
  · exact .inr (.inr ⟨s, d, hs, hc h⟩)

theorem Excused.mono (h : Excused cs k) (hc : cs ⊆ ca) : Excused ca k := by
  cases h with
  | demanded ss hm => exact .demanded ss (hc hm)
  | loopback hm hd hl => exact .loopback (hc hm) hd hl
  | destination o hm => exact .destination o (hc hm)
  | resolved a hm => exact .resolved a (hc hm)
  | domain n hs hm => exact .domain n hs (hc hm)

theorem RecordOk.announced (h : RecordOk cs c) (k : ℕ)
    (hk : c.clientId = some k ∨ c.migratingClientId = some k) : Announced cs k := by
  obtain ⟨a, hm⟩ := h.voiced k hk
  exact ⟨_, a, hm⟩

theorem RecordOk.mono (h : RecordOk cs c) (hc : cs ⊆ ca) : RecordOk ca c where
  replacing := h.replacing
  undecided := h.undecided
  voiced k hk := by
    obtain ⟨a, hm⟩ := h.voiced k hk
    exact ⟨a, hc hm⟩
  forced k hf hk := hc (h.forced k hf hk)
  excused k ha hk := (h.excused k ha hk).mono hc

theorem RecordOk.congr (h : RecordOk cs c) (hs : c'.state ≠ .waitingResponseMigrating)
    (hid : c'.clientId = c.clientId ∨ c'.clientId = none)
    (hm : c'.migratingClientId = c.migratingClientId) (hl : c'.listener = c.listener)
    (hf : c'.flags.forciblyBypassed = c.flags.forciblyBypassed) (ha : c'.action = c.action) :
    RecordOk cs c' := by
  have hc : ∀ k, c'.clientId = some k → c.clientId = some k := by
    intro k hk
    rcases hid with hid | hid
    · exact hid ▸ hk
    · rw [hid] at hk
      cases hk
  refine ⟨fun he ↦ absurd he hs, fun he ↦ absurd he hs, fun k hk ↦ ?_, fun k hf' hk ↦ ?_,
    fun k ha' hk ↦ ?_⟩
  · rw [hl]
    exact h.voiced k (hk.imp (hc k) fun hk ↦ hm ▸ hk)
  · exact h.forced k (hf ▸ hf') (hc k hk)
  · exact h.excused k (ha ▸ ha') (hc k hk)

theorem RecordServed.mono (h : RecordServed cs n c) (hc : cs ⊆ ca) (hn : n ≤ n') :
    RecordServed ca n' c where
  fresh s hs := (h.fresh s hs).trans_le hn
  unserved k hk hno := h.unserved k hk fun hd ↦ hno (hd.mono hc)
  moved k hk := (h.moved k hk).mono hc
  resolving := h.resolving

variable {A} {v : View}

theorem Kept.upstream (h : Kept A v c c') (hA : A.once) (hs : c.serverId ≠ none) :
    c'.upstream = c.upstream := (h.settled hA).resolve_right fun hno ↦ hs hno.1

theorem Kept.recordOk (h : Kept A v c c') (hc : RecordOk v.calls c) : RecordOk v.calls c' where
  replacing hs := by
    obtain ⟨hi, hf⟩ := hc.replacing (h.replacing.1 hs)
    refine ⟨h.clientId.trans hi, ?_⟩
    by_contra hne
    rcases h.forced (by simpa using hne) with hd | ⟨k, hk, _⟩
    · rw [hf] at hd
      cases hd
    · rw [hi] at hk
      cases hk
  undecided hs ha := by
    have hs := h.replacing.1 hs
    rcases h.action ha with ha | ⟨k, hk, _⟩
    · exact hc.undecided hs ha
    · rw [(hc.replacing hs).1] at hk
      cases hk
  voiced k hk := by
    rw [h.listener]
    exact hc.voiced k (by rwa [h.clientId, h.migratingClientId] at hk)
  forced k hf hk := by
    rw [h.clientId] at hk
    rcases h.forced hf with hd | ⟨j, hj, hm⟩
    · exact hc.forced k hd hk
    · rw [hk] at hj
      cases hj
      exact hm
  excused k ha hk := by
    rw [h.clientId] at hk
    rcases h.action ha with ha | ⟨j, hj, he⟩
    · exact hc.excused k ha hk
    · rw [hk] at hj
      cases hj
      exact he

theorem Kept.recordServed (h : Kept A v c c') (hA : A.once) (hc : RecordServed v.calls n c) :
    RecordServed v.calls n c' where
  fresh s hs := hc.fresh s (by rwa [h.serverId hA] at hs)
  unserved k hk hno := by
    rw [h.clientId] at hk
    obtain ⟨hs, hr⟩ := hc.unserved k hk hno
    refine ⟨(h.serverId hA).trans hs, fun hr' ↦ ?_⟩
    rcases h.routed hA hr' with hr' | ⟨j, hj, hd⟩
    · exact hr hr'
    · rw [hk] at hj
      cases hj
      exact hno hd
  moved k hk := hc.moved k (by rwa [h.migratingClientId] at hk)
  resolving hs := by
    rw [h.serverId hA]
    rcases h.resolving hs with hs | hs
    · exact hc.resolving hs
    · exact hs hA

theorem Fresh.recordOk {a : TunnelAddressPair} (h : Fresh k c)
    (hk : .requested c.listener k a ∈ cs) : RecordOk cs c where
  replacing hs := by
    rw [h.state] at hs
    cases hs
  undecided hs := by
    rw [h.state] at hs
    cases hs
  voiced j hj := by
    rcases hj with hj | hj
    · rw [h.clientId] at hj
      exact ⟨a, some.inj hj ▸ hk⟩
    · rw [h.migratingClientId] at hj
      cases hj
  forced j hf := by
    rw [h.forced] at hf
    cases hf
  excused j ha := by
    rw [h.action] at ha
    cases ha

theorem Fresh.recordServed (h : Fresh k c) : RecordServed cs n c where
  fresh s hs := by
    rw [h.serverId] at hs
    cases hs
  unserved _ _ _ := ⟨h.serverId, by simp [Routed, h.upstream, h.state]⟩
  moved j hj := by
    rw [h.migratingClientId] at hj
    cases hj
  resolving _ := h.serverId

theorem Attached.recordOk (h : Attached s c c') (hc : RecordOk cs c) : RecordOk cs c' :=
  hc.congr (by simp [h.state]) (.inl h.clientId) h.migratingClientId
    (congrArg Marks.listener h.marks) h.forced (congrArg Marks.action h.marks)

theorem Attached.recordServed (h : Attached n c c') (hk : c.clientId = some k)
    (hd : Completed cs k) (hc : RecordServed cs n c) : RecordServed cs (n + 1) c' where
  fresh s hs := by
    rw [h.serverId] at hs
    exact some.inj hs ▸ Nat.lt_succ_self _
  unserved j hj hno := by
    rw [h.clientId, hk] at hj
    exact absurd (some.inj hj ▸ hd) hno
  moved j hj := hc.moved j (h.migratingClientId ▸ hj)
  resolving hs := by
    rw [h.state] at hs
    cases hs

section Migrates

variable (h : Migrates k s u c c' sw)

include h

theorem Migrates.listener : c'.listener = c.listener := by
  obtain ⟨_, _, he⟩ := h.marks
  exact congrArg Marks.listener he

theorem Migrates.sw_listener : sw.listener = c.listener := by
  obtain ⟨_, he⟩ := h.sw_marks
  exact congrArg Marks.listener he

theorem Migrates.recordOk (hc : RecordOk cs c) : RecordOk cs c' := by
  obtain ⟨_, _, he⟩ := h.marks
  exact hc.congr (by simp [h.state]) (.inl h.clientId) h.migratingClientId h.listener h.forced
    (congrArg Marks.action he)

theorem Migrates.sw_recordOk (hc : RecordOk cs c) (hk : c.clientId = some k) : RecordOk cs sw := by
  obtain ⟨_, he⟩ := h.sw_marks
  have hn : sw.action = none := congrArg Marks.action he
  refine ⟨fun _ ↦ ⟨h.sw_clientId, h.sw_forced⟩, fun _ ↦ by simp [hn], fun j hj ↦ ?_,
    fun j hf ↦ ?_, fun j ha ↦ ?_⟩
  · rw [h.sw_clientId, h.sw_migratingClientId] at hj
    rw [h.sw_listener]
    rcases hj with hj | hj
    · cases hj
    · exact hc.voiced j (.inl (hk.trans hj))
  · rw [h.sw_forced] at hf
    cases hf
  · rw [hn] at ha
    cases ha

end Migrates

theorem Migrates.recordServed (h : Migrates k s u c c' sw) (hk : c.clientId = some k)
    (hd : Completed cs k) (hc : RecordServed cs n c) : RecordServed cs n c' where
  fresh j hj := hc.fresh j (h.serverId ▸ hj)
  unserved j hj hno := by
    rw [h.clientId, hk] at hj
    exact absurd (some.inj hj ▸ hd) hno
  moved j hj := hc.moved j (h.migratingClientId ▸ hj)
  resolving hs := by
    rw [h.state] at hs
    cases hs

theorem Migrates.sw_recordServed (h : Migrates k n u c c' sw) (hd : Completed cs k) :
    RecordServed cs (n + 1) sw where
  fresh s hs := by
    rw [h.sw_serverId] at hs
    exact some.inj hs ▸ Nat.lt_succ_self _
  unserved j hj := by
    rw [h.sw_clientId] at hj
    cases hj
  moved j hj := by
    rw [h.sw_migratingClientId] at hj
    exact some.inj hj ▸ hd
  resolving hs := by
    rw [h.sw_state] at hs
    cases hs

theorem Switches.recordOk (h : Switches k c c' c₀ c₀') (hs : c.state = .waitingResponseMigrating)
    (hk : c.migratingClientId = some k) (hc : RecordOk cs c) : RecordOk cs c' where
  replacing hs := by
    rw [h.state] at hs
    cases hs
  undecided hs := by
    rw [h.state] at hs
    cases hs
  voiced j hj := by
    rw [h.clientId, h.migratingClientId] at hj
    rw [show c'.listener = c.listener from congrArg Marks.listener h.marks]
    rcases hj with hj | hj
    · exact hc.voiced j (.inr (hk.trans hj))
    · cases hj
  forced j hf := by
    rw [h.forced, (hc.replacing hs).2] at hf
    cases hf
  excused j ha := absurd ((congrArg Marks.action h.marks).symm.trans ha) (hc.undecided hs)

theorem Switches.old_recordOk (h : Switches k c c' c₀ c₀')
    (hs : c₀.state ≠ .waitingResponseMigrating) (hc : RecordOk cs c₀) : RecordOk cs c₀' :=
  hc.congr (h.old_state ▸ hs) (.inr h.old_clientId) h.old_migratingClientId
    (congrArg Marks.listener h.old_marks) h.old_forced (congrArg Marks.action h.old_marks)

theorem Switches.recordServed (h : Switches k c c' c₀ c₀') (hd : Completed cs k)
    (hc : RecordServed cs n c) : RecordServed cs n c' where
  fresh s hs := hc.fresh s (h.serverId ▸ hs)
  unserved j hj hno := by
    rw [h.clientId] at hj
    exact absurd (some.inj hj ▸ hd) hno
  moved j hj := by
    rw [h.migratingClientId] at hj
    cases hj
  resolving hs := by
    rw [h.state] at hs
    cases hs

theorem Switches.old_recordServed (h : Switches k c c' c₀ c₀') (hc : RecordServed cs n c₀) :
    RecordServed cs n c₀' where
  fresh s hs := hc.fresh s (h.old_serverId ▸ hs)
  unserved j hj := by
    rw [h.old_clientId] at hj
    cases hj
  moved j hj := hc.moved j (h.old_migratingClientId ▸ hj)
  resolving hs := h.old_serverId ▸ hc.resolving (h.old_state ▸ hs)

end

variable {A} {v v' : View}

theorem subset_emit (cs : List Call) : v.calls ⊆ (v.emit cs).calls := subset_append_left _ _

def isCompletion : Call → Bool
  | .completed .. => true
  | _ => false

theorem completed_append {c : List Call} (h : ∀ cl ∈ c, isCompletion cl = false)
    (hk : Completed (calls ++ c) k) : Completed calls k := by
  obtain ⟨a, hm⟩ := hk
  rcases mem_append.1 hm with hm | hm
  · exact ⟨a, hm⟩
  · exact absurd (h _ hm) (by simp [isCompletion])

theorem not_isCompletion_of_isNeutral {c : Call} (h : isNeutral c = true) :
    isCompletion c = false := by
  cases c <;> simp_all [isNeutral, isCompletion]

theorem Base.announced_append (h : Base v) (hc : ∀ c ∈ calls, isCompletion c = false) (k : ℕ)
    (hk : Completed (v.calls ++ calls) k) : Announced (v.calls ++ calls) k :=
  (h.announced k (completed_append hc hk)).mono (subset_append_left _ _)

theorem Base.emit (h : Base v) (hc : ∀ cl ∈ calls, isCompletion cl = false) :
    Base (v.emit calls)  where
  left := h.left
  counted := h.counted
  each r c hc := (h.each r c hc).mono (subset_emit calls)
  announced := h.announced_append hc

theorem Base.put (h : Base v) {c' : VpnConnection} (hc : v.record r = some c)
    (hid : c'.clientId = c.clientId) (hok : RecordOk v.calls c') : Base (v.put r c')  where
  left := h.left.edit hc hid
  counted := h.counted.edit hc
  each := forall_update h.each hok
  announced := h.announced

/-- The record that a client id leads to has this id. -/
theorem Base.clientId_eq (h : Base v) (hk : v.Client k r c) : c.clientId = some k :=
  h.left.eq_of_ref hk.1 hk.2

theorem Base.notReplacing (h : Base v) (hk : v.Client k r c) :
    c.state ≠ .waitingResponseMigrating := by
  intro hs
  have hi := ((h.each r c hk.2).replacing hs).1
  rw [h.clientId_eq hk] at hi
  cases hi

theorem Base.replacement_ne (h : Base v) {r₀ : ℕ} {c₀ : VpnConnection} (hc : v.record r = some c)
    (hs : c.state = .waitingResponseMigrating) (hk : v.Client k r₀ c₀) : r ≠ r₀ := by
  rintro rfl
  rw [hk.2] at hc
  cases hc
  exact h.notReplacing hk hs

theorem Move.base (h : Base v) (hm : Move A v v') : Base v' := by
  cases hm with
  | emit cl hn =>
    refine h.emit fun x hx ↦ ?_
    rw [mem_singleton.1 hx]
    exact not_isCompletion_of_isNeutral hn
  | edit hc hq => exact h.put hc hq.clientId (hq.recordOk (h.each _ _ hc))
  | @create k c l ar hnw hf hl =>
    have hk : .requested c.listener k ar ∈ v.calls ++ [.requested l k ar] := by simp [hl]
    refine ⟨h.left.add h.counted.get_next hf.clientId fun r x hx hi ↦ ?_, h.counted.add, ?_,
      h.announced_append (by simp [isCompletion])⟩
    · exact hnw ((h.each r x hx).announced k (.inl hi))
    · exact forall_update (fun r x hx ↦ (h.each r x hx).mono (subset_append_left _ _))
        (hf.recordOk hk)
  | @complete k r c an hk _ =>
    have han := (h.each r c hk.2).announced k (.inl (h.clientId_eq hk))
    refine ⟨h.left, h.counted, fun r x hx ↦ (h.each r x hx).mono (subset_emit _), ?_⟩
    intro j hj
    by_cases he : j = k
    · rw [he]
      exact han.mono (subset_emit _)
    · obtain ⟨a, hm⟩ := hj
      rcases mem_append.1 hm with hm | hm
      · exact (h.announced j ⟨a, hm⟩).mono (subset_emit _)
      · simp only [mem_singleton, Call.completed.injEq] at hm
        exact absurd hm.1 he
  | openFailed _ _ => exact h.emit (by simp [isCompletion])
  | attach _ hk _ _ ha =>
    have hp := h.put hk.2 ha.clientId (ha.recordOk (h.each _ _ hk.2))
    exact ⟨hp.left, hp.counted, fun r x hx ↦
      (hp.each r x hx).mono (subset_append_left _ _),
      h.announced_append (by simp [isCompletion])⟩
  | relink _ hk ha =>
    have hp := h.put hk.2 ha.clientId (ha.recordOk (h.each _ _ hk.2))
    exact ⟨hp.left, hp.counted, hp.each, hp.announced⟩
  | @migrate k r c c' sw u ar hk _ _ _ _ hg =>
    have hne : r ≠ v.next := (h.counted.bounded r c hk.2).ne
    have hge : update v.record v.next (some sw) r = some c := by
      rw [update_of_ne hne]
      exact hk.2
    have hb : v.calls ⊆ v.calls ++ [.openConnection u (some k) ar (some v.nextServerId)] :=
      subset_append_left _ _
    refine ⟨(h.left.addBare h.counted.get_next hg.sw_clientId).edit hge hg.clientId,
      h.counted.add.edit hge, forall_update (forall_update ?_ ?_) ?_,
      h.announced_append (by simp [isCompletion])⟩
    · exact fun r x hx ↦ (h.each r x hx).mono hb
    · exact hg.sw_recordOk ((h.each r c hk.2).mono hb) (h.clientId_eq hk)
    · exact hg.recordOk ((h.each r c hk.2).mono hb)
  | @switch k s r r₀ c c' c₀ c₀' hr hs hmk hk _ hw =>
    have hne := h.replacement_ne hr.2 hs hk
    have hc := h.each r c hr.2
    have hi := (hc.replacing hs).1
    have hge : update v.record r₀ (some c₀') r = some c := by
      rw [update_of_ne hne]
      exact hr.2
    refine ⟨h.left.move hk.2 (h.clientId_eq hk) hw.old_clientId hr.2 hi hw.clientId,
      (h.counted.edit hk.2).edit hge, forall_update (forall_update h.each ?_) ?_, h.announced⟩
    · exact hw.old_recordOk (h.notReplacing hk) (h.each r₀ c₀ hk.2)
    · exact hw.recordOk hs hmk hc
  | forgetClient _ _ => exact ⟨h.left.unlink, h.counted, h.each, h.announced⟩
  | forgetServer _ _ => exact ⟨h.left, h.counted, h.each, h.announced⟩
  | destroy cs hc _ hn =>
    refine ⟨h.left.remove hc fun _ _ ↦ eraseKey_eq_some, h.counted.remove hc, ?_,
      h.announced_append fun cl hm ↦ not_isCompletion_of_isNeutral (hn cl hm)⟩
    exact forall_erase fun r x hx ↦ (h.each r x hx).mono (subset_append_left _ _)
  | flush u sent hk ht _ _ _ =>
    have hp := h.put hk.2 ht.clientId (ht.recordOk (h.each _ _ hk.2))
    exact hp.emit (by simp [isCompletion])
  | take d hk ht _ _ _ =>
    have hp := h.put hk.2 ht.clientId (ht.recordOk (h.each _ _ hk.2))
    exact hp.emit (by simp [isCompletion])
  | forward _ _ _ _ _ _ => exact h.emit (by simp [isCompletion])
  | discard _ _ _ => exact h.emit (by simp [isCompletion])

theorem Served.emit (h : Served v) (cs : List Call) : Served (v.emit cs) where
  right := h.right
  each r c hc := (h.each r c hc).mono (subset_emit cs) le_rfl

theorem Served.put (h : Served v) {c' : VpnConnection} (hc : v.record r = some c)
    (hid : c'.serverId = c.serverId) (hok : RecordServed v.calls v.nextServerId c') :
    Served (v.put r c')  where
  right := h.right.edit hc hid
  each := forall_update h.each hok

theorem Served.unused (h : Served v) (r : ℕ) (c : VpnConnection) (hc : v.record r = some c) :
    c.serverId ≠ some v.nextServerId :=
  fun hs ↦ (lt_irrefl _) ((h.each r c hc).fresh _ hs)

theorem Served.serverId_eq (h : Served v) {s : ℕ} (hs : v.Server s r c) : c.serverId = some s :=
  h.right.eq_of_ref hs.1 hs.2

theorem Served.completed (h : Served v) (hc : v.record r = some c) (hk : c.clientId = some k)
    (hr : Routed c) : Completed v.calls k := by
  by_contra hno
  exact ((h.each r c hc).unserved k hk hno).2 hr

/-- The step lemma of `Served`: one case for each move. -/
theorem Move.served (hA : A.once) (hb : Base v) (h : Served v) (hm : Move A v v') : Served v' := by
  cases hm with
  | emit call _ => exact h.emit _
  | edit hc hq => exact h.put hc (hq.serverId hA) (hq.recordServed hA (h.each _ _ hc))
  | create l a hnw hf _ =>
    refine ⟨h.right.addBare hb.counted.get_next hf.serverId, ?_⟩
    exact forall_update
      (fun r x hx ↦ (h.each r x hx).mono (subset_append_left _ _) le_rfl) hf.recordServed
  | complete _ _ _ => exact h.emit _
  | openFailed _ _ => exact h.emit _
  | @attach k r c c' u a hk ho _ ha =>
    obtain ⟨hd, hn, _⟩ := ho hA
    have hu : v.calls ⊆ v.calls ++ [.openConnection u (some k) a (some v.nextServerId)] :=
      subset_append_left _ _
    refine ⟨h.right.assign hk.2 hn ha.serverId h.unused, forall_update ?_ ?_⟩
    · exact fun r x hx ↦ (h.each r x hx).mono hu (Nat.le_succ _)
    · exact (ha.recordServed (hb.clientId_eq hk) hd (h.each r c hk.2)).mono hu le_rfl
  | relink ho _ _ => exact absurd hA ho
  | @migrate k r c c' sw u a hk hp _ _ _ hg =>
    have hne : r ≠ v.next := (hb.counted.bounded r c hk.2).ne
    have hge : update v.record v.next (some sw) r = some c := by
      rw [update_of_ne hne]
      exact hk.2
    have hd := h.completed hk.2 (hb.clientId_eq hk) (.inl hp)
    have hu : v.calls ⊆ v.calls ++ [.openConnection u (some k) a (some v.nextServerId)] :=
      subset_append_left _ _
    refine ⟨(h.right.add hb.counted.get_next hg.sw_serverId h.unused).edit hge hg.serverId,
      forall_update (forall_update ?_ ?_) ?_⟩
    · exact fun r x hx ↦ (h.each r x hx).mono hu (Nat.le_succ _)
    · exact (hg.sw_recordServed hd).mono hu le_rfl
    · exact (hg.recordServed (hb.clientId_eq hk) hd (h.each r c hk.2)).mono hu (Nat.le_succ _)
  | @switch k s r r₀ c c' c₀ c₀' hr hs hmk hk _ hw =>
    have hne := hb.replacement_ne hr.2 hs hk
    have hge : update v.record r₀ (some c₀') r = some c := by
      rw [update_of_ne hne]
      exact hr.2
    have he : (c.serverId.elim v.byServer fun s ↦ update v.byServer s (some r)) =
        v.byServer := by
      rw [h.serverId_eq hr, elim_some, ← hr.1, update_eq_self]
    refine ⟨?_, forall_update (forall_update h.each ?_) ?_⟩
    · rw [he]
      exact (h.right.edit hk.2 hw.old_serverId).edit hge hw.serverId
    · exact hw.old_recordServed (h.each r₀ c₀ hk.2)
    · exact hw.recordServed ((h.each r c hr.2).moved k hmk) (h.each r c hr.2)
  | forgetClient _ _ => exact ⟨h.right, h.each⟩
  | @forgetServer s r c hs _ =>
    rw [h.serverId_eq hs]
    exact ⟨h.right.unlink, h.each⟩
  | destroy cs hc _ _ =>
    refine ⟨h.right.remove hc fun _ _ ↦ eraseKey_eq_some, ?_⟩
    exact forall_erase fun r x hx ↦ (h.each r x hx).mono (subset_append_left _ _) le_rfl
  | flush u sent hk ht hi _ _ =>
    exact (h.put hk.2 hi (ht.recordServed hA (h.each _ _ hk.2))).emit _
  | take d hk ht hi _ _ =>
    exact (h.put hk.2 hi (ht.recordServed hA (h.each _ _ hk.2))).emit _
  | forward _ _ _ _ _ _ => exact h.emit _
  | discard _ _ _ => exact h.emit _

theorem Move.good (h : Good A v) (hm : Move A v v') : Good A v' :=
  ⟨hm.base h.base, fun hA ↦ hm.served hA h.base (h.served hA)⟩

open Relation (ReflTransGen)

theorem Move.subset (hm : Move A v v') : v.calls ⊆ v'.calls := by
  cases hm <;> simp [View.emit, View.put]

theorem subset_of_moves (h : ReflTransGen (Move A) v v') : v.calls ⊆ v'.calls := by
  induction h with
  | refl => exact List.Subset.refl _
  | tail _ hm ih => exact List.Subset.trans ih hm.subset

theorem good_of_moves (h : Good A v) (hm : ReflTransGen (Move A) v v') : Good A v' := by
  induction hm with
  | refl => exact h
  | tail _ hm ih => exact hm.good ih

end TrustTunnel.Traffic.Moves

import TrustTunnel.Lib.Transition
import TrustTunnel.Upstream.Http3.Moves

namespace TrustTunnel.Upstream.Http3.Acts

open Connections Http3Upstream Lib.Assoc Moves Upstream.Types List
open Relation (ReflTransGen)

variable {conn : TcpConnection}

structure Running where
  upstream : Http3Upstream
  held : List ℕ := []
  doomed : List ℕ := []
  stream : Option ℕ := none
  owed : List UInt8 := []
  due : ℕ := 0
  /-- A connection was put down to be closed after it had been closed. -/
  spoiled : Bool := false

def idle (u : Http3Upstream) : Running := { upstream := u }

inductive Act (env : Env) : Running → Running → Prop
  | move (c : Running) {v : Http3Upstream} (h : Move c.upstream v)
      (hdoomed : c.doomed = [] ∨ Calm c.upstream v) : Act env c { c with upstream := v }
  | muxStream (c : Running) (v : Http3Upstream) (streamId : ℕ)
      (hid : c.upstream.nextStreamId ≤ streamId)
      (hv : v = { c.upstream with
        nextStreamId := streamId + 1
        udpMuxStream := v.udpMuxStream
        icmpMuxStream := v.icmpMuxStream
        healthCheckStream := v.healthCheckStream
        healthCheckFailed := v.healthCheckFailed })
      (hmux : ∀ s, IsMux v s → IsMux c.upstream s ∨ s = streamId) :
      Act env c { c with upstream := v }
  | accept (c : Running) (id skipped : ℕ) (hnew : .accepted id ∉ c.upstream.trace) :
      Act env c
        { c with upstream := (c.upstream.openStream id skipped).emit (.accepted id) }
  | acceptRetriable (c : Running) (id : ℕ) (request : RetriableTcpConnectRequest)
      (hnew : .accepted id ∉ c.upstream.trace) :
      Act env c
        { c with
          upstream := { c.upstream with
            retriableTcpRequests := c.upstream.retriableTcpRequests.insert id request }.emit
            (.accepted id) }
  | hold (c : Running) (requests : List (ℕ × RetriableTcpConnectRequest))
      (h : requests.Perm (pairs c.upstream.retriableTcpRequests)) (hheld : c.held = []) :
      Act env c
        { c with
          held := requests.map Prod.fst
          upstream := { c.upstream with retriableTcpRequests := ∅ } }
  | retried (c : Running) (id skipped : ℕ) (held : List ℕ) (h : c.held = id :: held) :
      Act env c { c with held, upstream := c.upstream.openStream id skipped }
  | dropped (c : Running) (id : ℕ) (e : ServerError) (held : List ℕ) (h : c.held = id :: held)
      (hdoomed : c.doomed = []) :
      Act env c
        { c with
          held
          upstream := (c.upstream.emit (.error id e)).cleanTcpConnectionData id }
  | release (c : Running) (requests : List (ℕ × RetriableTcpConnectRequest))
      (h : requests.map Prod.fst = c.held) (hempty : c.upstream.retriableTcpRequests = ∅) :
      Act env c
        { c with
          held := []
          upstream := { c.upstream with retriableTcpRequests := mapOf requests } }
  | body (c : Running) (streamId : ℕ) (chunk : List UInt8)
      (hid : streamId < c.upstream.nextStreamId) (hidle : c.stream = none ∧ c.due = 0) :
      Act env c
        { c with
          stream := some streamId
          owed := chunk
          due := chunk.length
          upstream := c.upstream.emit (.body streamId chunk) }
  | drop (c : Running) (streamId : ℕ) (hstream : c.stream = some streamId)
      (hnone : c.upstream.tcpConnByStreamId.lookup streamId = none) :
      Act env c
        { c with
          stream := none
          owed := []
          due := 0
          upstream := c.upstream.consumeStream streamId c.due }
  | deliver (c : Running) {v : Http3Upstream} (streamId id n : ℕ)
      (hfail : ¬ (env.init ∧ env.push)) (hstream : c.stream = some streamId)
      (hid : c.upstream.tcpConnByStreamId.lookup streamId = some id)
      (hunread : c.upstream.unreadOf id = []) (hn : n ≤ c.owed.length)
      (h : Calm (c.upstream.emit (.read id c.owed (some n))) v) :
      Act env c
        { c with owed := c.owed.drop n, upstream := v.creditStreamFc streamId n }
  | doom (c : Running) (ids : List ℕ) (hdoomed : c.doomed = []) (hspoiled : c.spoiled = false)
      (hnodup : ids.Nodup)
      (hids : ∀ id ∈ ids, (c.upstream.tcpConnections.lookup id).isSome ∨
        (c.upstream.retriableTcpRequests.lookup id).isSome ∨
        (c.upstream.closingConnections.lookup id).isSome ∨
        (.accepted id ∈ c.upstream.trace ∧ ¬ Over id c.upstream.trace))
      (closing : AList (fun _ : ℕ ↦ Bool)) (task : Bool)
      (hclosing : closing = c.upstream.closingConnections ∨ closing = ∅) :
      Act env c
        { c with
          doomed := ids
          upstream := { c.upstream with
            closingConnections := closing
            closeConnectionsTask := task } }
  | close (c : Running) (id : ℕ) (doomed : List ℕ) (h : c.doomed = id :: doomed)
      (hheld : c.held = []) :
      Act env c
        { c with
          doomed
          upstream := (c.upstream.emit (.connectionClosed id .own
            (c.upstream.unreadOf id))).cleanTcpConnectionData id }
  /-- A synchronous `close_connection` puts the connection that it has closed down to be closed. -/
  | deferAgain (c : Running) (id : ℕ) (graceful : Bool) :
      Act env c { c with spoiled := true, upstream := c.upstream.deferClose id graceful }

abbrev Acting (env : Env) : Running → Running → Prop := ReflTransGen (Act env)

def store (u : Http3Upstream) (id : ℕ) (rest : List UInt8) : Http3Upstream :=
  if rest = [] then u
  else
    { u.modifyConnection id fun conn ↦ { conn with unreadData := some (conn.unread ++ rest) } with
      totalUnreadBytes := u.totalUnreadBytes + rest.length }

/-- The end of `on_body`: data is taken, the rest is stored, and all is credited. -/
inductive Settle : Running → Http3Upstream → Prop
  | stored (c : Running) (streamId id : ℕ) (hstream : c.stream = some streamId)
      (hid : c.upstream.tcpConnByStreamId.lookup streamId = some id)
      (hdue : c.due = c.owed.length) :
      Settle c ((store c.upstream id c.owed).creditConnectionFc c.due)
  | delivered (c : Running) {v : Http3Upstream} (streamId id n : ℕ)
      (hstream : c.stream = some streamId)
      (hid : c.upstream.tcpConnByStreamId.lookup streamId = some id)
      (hdue : c.due = c.owed.length) (hunread : c.upstream.unreadOf id = [])
      (hn : n ≤ c.owed.length) (h : Calm (c.upstream.emit (.read id c.owed (some n))) v) :
      Settle c ((store (v.creditStreamFc streamId n) id (c.owed.drop n)).creditConnectionFc c.due)

section Fields

variable {u : Http3Upstream} {id : ℕ}

theorem clean_of_retriable (h : (u.retriableTcpRequests.lookup id).isSome) :
    u.cleanTcpConnectionData id = { u with
      closingConnections := u.closingConnections.erase id
      retriableTcpRequests := u.retriableTcpRequests.erase id } := by
  simp only [cleanTcpConnectionData]
  rw [if_pos h]

theorem clean_of_none (hr : u.retriableTcpRequests.lookup id = none)
    (hc : u.tcpConnections.lookup id = none) :
    u.cleanTcpConnectionData id = { u with
      closingConnections := u.closingConnections.erase id } := by
  simp only [cleanTcpConnectionData, hr, hc]
  rfl

theorem clean_of_conn (hr : u.retriableTcpRequests.lookup id = none)
    (hc : u.tcpConnections.lookup id = some conn) :
    u.cleanTcpConnectionData id = { u with
      closingConnections := u.closingConnections.erase id
      totalUnreadBytes := u.totalUnreadBytes - conn.unread.length
      tcpConnByStreamId := u.tcpConnByStreamId.erase conn.streamId
      tcpConnections := u.tcpConnections.erase id } := by
  simp only [cleanTcpConnectionData, hr, hc]
  rfl

@[simp] theorem trace_clean : (u.cleanTcpConnectionData id).trace = u.trace := by
  simp only [cleanTcpConnectionData]
  split
  · rfl
  split <;> rfl

@[simp] theorem surplus_clean : (u.cleanTcpConnectionData id).connFcSurplus = u.connFcSurplus := by
  simp only [cleanTcpConnectionData]
  split
  · rfl
  split <;> rfl

theorem retriable_clean (h : u.retriableTcpRequests = ∅) :
    (u.cleanTcpConnectionData id).retriableTcpRequests = ∅ := by
  have hn : u.retriableTcpRequests.lookup id = none := by rw [h, AList.lookup_empty]
  cases hconn : u.tcpConnections.lookup id with
  | none =>
    rw [clean_of_none hn hconn]
    exact h
  | some c =>
    rw [clean_of_conn hn hconn]
    exact h

theorem streamIds_modifyConnection {f : TcpConnection → TcpConnection}
    (hf : ∀ c, (f c).streamId = c.streamId) (i : ℕ) :
    ((u.modifyConnection id f).tcpConnections.lookup i).map TcpConnection.streamId =
      (u.tcpConnections.lookup i).map TcpConnection.streamId := by
  change ((modify u.tcpConnections id f).lookup i).map TcpConnection.streamId = _
  rw [lookup_modify]
  split
  · next hi =>
    rw [hi, Option.map_map]
    exact congrFun (congrArg Option.map (funext hf)) _
  · rfl

theorem creditStreamFc_fields (si n : ℕ) :
    ∃ es, u.creditStreamFc si n = { u with
      trace := u.trace ++ es
      connFcSurplus := u.connFcSurplus + n } ∧ (n = 0 ∧ es = [] ∨ es = [.consumeStream si n]) := by
  rw [creditStreamFc]
  split
  · next h => exact ⟨[], by simp [h], .inl ⟨h, rfl⟩⟩
  · exact ⟨[.consumeStream si n], rfl, .inr rfl⟩

theorem creditConnectionFc_fields (l : ℕ) :
    ∃ es, u.creditConnectionFc l = { u with
      trace := u.trace ++ es
      connFcSurplus := u.connFcSurplus - l } ∧
      (l ≤ u.connFcSurplus ∧ es = [] ∨
        u.connFcSurplus < l ∧ es = [.consumeConnection (l - u.connFcSurplus)]) := by
  simp only [creditConnectionFc]
  by_cases hzero : l = 0
  · exact ⟨[], by simp [hzero], .inl ⟨by omega, rfl⟩⟩
  · by_cases hle : l ≤ u.connFcSurplus
    · exact ⟨[], by simp [h3ConnCreditToExtend, hzero, hle], .inl ⟨hle, rfl⟩⟩
    · have hs : u.connFcSurplus - l = 0 := by omega
      refine ⟨[.consumeConnection (l - u.connFcSurplus)], ?_, .inr ⟨by omega, rfl⟩⟩
      rw [hs]
      simp only [h3ConnCreditToExtend, hzero, hle, if_false, emit]
      rw [if_pos (by omega)]

theorem isSome_lookup_mapOf (rs : List (ℕ × RetriableTcpConnectRequest)) :
    ((mapOf rs).lookup id).isSome ↔ id ∈ rs.map Prod.fst := by
  induction rs with
  | nil => simp [mapOf]
  | cons r rs ih =>
    have hm : mapOf (r :: rs) = (mapOf rs).insert r.1 r.2 := rfl
    rw [hm, lookup_insert, map_cons, mem_cons, ← ih]
    split
    · next h => simp [h]
    · next h => simp [h]

theorem mem_keys_pairs {β : Type} (map : AList (fun _ : ℕ ↦ β)) :
    id ∈ (pairs map).map Prod.fst ↔ (map.lookup id).isSome := by
  rw [AList.lookup_isSome, AList.mem_keys, pairs, map_map]
  rfl

theorem nodup_keys_pairs {β : Type} (map : AList (fun _ : ℕ ↦ β)) :
    ((pairs map).map Prod.fst).Nodup := by
  rw [pairs, map_map]
  exact map.nodupKeys

end Fields

def onStream : Event → Option ℕ
  | .body streamId _ => some streamId
  | .consumeStream streamId _ => some streamId
  | _ => none

/-- The stream of a connection. -/
def streamOf (u : Http3Upstream) (id : ℕ) : Option ℕ :=
  (u.tcpConnections.lookup id).map TcpConnection.streamId

structure Tables (c : Running) : Prop where
  pair : ∀ s id, c.upstream.tcpConnByStreamId.lookup s = some id ↔ streamOf c.upstream id = some s
  fresh : ∀ s, c.upstream.nextStreamId ≤ s → c.upstream.tcpConnByStreamId.lookup s = none
  mux : ∀ s, IsMux c.upstream s →
    s < c.upstream.nextStreamId ∧ c.upstream.tcpConnByStreamId.lookup s = none
  used_lt : ∀ e ∈ c.upstream.trace, ∀ s, onStream e = some s → s < c.upstream.nextStreamId
  stream_lt : ∀ s, c.stream = some s → s < c.upstream.nextStreamId
  attached : ∀ id, (streamOf c.upstream id).isSome → .accepted id ∈ c.upstream.trace ∧
    c.upstream.retriableTcpRequests.lookup id = none ∧ id ∉ c.held
  waiting : ∀ id, (c.upstream.retriableTcpRequests.lookup id).isSome ∨ id ∈ c.held →
    .accepted id ∈ c.upstream.trace
  nodup : c.held.Nodup
  held : ∀ id ∈ c.held, c.upstream.retriableTcpRequests.lookup id = none

namespace Tables

variable {env : Env} {c d : Running} {v : Http3Upstream} {id : ℕ}

theorem conn_of_stream (h : Tables c) (s id : ℕ)
    (hs : c.upstream.tcpConnByStreamId.lookup s = some id) :
    ∃ conn, c.upstream.tcpConnections.lookup id = some conn ∧ conn.streamId = s :=
  Option.map_eq_some_iff.1 ((h.pair s id).1 hs)

theorem stream_of_conn (h : Tables c) (id : ℕ) (conn : TcpConnection)
    (hn : c.upstream.tcpConnections.lookup id = some conn) :
    c.upstream.tcpConnByStreamId.lookup conn.streamId = some id :=
  (h.pair _ id).2 (Option.map_eq_some_iff.2 ⟨conn, hn, rfl⟩)

theorem connected (h : Tables c) (id : ℕ) (hi : (c.upstream.tcpConnections.lookup id).isSome) :
    .accepted id ∈ c.upstream.trace ∧ c.upstream.retriableTcpRequests.lookup id = none ∧
      id ∉ c.held :=
  h.attached id (by rwa [streamOf, Option.isSome_map])

theorem of_same (h : Tables c) (es : List Event)
    (hcs : ∀ id, streamOf v id = streamOf c.upstream id)
    (hb : v.tcpConnByStreamId = c.upstream.tcpConnByStreamId)
    (hr : v.retriableTcpRequests = c.upstream.retriableTcpRequests)
    (ht : v.nextStreamId = c.upstream.nextStreamId)
    (hx : ∀ s, IsMux v s → IsMux c.upstream s)
    (htr : v.trace = c.upstream.trace ++ es)
    (hes : ∀ e ∈ es, ∀ s, onStream e = some s → s < c.upstream.nextStreamId) :
    Tables { c with upstream := v } := by
  obtain ⟨hp, hl, hm, hu, hs, ha, hw, hn, hh⟩ := h
  constructor <;> grind

theorem calm (h : Tables c) (hm : Calm c.upstream v) : Tables { c with upstream := v } := by
  obtain ⟨es, ht, hes⟩ := hm.events
  refine h.of_same es hm.streamIds hm.byStream hm.retriable hm.nextStreamId hm.mux
    ht fun e he s hs ↦ ?_
  have hl := hes e he
  cases e <;> cases hs <;> cases hl

theorem emit (h : Tables c) {e : Event}
    (he : ∀ s, onStream e = some s → s < c.upstream.nextStreamId) :
    Tables { c with upstream := c.upstream.emit e } :=
  h.of_same [e] (fun _ ↦ rfl) rfl rfl rfl (fun _ hs ↦ hs) rfl (by simpa using he)

theorem modifyConnection (h : Tables c) (f : TcpConnection → TcpConnection)
    (hf : ∀ cn, (f cn).streamId = cn.streamId) (t : ℕ) :
    Tables { c with upstream := { c.upstream.modifyConnection id f with totalUnreadBytes := t } } :=
  h.of_same [] (streamIds_modifyConnection hf) rfl rfl rfl (fun _ hs ↦ hs)
    (by simp [Http3Upstream.modifyConnection]) (by simp)

theorem creditStreamFc (h : Tables c) {si : ℕ} (hi : si < c.upstream.nextStreamId)
    (n : ℕ) : Tables { c with upstream := c.upstream.creditStreamFc si n } := by
  obtain ⟨es, hq, hes⟩ := creditStreamFc_fields (u := c.upstream) si n
  rw [hq]
  refine h.of_same es (fun _ ↦ rfl) rfl rfl rfl (fun _ hs ↦ hs) rfl ?_
  grind [onStream]

theorem creditConnectionFc (h : Tables c) (l : ℕ) :
    Tables { c with upstream := c.upstream.creditConnectionFc l } := by
  obtain ⟨es, hq, hes⟩ := creditConnectionFc_fields (u := c.upstream) l
  rw [hq]
  refine h.of_same es (fun _ ↦ rfl) rfl rfl rfl (fun _ hs ↦ hs) rfl ?_
  grind [onStream]

theorem stream_lt_of_conn (h : Tables c) (hn : c.upstream.tcpConnections.lookup id = some conn) :
    conn.streamId < c.upstream.nextStreamId := by
  have hs := h.stream_of_conn id conn hn
  have hf := h.fresh conn.streamId
  grind

theorem eq_of_streamId (h : Tables c) {i : ℕ} {c' : TcpConnection}
    (hn : c.upstream.tcpConnections.lookup id = some conn)
    (h' : c.upstream.tcpConnections.lookup i = some c')
    (hr : conn.streamId = c'.streamId) : id = i := by
  have hi := h.stream_of_conn id conn hn
  rw [hr, h.stream_of_conn i c' h', Option.some.injEq] at hi
  exact hi.symm

theorem tail (h : Tables c) {held : List ℕ} (hd : c.held = id :: held) :
    Tables { c with held } := by
  obtain ⟨hp, hl, hm, hu, hs, ha, hw, hn, hh⟩ := h
  constructor <;> grind

theorem clean (h : Tables c) (id : ℕ) :
    Tables { c with upstream := c.upstream.cleanTcpConnectionData id } := by
  obtain ⟨hp, hl, hm, hu, hs, ha, hw, hn, hh⟩ := h
  by_cases hr : (c.upstream.retriableTcpRequests.lookup id).isSome
  · rw [clean_of_retriable hr]
    constructor <;> grind [lookup_erase, streamOf, IsMux]
  rw [Option.not_isSome_iff_eq_none] at hr
  cases hc : c.upstream.tcpConnections.lookup id with
  | none =>
    rw [clean_of_none hr hc]
    exact ⟨hp, hl, hm, hu, hs, ha, hw, hn, hh⟩
  | some cn =>
    have hi : streamOf c.upstream id = some cn.streamId := by rw [streamOf, hc, Option.map_some]
    have he : ∀ i, streamOf (c.upstream.cleanTcpConnectionData id) i =
        if i = id then none else streamOf c.upstream i := fun i ↦ by
      rw [clean_of_conn hr hc, streamOf, lookup_erase]
      split <;> rfl
    have hps : ∀ s i, (c.upstream.tcpConnByStreamId.erase cn.streamId).lookup s = some i ↔
        streamOf (c.upstream.cleanTcpConnectionData id) i = some s := fun s i ↦ by
      have hsi := hp s i
      have hsd := hp s id
      rw [he, lookup_erase]
      grind
    rw [clean_of_conn hr hc] at he hps ⊢
    refine ⟨hps, ?_, ?_, hu, hs, ?_, hw, hn, hh⟩ <;> grind [lookup_erase, IsMux]

theorem openStream (h : Tables c) (skipped : ℕ) (hn : c.upstream.tcpConnections.lookup id = none)
    (ht : c.upstream.retriableTcpRequests.lookup id = none) (hd : id ∉ c.held)
    (ha : .accepted id ∈ c.upstream.trace) :
    Tables { c with upstream := c.upstream.openStream id skipped } := by
  obtain ⟨hp, hl, hm, hu, hs, hk, hw, hnd, hh⟩ := h
  constructor <;> grind [lookup_insert, streamOf, IsMux, Http3Upstream.openStream]

theorem move (h : Tables c) (hm : Move c.upstream v) : Tables { c with upstream := v } := by
  cases hm with
  | calm hc => exact h.calm hc
  | tell id e hi he =>
    refine h.emit fun s hs ↦ ?_
    rcases he with rfl | ⟨n, rfl⟩ <;> cases hs
  | pass id data r hi hr =>
    refine h.emit fun s hs ↦ ?_
    cases hs
  | @take w id conn data r hn ht ho hr hc =>
    have ha : Tables { c with upstream := c.upstream.emit (.read id data (some r)) } :=
      h.emit fun s hs ↦ (by cases hs)
    have hl := h.stream_lt_of_conn hn
    rw [← show w.nextStreamId = c.upstream.nextStreamId from hc.nextStreamId] at hl
    have hd : Tables { c with upstream := w.drain id r } :=
      (ha.calm hc).modifyConnection
        (fun conn ↦ { conn with unreadData := some (conn.unread.drop r) }) (fun _ ↦ rfl) _
    exact hd.creditStreamFc hl r
  | finish id e hi he hp =>
    refine (h.emit fun s hs ↦ ?_).clean id
    cases e <;> cases hs <;> cases he

/-- The step lemma: the tables stay inverse to each other. -/
theorem act (h : Tables c) (ha : Act env c d) : Tables d := by
  cases ha with
  | move hm hc => exact h.move hm
  | muxStream v si hid hv hx =>
    rw [hv] at hx ⊢
    obtain ⟨hp, hl, hm, hu, hs, hk, hw, hnd, hh⟩ := h
    constructor <;> grind [streamOf]
  | accept id sd hw =>
    have ht : Tables { c with upstream := c.upstream.emit (.accepted id) } :=
      h.emit fun s hs ↦ (by cases hs)
    refine ht.openStream sd ?_ ?_ (fun hh ↦ hw (h.waiting id (.inr hh))) mem_concat_self
    · exact Option.not_isSome_iff_eq_none.1 fun ho ↦ hw (h.connected id ho).1
    · exact Option.not_isSome_iff_eq_none.1 fun ho ↦ hw (h.waiting id (.inl ho))
  | acceptRetriable id r hw =>
    obtain ⟨hp, hl, hm, hu, hs, hk, hw, hnd, hh⟩ := h
    constructor <;> grind [streamOf, IsMux, lookup_insert, onStream, Http3Upstream.emit]
  | hold rs hp hh =>
    have hd := hp.map Prod.fst
    have hme : ∀ i, i ∈ rs.map Prod.fst → (c.upstream.retriableTcpRequests.lookup i).isSome :=
      fun i hi ↦ (mem_keys_pairs _).1 (hd.mem_iff.1 hi)
    have hnn := hd.nodup_iff.2 (nodup_keys_pairs _)
    obtain ⟨hp, hl, hm, hu, hs, hk, hw, hnd, hh⟩ := h
    constructor <;> grind [streamOf, IsMux, AList.lookup_empty]
  | retried id sd held hh =>
    have hme : id ∈ c.held := hh ▸ mem_cons_self
    refine (h.tail hh).openStream sd ?_ (h.held id hme) ?_ (h.waiting id (.inr hme))
    · exact Option.not_isSome_iff_eq_none.1 fun ho ↦ (h.connected id ho).2.2 hme
    · exact (nodup_cons.1 (hh ▸ h.nodup)).1
  | dropped id e held hh hie =>
    refine ((h.tail hh).emit fun s hs ↦ ?_).clean id
    cases hs
  | release rs hd hem =>
    have hma : ∀ i, (mapOf rs).lookup i ≠ none ↔ i ∈ c.held := fun i ↦ by
      rw [← hd, ← isSome_lookup_mapOf, Option.isSome_iff_ne_none]
    obtain ⟨hp, hl, hm, hu, hs, hk, hw, hnd, hh⟩ := h
    constructor <;> grind [streamOf, IsMux]
  | body si ck hid hie =>
    have ht : Tables { c with upstream := c.upstream.emit (.body si ck) } :=
      h.emit fun s hs ↦ (by cases hs; exact hid)
    exact { ht with stream_lt := fun s hs ↦ (by cases hs; exact hid) }
  | drop si hst hno =>
    have ht : Tables { c with upstream := c.upstream.consumeStream si c.due } :=
      h.emit fun s hs ↦ (by cases hs; exact h.stream_lt si hst)
    exact { ht with stream_lt := fun s hs ↦ (by cases hs) }
  | @deliver v si id n hf hst hid hu hn hc =>
    have hr : Tables { c with upstream := c.upstream.emit (.read id c.owed (some n)) } :=
      h.emit fun s hs ↦ (by cases hs)
    have hl : si < v.nextStreamId := by
      rw [show v.nextStreamId = c.upstream.nextStreamId from hc.nextStreamId]
      exact h.stream_lt si hst
    have hcr := (hr.calm hc).creditStreamFc hl n
    exact { hcr with }
  | doom => exact { h with }
  | close id dd hdm hh =>
    have hcl := (h.emit (e := .connectionClosed id .own (c.upstream.unreadOf id))
      fun s hs ↦ (by cases hs)).clean id
    exact { hcl with }
  | deferAgain => exact { h with }

theorem acting (h : Tables c) (hs : Acting env c d) : Tables d := by
  induction hs with
  | refl => exact h
  | tail _ ha ih => exact ih.act ha

end Tables

end TrustTunnel.Upstream.Http3.Acts

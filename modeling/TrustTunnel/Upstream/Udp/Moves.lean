import Mathlib.Logic.Relation
import TrustTunnel.Upstream.Udp.Multiplexer

namespace TrustTunnel.Upstream.Udp.Moves

open Net.Address Upstream.Types Udp.Multiplexer HttpUdpMultiplexer Option

structure Rules where
  /-- Connections that are not there may be closed. -/
  unchecked : Prop
  /-- A stream may be started while the error of an earlier one is kept. -/
  leftover : Prop

def Ends (id : ℕ) (h : Happening) : Prop := h = .connectionClosed id ∨ ∃ e, h = .error id e

inductive Neutral : Happening → Prop
  | sendData (streamId : ℕ) (packet : List UInt8) : Neutral (.sendData streamId packet)
  | consume (streamId size : ℕ) : Neutral (.consume streamId size)
  | connectionOpened (id : ℕ) : Neutral (.connectionOpened id)
  | dataSent (id length : ℕ) : Neutral (.dataSent id length)

variable (A : Rules) in
inductive Move (s : HttpUdpMultiplexer) : HttpUdpMultiplexer → Prop
  | note {h : Happening} : Neutral h → Move s (s.emit h)
  | modify (id : ℕ) (f : Connection → Connection) :
      (∀ conn, (f conn).addr = conn.addr ∧ (f conn).openTask = conn.openTask) →
      Move s (s.modifyConnection id f)
  | prepare (r : RecvConnection) :
      (r.state = .payload → (∃ id ∈ s.connections, r.id = some id) ∨
        s.recvConnection.state = .payload ∧ r.id = s.recvConnection.id) →
      Move s { s with recvConnection := r }
  | start (sm : ℕ) : s.state = .idle → s.pendingError = none ∨ A.leftover →
      Move s { s.emit .connectRequest with streamId := sm, state := .established }
  | accept (id : ℕ) (conn : Connection) : s.state = .established → id ∉ s.connections →
      conn.openTask = true →
      Move s { s.emit (.accepted id conn.addr) with
        connections := s.connections.insert id conn, timerEvent := true }
  | complete (id : ℕ) (conn : Connection) : s.connections.lookup id = some conn →
      Move s { s.modifyConnection id fun conn ↦ { conn with openTask := false } with
        addrToId := s.addrToId.insert conn.addr id }
  | miss (id : ℕ) : s.state = .idle →
      Move s (s.modifyConnection id fun conn ↦ { conn with openTask := false })
  | read (data : List UInt8) : s.recvConnection.state = .payload →
      Move s (s.emit (.read (s.recvConnection.id.getD 0) data))
  | finish (id : ℕ) : id ∈ s.connections → Move s (s.finish (.connectionClosed id) id)
  | stray (id : ℕ) : A.unchecked → Move s (s.emit (.connectionClosed id))
  | respond (sc : ℕ) : Move s (s.handleResponse sc)
  | close (e : ServerError) : Move s (s.close e)

variable (A : Rules) in
abbrev Steps : HttpUdpMultiplexer → HttpUdpMultiplexer → Prop := Relation.ReflTransGen (Move A)

variable {A : Rules} {s t : HttpUdpMultiplexer} {ev : Env}

theorem checkConnection_iff {id : ℕ} : s.checkConnection id = true ↔ id ∈ s.connections :=
  AList.lookup_isSome

theorem mem_of_lookup {id : ℕ} {c : Connection} (h : s.connections.lookup id = some c) :
    id ∈ s.connections := AList.lookup_isSome.1 (by rw [h]; rfl)

theorem finish_eq_of_mem {id : ℕ} (h : id ∈ s.connections) :
    s.closeConnectionNow id = s.finish (.connectionClosed id) id := by
  obtain ⟨c, hc⟩ := isSome_iff_exists.1 (AList.lookup_isSome.2 h)
  simp only [closeConnectionNow, finish, cleanConnectionData, emit, hc]

theorem trace_finish (s : HttpUdpMultiplexer) (e : Happening) (id : ℕ) :
    (s.finish e id).trace = s.trace ++ [e] := by
  unfold finish cleanConnectionData
  split <;> rfl

theorem pendingError_finish (s : HttpUdpMultiplexer) (e : Happening) (id : ℕ) :
    (s.finish e id).pendingError = s.pendingError := by
  unfold finish cleanConnectionData
  split <;> rfl

theorem foldl_finish (e : ℕ → Happening) (ids : List ℕ) (s : HttpUdpMultiplexer) :
    (ids.foldl (fun s id ↦ s.finish (e id) id) s).trace = s.trace ++ ids.map e ∧
    (ids.foldl (fun s id ↦ s.finish (e id) id) s).pendingError = s.pendingError := by
  induction ids generalizing s with
  | nil => simp
  | cons id ids ih =>
    obtain ⟨ht, he⟩ := ih (s.finish (e id) id)
    rw [trace_finish, List.append_assoc] at ht
    rw [pendingError_finish] at he
    exact ⟨ht, he⟩

theorem trace_close (s : HttpUdpMultiplexer) (e : ServerError) :
    (s.close e).trace = s.trace ++ s.connections.keys.map (closeEvent (s.closeError e)) :=
  (foldl_finish _ _ s).1

def Ready (A : Rules) (s : HttpUdpMultiplexer) : Prop :=
  s.state = .established ∨ s.pendingError = none ∨ A.leftover

theorem Ready.of_eq (h : Ready A s) (hs : t.state = s.state)
    (hr : t.pendingError = s.pendingError) : Ready A t := by
  rw [Ready, hs, hr]
  exact h

/-- The moves get from `s` to `t`, and if a stream may be started in `s`, then also in `t`. -/
def Reaches (A : Rules) (s t : HttpUdpMultiplexer) : Prop := Steps A s t ∧ (Ready A s → Ready A t)

theorem Reaches.refl : Reaches A s s := ⟨.refl, fun h ↦ h⟩

theorem Reaches.trans {u : HttpUdpMultiplexer} (h : Reaches A s t) (h' : Reaches A t u) :
    Reaches A s u := ⟨h.1.trans h'.1, fun hs ↦ h'.2 (h.2 hs)⟩

theorem Reaches.single (h : Move A s t) (hst : t.state = s.state)
    (hr : t.pendingError = s.pendingError) : Reaches A s t :=
  ⟨.single h, fun hs ↦ hs.of_eq hst hr⟩

theorem reaches_foldl {ι : Type} {f : HttpUdpMultiplexer → ι → HttpUdpMultiplexer}
    (h : ∀ s i, Reaches A s (f s i)) (is : List ι) : Reaches A s (is.foldl f s) := by
  induction is generalizing s with
  | nil => exact .refl
  | cons i is ih => exact (h s i).trans ih

theorem reaches_modify (id : ℕ) (f : Connection → Connection)
    (hf : ∀ c, (f c).addr = c.addr ∧ (f c).openTask = c.openTask) :
    Reaches A s (s.modifyConnection id f) := .single (.modify id f hf) rfl rfl

theorem reaches_note {h : Happening} (hn : Neutral h) : Reaches A s (s.emit h) :=
  .single (.note hn) rfl rfl

theorem reaches_closeConnectionNow (id : ℕ) : Reaches A s (s.closeConnectionNow id) := by
  by_cases h : id ∈ s.connections
  · obtain ⟨conn, hc⟩ := isSome_iff_exists.1 (AList.lookup_isSome.2 h)
    rw [finish_eq_of_mem h]
    refine .single (.finish id h) ?_ ?_ <;>
      simp [finish, cleanConnectionData, emit, hc]
  · have hn : s.connections.lookup id = none := AList.lookup_eq_none.2 h
    simp only [closeConnectionNow, cleanConnectionData, hn]
    exact .refl

theorem reaches_closeConnection (id : ℕ) (a : Bool) (h : id ∈ s.connections ∨ A.unchecked) :
    Reaches A s (s.closeConnection id a) := by
  cases a with
  | false => exact reaches_closeConnectionNow id
  | true =>
    simp only [closeConnection, if_true]
    split
    · exact reaches_modify id _ fun _ ↦ ⟨rfl, rfl⟩
    · next hc =>
      rcases h with h | h
      · exact absurd (checkConnection_iff.2 h) hc
      · exact .single (.stray id h) rfl rfl

theorem establish_cases {sm : Option ℕ} (h : s.establish sm = some t) :
    s.state = .established ∧ t = s ∨ ∃ id, s.state = .idle ∧
      t = { s.emit .connectRequest with streamId := id, state := .established } := by
  unfold establish at h
  split at h
  · next hs => exact .inl ⟨hs, (some.inj h).symm⟩
  · next hs =>
    obtain ⟨id, -, rfl⟩ := map_eq_some_iff.1 h
    exact .inr ⟨id, hs, rfl⟩

theorem reaches_establish (hr : Ready A s) {sm : Option ℕ}
    (h : s.establish sm = some t) : Reaches A s t := by
  rcases establish_cases h with ⟨-, rfl⟩ | ⟨id, hi, rfl⟩
  · exact .refl
  · have hs : s.pendingError = none ∨ A.leftover := by
      rcases hr with he | h
      · rw [hi] at he
        cases he
      · exact h
    exact ⟨.single (.start id hi hs), fun _ ↦ .inl rfl⟩

theorem reaches_openConnection (hr : Ready A s) (now id : ℕ) (addr : TunnelAddressPair)
    (appName : List UInt8) (stream : Option ℕ) :
    Reaches A s (s.openConnection now id addr appName stream).1 := by
  unfold openConnection
  split
  · exact .refl
  split
  · exact .refl
  next hc =>
  split
  · exact .refl
  next t ht =>
  have hn : id ∉ s.connections := fun h ↦ hc (checkConnection_iff.2 h)
  have he : t.state = .established ∧ t.connections = s.connections := by
    rcases establish_cases ht with ⟨hs, rfl⟩ | ⟨_, -, rfl⟩
    · exact ⟨hs, rfl⟩
    · exact ⟨rfl, rfl⟩
  have ha : Move A t _ := .accept id
    { addr, appName, timeout := now + vpnDefaultUdpTimeoutMs } he.1 (he.2 ▸ hn) rfl
  exact (reaches_establish hr ht).trans (.single ha rfl rfl)

theorem reaches_send (now id : ℕ) (d : List UInt8) (ok : Bool) :
    Reaches A s (s.send now id d ok) := by
  unfold send
  split
  · exact .refl
  split
  · exact .refl
  cases ok with
  | true => exact (reaches_note (.sendData _ _)).trans (reaches_modify id _ fun _ ↦ ⟨rfl, rfl⟩)
  | false => exact reaches_note (.sendData _ _)

def Request.opens : Request → Bool
  | .openConnection .. => true
  | _ => false

theorem reaches_request (hk : env.checks = true ∨ A.unchecked) {r : Request}
    (hr : Request.opens r = true → Ready A s) : Reaches A s (request env s r) := by
  cases r with
  | openConnection id ar an sm =>
    exact reaches_openConnection (hr rfl) env.now id ar an sm
  | closeConnection id a =>
    simp only [request]
    split
    · exact .refl
    · next hc =>
      refine reaches_closeConnection id a ?_
      rcases hk with h | h
      · rw [h, Bool.true_and] at hc
        exact .inl (checkConnection_iff.1 (by simpa using hc))
      · exact .inr h
  | send id d ok => exact reaches_send env.now id d ok
  | setReadEnabled id v => exact reaches_modify id _ fun _ ↦ ⟨rfl, rfl⟩

theorem reaches_requests (h : env.checks = true ∨ A.unchecked) (hd : Ready A s)
    (rs : List Request) : Reaches A s (rs.foldl (request env) s) := by
  induction rs generalizing s with
  | nil => exact .refl
  | cons r rs ih =>
    have hr : Reaches A s (request env s r) := reaches_request h fun _ ↦ hd
    exact hr.trans (ih (hr.2 hd))

theorem reaches_raise (hk : ev.checks = true ∨ A.unchecked) (hrd : Ready A s)
    {e : Happening} (h : Reaches A s (s.emit e)) : Reaches A s (raise ev e s) :=
  h.trans (reaches_requests hk (h.2 hrd) _)

theorem reaches_completeUdpConnection (h : env.checks = true ∨ A.unchecked) (id : ℕ) :
    Reaches A s (completeUdpConnection env s id) := by
  unfold completeUdpConnection
  split
  · exact .refl
  next c hn =>
  cases hs : s.state with
  | idle => exact .single (.miss id hs) rfl rfl
  | established =>
    have hc : Reaches A s _ := .single (.complete id c hn) rfl rfl
    have hr : Ready A s := .inl hs
    exact hc.trans (reaches_raise h (hc.2 hr) (reaches_note (.connectionOpened id)))

theorem reaches_prepare {r : RecvConnection} (h : r.state = .payload →
      (∃ id ∈ s.connections, r.id = some id) ∨
        s.recvConnection.state = .payload ∧ r.id = s.recvConnection.id) :
    Reaches A s { s with recvConnection := r } := .single (.prepare r h) rfl rfl

theorem reaches_clear : Reaches A s { s with recvConnection := {} } :=
  reaches_prepare fun h ↦ by cases h

theorem expect_payload {i : PacketInfo} (h : (s.expect i).state = .payload) :
    ∃ id ∈ s.connections, (s.expect i).id = some id := by
  unfold expect at h ⊢
  split at h
  · next id hi =>
    refine ⟨id, ?_, rfl⟩
    have hr := (filter_eq_some_iff.1 hi).2
    obtain ⟨c, hc, -⟩ := (any_eq_true _ _).1 hr
    exact mem_of_lookup hc
  · cases h

theorem reaches_receive (hk : env.checks = true ∨ A.unchecked) (hr : Ready A s)
    (d : List UInt8) : Reaches A s (receive env s d).1 := by
  cases hs : s.recvConnection.state with
  | idle =>
    simp only [receive, hs]
    split
    · refine reaches_prepare fun h ↦ ?_
      cases h
    · exact reaches_prepare fun h ↦ .inl (expect_payload h)
  | payload =>
    simp only [receive, hs]
    have hm : ∀ id, Reaches A s (s.modifyConnection id fun c ↦
        { c with timeout := env.now + vpnDefaultUdpTimeoutMs }) :=
      fun id ↦ reaches_modify id _ fun _ ↦ ⟨rfl, rfl⟩
    have hp : ∀ id l b, Reaches A s
        { s.modifyConnection id fun c ↦
            { c with timeout := env.now + vpnDefaultUdpTimeoutMs } with
          recvConnection := ⟨.payload, s.recvConnection.id, l, b⟩ } :=
      fun id l b ↦ (hm id).trans (reaches_prepare fun _ ↦ .inr ⟨hs, rfl⟩)
    split
    · refine ((hp _ _ _).trans (reaches_raise hk ((hp _ _ _).2 hr) ?_)).trans
        reaches_clear
      exact .single (.read _ rfl) rfl rfl
    · exact hp _ _ _
  | dropping =>
    simp only [receive, hs]
    split
    · exact reaches_clear
    · refine reaches_prepare fun h ↦ ?_
      cases h

theorem reaches_receiveLoop (h : env.checks = true ∨ A.unchecked) (hd : Ready A s)
    (f : ℕ) (d : List UInt8) : Reaches A s (receiveLoop env f s d) := by
  induction f generalizing s d with
  | zero => exact .refl
  | succ f ih =>
    simp only [receiveLoop]
    split
    · exact .refl
    · have hr : Reaches A s (receive env s d).1 := reaches_receive h hd d
      exact hr.trans (ih (hr.2 hd) _)

theorem reaches_processReadEvent (h : ev.checks = true ∨ A.unchecked) (hrd : Ready A s)
    (d : List UInt8) : Reaches A s (processReadEvent ev s d) :=
  (reaches_receiveLoop h hrd _ d).trans (reaches_note (.consume _ _))

theorem reaches_timerCallback (n : ℕ) : Reaches A s (s.timerCallback n) := by
  refine reaches_foldl (fun s id ↦ ?_) _
  split
  · exact reaches_closeConnectionNow id
  · exact .refl

theorem reaches_reportSentBytes : Reaches A s s.reportSentBytes := by
  refine reaches_foldl (fun s id ↦ ?_) _
  split
  · exact .refl
  split
  · exact (reaches_note (.dataSent id _)).trans (reaches_modify id _ fun _ ↦ ⟨rfl, rfl⟩)
  · exact .refl

def Meets (A : Rules) (s : HttpUdpMultiplexer) (label : Env × Input) : Prop :=
  (label.1.checks = true ∨ A.unchecked) ∧
    ∀ r, label.2 = .request r → Request.opens r = true → Ready A s

/-- An input is a run of the moves. -/
theorem step_steps {l : Env × Input} (h : Meets A s l) (hp : step s l = some t) : Steps A s t := by
  obtain ⟨env, i⟩ := l
  obtain ⟨hc, hr⟩ := h
  unfold step at hp
  split at hp
  · next he =>
    cases hp
    cases i with
    | request r => exact (reaches_request hc (hr r rfl)).1
    | openTask id => exact (reaches_completeUdpConnection hc id).1
    | closeTask id => exact (reaches_closeConnectionNow id).1
    | timer => exact (reaches_timerCallback env.now).1
    | processReadEvent d =>
      have hs : s.state = .established := by simpa [enabled] using he
      exact (reaches_processReadEvent hc (.inl hs) d).1
    | handleResponse sc => exact .single (.respond sc)
    | reportSentBytes => exact reaches_reportSentBytes.1
    | close e => exact .single (.close e)
  · cases hp

end TrustTunnel.Upstream.Udp.Moves

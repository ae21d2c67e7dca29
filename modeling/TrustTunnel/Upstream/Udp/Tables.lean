import TrustTunnel.Lib.Transition
import TrustTunnel.Upstream.Udp.Moves

namespace TrustTunnel.Upstream.Udp.Tables

open Function Lib.Transition Net.Address Upstream.Types Udp.Multiplexer Moves HttpUdpMultiplexer
open List Option AList

variable {A : Rules} {s t : HttpUdpMultiplexer} {id : ℕ} {addr : TunnelAddressPair} {task : Bool}
  {et h : Happening} {trace : List Happening}

abbrev Live := List (ℕ × TunnelAddressPair)

def liveAfter (live : Live) : Happening → Live
  | .accepted id addr => (id, addr) :: live
  | .connectionClosed id | .error id _ => live.filter fun entry ↦ entry.1 ≠ id
  | _ => live

/-- The connections that were accepted and have not got their last event since. -/
def live (trace : List Happening) : Live := trace.foldl liveAfter []

def Along (allowed : Live → Happening → Prop) : Live → List Happening → Prop
  | _, [] => True
  | live, h :: rest => allowed live h ∧ Along allowed (liveAfter live h) rest

instance decidableAlong (allowed : Live → Happening → Prop) [∀ l h, Decidable (allowed l h)] :
    ∀ live trace, Decidable (Along allowed live trace)
  | _, [] => .isTrue trivial
  | live, h :: rest =>
    have := decidableAlong allowed (liveAfter live h) rest
    inferInstanceAs (Decidable (_ ∧ _))

def OtherAddresses (live : Live) : Happening → Prop
  | .accepted _ addr => ∀ entry ∈ live, entry.2 ≠ addr
  | _ => True

instance (live : Live) (h : Happening) : Decidable (OtherAddresses live h) := by
  unfold OtherAddresses
  split <;> infer_instance

def Distinct (trace : List Happening) : Prop := Along OtherAddresses [] trace

instance (trace : List Happening) : Decidable (Distinct trace) := decidableAlong _ _ _

inductive Concerns (id : ℕ) : Happening → Prop
  | read (data : List UInt8) : Concerns id (.read id data)
  | ends {h : Happening} : Ends id h → Concerns id h

def OfLive (live : Live) (h : Happening) : Prop :=
  ∀ id, Concerns id h → ∃ entry ∈ live, entry.1 = id

def Orderly (trace : List Happening) : Prop := Along OfLive [] trace

theorem live_append (t : List Happening) (h : Happening) :
    live (t ++ [h]) = liveAfter (live t) h := by
  rw [live, foldl_append]
  rfl

theorem along_append {ad : Live → Happening → Prop} {l : Live} {a b : List Happening} :
    Along ad l (a ++ b) ↔ Along ad l a ∧ Along ad (a.foldl liveAfter l) b := by
  induction a generalizing l with
  | nil => simp [Along]
  | cons h a ih => simp only [cons_append, Along, ih, foldl_cons, and_assoc]

theorem Orderly.append (ht : Orderly trace) (hh : OfLive (live trace) h) : Orderly (trace ++ [h]) :=
  along_append.2 ⟨ht, hh, trivial⟩

theorem Distinct.accepted (h : Distinct (trace ++ [.accepted id addr])) :
    ∀ e ∈ live trace, e.2 ≠ addr := (along_append.1 h).2.1

theorem ofLive_of_neutral (hn : Neutral h) (l : Live) : OfLive l h := by
  intro k hk
  cases hn <;> rcases hk with _ | (hk | ⟨e, hk⟩) <;> cases hk

theorem liveAfter_of_ends (he : Ends id h) (l : Live) :
    liveAfter l h = l.filter fun ey ↦ ey.1 ≠ id := by
  rcases he with rfl | ⟨e, rfl⟩ <;> rfl

theorem accepted_of_live {l : Live} (hl : ∀ ey ∈ l, ey.1 ≠ id)
    (h : ∃ ey ∈ trace.foldl liveAfter l, ey.1 = id) : ∃ a, .accepted id a ∈ trace := by
  induction trace generalizing l with
  | nil =>
    obtain ⟨ey, he, hi⟩ := h
    exact absurd hi (hl ey he)
  | cons x trace ih =>
    by_cases hx : ∃ a, x = .accepted id a
    · obtain ⟨a, rfl⟩ := hx
      exact ⟨a, mem_cons_self⟩
    · have hn : ∀ ey ∈ liveAfter l x, ey.1 ≠ id := by
        intro ey he
        cases x with
        | accepted k a =>
          rcases mem_cons.1 he with rfl | he
          · rintro rfl
            exact hx ⟨a, rfl⟩
          · exact hl ey he
        | connectionClosed k => exact hl ey (mem_of_mem_filter he)
        | error k e => exact hl ey (mem_of_mem_filter he)
        | _ => exact hl ey he
      obtain ⟨a, ha⟩ := ih hn h
      exact ⟨a, mem_cons_of_mem x ha⟩

theorem Orderly.accepted_between {a b c : List Happening} {e : Happening}
    (ht : Orderly (a ++ e :: b ++ h :: c)) (he : Ends id e) (hh : Concerns id h) :
    ∃ ar, .accepted id ar ∈ b := by
  have hl := (along_append.1 ht).2.1 id hh
  rw [foldl_append, foldl_cons, liveAfter_of_ends he] at hl
  exact accepted_of_live (fun ey hm ↦ by simpa using (mem_filter.1 hm).2) hl

/-- The addresses of a connection that is there, and whether it still waits for its task. -/
def shape (s : HttpUdpMultiplexer) (id : ℕ) : Option (TunnelAddressPair × Bool) :=
  (s.connections.lookup id).map fun conn ↦ (conn.addr, conn.openTask)

theorem mem_iff_shape : id ∈ s.connections ↔ (shape s id).isSome := by
  rw [shape, isSome_map, lookup_isSome]

/-- The shapes of the connections agree with the table `ref` from the addresses of the completed
ones, and with the connections that live. -/
structure Filed (shape : ℕ → Option (TunnelAddressPair × Bool))
    (ref : TunnelAddressPair → Option ℕ) (live : Live) : Prop where
  distinct : ∀ id id' addr task task', shape id = some (addr, task) →
    shape id' = some (addr, task') → id = id'
  addrs : ∀ addr id, ref addr = some id ↔ shape id = some (addr, false)
  live : ∀ id addr, (id, addr) ∈ live ↔ (shape id).map Prod.fst = some addr

namespace Filed

variable {shape : ℕ → Option (TunnelAddressPair × Bool)} {ref : TunnelAddressPair → Option ℕ}
  {live : Live}

theorem accept (h : Filed shape ref live) (hn : shape id = none)
    (ho : ∀ entry ∈ live, entry.2 ≠ addr) :
    Filed (update shape id (some (addr, true))) ref ((id, addr) :: live) := by
  obtain ⟨hd, ha, hl⟩ := h
  have ho : ∀ k task, shape k ≠ some (addr, task) := fun k task hk ↦
    ho (k, addr) ((hl k addr).2 (by rw [hk]; rfl)) rfl
  constructor <;> grind

theorem complete (h : Filed shape ref live) (hs : shape id = some (addr, task)) :
    Filed (update shape id (some (addr, false))) (update ref addr (some id)) live := by
  obtain ⟨hd, ha, hl⟩ := h
  constructor <;> grind

theorem finish (h : Filed shape ref live) (hs : shape id = some (addr, task)) :
    Filed (update shape id none) (update ref addr none)
      (live.filter fun entry ↦ entry.1 ≠ id) := by
  obtain ⟨hd, ha, hl⟩ := h
  constructor <;> grind

end Filed

structure Good (s : HttpUdpMultiplexer) : Prop where
  idle : s.state = .idle → ∀ id, shape s id = none
  filed : Filed (shape s) (fun addr ↦ s.addrToId.lookup addr) (live s.trace)
  recv : s.recvConnection.state = .payload →
    ∃ id, s.recvConnection.id = some id ∧ (shape s id).isSome
  orderly : Orderly s.trace

theorem Good.of_shape (h : Good s) (ht : t.state = s.state) (hh : shape t = shape s)
    (hs : t.addrToId = s.addrToId) (hv : t.recvConnection = s.recvConnection)
    (he : Tables.live t.trace = Tables.live s.trace) (hd : Orderly t.trace) : Good t where
  idle := by
    rw [ht, hh]
    exact h.idle
  filed := by
    rw [he, hh, hs]
    exact h.filed
  recv := by
    rw [hv, hh]
    exact h.recv
  orderly := hd

theorem Good.emit {e : Happening} (h : Good s)
    (hl : liveAfter (Tables.live s.trace) e = Tables.live s.trace)
    (he : OfLive (Tables.live s.trace) e) : Good (s.emit e) :=
  h.of_shape rfl rfl rfl rfl ((live_append _ _).trans hl) (h.orderly.append he)

theorem shape_modify (s : HttpUdpMultiplexer) (k : ℕ) (f : Connection → Connection) :
    shape (s.modifyConnection k f) =
      update (shape s) k ((s.connections.lookup k).map fun c ↦ ((f c).addr, (f c).openTask)) := by
  funext id
  rw [shape, modifyConnection, Lib.Assoc.lookup_modify]
  split
  · next hk => rw [hk, update_self, Option.map_map]; rfl
  · next hk => rw [update_of_ne hk]; rfl

theorem Good.modify (h : Good s) {k : ℕ} {f : Connection → Connection}
    (hf : ∀ c, (f c).addr = c.addr ∧ (f c).openTask = c.openTask) :
    Good (s.modifyConnection k f) := by
  have hs : shape (s.modifyConnection k f) = shape s := by
    rw [shape_modify]
    simp only [hf]
    exact update_eq_self k (shape s)
  exact h.of_shape rfl hs rfl rfl rfl h.orderly

theorem lookup_erase_update {α β : Type} [DecidableEq α] (m : AList (fun _ : α ↦ β)) (a : α) :
    (fun b ↦ (m.erase a).lookup b) = update (fun b ↦ m.lookup b) a none := by
  funext b
  rw [Lib.Assoc.lookup_erase, update_apply]

theorem finish_eq {e : Happening} (hi : shape s id = some (addr, task)) :
    shape (s.finish e id) = update (shape s) id none ∧
      (s.finish e id).addrToId = s.addrToId.erase addr := by
  obtain ⟨c, hc, ha⟩ := map_eq_some_iff.1 hi
  cases ha
  simp only [finish, cleanConnectionData, emit, hc, and_true]
  funext k
  rw [shape, Lib.Assoc.lookup_erase, update_apply]
  split <;> rfl

theorem recvConnection_finish (hi : shape s id = some (addr, task))
    (h : (s.finish et id).recvConnection.state = .payload) :
    (s.finish et id).recvConnection = s.recvConnection ∧ s.recvConnection.id ≠ some id := by
  obtain ⟨c, hc, -⟩ := map_eq_some_iff.1 hi
  have hr : (s.finish et id).recvConnection = s.recvConnection.abandon id := by
    simp only [finish, cleanConnectionData, emit, hc]
  rw [hr, RecvConnection.abandon] at h ⊢
  split at h
  · cases h
  · next hn => exact ⟨if_neg hn, hn⟩

theorem state_finish (s : HttpUdpMultiplexer) (e : Happening) (id : ℕ) :
    (s.finish e id).state = s.state := by
  unfold finish cleanConnectionData
  split <;> rfl

theorem Good.finish (h : Good s) (hid : id ∈ s.connections) (he : Ends id et) :
    Good (s.finish et id) := by
  obtain ⟨⟨addr, task⟩, ho⟩ := isSome_iff_exists.1 (mem_iff_shape.1 hid)
  obtain ⟨hsh, ha⟩ := finish_eq (e := et) ho
  refine ⟨fun hi k ↦ ?_, ?_, fun hp ↦ ?_, ?_⟩
  · rw [state_finish] at hi
    rw [hsh, update_apply, h.idle hi, ite_self]
  · rw [trace_finish, live_append, liveAfter_of_ends he, hsh, ha, lookup_erase_update]
    exact h.filed.finish ho
  · obtain ⟨hm, hn⟩ := recvConnection_finish ho hp
    rw [hm] at hp ⊢
    obtain ⟨k, hk, hs⟩ := h.recv hp
    refine ⟨k, hk, ?_⟩
    rw [hsh, update_of_ne fun hi ↦ hn (hk.trans (congrArg some hi))]
    exact hs
  · rw [trace_finish]
    refine h.orderly.append ?_
    intro k hk
    have hd : k = id := by
      rcases he with rfl | ⟨e, rfl⟩ <;> rcases hk with _ | (hk | ⟨e', hk⟩) <;> cases hk <;> rfl
    subst hd
    exact ⟨(k, addr), (h.filed.live k addr).2 (by rw [ho]; rfl), rfl⟩

theorem Good.accept {conn : Connection} (h : Good s) (hst : s.state = .established)
    (hn : id ∉ s.connections) (ht : conn.openTask = true)
    (hds : Distinct (s.trace ++ [.accepted id conn.addr])) :
    Good { s.emit (.accepted id conn.addr) with
      connections := s.connections.insert id conn, timerEvent := true } := by
  have hh : shape { s.emit (.accepted id conn.addr) with
      connections := s.connections.insert id conn, timerEvent := true } =
      update (shape s) id (some (conn.addr, true)) := by
    funext k
    rw [shape, Lib.Assoc.lookup_insert, update_apply, ← ht]
    split <;> rfl
  have hr : shape s id = none := by rwa [mem_iff_shape, not_isSome_iff_eq_none] at hn
  refine ⟨fun hi ↦ ?_, ?_, fun hp ↦ ?_, h.orderly.append ?_⟩
  · rw [show s.state = .idle from hi] at hst
    cases hst
  · show Filed (shape _) _ (Tables.live (s.trace ++ [.accepted id conn.addr]))
    rw [hh, live_append]
    exact h.filed.accept hr hds.accepted
  · obtain ⟨k, hk, hs⟩ := h.recv hp
    refine ⟨k, hk, ?_⟩
    rw [hh, update_of_ne]
    · exact hs
    · rintro rfl
      rw [hr] at hs
      cases hs
  · intro k hk
    rcases hk with _ | (hk | ⟨e, hk⟩) <;> cases hk

theorem Good.complete {c : Connection} (h : Good s) (hn : s.connections.lookup id = some c) :
    Good { s.modifyConnection id fun c ↦ { c with openTask := false } with
      addrToId := s.addrToId.insert c.addr id } := by
  have ho : shape s id = some (c.addr, c.openTask) := by rw [shape, hn]; rfl
  have hh : shape { s.modifyConnection id fun c ↦ { c with openTask := false } with
      addrToId := s.addrToId.insert c.addr id } = update (shape s) id (some (c.addr, false)) := by
    have hm := shape_modify s id fun c ↦ { c with openTask := false }
    rw [hn] at hm
    exact hm
  refine ⟨fun hi k ↦ ?_, ?_, fun hp ↦ ?_, h.orderly⟩
  · have he := h.idle hi id
    rw [ho] at he
    cases he
  · have ha : (fun addr ↦ (s.addrToId.insert c.addr id).lookup addr) =
        update (fun addr ↦ s.addrToId.lookup addr) c.addr (some id) := by
      funext addr
      rw [Lib.Assoc.lookup_insert, update_apply]
    rw [hh]
    simp only [ha]
    exact h.filed.complete ho
  · obtain ⟨k, hk, hs⟩ := h.recv hp
    refine ⟨k, hk, ?_⟩
    rw [hh, update_apply]
    split
    · rfl
    · exact hs

theorem Good.read (h : Good s) (hy : s.recvConnection.state = .payload) (d : List UInt8) :
    Good (s.emit (.read (s.recvConnection.id.getD 0) d)) := by
  obtain ⟨k, hk, hs⟩ := h.recv hy
  obtain ⟨⟨a, t⟩, hs⟩ := isSome_iff_exists.1 hs
  rw [hk, getD_some]
  refine h.emit rfl ?_
  intro j hj
  rcases hj with _ | (hj | ⟨e, hj⟩)
  · exact ⟨(k, a), (h.filed.live k a).2 (by rw [hs]; rfl), rfl⟩
  · cases hj
  · cases hj

theorem Good.prepare {r : RecvConnection} (h : Good s) (hr : r.state = .payload →
      (∃ id ∈ s.connections, r.id = some id) ∨
        s.recvConnection.state = .payload ∧ r.id = s.recvConnection.id) :
    Good { s with recvConnection := r } where
  idle := h.idle
  filed := h.filed
  recv := by
    intro hp
    rcases hr hp with ⟨k, hk, hi⟩ | ⟨ho, hi⟩
    · exact ⟨k, hi, mem_iff_shape.1 hk⟩
    · obtain ⟨k, hk, hs⟩ := h.recv ho
      exact ⟨k, hi.trans hk, hs⟩
  orderly := h.orderly

theorem keys_finish (e : Happening) (hi : id ∈ s.connections) :
    (s.finish e id).connections.keys = s.connections.keys.erase id := by
  obtain ⟨c, hc⟩ := isSome_iff_exists.1 (lookup_isSome.2 hi)
  simp only [finish, cleanConnectionData, emit, hc]
  exact keys_erase _ _

theorem Good.finishAll {e : ℕ → Happening} (he : ∀ id, Ends id (e id)) {i : List ℕ}
    (h : Good s) (hs : s.connections.keys = i) :
    Good (i.foldl (fun s id ↦ s.finish (e id) id) s) ∧
      (i.foldl (fun s id ↦ s.finish (e id) id) s).connections.keys = [] := by
  induction i generalizing s with
  | nil => exact ⟨h, hs⟩
  | cons id i ih =>
    have hi : id ∈ s.connections := by
      rw [AList.mem_keys, hs]
      exact mem_cons_self
    refine ih (h.finish hi (he id)) ?_
    rw [keys_finish _ hi, hs, erase_cons_head]

theorem Good.reset (h : Good s) (hs : s.connections.keys = []) : Good s.reset := by
  have hn : ∀ k, shape s k = none := by
    intro k
    rw [← not_isSome_iff_eq_none, ← mem_iff_shape, AList.mem_keys, hs]
    exact not_mem_nil
  have hh : shape s.reset = shape s := rfl
  refine ⟨fun _ ↦ hn, ?_, nofun, h.orderly⟩
  rw [hh]
  refine ⟨h.filed.distinct, fun a k ↦ ?_, h.filed.live⟩
  rw [hn]
  exact ⟨nofun, nofun⟩

theorem ends_closeEvent (r : Option ServerError) (id : ℕ) : Ends id (closeEvent r id) := by
  cases r with
  | none => exact .inl rfl
  | some e => exact .inr ⟨e, rfl⟩

theorem Good.close (h : Good s) (e : ServerError) : Good (s.close e) := by
  obtain ⟨ha, hk⟩ := h.finishAll (ends_closeEvent (s.closeError e)) rfl
  exact ha.reset hk

theorem Good.miss (h : Good s) (he : s.state = .idle) :
    Good (s.modifyConnection id fun c ↦ { c with openTask := false }) := by
  have hn := h.idle he
  refine h.of_shape rfl ?_ rfl rfl rfl h.orderly
  rw [shape_modify, map_eq_none_iff.1 (hn id), map_none, ← hn id, update_eq_self]

theorem Good.start (h : Good s) (sm : ℕ) :
    Good { s.emit .connectRequest with streamId := sm, state := .established } := by
  have he : Good (s.emit .connectRequest) := by
    refine h.emit rfl ?_
    intro k hk
    rcases hk with _ | (hk | ⟨e, hk⟩) <;> cases hk
  exact ⟨nofun, he.filed, he.recv, he.orderly⟩

theorem Good.respond (h : Good s) (sc : ℕ) : Good (s.handleResponse sc) := by
  have he : Good (s.emit (.response sc)) := by
    refine h.emit rfl ?_
    intro k hk
    rcases hk with _ | (hk | ⟨e, hk⟩) <;> cases hk
  unfold handleResponse
  split
  · exact he.of_shape rfl rfl rfl rfl rfl he.orderly
  · exact he

theorem Good.move (hA : ¬ A.unchecked) (hs : Good s) (h : Move A s t) (hd : Distinct t.trace) :
    Good t := by
  cases h with
  | note hn => exact hs.emit (by cases hn <;> rfl) (ofLive_of_neutral hn _)
  | modify id f hf => exact hs.modify hf
  | prepare r hr => exact hs.prepare hr
  | start sm hi ha => exact hs.start sm
  | accept id c hst hw ht => exact hs.accept hst hw ht hd
  | complete id c hc => exact hs.complete hc
  | miss id hi => exact hs.miss hi
  | read d hv => exact hs.read hv d
  | finish id hid => exact hs.finish hid (.inl rfl)
  | stray id hu => exact absurd hu hA
  | respond sc => exact hs.respond sc
  | close e => exact hs.close e

theorem Move.trace_grows (h : Move A s t) : ∃ more, t.trace = s.trace ++ more := by
  cases h with
  | note hn => exact ⟨_, rfl⟩
  | modify id f hf => exact ⟨[], (append_nil _).symm⟩
  | prepare r hr => exact ⟨[], (append_nil _).symm⟩
  | start sm hi hs => exact ⟨_, rfl⟩
  | accept id c hst hw ht => exact ⟨_, rfl⟩
  | complete id c hc => exact ⟨[], (append_nil _).symm⟩
  | miss id hi => exact ⟨[], (append_nil _).symm⟩
  | read d hv => exact ⟨_, rfl⟩
  | finish id hd => exact ⟨_, trace_finish _ _ _⟩
  | stray id hu => exact ⟨_, rfl⟩
  | respond sc =>
    unfold handleResponse
    split <;> exact ⟨_, rfl⟩
  | close e => exact ⟨_, trace_close s e⟩

theorem good_of_steps (hA : ¬ A.unchecked) (h : Steps A s t) (hs : Distinct s.trace → Good s)
    (hd : Distinct t.trace) : Good t := by
  induction h with
  | refl => exact hs hd
  | tail _ hm ih =>
    obtain ⟨m, he⟩ := Move.trace_grows hm
    have hb := hd
    rw [he] at hb
    exact (ih (along_append.1 hb).1).move hA hm hd

def rules : Rules := { unchecked := False, leftover := True }

/-- Connections are closed only by those who have checked that they are there. -/
def checked (_ : HttpUdpMultiplexer) (label : Env × Input) : Prop := label.1.checks = true

instance (s : HttpUdpMultiplexer) (label : Env × Input) : Decidable (checked s label) :=
  inferInstanceAs (Decidable (_ = _))

theorem meets_of_checked {label : Env × Input} (h : checked s label) : Meets rules s label :=
  ⟨.inl h, fun _ _ _ ↦ .inr (.inr trivial)⟩

theorem good_start : Good {} where
  idle _ _ := rfl
  filed := ⟨nofun, fun _ _ ↦ ⟨nofun, nofun⟩, fun _ _ ↦ ⟨nofun, nofun⟩⟩
  recv := nofun
  orderly := trivial

/-- The run lemma, for a trace without equal addresses. -/
theorem good_of_run {ls : List (Env × Input)} {mux : HttpUdpMultiplexer}
    (h : Run step checked {} ls mux) (hd : Distinct mux.trace) : Good mux := by
  refine h.invariant (P := fun s ↦ Distinct s.trace → Good s) (fun _ ↦ good_start) ?_ hd
  intro s l t hs ho hp hd
  exact good_of_steps (A := rules) (fun hf ↦ hf) (step_steps (meets_of_checked ho) hp) hs hd

/-- While no two connections have equal addresses, the addresses lead to the completed ones, a
payload is received for a connection that is there, and after its last event a connection gets
neither data nor another one, unless it is opened again. -/
theorem maps_consistent {labels : List (Env × Input)} {mux : HttpUdpMultiplexer}
    (h : Run step checked {} labels mux) (hd : Distinct mux.trace) :
    (∀ addr id, mux.addrToId.lookup addr = some id ↔
      ∃ conn, mux.connections.lookup id = some conn ∧ conn.openTask = false ∧ conn.addr = addr) ∧
    (mux.recvConnection.state = .payload →
      ∃ id ∈ mux.connections, mux.recvConnection.id = some id) ∧
    ∀ id a e b x c, mux.trace = a ++ e :: b ++ x :: c → Ends id e → Concerns id x →
      ∃ addr, .accepted id addr ∈ b := by
  have hg := good_of_run h hd
  refine ⟨?_, ?_, ?_⟩
  · intro addr id
    rw [hg.filed.addrs, shape, map_eq_some_iff]
    constructor
    · rintro ⟨conn, hc, hq⟩
      obtain ⟨ha, ht⟩ := Prod.mk.inj hq
      exact ⟨conn, hc, ht, ha⟩
    · rintro ⟨conn, hc, ht, ha⟩
      exact ⟨conn, hc, by rw [ht, ha]⟩
  · intro hp
    obtain ⟨id, hi, hs⟩ := hg.recv hp
    exact ⟨id, mem_iff_shape.2 hs, hi⟩
  · intro id a e b x c hr he hx
    have ho := hg.orderly
    rw [hr] at ho
    exact ho.accepted_between he hx

def peer : SocketAddress := ⟨.inet, 0x08080808, 53⟩

def own : SocketAddress := ⟨.inet, 0x0a000001, 4000⟩

def opening : Env × Input :=
  ({}, .request (.openConnection 1 ⟨own, .socketAddress peer⟩ [] (some 1)))

def firstPart : List UInt8 :=
  Net.Wire.putU32 41 ++ Net.Wire.putIpPadded peer ++ Net.Wire.putU16 peer.port ++
    Net.Wire.putIpPadded own ++ Net.Wire.putU16 own.port ++ [7]

/-- The receiver is inside a packet of a connection. -/
theorem maps_consistent_inside_payload : ∃ mux,
    Run step checked {} [opening, ({}, .openTask 1), ({}, .request (.setReadEnabled 1 true)),
      ({}, .processReadEvent firstPart)] mux ∧
    mux.recvConnection.state = .payload ∧ ∃ id ∈ mux.connections, mux.recvConnection.id = some id :=
  exists_run_imp (P := fun mux ↦ mux.recvConnection.state = .payload ∧ Distinct mux.trace)
    (by decide) fun _ hr hp ↦ ⟨hp.1, (maps_consistent hr hp.2).2.1 hp.1⟩

/-- A connection that was closed is closed once more. -/
theorem closed_connection_closes_again : ∃ mux,
    Run step anyStep {} [opening, ({}, .request (.closeConnection 1 false)),
      ({ checks := false }, .request (.closeConnection 1 true))] mux ∧
    Distinct mux.trace ∧ mux.trace = [.connectRequest, .accepted 1 ⟨own, .socketAddress peer⟩] ++
      .connectionClosed 1 :: [] ++ .connectionClosed 1 :: [] :=
  exists_run (by decide)

/-- One turn of the loop of `close`, with a handler that calls back from inside the last event. -/
def finishRaising (env : Env) (mux : HttpUdpMultiplexer) (event : Happening) (id : ℕ) :
    HttpUdpMultiplexer := ((raise env event mux).cleanConnectionData id).1

/-- A handler that closes connection 1 whatever it is told. -/
def closing : Env := { reaction := fun _ ↦ [.closeConnection 1 false] }

/-- A handler that is told of an error closes the connection, which is still there, and is told of
that too. -/
theorem error_then_closed : ∃ mux, Run step checked {} [opening] mux ∧
    Distinct (finishRaising closing mux (.error 1 ⟨1, ""⟩) 1).trace ∧
    (finishRaising closing mux (.error 1 ⟨1, ""⟩) 1).trace =
      [.connectRequest, .accepted 1 ⟨own, .socketAddress peer⟩, .error 1 ⟨1, ""⟩,
        .connectionClosed 1] :=
  exists_run (by decide)

/-- While no two connections have equal addresses, the connections are those that were accepted and
have not got their last event since, and there are none without a stream. -/
theorem connections_are_live {labels : List (Env × Input)} {mux : HttpUdpMultiplexer}
    (h : Run step checked {} labels mux) (hd : Distinct mux.trace) :
    (∀ id addr, (id, addr) ∈ live mux.trace ↔
      ∃ conn, mux.connections.lookup id = some conn ∧ conn.addr = addr) ∧
    (mux.getStreamId = none → mux.connectionsNum = 0) := by
  have hg := good_of_run h hd
  refine ⟨fun id addr ↦ ?_, fun hs ↦ ?_⟩
  · rw [hg.filed.live, shape]
    cases mux.connections.lookup id <;> simp [eq_comm]
  · have hi : mux.state = .idle := by
      cases he : mux.state with
      | idle => rfl
      | established => simp [getStreamId, he] at hs
    rw [connectionsNum, length_eq_zero_iff, eq_nil_iff_forall_not_mem]
    intro e he
    have hs := mem_iff_shape.1 (mem_map_of_mem he : e.1 ∈ mux.connections)
    rw [hg.idle hi] at hs
    cases hs

/-- The second of two connections is left when the first one is closed. -/
theorem connections_are_live_after_close : ∃ mux, Run step checked {} [opening,
      ({}, .request (.openConnection 2 ⟨peer, .socketAddress own⟩ [] none)),
      ({}, .request (.closeConnection 1 false))] mux ∧
    mux.connections.lookup 1 = none ∧
    ∃ conn, mux.connections.lookup 2 = some conn ∧ conn.addr.src = peer :=
  exists_run_imp (P := fun mux ↦ Distinct mux.trace ∧
      live mux.trace = [(2, ⟨peer, .socketAddress own⟩)]) (by decide) fun mux hr hp ↦ by
    obtain ⟨hl, -⟩ := connections_are_live hr hp.1
    rw [hp.2] at hl
    obtain ⟨conn, hc, ha⟩ := (hl 2 _).1 (mem_singleton_self _)
    refine ⟨?_, conn, hc, by rw [ha]⟩
    cases h1 : mux.connections.lookup 1 with
    | none => rfl
    | some c => simpa using (hl 1 c.addr).2 ⟨c, h1, rfl⟩

end TrustTunnel.Upstream.Udp.Tables

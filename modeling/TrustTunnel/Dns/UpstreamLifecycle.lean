import TrustTunnel.Dns.ServerUpstream
import TrustTunnel.Lib.Trace
import TrustTunnel.Lib.Transition

namespace TrustTunnel.Dns.UpstreamLifecycle

open Lib.Assoc Lib.Trace Lib.Transition Net.Address ServerUpstream Traffic.Types UpstreamBase List

variable {frames : List Frame}

/-- `close_connection` was called for an id after `open_connection` had returned it. -/
def Released (id : ℕ) (trace : List Event) : Prop :=
  ∃ before after, trace = before ++ .closeConnection id :: after ∧ .openConnection id ∈ before

section Released

variable {id : ℕ} {t : List Event} {e : Event}

theorem released_concat : Released id (t ++ [e]) ↔
    Released id t ∨ (e = .closeConnection id ∧ .openConnection id ∈ t) := by
  constructor
  · rintro ⟨b, a, h, ho⟩
    rcases eq_nil_or_concat a with rfl | ⟨i, last, rfl⟩
    · obtain ⟨rfl, he⟩ := append_inj' h rfl
      rw [cons.injEq] at he
      exact .inr ⟨he.1, ho⟩
    · rw [concat_eq_append, ← cons_append, ← append_assoc] at h
      exact .inl ⟨b, i, (append_inj' h rfl).1, ho⟩
  · rintro (⟨b, a, rfl, ho⟩ | ⟨rfl, ho⟩)
    · exact ⟨b, a ++ [e], by simp, ho⟩
    · exact ⟨t, [], rfl, ho⟩

end Released

def concerns (e : Event) (id : ℕ) : Prop := e = .connectionOpened id ∨ ∃ data, e = .read id data

/-- How the connection `id` goes with what has happened: whether it is there, and how often it is
awaited and leaving. -/
structure Good (live : Bool) (awaited leaving id : ℕ) (trace : List Event) : Prop where
  awaits : 0 < awaited → live = true
  opened : awaited + trace.count (.connectionOpened id) ≤ 1
  unknown : .openConnection id ∉ trace → live = false ∧ trace.count (.connectionOpened id) = 0 ∧
    leaving + trace.count (.connectionClosed id) = 0
  open_live : live = true → leaving + trace.count (.connectionClosed id) = 0
  closed_gone : live = false → .openConnection id ∈ trace →
    leaving + trace.count (.connectionClosed id) = 1
  released : Released id trace → live = false
  orderly : Guarded (fun before e ↦ concerns e id → ¬ Released id before) trace

def touches (id : ℕ) : Event → Bool
  | .openConnection i | .closeConnection i | .connectionOpened i | .connectionClosed i
  | .read i _ => i == id
  | _ => false

section Good

variable {live : Bool} {a a' l n id : ℕ} {trace : List Event} {e : Event}

theorem good_nil : Good false 0 0 id [] := by
  refine ⟨by simp, by simp, by simp, by simp, by simp, fun _ ↦ rfl, guarded_nil⟩

theorem Good.awaited_eq_zero (h : Good live a l id trace) (hl : live = false) : a = 0 := by
  by_contra hn
  rw [h.awaits (Nat.pos_of_ne_zero hn)] at hl
  cases hl

theorem Good.emit (h : Good live a l id trace) (ho : e ≠ .openConnection id)
    (hc : e ≠ .closeConnection id) (ha : a' + [e].count (.connectionOpened id) = a)
    (hg : n + [e].count (.connectionClosed id) = l) (he : concerns e id → live = true) :
    Good live a' n id (trace ++ [e]) := by
  have hm : .openConnection id ∈ trace ++ [e] ↔ .openConnection id ∈ trace := by simp [ho.symm]
  have hr : Released id (trace ++ [e]) → Released id trace := by simp [released_concat, hc]
  have hp := h.opened
  refine ⟨fun hp ↦ h.awaits (by omega), ?_, fun hu ↦ ?_, fun hl ↦ ?_, fun hl hu ↦ ?_,
    fun hd ↦ h.released (hr hd), h.orderly.concat fun hi hd ↦ ?_⟩
  · rw [count_append]
    omega
  · obtain ⟨hl, hz, hn⟩ := h.unknown (hm.not.1 hu)
    have hz' := h.awaited_eq_zero hl
    rw [count_append, count_append]
    exact ⟨hl, by omega, by omega⟩
  · have hn := h.open_live hl
    rw [count_append]
    omega
  · have hn := h.closed_gone hl (hm.1 hu)
    rw [count_append]
    omega
  · have hl := h.released hd
    rw [he hi] at hl
    cases hl

theorem Good.skip (h : Good live a l id trace) (ht : touches id e = false) :
    Good live a l id (trace ++ [e]) := by
  have hne : ∀ {f}, touches id f = true → e ≠ f := by
    rintro f hf rfl
    rw [ht] at hf
    cases hf
  have hz : ∀ {f}, touches id f = true → [e].count f = 0 := fun hf ↦
    count_eq_zero.2 fun hm ↦ hne hf (mem_singleton.1 hm).symm
  refine h.emit (hne (by simp [touches])) (hne (by simp [touches]))
    (Nat.add_eq_left.2 (hz (by simp [touches]))) (Nat.add_eq_left.2 (hz (by simp [touches])))
    fun hc ↦ ?_
  rcases hc with hc | ⟨d, hc⟩
  · exact absurd hc (hne (by simp [touches]))
  · exact absurd hc (hne (by simp [touches]))

theorem Good.requests (h : Good live a l id trace) (i : ℕ) (ms : List Messages.Message) :
    Good live a l id (trace ++ ms.map (.dnsRequest i)) := by
  induction ms generalizing trace with
  | nil => simpa using h
  | cons m ms ih => simpa using ih (h.skip (e := .dnsRequest i m) rfl)

theorem Good.create (h : Good live a l id trace) (hf : .openConnection id ∉ trace) :
    Good true (a + 1) l id (trace ++ [.openConnection id]) := by
  obtain ⟨hl, ho, hc⟩ := h.unknown hf
  have ha := h.awaited_eq_zero hl
  refine ⟨fun _ ↦ rfl, ?_, fun hu ↦ absurd (by simp) hu, fun _ ↦ ?_, fun hn ↦ (by cases hn),
    fun hr ↦ ?_, h.orderly.concat fun hi ↦ ?_⟩
  · simp [ha, ho]
  · simpa using hc
  · rcases released_concat.1 hr with ⟨b, after, rfl, hm⟩ | ⟨he, -⟩
    · exact absurd (mem_append_left _ hm) hf
    · cases he
  · rcases hi with hi | ⟨d, hi⟩ <;> cases hi

theorem Good.close (h : Good live a l id trace) (ha : a = 0)
    (hl : n = l + if live then 1 else 0) : Good false 0 n id (trace ++ [.closeConnection id]) := by
  have hp := h.opened
  refine ⟨by simp, ?_, fun hu ↦ ?_, fun hn ↦ (by cases hn), fun _ hu ↦ ?_, fun _ ↦ rfl,
    h.orderly.concat fun hi ↦ ?_⟩
  · simpa [ha] using hp
  · obtain ⟨hf, hz, hn⟩ := h.unknown fun hm ↦ hu (mem_append_left _ hm)
    simpa [hl, hf, hz] using hn
  · have hu : .openConnection id ∈ trace := by simpa using hu
    cases live with
    | false => simpa [hl] using h.closed_gone rfl hu
    | true =>
      have hn := h.open_live rfl
      simp only [hl, if_true, count_append, count_singleton]
      simp only [beq_iff_eq, reduceCtorEq, if_false]
      omega
  · rcases hi with hi | ⟨d, hi⟩ <;> cases hi

end Good

/-- The connections whose open event a function that is running still has to raise. -/
def opens : Frame → List ℕ
  | .opening ids => ids
  | _ => []

def closes : Frame → List ℕ
  | .closing ids => ids
  | .removed id _ => [id]
  | _ => []

def responds : Frame → Option ℕ
  | .responded id | .raised id => some id
  | _ => none

def awaiting (u : UpstreamBase) : List ℕ := u.newConnections ++ u.frames.flatMap opens

def leaving (u : UpstreamBase) : List ℕ := u.closedConnections ++ u.frames.flatMap closes

def live (u : UpstreamBase) (id : ℕ) : Bool := (u.connections.lookup id).isSome

/-- A connection is closed and answered only after its open event. -/
def Announced (u : UpstreamBase) : Input → Prop
  | .closeConnection id _ => id ∉ awaiting u
  | .sendResponse id _ => id ∉ awaiting u
  | _ => True

instance (u : UpstreamBase) (input : Input) : Decidable (Announced u input) := by
  cases input <;> simp only [Announced] <;> infer_instance

structure Sane (u : UpstreamBase) : Prop where
  good : ∀ id, Good (live u id) ((awaiting u).count id) ((leaving u).count id) id u.trace
  fresh : ∀ id, .openConnection id ∈ u.trace → id < u.connIdGenerator
  answered : ∀ frame ∈ u.frames, ∀ id ∈ responds frame, id ∉ awaiting u ∧ id < u.connIdGenerator
  /-- A task is pending, or running, that will report the closed connections. -/
  scheduled : u.closedConnections ≠ [] → u.task = true ∨ ∃ ids, .opening ids ∈ u.frames

variable {u : UpstreamBase} {id : ℕ}

theorem live_modifyConnection (f : Connection → Connection) :
    live (u.modifyConnection id f) = live u := by
  funext i
  change ((modify u.connections id f).lookup i).isSome = (u.connections.lookup i).isSome
  rw [lookup_modify]
  split
  · next hi => rw [hi, Option.isSome_map]
  · rfl

theorem Sane.modifyConnection (h : Sane u) (f : Connection → Connection) :
    Sane (u.modifyConnection id f) where
  good := by
    rw [live_modifyConnection]
    exact h.good
  fresh := h.fresh
  answered := h.answered
  scheduled := h.scheduled

theorem Sane.openConnection (h : Sane u) (s : ℕ) (addrs : TunnelAddressPair)
    (proto : TransportProtocol) (appName : String) :
    Sane (u.openConnection s addrs proto appName) := by
  simp only [UpstreamBase.openConnection]
  split
  · exact h
  have hr : .openConnection (u.connIdGenerator + s) ∉ u.trace := by
    intro ho
    have hl := h.fresh _ ho
    omega
  refine ⟨fun i ↦ ?_, fun i hi ↦ ?_, fun f hf i hi ↦ ?_, fun _ ↦ .inl rfl⟩
  · have ha : (u.newConnections ++ [u.connIdGenerator + s] ++ u.frames.flatMap opens).count i =
        (awaiting u).count i + [u.connIdGenerator + s].count i := by
      simp only [awaiting, count_append]
      omega
    simp only [live, awaiting, emit, lookup_insert, ha]
    by_cases hi : i = u.connIdGenerator + s
    · rw [hi, if_pos rfl, count_singleton_self]
      exact (h.good _).create hr
    · have hz : [u.connIdGenerator + s].count i = 0 := count_eq_zero.2 (by simpa using hi)
      rw [if_neg hi, hz]
      exact (h.good i).skip (e := .openConnection (u.connIdGenerator + s))
        (by simpa [touches] using Ne.symm hi)
  · change .openConnection i ∈ u.trace ++ [_] at hi
    change i < u.connIdGenerator + s + 1
    rcases mem_append.1 hi with hi | hi
    · have hl := h.fresh i hi
      omega
    · cases mem_singleton.1 hi
      omega
  · obtain ⟨hn, hl⟩ := h.answered f hf i hi
    refine ⟨fun hmem ↦ ?_, ?_⟩
    · change i ∈ (u.newConnections ++ [u.connIdGenerator + s]) ++ u.frames.flatMap opens at hmem
      rw [append_assoc, mem_append, mem_append, mem_singleton] at hmem
      rcases hmem with hmem | hmem | hmem
      · exact hn (mem_append_left _ hmem)
      · omega
      · exact hn (mem_append_right _ hmem)
    · change i < u.connIdGenerator + s + 1
      omega

theorem fresh_concat (h : Sane u) {e : Event} (he : ∀ i, e ≠ .openConnection i) :
    ∀ i, .openConnection i ∈ u.trace ++ [e] → i < u.connIdGenerator := by
  intro i hi
  rcases mem_append.1 hi with hi | hi
  · exact h.fresh i hi
  · exact absurd (mem_singleton.1 hi).symm (he i)

theorem Sane.closeConnection (h : Sane u) (a : Bool) (hd : id ∉ awaiting u) :
    Sane (u.closeConnection id a) := by
  have hn : id ∉ u.newConnections := fun hm ↦ hd (mem_append_left _ hm)
  rw [UpstreamBase.closeConnection, if_neg hn]
  have hr := fresh_concat h fun i ↦ show Event.closeConnection id ≠ .openConnection i by simp
  cases hl : u.connections.lookup id with
  | none =>
    refine ⟨fun i ↦ ?_, hr, h.answered, h.scheduled⟩
    by_cases hi : i = id
    · subst hi
      have hv : live u i = false := by simp [live, hl]
      have hg := (h.good i).close (n := (leaving u).count i) (count_eq_zero.2 hd) (by simp [hv])
      rw [← count_eq_zero.2 hd, ← hv] at hg
      exact hg
    · exact (h.good i).skip (by simpa [touches] using Ne.symm hi)
  | some c =>
    refine ⟨fun i ↦ ?_, fun i hi ↦ ?_, fun f hf ↦ ?_, fun he ↦ ?_⟩
    · have hg : (leaving u).count i + [id].count i = (u.closedConnections ++
          (Frame.removed id a :: u.frames).flatMap closes).count i := by
        simp only [leaving, flatMap_cons, closes, count_append]
        omega
      refine Good.skip (e := .upstreamConnectionClosed id) ?_ rfl
      simp only [live, leaving, emit, push, lookup_erase]
      rw [← hg]
      by_cases hi : i = id
      · subst hi
        have hv : live u i = true := by simp [live, hl]
        rw [if_pos rfl]
        have hc := (h.good i).close (count_eq_zero.2 hd) (n := (leaving u).count i + [i].count i)
          (by simp [hv])
        rw [← count_eq_zero.2 hd] at hc
        exact hc
      · have hz : [id].count i = 0 := count_eq_zero.2 (by simpa using hi)
        rw [if_neg hi, hz]
        exact (h.good i).skip (e := .closeConnection id) (by simpa [touches] using Ne.symm hi)
    · refine hr i ?_
      change .openConnection i ∈ (u.trace ++ [.closeConnection id]) ++ [_] at hi
      simpa using hi
    · rcases mem_cons.1 hf with rfl | hf
      · exact fun i hi ↦ by cases hi
      · exact h.answered f hf
    · exact (h.scheduled he).imp_right (Exists.imp fun _ ↦ mem_cons_of_mem _)

theorem Sane.send (h : Sane u) (d : List UInt8) : Sane (u.send id d).1 := by
  simp only [UpstreamBase.send]
  split
  · exact h
  next c _ =>
  have hm : Sane (u.modifyConnection id fun c ↦ (receive d c).1) := h.modifyConnection _
  refine ⟨fun i ↦ (hm.good i).requests id _, fun i hi ↦ h.fresh i ?_, hm.answered, hm.scheduled⟩
  change .openConnection i ∈ u.trace ++ _ at hi
  simpa using hi

theorem Sane.raise (h : Sane u) (hl : live u id = true) (hd : id ∉ awaiting u) (d : List UInt8)
    (fe : Frame) (ho : opens fe = []) (hc : closes fe = [])
    (hs : responds fe = some id) : Sane ((u.emit (.read id d)).push fe) := by
  have ha : awaiting ((u.emit (.read id d)).push fe) = awaiting u := by
    simp only [awaiting, push, flatMap_cons, ho, nil_append]
    rfl
  have hg : leaving ((u.emit (.read id d)).push fe) = leaving u := by
    simp only [leaving, push, flatMap_cons, hc, nil_append]
    rfl
  refine ⟨fun i ↦ ?_, fresh_concat h (by simp), fun f hf i hi ↦ ?_, fun hn ↦ ?_⟩
  · rw [ha, hg]
    refine (h.good i).emit (by simp) (by simp) (by simp) (by simp) fun hi ↦ ?_
    rcases hi with hi | ⟨d, hi⟩ <;> cases hi
    exact hl
  · rw [ha]
    rcases mem_cons.1 hf with rfl | hf
    · rw [hs] at hi
      cases hi
      refine ⟨hd, h.fresh _ (of_not_not fun hu ↦ ?_)⟩
      rw [((h.good _).unknown hu).1] at hl
      cases hl
    · exact h.answered f hf i hi
  · exact (h.scheduled hn).imp_right (Exists.imp fun _ ↦ mem_cons_of_mem _)

theorem Sane.sendResponse (h : Sane u) (m : Messages.Message) (hi : id ∉ awaiting u) :
    Sane (u.sendResponse id m) := by
  simp only [UpstreamBase.sendResponse]
  cases hl : u.connections.lookup id with
  | none => exact h
  | some cn =>
    have hm : live u id = true := by simp [live, hl]
    cases hproto : cn.proto with
    | udp =>
      simp only [hproto]
      split
      · exact h.raise hm hi _ (.responded id) rfl rfl rfl
      · exact h
    | tcp =>
      simp only [hproto]
      have hd : Sane (u.modifyConnection id fun c ↦
        { c with rcvBuf := cn.rcvBuf ++ Messages.writeDnsMessage m }) := h.modifyConnection _
      split
      · refine hd.raise ?_ hi _ (.raised id) rfl rfl rfl
        rw [live_modifyConnection]
        exact hm
      · exact hd

theorem Sane.runTask (h : Sane u) (hs : u.frames = []) : Sane u.runTask := by
  refine ⟨fun i ↦ ?_, h.fresh, fun f hf i hi ↦ ?_, fun _ ↦ .inr ⟨_, mem_cons_self⟩⟩
  · simpa [live, awaiting, leaving, UpstreamBase.runTask, hs, opens, closes] using h.good i
  · simp only [UpstreamBase.runTask, hs, mem_singleton] at hf
    rw [hf] at hi
    cases hi

theorem Sane.pop (h : Sane u) {fe : Frame} (hfs : u.frames = fe :: frames) (hs : opens fe = [])
    (hc : closes fe = []) (hn : ∀ i, fe ≠ .opening i) : Sane { u with frames } := by
  have ha : awaiting { u with frames } = awaiting u := by
    simp [awaiting, hfs, hs]
  have hl : leaving { u with frames } = leaving u := by
    simp [leaving, hfs, hc]
  refine ⟨?_, h.fresh, fun f hf ↦ ?_, fun he ↦ ?_⟩
  · rw [ha, hl]
    exact h.good
  · rw [ha]
    exact h.answered f (by rw [hfs]; exact mem_cons_of_mem _ hf)
  · exact (h.scheduled he).imp_right (Exists.imp fun i ht ↦
      (mem_cons.1 (hfs ▸ ht)).resolve_left (hn i).symm)

theorem Sane.finishResponse (h : Sane u) (r : ℤ) (hi : id ∉ awaiting u) :
    Sane (u.finishResponse id r) := by
  simp only [UpstreamBase.finishResponse]
  split
  · exact h
  split
  · exact h
  next cn _ =>
  have hm : Sane (u.modifyConnection id fun c ↦
    { c with unansweredDnsRequests := cn.unansweredDnsRequests - 1 }) := h.modifyConnection _
  split
  · exact hm.closeConnection false hi
  · exact hm

theorem Sane.finishRead (h : Sane u) (r : ℤ) (hi : id ∉ awaiting u) : Sane (u.finishRead id r) := by
  simp only [UpstreamBase.finishRead]
  split
  · exact h.closeConnection false hi
  split
  · exact h
  next cn _ =>
  have hm : Sane (u.modifyConnection id fun c ↦
    { c with rcvBuf := cn.rcvBuf.drop r.toNat }) := h.modifyConnection _
  split
  · exact hm.closeConnection false hi
  · exact hm

theorem Sane.finishClose {a : Bool} (h : Sane u) (hs : u.frames = .removed id a :: frames) :
    Sane ({ u with frames }.finishClose id a) := by
  have hw : awaiting u = awaiting { u with frames } := by
    rw [awaiting, hs]
    rfl
  have hl : ∀ i, (leaving { u with frames }).count i + [id].count i = (leaving u).count i := by
    intro i
    simp only [leaving, hs, flatMap_cons, closes, count_append]
    omega
  have ha : ∀ f ∈ frames, ∀ i ∈ responds f,
      i ∉ awaiting { u with frames } ∧ i < u.connIdGenerator := by
    intro f hf i hi
    rw [← hw]
    exact h.answered f (by rw [hs]; exact mem_cons_of_mem _ hf) i hi
  simp only [UpstreamBase.finishClose]
  cases a with
  | true =>
    refine ⟨fun i ↦ ?_, h.fresh, ha, fun _ ↦ .inl rfl⟩
    have hg := h.good i
    have he : (u.closedConnections ++ [id] ++ frames.flatMap closes).count i =
        (leaving u).count i := by
      rw [← hl i]
      simp only [leaving, count_append]
      omega
    rw [hw, ← he] at hg
    exact hg
  | false =>
    refine ⟨fun i ↦ ?_, fresh_concat h (by simp), ha, fun hn ↦ ?_⟩
    · have hg := h.good i
      rw [hw] at hg
      have hc : [Event.connectionClosed id].count (.connectionClosed i) = [id].count i := by
        simp [count_singleton]
      refine hg.emit (by simp) (by simp) rfl ?_ fun hi ↦ ?_
      · rw [hc]
        exact hl i
      · rcases hi with hi | ⟨d, hi⟩ <;> cases hi
    · exact (h.scheduled hn).imp_right (Exists.imp fun i ht ↦
        (mem_cons.1 (hs ▸ ht)).resolve_left (by simp))

theorem Sane.goOn_opening {ids : List ℕ} (h : Sane u) (hs : u.frames = .opening ids :: frames)
    (r : ℤ) : Sane ({ u with frames }.goOn r (.opening ids)) := by
  have hw : awaiting u = u.newConnections ++ (ids ++ frames.flatMap opens) := by
    rw [awaiting, hs]
    rfl
  have hl : leaving u = u.closedConnections ++ frames.flatMap closes := by
    rw [leaving, hs]
    rfl
  have hg := h.good
  rw [hw, hl] at hg
  have ha : ∀ fe ∈ frames, ∀ i ∈ responds fe,
      i ∉ u.newConnections ++ (ids ++ frames.flatMap opens) ∧ i < u.connIdGenerator := by
    intro fe hf i hi
    rw [← hw]
    exact h.answered fe (by rw [hs]; exact mem_cons_of_mem _ hf) i hi
  cases ids with
  | nil =>
    refine ⟨hg, h.fresh, fun f hf i hi ↦ ?_, fun he ↦ absurd rfl he⟩
    rcases mem_cons.1 hf with rfl | hf
    · cases hi
    · exact ha f hf i hi
  | cons n ids =>
    simp only [UpstreamBase.goOn]
    refine ⟨fun i ↦ ?_, fresh_concat h (by simp), fun f hf i hi ↦ ?_,
      fun _ ↦ .inr ⟨ids, mem_cons_self⟩⟩
    · have hc : [Event.connectionOpened n].count (.connectionOpened i) = [n].count i := by
        simp [count_singleton]
      refine (hg i).emit (by simp) (by simp) ?_ rfl fun hi ↦ ?_
      · simp only [hc, awaiting, push, emit, flatMap_cons, opens, count_append, cons_append,
          count_cons, count_nil]
        omega
      · rcases hi with hi | ⟨d, hi⟩ <;> cases hi
        exact (hg _).awaits (count_pos_iff.2 (by simp))
    · rcases mem_cons.1 hf with rfl | hf
      · cases hi
      · obtain ⟨hn, ht⟩ := ha f hf i hi
        refine ⟨fun hmem ↦ hn ?_, ht⟩
        change i ∈ u.newConnections ++ (ids ++ frames.flatMap opens) at hmem
        simp only [mem_append, mem_cons] at hmem ⊢
        tauto

theorem Sane.goOn_closing {ids : List ℕ} (h : Sane u) (hs : u.frames = .closing ids :: frames)
    (r : ℤ) : Sane ({ u with frames }.goOn r (.closing ids)) := by
  cases ids with
  | nil => exact h.pop hs rfl rfl (by simp)
  | cons n ids =>
    have ha : awaiting u = u.newConnections ++ frames.flatMap opens := by
      rw [awaiting, hs]
      rfl
    simp only [UpstreamBase.goOn]
    refine ⟨fun i ↦ ?_, fresh_concat h (by simp), fun f hf i hi ↦ ?_, fun he ↦ ?_⟩
    · have hg := h.good i
      rw [ha] at hg
      have hc : [Event.connectionClosed n].count (.connectionClosed i) = [n].count i := by
        simp [count_singleton]
      refine hg.emit (by simp) (by simp) rfl ?_ fun hi ↦ ?_
      · simp only [hc, leaving, hs, push, emit, flatMap_cons, closes, count_append, cons_append,
          count_cons, count_nil]
        omega
      · rcases hi with hi | ⟨d, hi⟩ <;> cases hi
    · rcases mem_cons.1 hf with rfl | hf
      · cases hi
      · have ho := h.answered f (by rw [hs]; exact mem_cons_of_mem _ hf) i hi
        rw [ha] at ho
        exact ho
    · exact (h.scheduled he).imp_right (Exists.imp fun i ht ↦
        mem_cons_of_mem _ ((mem_cons.1 (hs ▸ ht)).resolve_left (by simp)))

theorem Sane.resume (h : Sane u) (r : ℤ) : Sane (u.resume r) := by
  simp only [UpstreamBase.resume]
  split
  · exact h
  next f fs hf =>
  have ha := h.answered f (by rw [hf]; exact mem_cons_self)
  cases f with
  | opening i => exact h.goOn_opening hf r
  | closing i => exact h.goOn_closing hf r
  | removed id a => exact h.finishClose hf
  | responded id =>
    have hp := h.pop hf rfl rfl (by simp)
    refine hp.finishResponse r fun hm ↦ (ha id rfl).1 ?_
    rw [awaiting, hf]
    exact hm
  | raised id =>
    have hp := h.pop hf rfl rfl (by simp)
    refine hp.finishRead r fun hm ↦ (ha id rfl).1 ?_
    rw [awaiting, hf]
    exact hm

/-- The step lemma: every id is in order after each input. -/
theorem Sane.step {t : UpstreamBase} {i : Input} (h : Sane u) (ho : Announced u i)
    (hp : step u i = some t) : Sane t := by
  simp only [ServerUpstream.step] at hp
  split at hp
  · next he =>
    rw [Option.some.injEq] at hp
    subst hp
    cases i with
    | openConnection s a p an => exact h.openConnection s a p an
    | closeConnection id ac => exact h.closeConnection ac ho
    | send id d => exact h.send d
    | sendResponse id m => exact h.sendResponse m ho
    | task =>
      simp only [enabled, Bool.and_eq_true, List.isEmpty_iff] at he
      exact h.runTask he.2
    | resume r => exact h.resume r
  · cases hp

theorem sane_start : Sane {} where
  good _ := good_nil
  fresh := by simp
  answered := by simp
  scheduled := by simp

def Idle (u : UpstreamBase) : Prop := u.task = false ∧ u.frames = []

/-- An upstream without tasks owes no close. -/
theorem Sane.leaving_eq_nil (h : Sane u) (he : Idle u) : leaving u = [] := by
  have hc : u.closedConnections = [] := by
    by_contra hne
    rcases h.scheduled hne with ht | ⟨ids, ht⟩
    · rw [he.1] at ht
      cases ht
    · rw [he.2] at ht
      cases ht
  rw [leaving, hc, he.2]
  rfl

/-- While connections are only closed and answered after their open events, a closed connection is
removed, its close event is raised once, and no other event of it any more. -/
theorem closed_connection_reported {inputs : List Input}
    (hrun : Run step Announced {} inputs u) (id : ℕ) :
    u.trace.count (.connectionOpened id) ≤ 1 ∧
    ∀ before after, u.trace = before ++ .closeConnection id :: after →
      .openConnection id ∈ before →
        u.connections.lookup id = none ∧ u.trace.count (.connectionClosed id) ≤ 1 ∧
        (Idle u → u.trace.count (.connectionClosed id) = 1) ∧
        .connectionOpened id ∉ after ∧ ∀ data, .read id data ∉ after := by
  have hsa : Sane u := hrun.invariant sane_start fun s l t hs hk hst ↦ hs.step hk hst
  have hg := hsa.good id
  have hp := hg.opened
  refine ⟨by omega, fun before after ht ho ↦ ?_⟩
  have hr : Released id u.trace := ⟨before, after, ht, ho⟩
  have hn := hg.released hr
  have hre : .openConnection id ∈ u.trace := ht ▸ mem_append_left _ ho
  have hd := hg.closed_gone hn hre
  have ha : ∀ e ∈ after, ¬ concerns e id := by
    intro e he hc
    obtain ⟨m, rest, rfl⟩ := append_of_mem he
    have hu : u.trace = (before ++ .closeConnection id :: m) ++ e :: rest := by
      rw [ht, append_assoc, cons_append]
    exact hg.orderly _ _ _ hu hc ⟨before, m, rfl, ho⟩
  refine ⟨by simpa [live] using hn, by omega, fun hi ↦ ?_, fun hm ↦ ha _ hm (.inl rfl),
    fun data hm ↦ ha _ hm (.inr ⟨data, rfl⟩)⟩
  · rw [hsa.leaving_eq_nil hi, count_nil, Nat.zero_add] at hd
    exact hd

def someAddrs : TunnelAddressPair := ⟨⟨.inet, 0, 0⟩, .socketAddress ⟨.inet, 0, plainDnsPortNumber⟩⟩

/-- A connection that is closed by the task after it was announced. -/
theorem closed_connection_reported_of_async : ∃ u, Run step Announced {}
    [.openConnection 0 someAddrs .udp "", .task, .resume 0, .resume 0, .resume 0,
      .closeConnection 0 true, .resume 0, .task, .resume 0, .resume 0, .resume 0] u ∧
      u.trace.count (.connectionClosed 0) = 1 :=
  exists_run_imp (P := fun u ↦ u.task = false ∧ u.frames = [] ∧ u.trace = [.openConnection 0,
      .connectionOpened 0] ++ .closeConnection 0 ::
      [.upstreamConnectionClosed 0, .connectionClosed 0]) (by decide) fun _ hr hu ↦
    ((closed_connection_reported hr 0).2 _ _ hu.2.2 (by decide)).2.2.1 ⟨hu.1, hu.2.1⟩

/-- A connection that is closed before its open event stays, is read from and never reported. -/
theorem closed_connection_forgotten : ∃ u, Run step anyStep {}
    [.openConnection 0 someAddrs .udp "", .closeConnection 0 false, .task, .resume 0, .resume 0,
      .sendResponse 0 [], .resume 0] u ∧
      u.trace = [.openConnection 0, .closeConnection 0, .read 0 []] ∧
      (u.connections.lookup 0).isSome ∧ Idle u :=
  exists_run_imp (P := fun u ↦ u.trace = [.openConnection 0, .closeConnection 0, .read 0 []] ∧
    (u.connections.lookup 0).isSome ∧ u.task = false ∧ u.frames = []) (by decide)
    fun _ _ hu ↦ hu

end TrustTunnel.Dns.UpstreamLifecycle

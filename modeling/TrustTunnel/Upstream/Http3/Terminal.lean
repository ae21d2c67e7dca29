import TrustTunnel.Upstream.Http3.Steps

namespace TrustTunnel.Upstream.Http3.Terminal

open Acts Connections Http3Upstream Lib.Assoc Lib.Trace Lib.Transition Moves Steps List

variable {env : Env} {c d : Running} {u v : Http3Upstream} {id : ℕ}

def Known (c : Running) (id : ℕ) : Prop :=
  (c.upstream.tcpConnections.lookup id).isSome ∨
    (c.upstream.retriableTcpRequests.lookup id).isSome ∨ id ∈ c.held

/-- There are the connections whose end was not told, and only these are going to be closed. -/
structure Terminals (c : Running) : Prop where
  known : ∀ id, Known c id → ¬ Over id c.upstream.trace
  complete : ∀ id, .accepted id ∈ c.upstream.trace → Over id c.upstream.trace ∨ Known c id
  accepted : ∀ id, Over id c.upstream.trace → .accepted id ∈ c.upstream.trace
  nodup : c.doomed.Nodup
  doomed : ∀ id ∈ c.doomed, Known c id
  closing : c.spoiled = false → ∀ id, (c.upstream.closingConnections.lookup id).isSome → Known c id
  orderly : Orderly subject Event.terminal c.upstream.trace

theorem subject_of_terminal (e : Event) (k : ℕ) (h : e.terminal = some k) : subject e = some k := by
  cases e <;> first | exact h | cases h

theorem terminal_of_subject {e : Event} (h : subject e = none) : e.terminal = none := by
  cases e <;> first | rfl | cases h

theorem accepted_of_known (ht : Tables c) (h : Known c id) : .accepted id ∈ c.upstream.trace := by
  rcases h with h | h | h
  · exact (ht.connected id h).1
  · exact ht.waiting id (.inl h)
  · exact ht.waiting id (.inr h)

theorem known_clean (ht : Tables c) (hd : id ∉ c.held) (i : ℕ) :
    Known { c with upstream := c.upstream.cleanTcpConnectionData id } i ↔ Known c i ∧ i ≠ id := by
  have hk := ht.connected
  unfold Known
  by_cases hr : (c.upstream.retriableTcpRequests.lookup id).isSome
  · rw [clean_of_retriable hr]
    grind [lookup_erase]
  rw [Option.not_isSome_iff_eq_none] at hr
  cases hc : c.upstream.tcpConnections.lookup id with
  | none =>
    rw [clean_of_none hr hc]
    grind
  | some cn =>
    rw [clean_of_conn hr hc]
    grind [lookup_erase]

theorem closing_clean {i : ℕ}
    (h : ((u.cleanTcpConnectionData id).closingConnections.lookup i).isSome) :
    (u.closingConnections.lookup i).isSome ∧ i ≠ id := by
  have hc : (u.cleanTcpConnectionData id).closingConnections =
      u.closingConnections.erase id := by
    simp only [cleanTcpConnectionData]
    split
    · rfl
    split <;> rfl
  rw [hc, lookup_erase] at h
  split at h
  · cases h
  · next hn => exact ⟨h, hn⟩

theorem known_of_isSome (h : ∀ i, (v.tcpConnections.lookup i).isSome =
      (c.upstream.tcpConnections.lookup i).isSome)
    (ht : v.retriableTcpRequests = c.upstream.retriableTcpRequests) (i : ℕ) :
    Known { c with upstream := v } i ↔ Known c i := by
  simp only [Known, h, ht]

namespace Terminals

theorem frame (h : Terminals c) (es : List Event) (ht : d.upstream.trace = c.upstream.trace ++ es)
    (hes : ∀ e ∈ es, subject e = none ∧ ∀ i, e ≠ .accepted i) (hk : ∀ i, Known d i ↔ Known c i)
    (hd : d.doomed = c.doomed)
    (hc : d.spoiled = false → ∀ i, (d.upstream.closingConnections.lookup i).isSome → Known c i) :
    Terminals d := by
  have ho : ∀ i, Over i d.upstream.trace ↔ Over i c.upstream.trace := by
    intro i
    rw [ht]
    exact ended_append_of_forall fun e he ↦ terminal_of_subject (hes e he).1
  have ha : ∀ i, .accepted i ∈ d.upstream.trace ↔ .accepted i ∈ c.upstream.trace := by
    intro i
    rw [ht, mem_append, or_iff_left]
    exact fun hm ↦ (hes _ hm).2 i rfl
  obtain ⟨hn, hcm, hac, hnd, hdm, hcl, hor⟩ := h
  refine ⟨?_, ?_, ?_, ?_, ?_, ?_, ht ▸ hor.append_of_forall fun e he ↦ (hes e he).1⟩ <;> grind

theorem emit (h : Terminals c) {e : Event} (he : e.terminal = none) (hb : subject e = some id)
    (hd : Known c id) : Terminals { c with upstream := c.upstream.emit e } := by
  have ho : ∀ i, Over i (c.upstream.trace ++ [e]) ↔ Over i c.upstream.trace := fun i ↦
    ended_append_of_forall fun e' he' ↦ (mem_singleton.1 he').symm ▸ he
  have ha : ∀ i, .accepted i ∈ c.upstream.trace ++ [e] ↔ .accepted i ∈ c.upstream.trace := by
    intro i
    rw [mem_append, or_iff_left]
    intro hm
    rw [← mem_singleton.1 hm] at hb
    cases hb
  obtain ⟨hn, hcm, hac, hnd, hdm, hcl, hor⟩ := h
  refine ⟨?_, ?_, ?_, hnd, hdm, hcl, hor.concat fun i hi ↦ ?_⟩ <;> grind [Known, Http3Upstream.emit]

theorem accept (h : Terminals c) (hw : .accepted id ∉ c.upstream.trace)
    (ht : d.upstream.trace = c.upstream.trace ++ [.accepted id])
    (hk : ∀ i, Known d i ↔ Known c i ∨ i = id) (hm : d.doomed = c.doomed)
    (hd : d.spoiled = c.spoiled)
    (hl : d.upstream.closingConnections = c.upstream.closingConnections) : Terminals d := by
  have ho : ∀ i, Over i d.upstream.trace ↔ Over i c.upstream.trace := by
    intro i
    rw [ht]
    exact ended_append_of_forall fun e he ↦ (mem_singleton.1 he).symm ▸ rfl
  have ha : ∀ i, .accepted i ∈ d.upstream.trace ↔ .accepted i ∈ c.upstream.trace ∨ i = id := by
    simp [ht]
  obtain ⟨hn, hcm, hac, hnd, hdm, hcl, hor⟩ := h
  refine ⟨?_, ?_, ?_, ?_, ?_, ?_, ht ▸ hor.append_of_forall fun e he ↦ ?_⟩ <;> grind [subject]

theorem finish (h : Terminals c) (ht : Tables c) {e : Event} (he : e.terminal = some id)
    (hid : Known c id) (hr : d.upstream.trace = c.upstream.trace ++ [e])
    (hkn : ∀ i, Known d i ↔ Known c i ∧ i ≠ id) (hnd : d.doomed.Nodup)
    (hdm : ∀ i ∈ d.doomed, i ∈ c.doomed ∧ i ≠ id) (hd : d.spoiled = c.spoiled)
    (hl : ∀ i, (d.upstream.closingConnections.lookup i).isSome →
      (c.upstream.closingConnections.lookup i).isSome ∧ i ≠ id) : Terminals d := by
  have ho : ∀ i, Over i d.upstream.trace ↔ Over i c.upstream.trace ∨ i = id := by
    intro i
    rw [hr, Over, ended_append, ended_singleton, he, Option.some.injEq, eq_comm (a := id)]
  have ha : ∀ i, .accepted i ∈ d.upstream.trace ↔ .accepted i ∈ c.upstream.trace := by
    intro i
    rw [hr, mem_append, or_iff_left]
    intro hm
    rw [← mem_singleton.1 hm] at he
    cases he
  have hsb := subject_of_terminal e id he
  have hid' := accepted_of_known ht hid
  obtain ⟨hn, hcm, hac, -, hdo, hcl, hor⟩ := h
  refine ⟨?_, ?_, ?_, hnd, ?_, ?_, hr ▸ hor.concat fun i hi ↦ ?_⟩ <;> grind

theorem calm (h : Terminals c) (hm : Calm c.upstream v) : Terminals { c with upstream := v } := by
  obtain ⟨es, ht, hes⟩ := hm.events
  refine h.frame es ht (fun e he ↦ ⟨subject_of_silent (hes e he), fun i hi ↦ ?_⟩)
    (known_of_isSome hm.isSome_lookup hm.retriable) rfl fun hs i hi ↦ ?_
  · have hl := hes e he
    rw [hi] at hl
    cases hl
  · rcases hm.closing i hi with hi | ⟨ha, ho⟩
    · exact h.closing hs i hi
    · exact (h.complete i ha).resolve_left ho

theorem creditStreamFc (h : Terminals c) (si n : ℕ) :
    Terminals { c with upstream := c.upstream.creditStreamFc si n } := by
  obtain ⟨es, hq, hs⟩ := creditStreamFc_fields (u := c.upstream) si n
  rw [hq]
  refine h.frame es rfl ?_ (fun _ ↦ Iff.rfl) rfl h.closing
  grind [subject]

theorem creditConnectionFc (h : Terminals c) (l : ℕ) :
    Terminals { c with upstream := c.upstream.creditConnectionFc l } := by
  obtain ⟨es, hq, hs⟩ := creditConnectionFc_fields (u := c.upstream) l
  rw [hq]
  refine h.frame es rfl ?_ (fun _ ↦ Iff.rfl) rfl h.closing
  grind [subject]

theorem modifyConnection (h : Terminals c) (f : TcpConnection → TcpConnection) (t : ℕ) :
    Terminals { c with upstream := { c.upstream.modifyConnection id f with
      totalUnreadBytes := t } } :=
  h.frame [] (by simp [Http3Upstream.modifyConnection]) (by simp)
    (known_of_isSome (fun i ↦ isSome_modifyConnection f i) rfl) rfl h.closing

theorem move (h : Terminals c) (ht : Tables c) (hm : Move c.upstream v)
    (hl : c.doomed = [] ∨ Calm c.upstream v) : Terminals { c with upstream := v } := by
  rcases hl with hl | hcalm
  · cases hm with
    | calm hcalm => exact h.calm hcalm
    | tell id e hid he =>
      rcases he with rfl | ⟨n, rfl⟩ <;> exact h.emit rfl rfl (.inl hid)
    | pass id d r hid hr => exact h.emit rfl rfl (.inl hid)
    | @take w id cn d r hc hda ho hr hcalm =>
      have ha : Terminals { c with upstream := c.upstream.emit (.read id d (some r)) } :=
        h.emit rfl rfl (.inl (by rw [hc]; rfl))
      have hd : Terminals { c with upstream := w.drain id r } :=
        (ha.calm hcalm).modifyConnection _ _
      exact hd.creditStreamFc cn.streamId r
    | finish id e hid he hp =>
      have hh := (ht.connected id hid).2.2
      have hb : Tables { c with upstream := c.upstream.emit e } := by
        refine ht.emit fun s hs ↦ ?_
        cases e <;> cases hs <;> cases he
      refine h.finish ht he (.inl hid) trace_clean (known_clean hb hh) h.nodup ?_ rfl
        fun i hi ↦ closing_clean (u := c.upstream.emit e) hi
      intro i hi
      change i ∈ c.doomed at hi
      rw [hl] at hi
      cases hi
  · exact h.calm hcalm

theorem openStream_known (c : Running) (id s i : ℕ) :
    Known { c with upstream := c.upstream.openStream id s } i ↔ Known c i ∨ i = id := by
  grind [Known, lookup_insert, Http3Upstream.openStream]

/-- The step lemma: one case for each act. -/
theorem act (h : Terminals c) (ht : Tables c) (ha : Act env c d) : Terminals d := by
  cases ha with
  | move hm he => exact h.move ht hm he
  | muxStream v si hid hv hx =>
    rw [hv]
    exact h.frame [] (by simp) (by simp) (fun _ ↦ Iff.rfl) rfl h.closing
  | accept id sd hw =>
    exact h.accept hw rfl (openStream_known c id sd) rfl rfl rfl
  | acceptRetriable id r hw =>
    refine h.accept hw rfl (fun i ↦ ?_) rfl rfl rfl
    grind [Known, lookup_insert, Http3Upstream.emit]
  | hold rs hp hh =>
    refine h.frame [] (by simp) (by simp) (fun i ↦ ?_) rfl h.closing
    have hme : i ∈ rs.map Prod.fst ↔ (c.upstream.retriableTcpRequests.lookup i).isSome :=
      ((hp.map Prod.fst).mem_iff).trans (mem_keys_pairs _)
    grind [Known, AList.lookup_empty]
  | retried id sd held hh =>
    refine h.frame [] (by simp [Http3Upstream.openStream]) (by simp) (fun i ↦ ?_) rfl h.closing
    grind [Known, openStream_known { c with held } id sd i]
  | dropped id e held hh he =>
    have hno : id ∉ held := (nodup_cons.1 (hh ▸ ht.nodup)).1
    have hb : Tables { c with held, upstream := c.upstream.emit (.error id e) } :=
      (ht.tail hh).emit fun s hs ↦ (by cases hs)
    refine h.finish ht (e := .error id e) rfl (.inr (.inr (hh ▸ mem_cons_self))) trace_clean
      (fun i ↦ (known_clean hb hno i).trans ?_) h.nodup ?_ rfl
      fun i hi ↦ closing_clean (u := c.upstream.emit (.error id e)) hi
    · grind [Known, Http3Upstream.emit]
    · grind
  | release rs his hem =>
    refine h.frame [] (by simp) (by simp) (fun i ↦ ?_) rfl h.closing
    simp only [Known, isSome_lookup_mapOf, his, hem, AList.lookup_empty]
    simp
  | body si ck hid he =>
    exact h.frame [.body si ck] rfl (by simp [subject]) (fun _ ↦ Iff.rfl) rfl h.closing
  | drop si hst hne =>
    exact h.frame [.consumeStream si c.due] rfl (by simp [subject]) (fun _ ↦ Iff.rfl) rfl
      h.closing
  | deliver si id n hf hst hid hu hn hc =>
    obtain ⟨conn, hco, _⟩ := ht.conn_of_stream si id hid
    have hr : Terminals { c with upstream := c.upstream.emit (.read id c.owed (some n)) } :=
      h.emit rfl rfl (.inl (by rw [hco]; rfl))
    have hcr := (hr.calm hc).creditStreamFc si n
    exact hcr.frame [] (by simp) (by simp) (fun _ ↦ Iff.rfl) rfl hcr.closing
  | doom ids hdm hd hnd his cg t hl =>
    refine ⟨h.known, h.complete, h.accepted, hnd, fun i hi ↦ ?_, fun hs i hi ↦ ?_, h.orderly⟩
    · rcases his i hi with hi | hi | hi | ⟨hac, ho⟩
      · exact .inl hi
      · exact .inr (.inl hi)
      · exact h.closing hd i hi
      · exact (h.complete i hac).resolve_left ho
    · rcases hl with rfl | rfl
      · exact h.closing hs i hi
      · cases hi
  | close id dd hdm hh =>
    have hme : id ∈ c.doomed := hdm ▸ mem_cons_self
    have hnd := nodup_cons.1 (hdm ▸ h.nodup)
    have hb : Tables { c with upstream := c.upstream.emit (.connectionClosed id .own
        (c.upstream.unreadOf id)) } := ht.emit fun s hs ↦ (by cases hs)
    refine h.finish ht (e := .connectionClosed id .own (c.upstream.unreadOf id)) rfl
      (h.doomed id hme) trace_clean (known_clean hb (by rw [hh]; exact not_mem_nil))
      hnd.2 (fun i hi ↦ ⟨hdm ▸ mem_cons_of_mem _ hi, ?_⟩) rfl
      fun i hi ↦ closing_clean (u := c.upstream.emit (.connectionClosed id .own _)) hi
    rintro rfl
    exact hnd.1 hi
  | deferAgain id g =>
    exact h.frame [] (by simp [deferClose]) (by simp) (fun _ ↦ Iff.rfl) rfl fun hs ↦ (by cases hs)

theorem store (h : Terminals c) (id : ℕ) (r : List UInt8) :
    Terminals { c with upstream := Acts.store c.upstream id r } := by
  rw [Acts.store]
  split
  · exact h
  · exact h.modifyConnection _ _

theorem settle (h : Terminals c) (ht : Tables c) (hs : Settle c v) :
    Terminals { c with upstream := v } := by
  cases hs with
  | stored si id hst hi hd => exact (h.store id c.owed).creditConnectionFc c.due
  | @delivered w si id n hst hi hd hu hn hc =>
    obtain ⟨conn, ho, _⟩ := ht.conn_of_stream si id hi
    have hr : Terminals { c with upstream := c.upstream.emit (.read id c.owed (some n)) } :=
      h.emit rfl rfl (.inl (by rw [ho]; rfl))
    exact (((hr.calm hc).creditStreamFc si n).store id _).creditConnectionFc c.due

theorem outcome {it : Input} (hu : Terminals (idle u)) (h : Terminals c) (ht : Tables c)
    (hp : closesNow it = false) (hou : Outcome u it c v) : Terminals (idle v) := by
  cases hou with
  | done v spoiled hs =>
    refine h.frame [] (by simp [idle]) (by simp) (fun _ ↦ Iff.rfl) rfl fun _ i hi ↦ ?_
    refine h.closing ?_ i hi
    cases spoiled with
    | false => rfl
    | true =>
      rw [hs rfl] at hp
      cases hp
  | settled he =>
    have ha := h.settle ht he
    exact ha.frame [] (by simp [idle]) (by simp) (fun _ ↦ Iff.rfl) rfl ha.closing
  | closed w spoiled hc ho =>
    refine ⟨fun i hi ↦ ?_, fun i hi ↦ .inl ?_, h.accepted, nodup_nil, fun i hi ↦ ?_,
      fun _ i hi ↦ ?_, h.orderly⟩
    · rcases hi with hi | hi | hi <;> cases hi
    · rcases hu.complete i (hc i hi) with hi | hi | hi | hi
      · exact ho i (.inr (.inr hi))
      · exact ho i (.inl hi)
      · exact ho i (.inr (.inl hi))
      · cases hi
    · cases hi
    · cases hi

end Terminals

/-- `Terminals`, and a session that was closed has no connection left. -/
def Finished (c : Running) : Prop := Terminals c ∧ (c.upstream.session = false → ∀ id, ¬ Known c id)

theorem Finished.act (h : Finished c) (he : c.upstream.session = true) (ht : Tables c)
    (ha : Act env c d) : Finished d := by
  refine ⟨h.1.act ht ha, fun hs ↦ ?_⟩
  rw [session_act ha, he] at hs
  cases hs

theorem Finished.outcome {it : Input} (hu : Finished (idle u)) (h : Finished c) (ht : Tables c)
    (hse : c.upstream.session = true) (hp : closesNow it = false)
    (ho : Outcome u it c v) : Finished (idle v) := by
  refine ⟨hu.1.outcome h.1 ht hp ho, fun hs ↦ ?_⟩
  cases ho with
  | done v spoiled =>
    change v.session = true at hse
    rw [show (idle v).upstream.session = v.session from rfl, hse] at hs
    cases hs
  | settled he =>
    rw [show (idle v).upstream.session = v.session from rfl, session_settle he] at hs
    rw [hse] at hs
    cases hs
  | closed w spoiled ha hr =>
    rintro i (hi | hi | hi) <;> cases hi

def connecting : Env := { request := fun _ ↦ .stream 0 }

/-- In every run, also with synchronous calls, a stream leads to a connection exactly if the
connection is on it, those of the multiplexers and of the health check lead to none, and what is on
a stream was accepted and does not wait for a retry. -/
theorem streams_lead_to_connections {ls : List (Env × Input)} (hrun : Run step anyStep {} ls u) :
    (∀ s id, u.tcpConnByStreamId.lookup s = some id ↔
      ∃ conn, u.tcpConnections.lookup id = some conn ∧ conn.streamId = s) ∧
    (∀ s, IsMux u s → u.tcpConnByStreamId.lookup s = none) ∧
    ∀ id, (u.tcpConnections.lookup id).isSome →
      .accepted id ∈ u.trace ∧ u.retriableTcpRequests.lookup id = none := by
  obtain ⟨ht, -⟩ := run_invariant (P := fun _ ↦ True) hrun trivial (fun _ _ _ _ _ _ _ _ ↦ trivial)
    fun _ _ _ _ _ _ _ _ _ _ _ ↦ trivial
  refine ⟨fun s id ↦ ⟨ht.conn_of_stream s id, ?_⟩, fun s hs ↦ (ht.mux s hs).2, fun id hi ↦ ?_⟩
  · rintro ⟨conn, hc, rfl⟩
    exact ht.stream_of_conn id conn hc
  · obtain ⟨ha, hr, -⟩ := ht.connected id hi
    exact ⟨ha, hr⟩

theorem streams_lead_to_connections_of_one : ∃ u,
    Run step anyStep {} [({}, .udpMuxStream 0),
      (connecting, .openConnection 7 (.namePort ⟨"a", 80⟩) "")] u ∧
    u.tcpConnByStreamId.lookup 0 = none ∧ u.tcpConnByStreamId.lookup 1 = some 7 :=
  exists_run_imp (P := fun u ↦ u.udpMuxStream = some 0 ∧ u.tcpConnByStreamId.lookup 1 = some 7)
    (by decide) fun _ hrun hp ↦ ⟨(streams_lead_to_connections hrun).2.1 0 (.inl hp.1), hp.2⟩

end TrustTunnel.Upstream.Http3.Terminal

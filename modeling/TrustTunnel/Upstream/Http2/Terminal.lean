import TrustTunnel.Upstream.Http2.Calls

namespace TrustTunnel.Upstream.Http2.Terminal

open Connections hiding Input enabled handle step
open Calls Http2Upstream Lib.Assoc Lib.Trace Lib.Transition Lifecycle Http2.Session State
open Upstream.Types List

variable {u w : Http2Upstream} {s : State} {conn' : TcpConnection} {id : ℕ}

structure Reported (u w : Http2Upstream) (x : ℕ) : Prop where
  kept : ∀ i, u.connIdByStreamId.lookup x ≠ some i →
    w.tcpConnections.lookup i = u.tcpConnections.lookup i
  settled : ∀ i conn', w.tcpConnections.lookup i = some conn' →
    ∃ conn, u.tcpConnections.lookup i = some conn ∧ (conn.clientClosed = true → conn' = conn)
  byStream : ∀ y i, w.connIdByStreamId.lookup y = some i → u.connIdByStreamId.lookup y = some i

theorem reported_self (u : Http2Upstream) (x : ℕ) : Reported u u x :=
  ⟨fun _ _ ↦ rfl, fun _ c h ↦ ⟨c, h, fun _ ↦ rfl⟩, fun _ _ h ↦ h⟩

theorem lookup_finish (e : Event) (hw : Alters u w id conn') (i : ℕ) :
    ((w.emit e).cleanTcpConnectionData id).tcpConnections.lookup i =
      if i = id then none else u.tcpConnections.lookup i := by
  rw [clean_eq (u := w.emit e) hw.lookup_self]
  change (w.tcpConnections.erase id).lookup i = _
  rw [lookup_erase, hw.lookup]
  split <;> rfl

theorem byStream_finish (e : Event) (hw : Alters u w id conn') {x i : ℕ}
    (h : ((w.emit e).cleanTcpConnectionData id).connIdByStreamId.lookup x = some i) :
    u.connIdByStreamId.lookup x = some i := by
  rw [clean_eq (u := w.emit e) hw.lookup_self] at h
  rw [← hw.byStream]
  exact (lookup_erase_eq_some.1 h).2

theorem reported_finish {x : ℕ} (e : Event) (hx : u.connIdByStreamId.lookup x = some id)
    (hw : Alters u w id conn') : Reported u ((w.emit e).cleanTcpConnectionData id) x := by
  refine ⟨fun i hi ↦ ?_, fun i c₁ hi ↦ ?_, fun y i hi ↦ byStream_finish e hw hi⟩
  · rw [lookup_finish e hw, if_neg]
    exact fun he ↦ hi (he ▸ hx)
  · rw [lookup_finish e hw] at hi
    split at hi
    · cases hi
    · exact ⟨c₁, hi, fun _ ↦ rfl⟩

theorem reported_streamProcessed (u : Http2Upstream) (x : ℕ) (et : Option String) :
    Reported u (u.streamProcessed x et) x := by
  rw [streamProcessed]
  split
  · exact reported_self u x
  next id c hg =>
  obtain ⟨hx, hn⟩ := getConnByStreamId_eq_some hg
  have hw : Alters u (u.setConnection id { c with streamClosed := true }) id
      { c with streamClosed := true } := alters_setConnection hn
  split
  · exact reported_finish _ hx hw
  split
  · exact reported_finish _ hx hw
  next ho =>
  refine ⟨fun i hi ↦ ?_, fun i c₁ hi ↦ ?_, fun y i hi ↦ hi⟩
  · rw [hw.lookup, if_neg]
    exact fun he ↦ hi (he ▸ hx)
  · rw [hw.lookup] at hi
    split at hi
    · next he =>
      refine ⟨c, he ▸ hn, fun hc ↦ ?_⟩
      rw [hc, Bool.true_or] at ho
      exact absurd rfl ho
    · exact ⟨c₁, hi, fun _ ↦ rfl⟩

theorem reported_report (s : State) (r : Report) :
    Reported s.upstream (s.report r).upstream r.streamId := by
  rw [report]
  split
  · exact reported_streamProcessed _ _ _
  · exact reported_self _ _

structure Closing (u : Http2Upstream) (rest : List ℕ) (s : State) : Prop where
  good : Good s
  reason : .sessionClosing ∈ s.trace
  byStream : ∀ x i, s.upstream.connIdByStreamId.lookup x = some i →
    u.connIdByStreamId.lookup x = some i
  waiting : ∀ i ∈ rest, (s.upstream.tcpConnections.lookup i).isSome
  closed : ∀ i conn, s.upstream.tcpConnections.lookup i = some conn →
    i ∈ rest ∨ conn.clientClosed = true ∧ conn.streamClosed = false

section Closing

variable {u : Http2Upstream} {rest : List ℕ} {s : State}

theorem closing_reportAll (h : Closing u rest s) {rs : List Report}
    (hs : ∀ r ∈ rs, ∀ i ∈ rest, u.connIdByStreamId.lookup r.streamId ≠ some i) :
    Closing u rest (s.reportAll rs) := by
  induction rs generalizing s with
  | nil => exact h
  | cons r rs ih =>
    have hr := reported_report s r
    refine ih ⟨good_report h.good r, subset_reportAll s [r] h.reason,
      fun x i hi ↦ h.byStream x i (hr.byStream x i hi), fun i hi ↦ ?_, fun i c hi ↦ ?_⟩
      fun r' hr' ↦ hs r' (mem_cons_of_mem _ hr')
    · rw [hr.kept i fun hx ↦ hs r mem_cons_self i hi (h.byStream _ _ hx)]
      exact h.waiting i hi
    · obtain ⟨cn, hn, he⟩ := hr.settled i c hi
      refine (h.closed i cn hn).imp_right fun hc ↦ ?_
      rw [he hc.1]
      exact hc

theorem Closing.next {t : State} (h : Closing u (id :: r) s) (hw : id ∉ r) (hd : Good t)
    (ht : s.trace ⊆ t.trace) (hb : ∀ x i, t.upstream.connIdByStreamId.lookup x = some i →
      s.upstream.connIdByStreamId.lookup x = some i)
    (hh : ∀ i, i ≠ id → t.upstream.tcpConnections.lookup i = s.upstream.tcpConnections.lookup i)
    (hf : ∀ c, t.upstream.tcpConnections.lookup id = some c →
      c.clientClosed = true ∧ c.streamClosed = false) :
    Closing u r t := by
  refine ⟨hd, ht h.reason, fun x i hi ↦ h.byStream x i (hb x i hi), fun i hi ↦ ?_, fun i c hi ↦ ?_⟩
  · rw [hh i fun he ↦ hw (he ▸ hi)]
    exact h.waiting i (mem_cons_of_mem _ hi)
  · by_cases he : i = id
    · exact .inr (hf c (he ▸ hi))
    · rw [hh i he] at hi
      exact (h.closed i c hi).imp_left fun hm ↦ (mem_cons.1 hm).resolve_left he

theorem closing_visit (h : Closing u (id :: rest) s) (hs : s.upstream.session = true)
    (he : id ∉ rest) {rs : List Report}
    (hre : ∀ r ∈ rs, ∀ i ∈ rest, u.connIdByStreamId.lookup r.streamId ≠ some i) :
    Closing u rest (s.closeConnection id false false rs) ∧
      (s.closeConnection id false false rs).upstream.session = true := by
  obtain ⟨conn, hn⟩ := Option.isSome_iff_exists.1 (h.waiting id mem_cons_self)
  have hw : Alters s.upstream s.upstream id conn := alters_self hn
  have hf : s.upstream.closeConnection id false false = s.upstream.closeTcpConnection id false := by
    simp only [Http2Upstream.closeConnection, hn]
    rfl
  have hrs : Reason id s.trace := .inr (.inr (.inr h.reason))
  have hl : Live (s.closeConnection id false false rs) :=
    live_closeConnection ⟨h.good, hs⟩ hn false false rs hrs (by simp)
  refine ⟨?_, hl.session⟩
  cases hcl : conn.streamClosed with
  | true =>
    rw [closeTcpConnection_of_closed hs hn hcl] at hf
    rw [State.closeConnection, resetting_of_closed hw hf] at hl ⊢
    have hk : ∀ i, (s.upstream.closeConnection id false false).tcpConnections.lookup i =
        if i = id then none else s.upstream.tcpConnections.lookup i := by
      intro i
      rw [hf, lookup_finish _ hw]
    refine h.next he hl.good (subset_perform s _) (fun x i hi ↦ ?_)
      (fun i hi ↦ (hk i).trans (if_neg hi)) fun c₁ hi ↦ ?_
    · change (s.upstream.closeConnection id false false).connIdByStreamId.lookup x = some i at hi
      rw [hf] at hi
      exact byStream_finish _ hw hi
    · cases ((hk id).trans (if_pos rfl)).symm.trans hi
  | false =>
    rw [closeTcpConnection_of_open hs hn hcl] at hf
    have hr : Live (s.perform (·.closeConnection id false false)) :=
      live_reset ⟨h.good, hs⟩ hn hw rfl rfl (fun hc ↦ hc) hrs hf
    rw [State.closeConnection, resetting_of_open hw hf]
    have hk : ∀ i, (s.upstream.closeConnection id false false).tcpConnections.lookup i =
        if i = id then some { conn with clientClosed := true }
        else s.upstream.tcpConnections.lookup i := by
      intro i
      rw [hf]
      exact lookup_setConnection hn i
    refine closing_reportAll (h.next he hr.good (subset_perform s _) (fun x i hi ↦ ?_)
      (fun i hi ↦ (hk i).trans (if_neg hi)) fun c₁ hi ↦ ?_) hre
    · change (s.upstream.closeConnection id false false).connIdByStreamId.lookup x = some i at hi
      rw [hf] at hi
      exact hi
    · cases ((hk id).trans (if_pos rfl)).symm.trans hi
      exact ⟨rfl, hcl⟩

/-- No stream of a connection that `close_session` is still to close is reported. -/
def inTurn (u : Http2Upstream) : List (ℕ × List Report) → Bool
  | [] => true
  | v :: rest =>
    v.2.all (fun r ↦
      !(u.connIdByStreamId.lookup r.streamId).any fun i ↦ (rest.map Prod.fst).contains i) &&
    inTurn u rest

theorem closing_visits {vs : List (ℕ × List Report)} (h : Closing u (vs.map Prod.fst) s)
    (hse : s.upstream.session = true) (hd : (vs.map Prod.fst).Nodup) (hn : inTurn u vs = true) :
    Closing u [] (vs.foldl (fun s v ↦ s.closeConnection v.1 false false v.2) s) := by
  induction vs generalizing s with
  | nil => exact h
  | cons v vs ih =>
    rw [map_cons, nodup_cons] at hd
    rw [inTurn, Bool.and_eq_true, all_eq_true] at hn
    have hre : ∀ r ∈ v.2, ∀ i ∈ vs.map Prod.fst,
        u.connIdByStreamId.lookup r.streamId ≠ some i := by
      intro r hr i hi hx
      have he := hn.1 r hr
      rw [hx, Option.any_some, contains_iff_mem.2 hi] at he
      cases he
    obtain ⟨ht, hs⟩ := closing_visit h hse hd.1 hre
    exact ih ht hs hd.2 hn.2

end Closing

section CloseSession

variable {s : State}

theorem openStreams_reportAll (s : State) (rs : List Report) :
    (s.reportAll rs).openStreams = s.openStreams.diff (rs.map Report.streamId) := by
  induction rs generalizing s with
  | nil => rfl
  | cons r rs ih =>
    have ho : (s.report r).openStreams = s.openStreams.erase r.streamId := by
      rw [report]
      split
      · rfl
      · next hm => exact (erase_of_not_mem hm).symm
    rw [map_cons, diff_cons, ← ho]
    exact ih (s.report r)

theorem diff_self (l : List ℕ) : l.diff l = [] := by
  induction l with
  | nil => rfl
  | cons x l ih => rw [diff_cons, erase_cons_head, ih]

theorem diff_append_self (l l' : List ℕ) : l.diff (l' ++ l) = [] := by
  rw [diff_append, ← sublist_nil, ← diff_self l]
  exact (diff_sublist l l').diff_right

theorem Closing.lookup_eq_none (h : Closing u [] s) (hn : s.openStreams = []) (i : ℕ) :
    s.upstream.tcpConnections.lookup i = none := by
  rw [Option.eq_none_iff_forall_ne_some]
  intro c hc
  have hl := (h.closed i c hc).resolve_left not_mem_nil
  have hm := h.good.opened i c hc hl.2
  rw [hn] at hm
  cases hm

theorem Closing.dropSession {r : List ℕ} (h : Closing u r s) :
    Closing u r { s with upstream := { s.upstream with session := false } } := by
  refine ⟨?_, h.reason, h.byStream, h.waiting, h.closed⟩
  exact h.good.extend [] rfl rfl rfl (fun _ _ _ hx ↦ hx) (append_nil _).symm (by simp)

theorem Good.clear (h : Good s) (he : ∀ i, s.upstream.tcpConnections.lookup i = none) :
    Good { s with upstream := { s.upstream with tcpConnections := ∅, connIdByStreamId := ∅ } } where
  conn_of_stream x i hx := by cases hx
  stream_of_conn i conn hi := by cases hi
  byStream_lt x i hx := by cases hx
  accepted i hi := h.accepted i (.inr (hi.resolve_left (by simp)))
  notOver i hi := by cases hi
  complete i hi := (h.complete i hi).imp_right fun hs ↦ by
    rw [he] at hs
    exact hs
  opened i conn hi := by cases hi
  clientClosed i conn hi := by cases hi
  closeTask i conn hi := by cases hi
  orderly := h.orderly
  guarded := h.guarded

theorem Closing.leftovers (h : Closing u [] s) (ls : List ℕ) :
    Good { s.reportAll ((ls ++ s.openStreams).map fun x ↦ ⟨x, some invalidStateText⟩) with
      upstream := { (s.reportAll ((ls ++ s.openStreams).map fun x ↦
        ⟨x, some invalidStateText⟩)).upstream with
            tcpConnections := ∅, connIdByStreamId := ∅ } } := by
  have hl : Closing u []
      (s.reportAll ((ls ++ s.openStreams).map fun x ↦ ⟨x, some invalidStateText⟩)) :=
    closing_reportAll h fun _ _ i hi ↦ by cases hi
  refine Good.clear hl.good (hl.lookup_eq_none ?_)
  rw [openStreams_reportAll, map_map]
  exact (congrArg _ (map_id _)).trans (diff_append_self _ _)

theorem closeSession_good (h : Live s) {vs : List (ℕ × List Report)}
    (hs : (vs.map Prod.fst).Perm s.upstream.tcpConnections.keys)
    (hn : inTurn s.upstream vs = true) (rs : List Report) (ls : List ℕ) :
    Good (s.closeSession vs rs ls) := by
  have hd : Good (s.note .sessionClosing) := by
    refine h.good.extend _ rfl rfl rfl (fun _ _ _ hx ↦ hx) rfl ?_
    simp [Record.terminal, subject]
  have ht : Closing s.upstream (vs.map Prod.fst) (s.note .sessionClosing) := by
    refine ⟨hd, mem_concat_self, fun _ _ hi ↦ hi,
      fun i hi ↦ AList.lookup_isSome.2 (hs.mem_iff.1 hi), fun i c hi ↦ .inl ?_⟩
    exact hs.mem_iff.2 (AList.lookup_isSome.1 (Option.isSome_of_eq_some hi))
  have hnd : (vs.map Prod.fst).Nodup := hs.nodup_iff.2 s.upstream.tcpConnections.nodupKeys
  have hv := closing_reportAll (closing_visits ht h.session hnd hn)
    (fun r (_ : r ∈ rs) i hi ↦ by cases hi)
  exact hv.dropSession.leftovers ls

end CloseSession

def closesInTurn (s : State) (label : Env × Input) : Bool :=
  match label.2 with
  | .closeSession visits _ _ => inTurn s.upstream visits
  | _ => true

structure Sound (s : State) : Prop where
  good : Good s
  closed : s.upstream.session = false → ∀ i, s.upstream.tcpConnections.lookup i = none

theorem sound_of_live (h : Live s) : Sound s := ⟨h.good, fun hc ↦ by cases h.session.symm.trans hc⟩

theorem sound_init : Sound {} := by
  refine sound_of_live ⟨⟨?_, ?_, ?_, ?_, ?_, ?_, ?_, ?_, ?_, guarded_nil, guarded_nil⟩, rfl⟩
  · intro x i hx
    cases hx
  · intro i c hi
    cases hi
  · intro x i hx
    cases hx
  · intro i hi
    exact (hi.resolve_left (by simp)).elim fun r hr ↦ by cases hr.1
  · intro i hi
    cases hi
  · intro i hi
    cases hi
  · intro i c hi
    cases hi
  · intro i c hi
    cases hi
  · intro i c hi
    cases hi

theorem live_mayClose (h : Live s) (hy : s.mayClose id = true) (g a : Bool) (rs : List Report) :
    Live ((s.note (.closeRequested id)).closeConnection id g a rs) := by
  simp only [mayClose, Bool.and_eq_true, contains_iff_mem, Bool.not_eq_true',
    any_eq_false, decide_eq_true_eq] at hy
  have hn : Live (s.note (.closeRequested id)) := by
    refine ⟨h.good.extend _ rfl rfl rfl (fun _ _ _ hx ↦ hx) rfl ?_, h.session⟩
    simp [Record.terminal, subject]
  have hs : (s.upstream.tcpConnections.lookup id).isSome := by
    refine (h.good.complete id hy.1.1).resolve_left ?_
    rintro ⟨r, hr, he⟩
    exact hy.2 r hr he
  obtain ⟨c, hc⟩ := Option.isSome_iff_exists.1 hs
  have hm : .closeRequested id ∈ (s.note (.closeRequested id)).trace := mem_concat_self
  exact live_closeConnection hn hc g a rs (.inl hm) fun _ ↦ hm

theorem sound_step {t : State} {l : Env × Input} (h : Sound s)
    (ho : closesInTurn s l = true) (hp : step s l = some t) : Sound t := by
  obtain ⟨ev, i⟩ := l
  simp only [step, Bool.and_eq_true, Option.ite_none_right_eq_some, Option.some.injEq] at hp
  obtain ⟨⟨hs, he⟩, rfl⟩ := hp
  have hl : Live s := ⟨h.good, hs⟩
  cases i with
  | openConnection id si =>
    simp only [enabled, Bool.and_eq_true, Bool.not_eq_true', decide_eq_true_eq] at he
    refine sound_of_live (live_openConnection hl ?_ he.2)
    simpa using he.1
  | headers si sc e => exact sound_of_live (live_handleResponse hl _ _ _)
  | data si data rs => exact sound_of_live (live_handleData hl ev _ _ _)
  | streamProcessed r => exact sound_of_live (live_reportAll hl [r])
  | dataSent si lh => exact sound_of_live (live_dataSent hl _ _)
  | writeFlushed o => exact sound_of_live (live_writeFlushed hl (of_decide_eq_true he))
  | resetStreams rs => exact sound_of_live (live_resetStreams hl _)
  | completeRead id rs r' => exact sound_of_live (live_completeRead hl ev _ _ _)
  | updateFlowControl id on => exact sound_of_live (live_updateFlowControl hl _ _)
  | closeConnection id g a rs =>
    exact sound_of_live (live_mayClose hl he g a rs)
  | closeTask id rs => exact sound_of_live (live_runCloseTask hl _ _)
  | closeSession vs rs ls =>
    exact ⟨closeSession_good hl (of_decide_eq_true he) ho rs ls, fun _ _ ↦ rfl⟩

/-- The run lemma: each connection has ended once or is still there. -/
theorem sound_run {ls : List (Env × Input)}
    (h : Run step (fun s l ↦ closesInTurn s l = true) {} ls s) : Sound s :=
  h.invariant sound_init fun _ _ _ hs hok hp ↦ sound_step hs hok hp

/-- If `close_session` never hears of the end of a connection that it is still to close, the maps
are inverse, and the end of a connection is told once at most, as the last thing, and exactly once
if it was accepted and the session is closed. -/
theorem connections_end_once {s : State} {ls : List (Env × Input)}
    (h : Run step (fun s l ↦ closesInTurn s l = true) {} ls s) :
    (∀ x id, s.upstream.connIdByStreamId.lookup x = some id ↔
      ∃ conn, s.upstream.tcpConnections.lookup id = some conn ∧ conn.streamId = x) ∧
    (∀ before r after id, s.trace = before ++ r :: after → r.terminal = some id →
      .accepted id ∈ s.trace ∧ ∀ r' ∈ after, subject r' ≠ some id) ∧
    (∀ id, s.trace.countP (fun r ↦ r.terminal = some id) ≤ 1) ∧
    (s.upstream.session = false → ∀ id, .accepted id ∈ s.trace →
      s.trace.countP (fun r ↦ r.terminal = some id) = 1) ∧
    ∀ before id unread after, s.trace = before ++ .connectionClosed id unread :: after →
      unread ≠ [] → Reason id before := by
  obtain ⟨hg, hc⟩ := sound_run h
  refine ⟨fun x id ↦ ⟨hg.conn_of_stream x id, ?_⟩, fun before r after id hl hr ↦ ⟨?_, ?_⟩,
    fun id ↦ ?_, fun hs id hi ↦ ?_, fun before id unread after hl he ↦ ?_⟩
  · rintro ⟨conn, hn, rfl⟩
    exact hg.stream_of_conn id conn hn
  · refine hg.accepted id (.inr ⟨r, ?_, hr⟩)
    rw [hl]
    exact mem_append_right _ mem_cons_self
  · exact hg.orderly.not_after hl hr
  · exact hg.orderly.countP_le_one subject_of_terminal id
  · refine hg.orderly.countP_eq_one subject_of_terminal ((hg.complete id hi).resolve_right ?_)
    rw [hc hs id]
    exact Bool.false_ne_true
  · exact hg.guarded before _ after hl id unread rfl he

def overlappingCloses (visits : List (ℕ × List Report)) : List (Env × Input) :=
  [({}, .openConnection 7 1), ({}, .openConnection 8 3), ({}, .closeConnection 8 false false []),
    ({}, .closeSession visits [] [])]

theorem connections_end_once_in_turn :
    ∃ s, Run step (fun s l ↦ closesInTurn s l = true) {}
        (overlappingCloses [(8, []), (7, [⟨3, some "CANCEL"⟩, ⟨1, some "CANCEL"⟩])]) s ∧
      s.upstream.session = false ∧ s.trace.countP (fun r ↦ r.terminal = some 8) = 1 :=
  exists_run_imp (P := fun s ↦ s.upstream.session = false ∧ .accepted 8 ∈ s.trace) (by decide)
    fun _ h hs ↦ ⟨hs.1, (connections_end_once h).2.2.2.1 hs.1 8 hs.2⟩

/-- The stream of the closed connection is reported while the other one is being closed. -/
theorem closed_after_error :
    ∃ s, Run step anyStep {}
        (overlappingCloses [(7, [⟨3, some "CANCEL"⟩, ⟨1, some "CANCEL"⟩]), (8, [])]) s ∧
      s.trace = [.accepted 7, .accepted 8, .closeRequested 8, .resetStream 3 false, .sessionClosing,
        .resetStream 1 false, .error 8 ⟨econnrefused, "CANCEL"⟩, .error 7 ⟨econnrefused, "CANCEL"⟩,
        .connectionClosed 8 []] :=
  exists_run (by decide)

end TrustTunnel.Upstream.Http2.Terminal

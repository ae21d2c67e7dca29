import TrustTunnel.Upstream.Http2.Lifecycle

namespace TrustTunnel.Upstream.Http2.Calls

open Connections Http2Upstream Lib.Assoc Lifecycle Http2.Session State TcpConnection Upstream.Types
open List Option

variable {w : Http2Upstream} {f : Http2Upstream → Http2Upstream}

section Calls

variable {s : State} {u : Http2Upstream} {id : ℕ} {conn conn' : TcpConnection}

theorem raisedBy_eq {es : List Event} (h : (f s.upstream).events = s.upstream.events ++ es) :
    s.raisedBy f = es.map (recordOf s.upstream) := by
  rw [raisedBy, h, drop_left]

theorem raisedBy_nil (h : (f s.upstream).events = s.upstream.events) : s.raisedBy f = [] := by
  rw [raisedBy, h, drop_length]
  rfl

theorem lookup_setConnection (h : u.tcpConnections.lookup id = some conn) (i : ℕ) :
    (u.setConnection id conn').tcpConnections.lookup i =
      if i = id then some conn' else u.tcpConnections.lookup i := by
  rw [setConnection, lookup_replace, h]
  rfl

theorem clean_eq (h : u.tcpConnections.lookup id = some conn) :
    u.cleanTcpConnectionData id = { u with
      connIdByStreamId := u.connIdByStreamId.erase conn.streamId
      tcpConnections := u.tcpConnections.erase id } := by
  rw [cleanTcpConnectionData, h]

/-- The upstreams differ in the connection `id` only. -/
structure Alters (u w : Http2Upstream) (id : ℕ) (conn' : TcpConnection) : Prop where
  lookup : ∀ i, w.tcpConnections.lookup i =
    if i = id then some conn' else u.tcpConnections.lookup i
  byStream : w.connIdByStreamId = u.connIdByStreamId
  events : w.events = u.events
  session : w.session = u.session

theorem alters_self (h : u.tcpConnections.lookup id = some conn) : Alters u u id conn := by
  refine ⟨fun i ↦ ?_, rfl, rfl, rfl⟩
  split
  · next hi => rw [hi, h]
  · rfl

theorem alters_setConnection (h : u.tcpConnections.lookup id = some conn) :
    Alters u (u.setConnection id conn') id conn' :=
  ⟨lookup_setConnection h, rfl, rfl, rfl⟩

theorem Alters.lookup_self (h : Alters u w id conn') : w.tcpConnections.lookup id = some conn' := by
  rw [h.lookup, if_pos rfl]

/-- A connection that is there is finished: its end is told, and it leaves the tables. -/
theorem good_finish (h : Good s) (hn : s.upstream.tcpConnections.lookup id = some conn)
    {e : Event} (hf : f s.upstream = (w.emit e).cleanTcpConnectionData id)
    (hw : Alters s.upstream w id conn') (hs : conn'.streamId = conn.streamId)
    (he : (recordOf s.upstream e).terminal = some id)
    (hd : e = .connectionClosed id → conn.unread ≠ [] → Reason id s.trace)
    {openStreams : List ℕ} (ho : ∀ x ∈ s.openStreams, x ∈ openStreams ∨ x = conn.streamId) :
    Good ({ s with openStreams }.perform f) := by
  have hc : (w.emit e).cleanTcpConnectionData id = { w.emit e with
      connIdByStreamId := w.connIdByStreamId.erase conn'.streamId
      tcpConnections := w.tcpConnections.erase id } := clean_eq hw.lookup_self
  have ha : raisedBy { s with openStreams } f = [e].map (recordOf s.upstream) := by
    refine raisedBy_eq ?_
    change (f s.upstream).events = _
    rw [hf, hc, ← hw.events]
    rfl
  refine h.finish hn he (fun u hr ↦ ?_) (fun i ↦ ?_) (fun x ↦ ?_) rfl ho
    (congrArg (s.trace ++ ·) ha)
  · cases e with
    | connectionClosed i =>
      cases some.inj he
      cases hr
      rw [unreadOf, hn]
      exact hd rfl
    | connectionOpened => cases hr
    | error => cases hr
    | resetStream => cases hr
  · change (f s.upstream).tcpConnections.lookup i = _
    rw [hf, hc]
    change (w.tcpConnections.erase id).lookup i = _
    rw [lookup_erase, hw.lookup]
    split <;> rfl
  · change (f s.upstream).connIdByStreamId.lookup x = _
    rw [hf, hc]
    change (w.connIdByStreamId.erase conn'.streamId).lookup x = _
    rw [lookup_erase, hs, hw.byStream]

theorem good_alter (h : Good s) (hn : s.upstream.tcpConnections.lookup id = some conn)
    (hf : Alters s.upstream (f s.upstream) id conn') (hs : Reads conn conn') :
    Good (s.perform f) := by
  have hr : s.raisedBy f = [] := raisedBy_nil hf.events
  refine h.touch hn hf.lookup hf.byStream rfl ?_ hs.streamId (fun x hx ↦ .inl hx)
    (fun hc ↦ hs.streamClosed ▸ hc) (fun hc ↦ h.clientClosed id conn hn ?_)
    fun hc ↦ h.closeTask id conn hn ?_
  · rw [perform, hr, append_nil]
  · rw [← hs.clientClosed, hc]
  · rw [← hs.closeTask, hc]

theorem perform_eq_self (hf : f s.upstream = s.upstream) : s.perform f = s := by
  rw [perform, raisedBy_nil (congrArg events hf), hf, append_nil]

end Calls

section Reports

variable {s : State} {id : ℕ} {conn : TcpConnection}

theorem getConnByStreamId_eq_some {u : Http2Upstream} {x : ℕ}
    (h : u.getConnByStreamId x = some (id, conn)) :
    u.connIdByStreamId.lookup x = some id ∧ u.tcpConnections.lookup id = some conn := by
  simp only [getConnByStreamId, Option.bind_eq_bind, Option.bind_eq_some_iff, Option.pure_def,
    some.injEq, Prod.mk.injEq] at h
  obtain ⟨i, hi, c, hc, rfl, rfl⟩ := h
  exact ⟨hi, hc⟩

theorem getConnByStreamId_eq_none (h : Good s) {x : ℕ}
    (he : s.upstream.getConnByStreamId x = none) : s.upstream.connIdByStreamId.lookup x = none := by
  rw [eq_none_iff_forall_ne_some]
  intro i hi
  obtain ⟨c, hc, _⟩ := h.conn_of_stream x i hi
  simp [getConnByStreamId, hi, hc] at he

theorem good_report (h : Good s) (r : Report) : Good (s.report r) := by
  simp only [report]
  split
  swap
  · exact h
  cases hget : s.upstream.getConnByStreamId r.streamId with
  | none =>
    have hs : s.upstream.streamProcessed r.streamId r.errorText = s.upstream := by
      rw [streamProcessed, hget]
    rw [perform_eq_self hs]
    refine h.extend [] rfl rfl rfl (fun i c hc hm ↦ ?_) (append_nil _).symm (by simp)
    refine (mem_erase_of_ne ?_).2 hm
    intro hx
    have hl := h.stream_of_conn i c hc
    rw [hx, getConnByStreamId_eq_none h hget] at hl
    cases hl
  | some p =>
    obtain ⟨i, c⟩ := p
    obtain ⟨hx, hc⟩ := getConnByStreamId_eq_some hget
    obtain ⟨c', hc', hr⟩ := h.conn_of_stream _ i hx
    cases hc.symm.trans hc'
    have ho : ∀ x ∈ s.openStreams, x ∈ s.openStreams.erase r.streamId ∨ x = c.streamId := by
      intro x hm
      by_cases hn : x = r.streamId
      · exact .inr (hn.trans hr.symm)
      · exact .inl ((mem_erase_of_ne hn).2 hm)
    have hw : Alters s.upstream (s.upstream.setConnection i { c with streamClosed := true }) i
        { c with streamClosed := true } := alters_setConnection hc
    cases herr : c.pendingError.or (r.errorText.map fun t ↦ ⟨econnrefused, t⟩) with
    | some e =>
      refine good_finish (e := .error i e) h hc ?_ hw rfl rfl (fun he ↦ by cases he) ho
      simp only [streamProcessed, hget, herr]
    | none =>
      by_cases hend : c.clientClosed || c.unread.isEmpty
      · refine good_finish (e := .connectionClosed i) h hc ?_ hw rfl rfl (fun _ hn ↦ ?_) ho
        · simp only [streamProcessed, hget, herr, if_pos hend]
        · rw [Bool.or_eq_true, List.isEmpty_iff] at hend
          exact h.clientClosed i c hc (hend.resolve_right hn)
      · have hf : s.upstream.streamProcessed r.streamId r.errorText =
            s.upstream.setConnection i { c with streamClosed := true } := by
          simp only [streamProcessed, hget, herr, if_neg hend]
        have hl : ∀ i', (s.upstream.streamProcessed r.streamId r.errorText).tcpConnections.lookup
            i' = if i' = i then some { c with streamClosed := true }
              else s.upstream.tcpConnections.lookup i' := by
          intro i'
          rw [hf]
          exact hw.lookup i'
        have ha : raisedBy { s with openStreams := s.openStreams.erase r.streamId }
            (·.streamProcessed r.streamId r.errorText) = [] := by
          refine raisedBy_nil ?_
          change (s.upstream.streamProcessed r.streamId r.errorText).events = _
          rw [hf]
          rfl
        refine h.touch hc hl ?_ rfl ?_ rfl
          (fun x hm ↦ (ho x hm).imp_right fun hx ↦ ⟨hx, rfl⟩) (fun hf ↦ by cases hf)
          (h.clientClosed i c hc) (h.closeTask i c hc)
        · change (s.upstream.streamProcessed r.streamId r.errorText).connIdByStreamId = _
          rw [hf]
          rfl
        · rw [perform, ha, append_nil]

theorem session_clean (u : Http2Upstream) (i : ℕ) :
    (u.cleanTcpConnectionData i).session = u.session := by
  rw [cleanTcpConnectionData]
  split <;> rfl

theorem session_streamProcessed (u : Http2Upstream) (x : ℕ) (et : Option String) :
    (u.streamProcessed x et).session = u.session := by
  rw [streamProcessed]
  split
  · rfl
  split
  · exact session_clean _ _
  split
  · exact session_clean _ _
  · rfl

theorem session_report (s : State) (r : Report) :
    (s.report r).upstream.session = s.upstream.session := by
  rw [report]
  split
  · exact session_streamProcessed _ _ _
  · rfl

theorem good_reportAll (h : Good s) (rs : List Report) : Good (s.reportAll rs) := by
  induction rs generalizing s with
  | nil => exact h
  | cons r rs ih => exact ih (good_report h r)

theorem session_reportAll (s : State) (rs : List Report) :
    (s.reportAll rs).upstream.session = s.upstream.session := by
  induction rs generalizing s with
  | nil => rfl
  | cons r rs ih => exact (ih (s.report r)).trans (session_report s r)

theorem subset_perform (s : State) (f : Http2Upstream → Http2Upstream) :
    s.trace ⊆ (s.perform f).trace := subset_append_left _ _

theorem subset_reportAll (s : State) (rs : List Report) : s.trace ⊆ (s.reportAll rs).trace := by
  induction rs generalizing s with
  | nil => exact fun _ hr ↦ hr
  | cons r rs ih =>
    refine List.Subset.trans ?_ (ih (s.report r))
    rw [report]
    split
    · exact subset_append_left _ _
    · exact fun _ hr ↦ hr

theorem subset_resetting (s : State) (f : Http2Upstream → Http2Upstream) (rs : List Report) :
    s.trace ⊆ (s.resetting f rs).trace := by
  rw [resetting]
  split
  · exact List.Subset.trans (subset_perform s f) (subset_reportAll _ rs)
  · exact subset_perform s f

end Reports

/-- `Good`, in a session that is open. -/
structure Live (s : State) : Prop where
  good : Good s
  session : s.upstream.session = true

section Live

variable {s : State} {id : ℕ} {cn conn' : TcpConnection} {f : Http2Upstream → Http2Upstream}

theorem live_reportAll (h : Live s) (rs : List Report) : Live (s.reportAll rs) :=
  ⟨good_reportAll h.good rs, (session_reportAll s rs).trans h.session⟩

theorem resetting_of_not_reset {rs : List Report}
    (h : ∀ r ∈ s.raisedBy f, isReset r = false) : s.resetting f rs = s.perform f := by
  rw [resetting, if_neg]
  simpa using h

theorem closeTcpConnection_of_closed (h : w.session = true)
    (hn : w.tcpConnections.lookup id = some cn) (hc : cn.streamClosed = true) (g : Bool) :
    w.closeTcpConnection id g = (w.emit (.connectionClosed id)).cleanTcpConnectionData id := by
  simp only [closeTcpConnection, h, hn, if_pos hc]

theorem closeTcpConnection_of_open (h : w.session = true)
    (hn : w.tcpConnections.lookup id = some cn) (hc : cn.streamClosed = false) (g : Bool) :
    w.closeTcpConnection id g =
      (w.emit (.resetStream cn.streamId g)).setConnection id
        { cn with clientClosed := true } := by
  simp [closeTcpConnection, h, hn, hc]

theorem closeTcpConnection_of_none (h : w.tcpConnections.lookup id = none) (g : Bool) :
    w.closeTcpConnection id g = w := by
  simp [closeTcpConnection, cleanTcpConnectionData, h]

theorem live_reset (h : Live s) (hn : s.upstream.tcpConnections.lookup id = some cn)
    (hw : Alters s.upstream w id c') (hs : c'.streamId = cn.streamId)
    (hcl : c'.streamClosed = cn.streamClosed)
    (ht : c'.closeTask.isSome → cn.closeTask.isSome) (hr : Reason id s.trace)
    {g : Bool} (hf : f s.upstream =
      (w.emit (.resetStream c'.streamId g)).setConnection id
        { c' with clientClosed := true }) :
    Live (s.perform f) := by
  have hw' : Alters (w.emit (.resetStream c'.streamId g)) (f s.upstream) id
      { c' with clientClosed := true } := by
    rw [hf]
    exact alters_setConnection hw.lookup_self
  have ha : s.raisedBy f = [.resetStream c'.streamId g] :=
    raisedBy_eq (s := s) (f := f) (hw'.events.trans (congrArg (· ++ _) hw.events))
  have hd : Good { s with trace := s.trace ++ s.raisedBy f } := by
    refine h.good.extend (s.raisedBy f) rfl rfl rfl (fun _ _ _ hx ↦ hx) rfl ?_
    rw [ha]
    simp [Record.terminal, subject]
  have hl : ∀ i, (f s.upstream).tcpConnections.lookup i =
      if i = id then some { c' with clientClosed := true }
      else s.upstream.tcpConnections.lookup i := by
    intro i
    refine (hw'.lookup i).trans ?_
    split
    · rfl
    · next hi => exact (hw.lookup i).trans (if_neg hi)
  refine ⟨hd.touch hn hl (hw'.byStream.trans hw.byStream) rfl rfl hs
    (fun x hx ↦ .inl hx) (fun hc ↦ hcl ▸ hc)
    (fun _ ↦ hr.mono (subset_append_left _ _)) fun hc ↦ ?_,
    hw'.session.trans (hw.session.trans h.session)⟩
  exact mem_append_left _ (h.good.closeTask id cn hn (ht hc))

theorem resetting_of_closed (hw : Alters s.upstream w id conn')
    (hf : f s.upstream = (w.emit (.connectionClosed id)).cleanTcpConnectionData id)
    (rs : List Report) : s.resetting f rs = s.perform f := by
  have hr : s.raisedBy f = [.connectionClosed id].map (recordOf s.upstream) := by
    refine raisedBy_eq ?_
    rw [hf, clean_eq (u := w.emit _) hw.lookup_self, ← hw.events]
    rfl
  exact resetting_of_not_reset (by simp [hr, recordOf, isReset])

theorem resetting_of_open (hw : Alters s.upstream w id conn') {si : ℕ} {g : Bool}
    (hf : f s.upstream = (w.emit (.resetStream si g)).setConnection id cn)
    (reports : List Report) : s.resetting f reports = (s.perform f).reportAll reports := by
  have hr : s.raisedBy f = [.resetStream si g].map (recordOf s.upstream) := by
    refine raisedBy_eq ?_
    rw [hf, ← hw.events]
    rfl
  rw [resetting, if_pos (by simp [hr, recordOf, isReset])]

theorem live_close (h : Live s) (hn : s.upstream.tcpConnections.lookup id = some cn)
    (hw : Alters s.upstream w id conn') (hr : conn'.streamId = cn.streamId)
    (hcl : conn'.streamClosed = cn.streamClosed)
    (hk : conn'.closeTask.isSome → cn.closeTask.isSome) (hrs : Reason id s.trace)
    (g : Bool) (hf : f s.upstream = w.closeTcpConnection id g) (rs : List Report) :
    Live (s.resetting f rs) := by
  have hs : w.session = true := hw.session.trans h.session
  have hl : w.tcpConnections.lookup id = some conn' := hw.lookup_self
  cases hc : conn'.streamClosed with
  | true =>
    rw [closeTcpConnection_of_closed hs hl hc] at hf
    rw [resetting_of_closed hw hf]
    refine ⟨good_finish h.good hn hf hw hr rfl (fun _ _ ↦ hrs) fun x hx ↦ .inl hx, ?_⟩
    change (f s.upstream).session = true
    rw [hf, session_clean]
    exact hs
  | false =>
    rw [closeTcpConnection_of_open hs hl hc] at hf
    rw [resetting_of_open hw hf]
    exact live_reportAll (live_reset h hn hw hr hcl hk hrs hf) rs

theorem live_closeTcpConnection (h : Live s) (hn : Reason id s.trace) (g : Bool)
    (rs : List Report) : Live (s.resetting (·.closeTcpConnection id g) rs) := by
  cases hconn : s.upstream.tcpConnections.lookup id with
  | none =>
    have hs : s.upstream.closeTcpConnection id g = s.upstream := closeTcpConnection_of_none hconn g
    rw [resetting_of_not_reset, perform_eq_self hs]
    · exact h
    · rw [raisedBy_nil (congrArg events hs)]
      simp
  | some cn =>
    exact live_close h hconn (alters_self hconn) rfl rfl (fun hc ↦ hc) hn g rfl rs

theorem live_alter (h : Live s) (hn : s.upstream.tcpConnections.lookup id = some cn)
    (hf : Alters s.upstream (f s.upstream) id conn') (hs : Reads cn conn') : Live (s.perform f) :=
  ⟨good_alter h.good hn hf hs, hf.session.trans h.session⟩

theorem live_noteReads (h : Live s) (hn : s.upstream.tcpConnections.lookup id = some cn)
    (c : ℕ) (o : Outcome) : Live (s.noteReads id c o) := by
  refine ⟨h.good.extend _ rfl rfl rfl (fun _ _ _ hx ↦ hx) rfl fun r hr ↦ ?_, h.session⟩
  rcases mem_append.1 hr with hr | hr
  · rw [eq_of_mem_replicate hr]
    simp [Record.terminal, subject, hn]
  · cases o with
    | done => cases hr
    | refused =>
      rw [mem_singleton.1 hr]
      simp [Record.terminal, subject]
    | broken =>
      rw [mem_singleton.1 hr]
      simp [Record.terminal, subject]

theorem live_beforeClose (h : Live s) (hn : s.upstream.tcpConnections.lookup id = some cn)
    (hs : Reads cn conn') (c : ℕ) (o : Outcome) :
    Live ((s.noteReads id c o).perform (·.setConnection id conn')) :=
  live_alter (live_noteReads h hn c o) hn (alters_setConnection hn) hs

theorem outcomeRecords_subset (s : State) (id c : ℕ) (o : Outcome) (c' : TcpConnection) :
    outcomeRecords id o ⊆ ((s.noteReads id c o).perform (·.setConnection id c')).trace := by
  intro r hr
  exact mem_append_left _ (mem_append_right _ (mem_append_right _ hr))

theorem live_finishRead (h : Live s) (hn : s.upstream.tcpConnections.lookup id = some cn)
    (hs : Reads cn conn') (o : Outcome) (rs : List Report) :
    Live (s.finishRead id cn conn' o rs) := by
  have hl := live_beforeClose h hn hs (conn'.raised - cn.raised) o
  cases o with
  | done =>
    rw [finishRead, resetting_of_not_reset, perform_eq_self rfl]
    · exact hl
    · rw [raisedBy_nil rfl]
      simp
  | broken =>
    rw [finishRead, resetting_of_not_reset, perform_eq_self rfl]
    · exact hl
    · rw [raisedBy_nil rfl]
      simp
  | refused =>
    refine live_closeTcpConnection hl (.inr (.inl ?_)) false rs
    exact outcomeRecords_subset s id _ .refused conn' (mem_singleton_self _)

theorem live_handleData (h : Live s) (e : Env) (si : ℕ) (d : List UInt8)
    (rs : List Report) : Live (s.handleData e si d rs) := by
  rw [State.handleData]
  split
  · exact h
  · next i c hg =>
    exact live_finishRead h (getConnByStreamId_eq_some hg).2 (reads_receiveData d) _ rs

theorem live_finishCompleteRead (h : Live s) (hs : Reads cn conn') (o : Outcome)
    (hn : s.upstream.tcpConnections.lookup id = some cn) (rs r : List Report) :
    Live ((s.finishRead id cn conn' o rs).finishCompleteRead id conn' r o) := by
  have hl : Live (s.finishRead id cn conn' o rs) := live_finishRead h hn hs o rs
  have hb : outcomeRecords id o ⊆ (s.finishRead id cn conn' o rs).trace :=
    List.Subset.trans (outcomeRecords_subset s id _ o conn') (subset_resetting _ _ rs)
  cases o with
  | done =>
    rw [finishCompleteRead]
    split
    · next he =>
      rw [Bool.and_eq_true, List.isEmpty_iff] at he
      have hk : (s.finishRead id cn conn' .done rs).upstream.tcpConnections.lookup id =
          some conn' := by
        rw [finishRead, resetting_of_not_reset, perform_eq_self rfl]
        · exact (alters_setConnection hn).lookup_self
        · rw [raisedBy_nil rfl]
          simp
      refine ⟨good_finish (e := .connectionClosed id) hl.good hk rfl (alters_self hk)
        rfl rfl (fun _ hne ↦ absurd he.1 hne) fun x hx ↦ .inl hx, ?_⟩
      exact (session_clean _ _).trans hl.session
    · exact hl
  | refused =>
    exact live_closeTcpConnection hl (.inr (.inl (hb (mem_singleton_self _)))) _ _
  | broken =>
    exact live_closeTcpConnection hl (.inr (.inr (.inl (hb (mem_singleton_self _))))) _ _

theorem live_completeRead (h : Live s) (e : Env) (id : ℕ) (rs r : List Report) :
    Live (s.completeRead e id rs r) := by
  rw [State.completeRead]
  split
  · exact h
  · next c hc =>
    refine live_finishCompleteRead h ?_ _ hc rs r
    have ht : Reads c { c with completeReadTask := false } := ⟨rfl, rfl, rfl, rfl⟩
    exact ht.trans reads_readOutPendingData

theorem live_raise (h : Live s) (es : List Event)
    (hc : (f s.upstream).tcpConnections = s.upstream.tcpConnections)
    (hb : (f s.upstream).connIdByStreamId = s.upstream.connIdByStreamId)
    (hse : (f s.upstream).session = s.upstream.session)
    (hs : (f s.upstream).events = s.upstream.events ++ es)
    (hes : ∀ e ∈ es, (recordOf s.upstream e).terminal = none ∧
      ∀ i, subject (recordOf s.upstream e) = some i →
        (s.upstream.tcpConnections.lookup i).isSome) : Live (s.perform f) := by
  refine ⟨h.good.extend _ hc hb rfl (fun _ _ _ hx ↦ hx)
    (congrArg (s.trace ++ ·) (raisedBy_eq hs)) fun r hr ↦ ?_, hse.trans h.session⟩
  obtain ⟨e, he, rfl⟩ := mem_map.1 hr
  refine ⟨(hes e he).1, fun i hi ↦ ?_, (hes e he).2⟩
  cases e <;> cases hi

theorem live_handleResponse (h : Live s) (si sc : ℕ) (e : ServerError) :
    Live (s.handleResponse si sc e) := by
  rw [State.handleResponse]
  split
  · exact h
  cases hget : s.upstream.getConnByStreamId si with
  | none =>
    have hf : s.upstream.handleResponse si sc e =
        { s.upstream with streamsToReset := s.upstream.streamsToReset ++ [si] } := by
      rw [Http2Upstream.handleResponse, hget]
    exact live_raise h [] (by simp only [hf]) (by simp only [hf]) (by simp only [hf])
      (by simp only [hf, append_nil]) (by simp)
  | some p =>
    obtain ⟨i, c⟩ := p
    obtain ⟨-, hc⟩ := getConnByStreamId_eq_some hget
    by_cases hok : sc = httpOkStatus
    · have hf : s.upstream.handleResponse si sc e =
          s.upstream.emit (.connectionOpened i) := by
        simp only [Http2Upstream.handleResponse, hget, if_pos hok]
      exact live_raise h [.connectionOpened i] (by simp only [hf, emit]) (by simp only [hf, emit])
        (by simp only [hf, emit]) (by simp only [hf, emit])
        (by simp [recordOf, Record.terminal, subject, hc])
    · have hf : s.upstream.handleResponse si sc e =
          s.upstream.setConnection i { c with pendingError := some e } := by
        simp only [Http2Upstream.handleResponse, hget, if_neg hok]
      have hw : Alters s.upstream (s.upstream.handleResponse si sc e) i
          { c with pendingError := some e } := hf ▸ alters_setConnection hc
      exact live_alter h hc hw ⟨rfl, rfl, rfl, rfl⟩

theorem live_updateFlowControl (h : Live s) (id : ℕ) (on : Bool) :
    Live (s.perform (·.updateFlowControl id on)) := by
  cases hconn : s.upstream.tcpConnections.lookup id with
  | none =>
    have hs : s.upstream.updateFlowControl id on = s.upstream := by
      rw [Http2Upstream.updateFlowControl, hconn]
    rw [perform_eq_self hs]
    exact h
  | some c =>
    have hw : Alters s.upstream (s.upstream.updateFlowControl id on) id
        (c.updateFlowControl on) := by
      rw [Http2Upstream.updateFlowControl, hconn]
      exact alters_setConnection hconn
    exact live_alter h hconn hw ⟨rfl, rfl, rfl, rfl⟩

theorem live_runCloseTask (h : Live s) (id : ℕ) (rs : List Report) :
    Live (s.runCloseTask id rs) := by
  have hp : s.upstream.runCloseTask id = s.upstream → Live (s.runCloseTask id rs) := by
    intro hs
    rw [State.runCloseTask, resetting_of_not_reset, perform_eq_self hs]
    · exact h
    · rw [raisedBy_nil (congrArg events hs)]
      simp
  cases hconn : s.upstream.tcpConnections.lookup id with
  | none => exact hp (by rw [Http2Upstream.runCloseTask, hconn])
  | some c =>
    cases htask : c.closeTask with
    | none => exact hp (by simp only [Http2Upstream.runCloseTask, hconn, htask])
    | some g =>
      have hw : Alters s.upstream (s.upstream.setConnection id { c with closeTask := none }) id
          { c with closeTask := none } := alters_setConnection hconn
      have hr : Reason id s.trace := .inl (h.good.closeTask id c hconn (by rw [htask]; rfl))
      refine live_close h hconn hw rfl rfl (fun hc ↦ by cases hc) hr g ?_ rs
      simp only [Http2Upstream.runCloseTask, hconn, htask]

theorem live_closeConnection (h : Live s) (hn : s.upstream.tcpConnections.lookup id = some cn)
    (g a : Bool) (rs : List Report) (hr : Reason id s.trace)
    (hk : a = true → .closeRequested id ∈ s.trace) : Live (s.closeConnection id g a rs) := by
  cases a with
  | false =>
    refine live_close h hn (alters_self hn) rfl rfl (fun hc ↦ hc) hr g ?_ rs
    simp only [Http2Upstream.closeConnection, hn]
    rfl
  | true =>
    have hf : s.upstream.closeConnection id g true =
        s.upstream.setConnection id { cn with closeTask := some g } := by
      simp only [Http2Upstream.closeConnection, hn]
      rfl
    have ha : s.raisedBy (·.closeConnection id g true) = [] := by
      refine raisedBy_nil ?_
      simp only [hf, setConnection]
    rw [State.closeConnection, resetting_of_not_reset (by simp [ha])]
    have hw : Alters s.upstream (s.upstream.closeConnection id g true) id
        { cn with closeTask := some g } := hf ▸ alters_setConnection hn
    refine ⟨h.good.touch hn hw.lookup hw.byStream rfl ?_ rfl (fun x hx ↦ .inl hx) (fun hc ↦ hc)
      (h.good.clientClosed id cn hn) fun _ ↦ hk rfl, hw.session.trans h.session⟩
    rw [perform, ha, append_nil]

theorem live_dataSent (h : Live s) (si l : ℕ) : Live (s.dataSent si l) := by
  rw [dataSent]
  split
  · exact h
  · next i c hg =>
    refine ⟨h.good.extend _ rfl rfl rfl (fun _ _ _ hx ↦ hx) rfl ?_, h.session⟩
    simp [Record.terminal, subject, (getConnByStreamId_eq_some hg).2]

theorem live_writeFlushed (h : Live s) {o : List ℕ}
    (ho : o.Perm s.upstream.tcpConnections.keys) : Live (s.writeFlushed o) := by
  refine ⟨h.good.extend _ rfl rfl rfl (fun _ _ _ hx ↦ hx) rfl fun r hr ↦ ?_, h.session⟩
  obtain ⟨i, hi, rfl⟩ := mem_map.1 hr
  refine ⟨rfl, fun j hj ↦ (by cases hj), fun j hj ↦ ?_⟩
  cases hj
  exact AList.lookup_isSome.2 (ho.mem_iff.1 hi)

theorem live_resetStreams (h : Live s) (rs : List Report) : Live (s.resetStreams rs) := by
  have hg : Good { s with
      upstream := { s.upstream with streamsToReset := [] }
      trace := s.trace ++ s.upstream.streamsToReset.map fun x ↦ Record.resetStream x false } := by
    refine h.good.extend _ rfl rfl rfl (fun _ _ _ hx ↦ hx) rfl fun r hr ↦ ?_
    obtain ⟨x, -, rfl⟩ := mem_map.1 hr
    exact ⟨rfl, fun j hj ↦ (by cases hj), fun j hj ↦ (by cases hj)⟩
  exact live_reportAll ⟨hg, h.session⟩ _

theorem live_openConnection (h : Live s) {si : ℕ} (hw : .accepted id ∉ s.trace)
    (hr : s.nextStreamId ≤ si) :
    Live ({ s.perform (·.openConnection id si) with
      nextStreamId := si + 1
      openStreams := si :: s.openStreams }.note (.accepted id)) := by
  have hn : s.upstream.tcpConnections.lookup id = none :=
    not_isSome_iff_eq_none.1 fun hs ↦ hw (h.good.accepted id (.inl hs))
  have hra : s.raisedBy (·.openConnection id si) = [] := raisedBy_nil rfl
  refine ⟨h.good.accept hw hr ?_ rfl rfl rfl ?_, h.session⟩
  · change (s.upstream.openConnection id si).tcpConnections = _
    rw [openConnection, hn]
    rfl
  · simp [note, perform, hra]

end Live

end TrustTunnel.Upstream.Http2.Calls

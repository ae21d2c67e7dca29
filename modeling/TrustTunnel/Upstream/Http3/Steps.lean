import Mathlib.Data.List.Dedup
import TrustTunnel.Upstream.Http3.Acts

namespace TrustTunnel.Upstream.Http3.Steps

open Acts Connections Http3Upstream Lib.Assoc Lib.Trace Moves Net.Address List
open Relation (ReflTransGen)

variable {env : Env} {u v : Http3Upstream} {c : Running} {id streamId : ℕ} {input : Input}
  {d : Running}

theorem acting_of_moved (hd : c.doomed = []) (h : Moved c.upstream v) :
    Acting env c { c with upstream := v } := by
  induction h with
  | refl => exact .refl
  | tail _ hm ih => exact ih.tail (.move _ hm (.inl hd))

theorem acting_of_calm (h : Calm c.upstream v) : Acting env c { c with upstream := v } :=
  .single (.move c (.calm h) (.inr h))

section Body

def passing (u : Http3Upstream) (streamId : ℕ) (owed : List UInt8) (due : ℕ) : Running :=
  { upstream := u, stream := some streamId, owed, due }

def Ends (env : Env) (c : Running) (v : Http3Upstream) : Prop :=
  Acting env c (idle v) ∨ ∃ w streamId owed due,
    Acting env c (passing w streamId owed due) ∧ Settle (passing w streamId owed due) v

theorem Ends.prepend (h : Acting env c d) (hd : Ends env d v) : Ends env c v := by
  rcases hd with hd | ⟨w, si, o, due, hd, hs⟩
  · exact .inl (h.trans hd)
  · exact .inr ⟨w, si, o, due, h.trans hd, hs⟩

theorem byStream_eq_none_of_get (h : Tables c)
    (ht : c.upstream.getTcpConnByStreamId streamId = none) :
    c.upstream.tcpConnByStreamId.lookup streamId = none := by
  cases hid : c.upstream.tcpConnByStreamId.lookup streamId with
  | none => rfl
  | some id =>
    obtain ⟨conn, hc, _⟩ := h.conn_of_stream streamId id hid
    simp [getTcpConnByStreamId, hid, hc] at ht

theorem byStream_clean (h : Tables c)
    (hi : c.upstream.tcpConnByStreamId.lookup streamId = some id) :
    (c.upstream.cleanTcpConnectionData id).tcpConnByStreamId.lookup streamId = none := by
  obtain ⟨conn, hc, rfl⟩ := h.conn_of_stream streamId id hi
  rw [clean_of_conn (h.connected id (by rw [hc]; rfl)).2.1 hc]
  exact AList.lookup_erase _ _

variable {o ck : List UInt8} {de : ℕ}

theorem acting_drop (h : u.tcpConnByStreamId.lookup streamId = none) :
    Acting env (passing u streamId o de) (idle (u.consumeStream streamId de)) :=
  .single (.drop _ streamId rfl h)

theorem acting_giveUp (h : Tables (passing u streamId o de))
    (hi : u.tcpConnByStreamId.lookup streamId = some id) :
    Acting env (passing u streamId o de)
      (idle ((u.closeTcpConnection env id false).consumeStream streamId de)) := by
  obtain ⟨c, hn, _⟩ := h.conn_of_stream streamId id hi
  obtain ⟨v, hc, he⟩ := closeTcpConnection_eq env u id false
  have hm : Moved u (u.closeTcpConnection env id false) :=
    moves_closeTcpConnection (Option.isSome_iff_exists.2 ⟨c, hn⟩) false
  have hl : Tables (passing (v.emit (.connectionClosed id .own (v.unreadOf id))) streamId o
      de) := (h.calm hc).emit fun s hs ↦ (by cases hs)
  refine (acting_of_moved rfl hm).trans (acting_drop ?_)
  rw [he]
  refine byStream_clean hl ?_
  change v.tcpConnByStreamId.lookup streamId = some id
  rw [hc.byStream]
  exact hi

theorem keepBody_cases (env : Env) {c : TcpConnection} (h : u.tcpConnections.lookup id = some c)
    (r : List UInt8) (length : ℕ) :
    u.keepBody env streamId id r length = (store u id r).creditConnectionFc length ∨
      ¬ (env.init ∧ env.push) ∧ ∃ v, Calm u v ∧ u.keepBody env streamId id r length =
        (v.closeTcpConnection env id false).consumeStream streamId length := by
  by_cases hrest : r = []
  · simp [keepBody, store, hrest]
  simp only [keepBody, store, if_neg hrest, pushUnreadData, h]
  by_cases hinit : (c.unreadData.isNone && !env.init) = true
  · simp only [hinit, if_true]
    refine .inr ⟨fun he ↦ ?_, _, calm_modifyConnection fun conn' hc ↦ ?_, rfl⟩
    · simp [he.1] at hinit
    · rw [h, Option.some.injEq] at hc
      simp only [Bool.and_eq_true, Option.isNone_iff_eq_none] at hinit
      simp [← hc, view, TcpConnection.unread, hinit.1]
  · rw [if_neg hinit]
    by_cases hpush : env.push = true
    · simp [hpush]
    · rw [if_neg hpush]
      exact .inr ⟨fun he ↦ hpush he.2, _, calm_modifyConnection
        (f := fun c ↦ { c with unreadData := some c.unread }) fun _ _ ↦ rfl, rfl⟩

theorem ends_keepBody (h : Tables (passing u streamId ck de))
    (hi : u.tcpConnByStreamId.lookup streamId = some id) (he : de = ck.length) :
    Ends env (passing u streamId ck de) (u.keepBody env streamId id ck de) := by
  obtain ⟨c, hn, _⟩ := h.conn_of_stream streamId id hi
  change u.tcpConnections.lookup id = some c at hn
  rcases keepBody_cases env hn ck de with hq | ⟨_, v, hc, hq⟩
  · rw [hq]
    exact .inr ⟨u, streamId, ck, de, .refl, .stored _ streamId id rfl hi he⟩
  · rw [hq]
    exact .inl ((acting_of_calm hc).trans
      (acting_giveUp (h.calm hc) (hc.byStream ▸ hi)))

theorem ends_keepRest (h : Tables (passing u streamId ck ck.length))
    (hi : u.tcpConnByStreamId.lookup streamId = some id) (hr : u.unreadOf id = []) {n : ℕ}
    (hn : n ≤ ck.length) (hm : Calm (u.emit (.read id ck (some n))) v) :
    Ends env (passing u streamId ck ck.length) ((v.creditStreamFc streamId n).keepBody env
      streamId id (ck.drop n) ck.length) := by
  obtain ⟨conn, ho, _⟩ := h.conn_of_stream streamId id hi
  obtain ⟨c, h', _⟩ := hm.exists_conn (u := u.emit (.read id ck (some n))) ho
  rw [← tcpConnections_creditStreamFc streamId n] at h'
  rcases keepBody_cases env h' (ck.drop n) ck.length with he | ⟨hf, w, hc, he⟩
  · rw [he]
    exact .inr ⟨u, streamId, ck, ck.length, .refl, .delivered _ streamId id n rfl hi rfl hr hn hm⟩
  · rw [he]
    have ha : Act env (passing u streamId ck ck.length)
        (passing (v.creditStreamFc streamId n) streamId (ck.drop n) ck.length) :=
      .deliver _ streamId id n hf rfl hi hr hn hm
    have hs := (ReflTransGen.single ha).trans (acting_of_calm hc)
    refine .inl (hs.trans (acting_giveUp (h.acting hs) ?_))
    obtain ⟨es, hcr, _⟩ := creditStreamFc_fields (u := v) streamId n
    rw [hc.byStream, hcr]
    change v.tcpConnByStreamId.lookup streamId = some id
    rw [hm.byStream]
    exact hi

theorem ends_deliverBody (h : Tables (passing u streamId chunk chunk.length)) :
    Ends env (passing u streamId chunk chunk.length) (u.deliverBody env streamId chunk) := by
  simp only [deliverBody]
  split
  · next hg => exact .inl (acting_drop (byStream_eq_none_of_get h hg))
  next id c hg =>
  obtain ⟨hi, ho⟩ := lookup_of_getTcpConnByStreamId hg
  have he : (u.tcpConnections.lookup id).isSome := by rw [ho]; rfl
  split
  · next hr =>
    simp only [Bool.and_eq_true, List.isEmpty_iff] at hr
    split
    · next hno =>
      have hs : Acting env (passing u streamId chunk chunk.length)
          (passing (u.raiseReadEvent env id chunk).1 streamId chunk chunk.length) :=
        acting_of_moved rfl (moves_raiseReadEvent env he chunk (.inl hno))
      obtain ⟨w, hc, ha, _⟩ := raiseReadEvent_cases env u id chunk
      refine .inl (hs.trans (acting_giveUp (h.acting hs) ?_))
      rw [ha.byStream]
      change w.tcpConnByStreamId.lookup streamId = some id
      rw [hc.byStream]
      exact hi
    · next n hn =>
      obtain ⟨w, hc, ha, hl⟩ := raiseReadEvent_cases env u id chunk
      rw [hn] at ha
      refine Ends.prepend (acting_of_calm hc) (ends_keepRest (h.calm hc) ?_ ?_ (hl n hn) ha)
      · rw [hc.byStream]
        exact hi
      · rw [hc.unreadOf, unreadOf, ho]
        exact hr.2
  · exact ends_keepBody h hi rfl

theorem ends_onBody (h : Tables (idle u)) (hi : streamId < u.nextStreamId) :
    Ends env (idle u) (u.onBody env streamId chunk) := by
  have hb : Acting env (idle u)
      (passing (u.emit (.body streamId chunk)) streamId chunk chunk.length) :=
    .single (.body _ streamId chunk hi ⟨rfl, rfl⟩)
  have ht := h.acting hb
  simp only [onBody]
  split
  · next hx =>
    have hn := (ht.mux streamId (hx.imp_right .inl)).2
    exact .inl ((hb.trans (acting_drop hn)).trans (acting_of_calm calm_noteAppProgress))
  split
  · next hx =>
    exact .inl (hb.trans (acting_drop (ht.mux streamId (.inr (.inr hx))).2))
  split
  · next hg => exact .inl (hb.trans (acting_drop (byStream_eq_none_of_get ht hg)))
  split
  · exact .prepend hb (ends_deliverBody ht)
  · have hm : Acting env
        (passing (u.emit (.body streamId chunk)) streamId chunk chunk.length)
        (passing ((u.emit (.body streamId chunk)).processPendingData env streamId) streamId chunk
          chunk.length) := acting_of_moved rfl (moves_processPendingData streamId)
    exact .prepend (hb.trans hm) (ends_deliverBody (ht.acting hm))

end Body

theorem acting_emit_silent {e : Event} (he : silent e) :
    Acting env c { c with upstream := c.upstream.emit e } := acting_of_calm (calm_emit he)

theorem acting_retryLoop (env : Env) (rs : List (ℕ × RetriableTcpConnectRequest))
    (hp : u.retriableTcpRequests = ∅) :
    Acting env { upstream := u, held := rs.map Prod.fst }
        { upstream := (retryLoop env rs u).1
          held := (retryLoop env rs u).2.map Prod.fst } ∧
      (retryLoop env rs u).1.retriableTcpRequests = ∅ := by
  induction rs generalizing u with
  | nil => exact ⟨.refl, hp⟩
  | cons r rs ih =>
    obtain ⟨id, request⟩ := r
    have he : Acting env { upstream := u, held := id :: rs.map Prod.fst }
        { upstream := u.emit (.connectRequest request.dstAddr request.appName)
          held := id :: rs.map Prod.fst } := acting_emit_silent rfl
    have hv : (u.emit (.connectRequest request.dstAddr request.appName)).retriableTcpRequests = ∅ :=
      hp
    simp only [retryLoop]
    generalize u.emit _ = v at he hv ⊢
    split
    · next skipped _ =>
      have hn := ih (u := v.openStream id skipped) hv
      exact ⟨(he.tail (.retried _ id skipped _ rfl)).trans hn.1, hn.2⟩
    · exact ⟨he, hv⟩
    · have hc : Calm v (v.runHandler env) := calm_runHandler
      have hn := ih (u := v.finishError env id ⟨-1, "Failed to send connect request"⟩)
        (retriable_clean (hc.retriable.trans hv))
      refine ⟨((he.trans (acting_of_calm hc)).tail ?_).trans hn.1, hn.2⟩
      exact .dropped _ id _ _ rfl rfl

theorem acting_retryConnectRequests {rs : List (ℕ × RetriableTcpConnectRequest)}
    (h : rs.Perm (pairs u.retriableTcpRequests)) :
    Acting env (idle u) (idle (u.retryConnectRequests env rs)) := by
  have hh : Acting env (idle u)
      { upstream := { u with retriableTcpRequests := ∅ }, held := rs.map Prod.fst } :=
    .single (.hold _ rs h rfl)
  obtain ⟨hl, he⟩ := acting_retryLoop env
    (u := { u with retriableTcpRequests := ∅ }) rs rfl
  exact (hh.trans hl).tail (.release _ _ rfl he)

theorem acting_openConnection (h : .accepted id ∉ u.trace) (d : TunnelAddress)
    (an : String) : Acting env (idle u) (idle (u.openConnection env id d an)) := by
  have he : Acting env (idle u) (idle (u.emit (.connectRequest d an))) := acting_emit_silent rfl
  have hnew' : .accepted id ∉ (u.emit (.connectRequest d an)).trace := by
    simpa [emit] using h
  simp only [openConnection]
  split
  · exact he.tail (.accept _ id _ hnew')
  · exact he.tail (.acceptRetriable _ id _ hnew')
  · exact he

theorem acting_closeTcpConnection (doomed : List ℕ) (spoiled g : Bool) :
    Acting env { upstream := u, doomed := id :: doomed, spoiled }
      { upstream := u.closeTcpConnection env id g, doomed, spoiled } := by
  obtain ⟨v, hc, he⟩ := closeTcpConnection_eq env u id g
  rw [he]
  exact (acting_of_calm hc).tail (.close _ id doomed rfl rfl)

theorem acting_closeConnections {cs : List (ℕ × Bool)} (h : cs.Perm (pairs u.closingConnections)) :
    Acting env (idle u) (idle (u.closeConnections env cs)) := by
  have hi := h.map Prod.fst
  have hl : ∀ (l : List (ℕ × Bool)) (w : Http3Upstream),
      Acting env { upstream := w, doomed := l.map Prod.fst }
        (idle (l.foldl (fun u c ↦ u.closeTcpConnection env c.1 c.2) w)) := by
    intro l
    induction l with
    | nil => exact fun w ↦ .refl
    | cons c l ih => exact fun w ↦ (acting_closeTcpConnection _ _ c.2).trans (ih _)
  refine ReflTransGen.head (.doom _ (cs.map Prod.fst) rfl rfl ?_ ?_ ∅ false (.inr rfl)) (hl cs _)
  · exact hi.nodup_iff.2 (nodup_keys_pairs _)
  · intro id hd
    exact .inr (.inr (.inl ((mem_keys_pairs _).1 (hi.mem_iff.1 hd))))

theorem acting_closeConnection (h : u.mayClose id) (graceful async : Bool) :
    Acting env (idle u)
      { upstream := (u.emit (.closeRequested id)).closeConnection env id graceful async
        spoiled := !async } := by
  cases async with
  | true => exact acting_of_calm (calm_deferClose h graceful)
  | false =>
    obtain ⟨ha, ho⟩ := accepted_of_mayClose h
    have hm : Calm u (u.emit (.closeRequested id)) := calm_emit rfl
    have he : Acting env (idle u) (idle (u.emit (.closeRequested id))) := acting_of_calm hm
    have hd : Act env (idle (u.emit (.closeRequested id)))
        { upstream := u.emit (.closeRequested id), doomed := [id] } := by
      refine .doom _ [id] rfl rfl (nodup_singleton id) (fun i hi ↦ ?_) _ _ (.inl rfl)
      rw [mem_singleton.1 hi]
      exact .inr (.inr (.inr ⟨(hm.mem_iff rfl).2 ha, fun hc ↦ ho (hm.over_iff.1 hc)⟩))
    exact ((he.tail hd).trans (acting_closeTcpConnection [] false graceful)).tail
      (.deferAgain _ id graceful)

def closeAll (env : Env) (u : Http3Upstream) (order : List ℕ) : Http3Upstream :=
  order.foldl (fun u id ↦ u.closeConnection env id false false) u

theorem acting_closeAll (e : Env) (u : Http3Upstream) (o : List ℕ) (spoiled : Bool) :
    ∃ s, Acting e { upstream := u, doomed := o, spoiled }
      { upstream := closeAll e u o, spoiled := s } := by
  induction o generalizing u spoiled with
  | nil => exact ⟨spoiled, .refl⟩
  | cons id o ih =>
    obtain ⟨s, hr⟩ := ih (u.closeConnection e id false false) true
    exact ⟨s, ((acting_closeTcpConnection o spoiled false).tail
      (.deferAgain _ id false)).trans hr⟩

theorem trace_closeConnection (ev : Env) (u : Http3Upstream) (id : ℕ) :
    ∃ es ud, (u.closeConnection ev id false false).trace =
      u.trace ++ es ++ [.connectionClosed id .own ud] ∧ ∀ e ∈ es, silent e := by
  obtain ⟨v, hc, hq⟩ := closeTcpConnection_eq ev u id false
  obtain ⟨es, ht, he⟩ := hc.events
  refine ⟨es, v.unreadOf id, ?_, he⟩
  change (u.closeTcpConnection ev id false).trace = _
  rw [hq, trace_clean, ← ht]
  rfl

theorem closeAll_spec (e : Env) (u : Http3Upstream) (o : List ℕ) :
    (∀ i, .accepted i ∈ (closeAll e u o).trace → .accepted i ∈ u.trace) ∧
      ∀ i, i ∈ o ∨ Over i u.trace → Over i (closeAll e u o).trace := by
  induction o generalizing u with
  | nil => exact ⟨fun _ h ↦ h, fun i h ↦ h.elim (fun hi ↦ by cases hi) fun hi ↦ hi⟩
  | cons id o ih =>
    obtain ⟨es, ud, ht, he⟩ := trace_closeConnection e u id
    obtain ⟨ha, ho⟩ := ih (u.closeConnection e id false false)
    refine ⟨fun i hi ↦ ?_, fun i hi ↦ ho i ?_⟩
    · have hmem := ha i hi
      rw [ht, mem_append, mem_append] at hmem
      rcases hmem with (hmem | hmem) | hmem
      · exact hmem
      · cases he _ hmem
      · cases mem_singleton.1 hmem
    · rw [ht]
      rcases hi with hi | hi
      · rcases mem_cons.1 hi with rfl | hi
        · exact .inr (ended_append.2 (.inr (ended_singleton.2 rfl)))
        · exact .inl hi
      · exact .inr (ended_append.2 (.inl (ended_append.2 (.inl hi))))

theorem calm_closeMuxStream (si : Option ℕ) : Calm u (u.closeMuxStream si) := by
  cases si with
  | none => exact .refl u
  | some si => exact calm_closeStream si false

theorem closeSession_spec (e : Env) {o : List ℕ} (h : o.Perm (remaining u)) :
    ∃ w spoiled, Acting e (idle u) { upstream := w, spoiled } ∧
      u.closeSession e o = { session := false, nextStreamId := w.nextStreamId, trace := w.trace } ∧
      (∀ i, .accepted i ∈ w.trace → .accepted i ∈ u.trace) ∧
      ∀ i, (u.tcpConnections.lookup i).isSome ∨ (u.retriableTcpRequests.lookup i).isSome ∨
        Over i u.trace → Over i w.trace := by
  have hm : ∀ i, i ∈ o ↔ (u.tcpConnections.lookup i).isSome ∨
      (u.retriableTcpRequests.lookup i).isSome ∨ (u.closingConnections.lookup i).isSome := by
    intro i
    rw [h.mem_iff, remaining, mem_dedup, mem_append, mem_append, or_assoc]
    simp only [AList.lookup_isSome, AList.mem_keys]
  have hd : Act e (idle u) { upstream := u, doomed := o } := by
    refine .doom _ o rfl rfl (h.nodup_iff.2 (nodup_dedup _)) (fun i hi ↦ ?_) _ _
      (.inl rfl)
    rcases (hm i).1 hi with hi | hi | hi
    · exact .inl hi
    · exact .inr (.inl hi)
    · exact .inr (.inr (.inl hi))
  obtain ⟨spoiled, hl⟩ := acting_closeAll e u o false
  obtain ⟨ha, ho⟩ := closeAll_spec e u o
  have hc : Calm (closeAll e u o)
      (((closeAll e u o).closeMuxStream (closeAll e u o).udpMuxStream).closeMuxStream
        ((closeAll e u o).closeMuxStream (closeAll e u o).udpMuxStream).icmpMuxStream) :=
    (calm_closeMuxStream _).trans (calm_closeMuxStream _)
  refine ⟨_, spoiled, (ReflTransGen.head hd hl).trans (acting_of_calm hc), rfl,
    fun i hi ↦ ha i ((hc.mem_iff rfl).1 hi), fun i hi ↦ hc.over_iff.2 (ho i ?_)⟩
  rcases hi with hi | hi | hi
  · exact .inl ((hm i).2 (.inl hi))
  · exact .inl ((hm i).2 (.inr (.inl hi)))
  · exact .inr hi

def closesNow : Input → Bool
  | .closeConnection _ _ async => !async
  | _ => false

/-- How a step ends: as it is, with the end of `on_body`, or with the end of the session. -/
inductive Outcome (u : Http3Upstream) (input : Input) : Running → Http3Upstream → Prop
  | done (v : Http3Upstream) (spoiled : Bool) (h : spoiled = true → closesNow input = true) :
      Outcome u input { upstream := v, spoiled } v
  | settled {w v : Http3Upstream} {streamId : ℕ} {owed : List UInt8} {due : ℕ}
      (h : Settle (passing w streamId owed due) v) :
      Outcome u input (passing w streamId owed due) v
  | closed (w : Http3Upstream) (spoiled : Bool)
      (hacc : ∀ i, .accepted i ∈ w.trace → .accepted i ∈ u.trace)
      (hover : ∀ i, (u.tcpConnections.lookup i).isSome ∨
        (u.retriableTcpRequests.lookup i).isSome ∨ Over i u.trace → Over i w.trace) :
      Outcome u input { upstream := w, spoiled }
        { session := false, nextStreamId := w.nextStreamId, trace := w.trace }

theorem outcome_of_acting (h : Acting env (idle u) (idle v)) :
    ∃ c, Acting env (idle u) c ∧ Outcome u input c v :=
  ⟨_, h, .done v false fun hc ↦ (by cases hc)⟩

theorem outcome_of_ends (h : Ends env (idle u) v) :
    ∃ c, Acting env (idle u) c ∧ Outcome u input c v := by
  rcases h with h | ⟨w, si, o, due, ha, hs⟩
  · exact outcome_of_acting h
  · exact ⟨_, ha, .settled hs⟩

theorem step_outcome {l : Env × Input} (h : Tables (idle u)) (hp : step u l = some v) :
    u.session = true ∧ ∃ c, Acting l.1 (idle u) c ∧ Outcome u l.2 c v := by
  obtain ⟨ev, i⟩ := l
  simp only [step, Option.ite_none_right_eq_some, Bool.and_eq_true, Option.some.injEq] at hp
  obtain ⟨⟨hse, he⟩, rfl⟩ := hp
  refine ⟨hse, ?_⟩
  cases i with
  | openConnection id d an =>
    have hn : .accepted id ∉ u.trace := by simpa [enabled] using he
    exact outcome_of_acting (acting_openConnection hn d an)
  | closeConnection id g a =>
    exact ⟨_, acting_closeConnection he g a, .done _ _ fun hs ↦ hs⟩
  | updateFlowControl id on => exact outcome_of_acting (acting_of_calm (calm_updateFlowControl on))
  | send id lh su =>
    exact outcome_of_acting (acting_of_calm (calm_send lh su))
  | availableToSend id => exact outcome_of_acting (acting_of_calm calm_availableToSend)
  | consume id lh => exact outcome_of_acting (acting_of_calm (calm_consume lh))
  | response si sc e =>
    exact outcome_of_acting (acting_of_moved rfl (moves_handleResponse si sc e))
  | body si ck =>
    have hi : si < u.nextStreamId := by simpa [enabled] using he
    exact outcome_of_ends (ends_onBody h hi)
  | streamClosed si =>
    exact outcome_of_acting (acting_of_moved rfl (moves_onStreamClosed si))
  | sent =>
    exact outcome_of_acting
      (acting_of_calm (calm_tasks _ true _ _ (.inl rfl) (.inl rfl) (.inl rfl)))
  | received =>
    exact outcome_of_acting
      (acting_of_calm (calm_tasks _ _ _ true (.inl rfl) (.inl rfl) (.inl rfl)))
  | udpMuxStream sd =>
    refine outcome_of_acting (.single (.muxStream _ _ (u.nextStreamId + sd)
      (Nat.le_add_right _ _) rfl fun s hs ↦ ?_))
    rcases hs with hs | hs | hs
    · exact .inr (Option.some.inj hs).symm
    · exact .inl (.inr (.inl hs))
    · exact .inl (.inr (.inr hs))
  | icmpMuxStream sd =>
    refine outcome_of_acting (.single (.muxStream _ _ (u.nextStreamId + sd)
      (Nat.le_add_right _ _) rfl fun s hs ↦ ?_))
    rcases hs with hs | hs | hs
    · exact .inl (.inl hs)
    · exact .inr (Option.some.inj hs).symm
    · exact .inl (.inr (.inr hs))
  | healthCheckStream sd =>
    refine outcome_of_acting (.single (.muxStream _ _ (u.nextStreamId + sd)
      (Nat.le_add_right _ _) rfl fun s hs ↦ ?_))
    rcases hs with hs | hs | hs
    · exact .inl (.inl hs)
    · exact .inl (.inr (.inl hs))
    · exact .inr (Option.some.inj hs).symm
  | completeRead o => exact outcome_of_acting (acting_of_moved rfl (moves_completeRead o))
  | notifySent o =>
    have hc : Calm u { u with notifySentTask := false } :=
      calm_tasks _ false _ _ (.inl rfl) (.inl rfl) (.inl rfl)
    exact outcome_of_acting (acting_of_moved rfl (hc.moves.trans (moves_pollTcpConnections o)))
  | closeConnections cs =>
    simp only [enabled, Bool.and_eq_true, decide_eq_true_eq] at he
    exact outcome_of_acting (acting_closeConnections he.2)
  | postReceive rs o =>
    simp only [enabled, Bool.and_eq_true, decide_eq_true_eq] at he
    have hc : Calm u { u with postReceiveTask := false } :=
      calm_tasks _ _ _ false (.inl rfl) (.inl rfl) (.inl rfl)
    have hr : Acting ev (idle { u with postReceiveTask := false })
        (idle ({ u with postReceiveTask := false }.retryConnectRequests ev rs)) :=
      acting_retryConnectRequests he.2
    exact outcome_of_acting (((acting_of_calm hc).trans hr).trans
      (acting_of_moved rfl (moves_pollTcpConnections o)))
  | closeSession o =>
    have hm : o.Perm (remaining u) := by simpa [enabled] using he
    obtain ⟨w, sp, ha, hq, hac, ho⟩ := closeSession_spec ev hm
    refine ⟨_, ha, ?_⟩
    rw [handle, hq]
    exact .closed w sp hac ho

theorem tables_store (h : Tables c) (id : ℕ) (r : List UInt8) :
    Tables { c with upstream := store c.upstream id r } := by
  rw [store]
  split
  · exact h
  · exact h.modifyConnection (fun cn ↦ { cn with unreadData := some (cn.unread ++ r) })
      (fun _ ↦ rfl) _

theorem tables_settle (h : Tables c) (ht : Settle c v) : Tables { c with upstream := v } := by
  cases ht with
  | stored si id hst hi hd => exact (tables_store h id c.owed).creditConnectionFc c.due
  | @delivered v si id n hst hi hd hu hn hc =>
    have hr : Tables { c with upstream := c.upstream.emit (.read id c.owed (some n)) } :=
      h.emit fun s hs ↦ (by cases hs)
    have hl : si < v.nextStreamId := by
      rw [hc.nextStreamId]
      exact h.stream_lt si hst
    exact (tables_store ((hr.calm hc).creditStreamFc hl n) id _).creditConnectionFc c.due

theorem tables_idle {si : Option ℕ} {owed : List UInt8} {due : ℕ} {spoiled : Bool}
    (h : Tables { upstream := u, stream := si, owed, due, spoiled }) : Tables (idle u) :=
  { h with stream_lt := fun s hs ↦ (by cases hs) }

theorem tables_empty (session : Bool) {nextStreamId : ℕ} {trace : List Event}
    (h : ∀ e ∈ trace, ∀ s, onStream e = some s → s < nextStreamId) :
    Tables (idle { session, nextStreamId, trace }) := by
  constructor <;> grind [idle, streamOf, IsMux, AList.lookup_empty]

theorem tables_outcome (h : Tables c) (ho : Outcome u input c v) : Tables (idle v) := by
  cases ho with
  | done v s hs => exact tables_idle h
  | settled ht => exact tables_idle (tables_settle h ht)
  | closed w s ha hr => exact tables_empty false h.used_lt

theorem tables_init : Tables (idle {}) := tables_empty true fun e he ↦ (by cases he)

theorem session_clean (u : Http3Upstream) (id : ℕ) :
    (u.cleanTcpConnectionData id).session = u.session := by
  simp only [cleanTcpConnectionData]
  split
  · rfl
  split <;> rfl

theorem session_creditStreamFc (u : Http3Upstream) (si n : ℕ) :
    (u.creditStreamFc si n).session = u.session := by
  obtain ⟨es, he, _⟩ := creditStreamFc_fields (u := u) si n
  rw [he]

theorem session_act (h : Act env c d) : d.upstream.session = c.upstream.session := by
  cases h with
  | move hm =>
    cases hm with
    | calm hc => exact hc.session
    | tell => rfl
    | pass => rfl
    | take id conn data r ho hd hp hr hc =>
      exact (session_creditStreamFc _ _ _).trans hc.session
    | finish => exact session_clean _ _
  | muxStream v si hi hv hx => rw [hv]
  | dropped => exact session_clean _ _
  | deliver si id n hf hs hi hu hn hc =>
    exact (session_creditStreamFc _ _ _).trans hc.session
  | close => exact session_clean _ _
  | accept => rfl
  | acceptRetriable => rfl
  | hold => rfl
  | retried => rfl
  | release => rfl
  | body => rfl
  | drop => rfl
  | doom => rfl
  | deferAgain => rfl

theorem session_acting (h : Acting env c d) : d.upstream.session = c.upstream.session := by
  induction h with
  | refl => rfl
  | tail _ ha ih => exact (session_act ha).trans ih

theorem session_store (u : Http3Upstream) (id : ℕ) (r : List UInt8) :
    (store u id r).session = u.session := by
  rw [store]
  split <;> rfl

theorem session_creditConnectionFc (u : Http3Upstream) (l : ℕ) :
    (u.creditConnectionFc l).session = u.session := by
  obtain ⟨es, he, _⟩ := creditConnectionFc_fields (u := u) l
  rw [he]

theorem session_settle (h : Settle c v) : v.session = c.upstream.session := by
  cases h with
  | stored => rw [session_creditConnectionFc, session_store]
  | delivered si id n hs hi hd hu hn hc =>
    rw [session_creditConnectionFc, session_store, session_creditStreamFc]
    exact hc.session

section Rule

open Lib.Transition (Run)

variable {ok : Env × Input → Prop} {P : Running → Prop}

theorem acting_invariant {l : Env × Input} (ho : ok l)
    (ht : ∀ l c d, ok l → c.upstream.session = true → Tables c → P c → Act l.1 c d → P d)
    (h : c.upstream.session = true) (hb : Tables c) (hc : P c) (hs : Acting l.1 c d) :
    Tables d ∧ P d := by
  induction hs with
  | refl => exact ⟨hb, hc⟩
  | tail hs hl ih =>
    exact ⟨ih.1.act hl, ht l _ _ ho ((session_acting hs).trans h) ih.1 ih.2 hl⟩

/-- The induction rule for runs: an invariant is shown for each act and for the end of an input. -/
theorem run_invariant {ls : List (Env × Input)}
    (hn : Run step (fun _ l ↦ ok l) {} ls u) (h : P (idle {}))
    (ht : ∀ l c d, ok l → c.upstream.session = true → Tables c → P c → Act l.1 c d → P d)
    (ho : ∀ u l c v, ok l → u.session = true → c.upstream.session = true → P (idle u) →
      Tables c → P c → Outcome u l.2 c v → P (idle v)) :
    Tables (idle u) ∧ P (idle u) := by
  refine hn.invariant (P := fun u ↦ Tables (idle u) ∧ P (idle u)) ⟨tables_init, h⟩ ?_
  intro u l v hu hk hp
  obtain ⟨hs, c, ha, he⟩ := step_outcome hu.1 hp
  obtain ⟨hb, hc⟩ := acting_invariant hk ht hs hu.1 hu.2 ha
  exact ⟨tables_outcome hb he, ho u l c v hk hs ((session_acting ha).trans hs) hu.2 hb hc he⟩

end Rule

end TrustTunnel.Upstream.Http3.Steps

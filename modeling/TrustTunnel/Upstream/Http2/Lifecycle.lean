import TrustTunnel.Lib.Trace
import TrustTunnel.Lib.Transition
import TrustTunnel.Upstream.Http2.Session

namespace TrustTunnel.Upstream.Http2.Lifecycle

open Connections Http2Upstream Lib.Assoc Lib.Trace Http2.Session State TcpConnection List Option

section Reads

variable {e : Env} {conn conn' : TcpConnection}

structure Reads (conn conn' : TcpConnection) : Prop where
  streamId : conn'.streamId = conn.streamId
  streamClosed : conn'.streamClosed = conn.streamClosed
  clientClosed : conn'.clientClosed = conn.clientClosed
  closeTask : conn'.closeTask = conn.closeTask

theorem Reads.rfl : Reads conn conn := ⟨Eq.refl _, Eq.refl _, Eq.refl _, Eq.refl _⟩

theorem Reads.trans {a b c : TcpConnection} (h : Reads a b) (h' : Reads b c) : Reads a c :=
  ⟨h'.streamId.trans h.streamId, h'.streamClosed.trans h.streamClosed,
    h'.clientClosed.trans h.clientClosed, h'.closeTask.trans h.closeTask⟩

theorem reads_raiseRead : Reads conn (conn.raiseRead e) := by
  simp only [raiseRead]
  split <;> exact ⟨rfl, rfl, rfl, rfl⟩

theorem reads_handleRead (d : List UInt8) : Reads conn (conn.handleRead e d).1 := by
  have hr : Reads conn (conn.raiseRead e) := reads_raiseRead
  simp only [handleRead]
  split <;> exact ⟨hr.streamId, hr.streamClosed, hr.clientClosed, hr.closeTask⟩

theorem reads_readOutLoop (f : ℕ) : Reads conn (readOutLoop e f conn).1 := by
  induction f generalizing conn with
  | zero => exact .rfl
  | succ f ih =>
    simp only [readOutLoop]
    split
    · exact .rfl
    split
    · exact ⟨rfl, rfl, rfl, rfl⟩
    next s _ =>
    have hr : Reads conn (conn.handleRead e (conn.unread.take (s + 1))).1 := reads_handleRead _
    split
    · next he => rwa [he] at hr
    · next he => rwa [he] at hr
    · next r he =>
      rw [he] at hr
      refine hr.trans (Reads.trans ?_ ih)
      exact ⟨rfl, rfl, rfl, rfl⟩

theorem reads_readOutPendingData : Reads conn (conn.readOutPendingData e).1 := by
  have hl : Reads conn (readOutLoop e conn.unread.length conn).1 := reads_readOutLoop _
  simp only [readOutPendingData]
  split
  · exact .rfl
  split
  · exact ⟨hl.streamId, hl.streamClosed, hl.clientClosed, hl.closeTask⟩
  · exact hl

theorem reads_pushUnread (d : List UInt8) : Reads conn (conn.pushUnread e d).1 := by
  simp only [pushUnread]
  split <;> exact ⟨rfl, rfl, rfl, rfl⟩

theorem reads_keep (p : Bool) (d : List UInt8) : Reads conn (conn.keep e p d).1 := by
  simp only [keep]
  split
  · split
    · exact .rfl
    · exact reads_pushUnread d
  · split
    · refine Reads.trans ?_ (reads_pushUnread d)
      exact ⟨rfl, rfl, rfl, rfl⟩
    · exact ⟨rfl, rfl, rfl, rfl⟩

theorem reads_deliver (p : Bool) (d : List UInt8) : Reads conn (conn.deliver e p d).1 := by
  have hr : Reads conn
      (if conn.readEnabled then conn.handleRead e d else (conn, some 0)).1 := by
    split
    · exact reads_handleRead d
    · exact .rfl
  simp only [deliver]
  split
  · next he => rwa [he] at hr
  · next r he =>
    rw [he] at hr
    split
    · exact hr.trans (reads_keep p _)
    · exact hr

theorem reads_receiveData (d : List UInt8) : Reads conn (conn.receiveData e d).1 := by
  have ha : Reads conn (conn.arrive d) := ⟨rfl, rfl, rfl, rfl⟩
  have hr : Reads conn ((conn.arrive d).readOutPendingData e).1 := ha.trans reads_readOutPendingData
  simp only [receiveData]
  split
  · exact hr.trans (reads_deliver _ d)
  · exact hr
  · exact hr

end Reads

def subject : Record → Option ℕ
  | .connectionOpened id => some id
  | .connectionClosed id _ => some id
  | .error id _ => some id
  | .read id => some id
  | .dataSent id _ => some id
  | _ => none

abbrev Over (id : ℕ) (trace : List Record) : Prop := Ended Record.terminal id trace

def Reason (id : ℕ) (trace : List Record) : Prop :=
  .closeRequested id ∈ trace ∨ .refused id ∈ trace ∨ .bufferFailed id ∈ trace ∨
    .sessionClosing ∈ trace

theorem subject_of_terminal (r : Record) (k : ℕ) (h : r.terminal = some k) :
    subject r = some k := by
  cases r <;> first | exact h | cases h

theorem Reason.mono {id : ℕ} {l l' : List Record} (h : Reason id l) (hb : l ⊆ l') : Reason id l' :=
  h.imp (@hb _) (Or.imp (@hb _) (Or.imp (@hb _) (@hb _)))

/-- The maps are mutually inverse, and the connections are those whose end was not told. -/
structure Good (s : State) : Prop where
  conn_of_stream : ∀ x id, s.upstream.connIdByStreamId.lookup x = some id →
    ∃ conn, s.upstream.tcpConnections.lookup id = some conn ∧ conn.streamId = x
  stream_of_conn : ∀ id conn, s.upstream.tcpConnections.lookup id = some conn →
    s.upstream.connIdByStreamId.lookup conn.streamId = some id
  byStream_lt : ∀ x id, s.upstream.connIdByStreamId.lookup x = some id → x < s.nextStreamId
  accepted : ∀ id, (s.upstream.tcpConnections.lookup id).isSome ∨ Over id s.trace →
    .accepted id ∈ s.trace
  notOver : ∀ id, (s.upstream.tcpConnections.lookup id).isSome → ¬ Over id s.trace
  complete : ∀ id, .accepted id ∈ s.trace →
    Over id s.trace ∨ (s.upstream.tcpConnections.lookup id).isSome
  opened : ∀ id conn, s.upstream.tcpConnections.lookup id = some conn →
    conn.streamClosed = false → conn.streamId ∈ s.openStreams
  clientClosed : ∀ id conn, s.upstream.tcpConnections.lookup id = some conn →
    conn.clientClosed = true → Reason id s.trace
  closeTask : ∀ id conn, s.upstream.tcpConnections.lookup id = some conn →
    conn.closeTask.isSome → .closeRequested id ∈ s.trace
  orderly : Orderly subject Record.terminal s.trace
  guarded : Guarded (fun before r ↦ ∀ id unread, r = .connectionClosed id unread → unread ≠ [] →
    Reason id before) s.trace

namespace Good

variable {s t : State} {id : ℕ} {cn c : TcpConnection}

theorem eq_of_streamId (h : Good s) {i : ℕ} (hn : s.upstream.tcpConnections.lookup id = some cn)
    (h' : s.upstream.tcpConnections.lookup i = some c) (hr : cn.streamId = c.streamId) :
    id = i := by
  have hi := h.stream_of_conn id cn hn
  rw [hr, h.stream_of_conn i c h', some.injEq] at hi
  exact hi.symm

theorem extend (h : Good s) (rs : List Record)
    (hcs : t.upstream.tcpConnections = s.upstream.tcpConnections)
    (hy : t.upstream.connIdByStreamId = s.upstream.connIdByStreamId)
    (ht : t.nextStreamId = s.nextStreamId)
    (ho : ∀ id c, s.upstream.tcpConnections.lookup id = some c →
      c.streamId ∈ s.openStreams → c.streamId ∈ t.openStreams)
    (htr : t.trace = s.trace ++ rs)
    (hrs : ∀ r ∈ rs, r.terminal = none ∧ (∀ i, r ≠ .accepted i) ∧
      ∀ i, subject r = some i → (s.upstream.tcpConnections.lookup i).isSome) : Good t := by
  have hv : ∀ i, Over i t.trace ↔ Over i s.trace := by
    intro i
    rw [htr]
    exact ended_append_of_forall fun r hr ↦ (hrs r hr).1
  have hs : s.trace ⊆ t.trace := htr ▸ subset_append_left _ _
  refine ⟨?_, ?_, ?_, fun i hi ↦ ?_, fun i hi ↦ ?_, fun i hi ↦ ?_, fun i c hn hc ↦ ?_,
    fun i c hn hc ↦ ?_, fun i c hn hc ↦ ?_, ?_, ?_⟩
  · rw [hy, hcs]
    exact h.conn_of_stream
  · rw [hy, hcs]
    exact h.stream_of_conn
  · rw [hy, ht]
    exact h.byStream_lt
  · rw [hcs, hv] at hi
    exact hs (h.accepted i hi)
  · rw [hv]
    exact h.notOver i (hcs ▸ hi)
  · rw [hv, hcs]
    rw [htr, mem_append] at hi
    exact h.complete i (hi.resolve_right fun hr ↦ (hrs _ hr).2.1 i rfl)
  · rw [hcs] at hn
    exact ho i c hn (h.opened i c hn hc)
  · exact (h.clientClosed i c (hcs ▸ hn) hc).mono hs
  · exact hs (h.closeTask i c (hcs ▸ hn) hc)
  · rw [htr]
    refine Guarded.append h.orderly fun be r a hr i hi ↦ ?_
    have hm : r ∈ rs := hr ▸ mem_append_right _ mem_cons_self
    rw [ended_append_of_forall fun b hb ↦ (hrs b (hr ▸ mem_append_left _ hb)).1]
    exact h.notOver i ((hrs r hm).2.2 i hi)
  · rw [htr]
    refine h.guarded.append_of_forall fun r hr be i u he _ ↦ ?_
    rw [he] at hr
    cases (hrs _ hr).1

theorem touch (h : Good s) (hn : s.upstream.tcpConnections.lookup id = some cn)
    (hk : ∀ i, t.upstream.tcpConnections.lookup i =
      if i = id then some c else s.upstream.tcpConnections.lookup i)
    (hb : t.upstream.connIdByStreamId = s.upstream.connIdByStreamId)
    (ht : t.nextStreamId = s.nextStreamId) (htr : t.trace = s.trace)
    (hst : c.streamId = cn.streamId)
    (ho : ∀ x ∈ s.openStreams, x ∈ t.openStreams ∨ x = cn.streamId ∧ c.streamClosed = true)
    (hcl : c.streamClosed = false → cn.streamClosed = false)
    (hl : c.clientClosed = true → Reason id s.trace)
    (ha : c.closeTask.isSome → .closeRequested id ∈ s.trace) : Good t := by
  have hs : ∀ i, (t.upstream.tcpConnections.lookup i).isSome =
      (s.upstream.tcpConnections.lookup i).isSome := by
    intro i
    rw [hk]
    split
    · next hi => rw [hi, hn]; rfl
    · rfl
  refine ⟨fun x i hx ↦ ?_, fun i c₁ hi ↦ ?_, ?_, ?_, ?_, ?_, fun i c₁ hi hc ↦ ?_,
    fun i c₁ hi hc ↦ ?_, fun i c₁ hi hc ↦ ?_, htr ▸ h.orderly, htr ▸ h.guarded⟩
  · rw [hb] at hx
    obtain ⟨c₁, hc₁, hs₁⟩ := h.conn_of_stream x i hx
    rw [hk]
    split
    · next hi =>
      rw [hi, hn, some.injEq] at hc₁
      exact ⟨c, rfl, hst.trans (hc₁ ▸ hs₁)⟩
    · exact ⟨c₁, hc₁, hs₁⟩
  · rw [hk] at hi
    rw [hb]
    split at hi
    · next he =>
      rw [← some.inj hi, hst, he]
      exact h.stream_of_conn id cn hn
    · exact h.stream_of_conn i c₁ hi
  · rw [hb, ht]
    exact h.byStream_lt
  · simp only [hs, htr]
    exact h.accepted
  · simp only [hs, htr]
    exact h.notOver
  · simp only [hs, htr]
    exact h.complete
  · rw [hk] at hi
    split at hi
    · cases some.inj hi
      rw [hst]
      refine (ho _ (h.opened id cn hn (hcl hc))).resolve_right fun hr ↦ ?_
      rw [hr.2] at hc
      cases hc
    · next hne =>
      refine (ho _ (h.opened i c₁ hi hc)).resolve_right fun hr ↦ hne ?_
      exact h.eq_of_streamId hi hn hr.1
  · rw [hk] at hi
    rw [htr]
    split at hi
    · next he =>
      cases some.inj hi
      exact he ▸ hl hc
    · exact h.clientClosed i c₁ hi hc
  · rw [hk] at hi
    rw [htr]
    split at hi
    · next he =>
      cases some.inj hi
      exact he ▸ ha hc
    · exact h.closeTask i c₁ hi hc

theorem finish (h : Good s) (hn : s.upstream.tcpConnections.lookup id = some cn) {r : Record}
    (hr : r.terminal = some id)
    (hd : ∀ u, r = .connectionClosed id u → u ≠ [] → Reason id s.trace)
    (hcs : ∀ i, t.upstream.tcpConnections.lookup i =
      if i = id then none else s.upstream.tcpConnections.lookup i)
    (hy : ∀ x, t.upstream.connIdByStreamId.lookup x =
      if x = cn.streamId then none else s.upstream.connIdByStreamId.lookup x)
    (ht : t.nextStreamId = s.nextStreamId)
    (ho : ∀ x ∈ s.openStreams, x ∈ t.openStreams ∨ x = cn.streamId)
    (htr : t.trace = s.trace ++ [r]) : Good t := by
  have hv : ∀ i, Over i t.trace ↔ Over i s.trace ∨ i = id := by
    intro i
    rw [htr, Over, ended_append, ended_singleton, hr, some.injEq, eq_comm (a := id)]
  have hl : ∀ i conn₁, t.upstream.tcpConnections.lookup i = some conn₁ ↔
      i ≠ id ∧ s.upstream.tcpConnections.lookup i = some conn₁ := by
    intro i conn₁
    rw [hcs]
    split
    · next hi => simp [hi]
    · next hi => simp [hi]
  have hso : ∀ i, (t.upstream.tcpConnections.lookup i).isSome ↔
      i ≠ id ∧ (s.upstream.tcpConnections.lookup i).isSome := by
    intro i
    simp only [isSome_iff_exists, hl, exists_and_left]
  have ha : ∀ i, .accepted i ∈ t.trace ↔ .accepted i ∈ s.trace := by
    intro i
    rw [htr, mem_append, or_iff_left]
    intro hm
    rw [← mem_singleton.1 hm] at hr
    cases hr
  have hb : s.trace ⊆ t.trace := htr ▸ subset_append_left _ _
  have hid : (s.upstream.tcpConnections.lookup id).isSome := by rw [hn]; rfl
  refine ⟨fun x i hx ↦ ?_, fun i conn₁ hi ↦ ?_, fun x i hx ↦ ?_, fun i hi ↦ ?_, fun i hi ↦ ?_,
    fun i hi ↦ ?_, fun i conn₁ hi hc ↦ ?_, fun i conn₁ hi hc ↦ ?_, fun i conn₁ hi hc ↦ ?_, ?_, ?_⟩
  · rw [hy] at hx
    split at hx
    · cases hx
    next hne =>
    obtain ⟨conn₁, hc₁, hs₁⟩ := h.conn_of_stream x i hx
    refine ⟨conn₁, (hl i conn₁).2 ⟨?_, hc₁⟩, hs₁⟩
    rintro rfl
    rw [hn, some.injEq] at hc₁
    exact hne (by rw [← hs₁, hc₁])
  · obtain ⟨hne, hi⟩ := (hl i conn₁).1 hi
    rw [hy, if_neg, h.stream_of_conn i conn₁ hi]
    exact fun hs ↦ hne (h.eq_of_streamId hi hn hs)
  · rw [hy] at hx
    rw [ht]
    split at hx
    · cases hx
    · exact h.byStream_lt x i hx
  · rw [ha]
    rw [hso, hv] at hi
    rcases hi with hi | hi | rfl
    · exact h.accepted i (.inl hi.2)
    · exact h.accepted i (.inr hi)
    · exact h.accepted i (.inl hid)
  · obtain ⟨hne, hi⟩ := (hso i).1 hi
    rw [hv]
    exact fun hc ↦ hc.elim (h.notOver i hi) hne
  · rw [hv, hso]
    by_cases hne : i = id
    · exact .inl (.inr hne)
    · exact (h.complete i ((ha i).1 hi)).imp .inl fun hc ↦ ⟨hne, hc⟩
  · obtain ⟨hne, hi⟩ := (hl i conn₁).1 hi
    refine (ho _ (h.opened i conn₁ hi hc)).resolve_right fun hs ↦ hne ?_
    exact h.eq_of_streamId hi hn hs
  · exact (h.clientClosed i conn₁ ((hl i conn₁).1 hi).2 hc).mono hb
  · exact hb (h.closeTask i conn₁ ((hl i conn₁).1 hi).2 hc)
  · rw [htr]
    refine Guarded.concat h.orderly fun i hi ↦ ?_
    rw [subject_of_terminal r id hr, some.injEq] at hi
    exact hi ▸ h.notOver id hid
  · rw [htr]
    refine h.guarded.concat fun i u he hne ↦ ?_
    have hi : i = id := by
      rw [he] at hr
      exact some.inj hr
    exact hi ▸ hd u (hi ▸ he) hne

/-- A connection is accepted over a stream that is new. -/
theorem accept (h : Good s) {streamId : ℕ} (hw : .accepted id ∉ s.trace)
    (hst : s.nextStreamId ≤ streamId)
    (hcs : t.upstream.tcpConnections = s.upstream.tcpConnections.insert id { streamId })
    (hy : t.upstream.connIdByStreamId = s.upstream.connIdByStreamId.insert streamId id)
    (ht : t.nextStreamId = streamId + 1) (hn : t.openStreams = streamId :: s.openStreams)
    (htr : t.trace = s.trace ++ [.accepted id]) : Good t := by
  have ho : ∀ i, Over i t.trace ↔ Over i s.trace := by
    intro i
    rw [htr]
    exact ended_append_of_forall fun r hr ↦ (mem_singleton.1 hr).symm ▸ rfl
  have hl : ∀ i, t.upstream.tcpConnections.lookup i =
      if i = id then some { streamId } else s.upstream.tcpConnections.lookup i := by
    intro i
    rw [hcs, lookup_insert]
  have hm : ∀ x, t.upstream.connIdByStreamId.lookup x =
      if x = streamId then some id else s.upstream.connIdByStreamId.lookup x := by
    intro x
    rw [hy, lookup_insert]
  have hno : s.upstream.tcpConnections.lookup id = none :=
    not_isSome_iff_eq_none.1 fun hs ↦ hw (h.accepted id (.inl hs))
  have hs : ∀ i, (t.upstream.tcpConnections.lookup i).isSome ↔
      (s.upstream.tcpConnections.lookup i).isSome ∨ i = id := by
    intro i
    rw [hl]
    split
    · next hi => simp [hi]
    · next hi => simp [hi]
  have hme : .accepted id ∈ t.trace := by
    rw [htr]
    exact mem_concat_self
  have hb : s.trace ⊆ t.trace := htr ▸ subset_append_left _ _
  refine ⟨fun x i hx ↦ ?_, fun i c₁ hi ↦ ?_, fun x i hx ↦ ?_, fun i hi ↦ ?_, fun i hi ↦ ?_,
    fun i hi ↦ ?_, fun i c₁ hi hc ↦ ?_, fun i c₁ hi hc ↦ ?_, fun i c₁ hi hc ↦ ?_, ?_, ?_⟩
  · rw [hm] at hx
    rw [hl]
    split at hx
    · next he =>
      cases some.inj hx
      exact ⟨_, if_pos rfl, he.symm⟩
    · obtain ⟨c₁, hc₁, hs₁⟩ := h.conn_of_stream x i hx
      refine ⟨c₁, ?_, hs₁⟩
      rw [if_neg, hc₁]
      rintro rfl
      rw [hno] at hc₁
      cases hc₁
  · rw [hl] at hi
    rw [hm]
    split at hi
    · next he =>
      cases some.inj hi
      rw [if_pos rfl, he]
    · have hx := h.stream_of_conn i c₁ hi
      have hlt := h.byStream_lt _ _ hx
      rw [if_neg (by omega), hx]
  · rw [hm] at hx
    rw [ht]
    split at hx
    · omega
    · have hlt := h.byStream_lt x i hx
      omega
  · rw [hs, ho] at hi
    rcases hi with (hi | rfl) | hi
    · exact hb (h.accepted i (.inl hi))
    · exact hme
    · exact hb (h.accepted i (.inr hi))
  · rw [ho]
    rcases (hs i).1 hi with hi | rfl
    · exact h.notOver i hi
    · exact fun hc ↦ hw (h.accepted i (.inr hc))
  · rw [ho, hs]
    rw [htr, mem_append, mem_singleton] at hi
    rcases hi with hi | hi
    · exact (h.complete i hi).imp_right .inl
    · cases hi
      exact .inr (.inr rfl)
  · rw [hl] at hi
    rw [hn]
    split at hi
    · cases some.inj hi
      exact mem_cons_self
    · exact mem_cons_of_mem _ (h.opened i c₁ hi hc)
  · rw [hl] at hi
    split at hi
    · cases some.inj hi
      cases hc
    · exact (h.clientClosed i c₁ hi hc).mono hb
  · rw [hl] at hi
    split at hi
    · cases some.inj hi
      cases hc
    · exact hb (h.closeTask i c₁ hi hc)
  · rw [htr]
    exact h.orderly.append_of_forall fun r hr ↦ (mem_singleton.1 hr).symm ▸ rfl
  · rw [htr]
    refine h.guarded.concat fun i u he ↦ ?_
    cases he

end Good

end TrustTunnel.Upstream.Http2.Lifecycle

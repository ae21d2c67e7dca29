import TrustTunnel.Upstream.Http3.Steps

namespace TrustTunnel.Upstream.Http3.ByteStream

open Acts Connections Http3Upstream Lib.Assoc Lib.Transition Moves Steps List Option

variable {e : Event} {es : List Event} {data : List UInt8} {streamId : ℕ}

def takenOf (id : ℕ) : Event → List UInt8
  | .read i data (some n) => if i = id then data.take n else []
  | _ => []

def taken (id : ℕ) (trace : List Event) : List UInt8 := trace.flatMap (takenOf id)

def receivedOf (streamId : ℕ) : Event → List UInt8
  | .body s data => if s = streamId then data else []
  | _ => []

def received (streamId : ℕ) (trace : List Event) : List UInt8 := trace.flatMap (receivedOf streamId)

theorem taken_append (id : ℕ) (l l' : List Event) :
    taken id (l ++ l') = taken id l ++ taken id l' := flatMap_append

theorem received_append (si : ℕ) (l l' : List Event) :
    received si (l ++ l') = received si l ++ received si l' :=
  flatMap_append

theorem taken_singleton (id : ℕ) (e : Event) : taken id [e] = takenOf id e := flatMap_singleton _ _

theorem received_singleton (si : ℕ) (e : Event) :
    received si [e] = receivedOf si e := flatMap_singleton _ _

/-- An event that is not about data, nor about a close by the peer with something unread. -/
structure Plain (e : Event) : Prop where
  taken : ∀ id, takenOf id e = []
  received : ∀ streamId, receivedOf streamId e = []
  peer : ∀ id unread, e = .connectionClosed id .peer unread → unread = []

def carriesData : Event → Bool
  | .read _ _ _ | .body _ _ | .connectionClosed _ _ _ => true
  | _ => false

theorem plain_of_not (h : carriesData e = false) : Plain e := by
  refine ⟨fun id ↦ ?_, fun s ↦ ?_, fun id u he ↦ ?_⟩
  · cases e <;> first | rfl | cases h
  · cases e <;> first | rfl | cases h
  · subst he
    cases h

theorem plain_of_silent (h : silent e) : Plain e :=
  plain_of_not (by cases e <;> first | rfl | cases h)

theorem plain_read {id : ℕ} {r : Option ℕ} (hr : r = none ∨ r = some 0) :
    Plain (.read id data r) := by
  refine ⟨fun i ↦ ?_, fun _ ↦ rfl, fun i u he ↦ by cases he⟩
  rcases hr with rfl | rfl
  · rfl
  · simp [takenOf]

theorem plain_of_terminal {id : ℕ} (h : e.terminal = some id)
    (hr : ∀ u, e = .connectionClosed id .peer u → u = []) : Plain e := by
  cases e with
  | connectionClosed i c u =>
    cases h
    refine ⟨fun _ ↦ rfl, fun _ ↦ rfl, fun i' u' he ↦ ?_⟩
    cases he
    exact hr u rfl
  | error => exact plain_of_not rfl
  | _ => cases h

theorem taken_of_plain (h : ∀ e ∈ es, Plain e) (id : ℕ) : taken id es = [] :=
  flatMap_eq_nil_iff.2 fun e he ↦ (h e he).taken id

theorem received_of_plain (h : ∀ e ∈ es, Plain e) (si : ℕ) : received si es = [] :=
  flatMap_eq_nil_iff.2 fun e he ↦ (h e he).received si

def carried (c : Running) (streamId : ℕ) : List UInt8 :=
  if c.stream = some streamId then c.owed else []

/-- What was taken, what is buffered and what `on_body` holds is, in this order, what was
received. -/
structure Bytes (c : Running) : Prop where
  live : ∀ id conn, c.upstream.tcpConnections.lookup id = some conn →
    taken id c.upstream.trace ++ conn.unread ++ carried c conn.streamId =
      received conn.streamId c.upstream.trace
  total : c.upstream.totalUnreadBytes = unreadSum c.upstream
  fresh : ∀ id, .accepted id ∉ c.upstream.trace ∨
    (c.upstream.retriableTcpRequests.lookup id).isSome ∨ id ∈ c.held →
        taken id c.upstream.trace = []
  peer : ∀ id unread, .connectionClosed id .peer unread ∈ c.upstream.trace → unread = []

namespace Bytes

variable {env : Env} {c d : Running} {v : Http3Upstream} {id : ℕ}

theorem of_same (h : Bytes c) (es : List Event)
    (hcs : ∀ id c', v.tcpConnections.lookup id = some c' →
      ∃ cn, c.upstream.tcpConnections.lookup id = some cn ∧ view cn = view c')
    (ht : ∀ id, (v.retriableTcpRequests.lookup id).isSome →
      (c.upstream.retriableTcpRequests.lookup id).isSome)
    (ho : v.totalUnreadBytes = unreadSum v) (hr : v.trace = c.upstream.trace ++ es)
    (he : ∀ e ∈ es, Plain e) : Bytes { c with upstream := v } where
  live := by
    intro id c' hc
    obtain ⟨cn, hn, hv⟩ := hcs id c' hc
    obtain ⟨hs, hu⟩ := Prod.mk.inj hv
    have hl := h.live id cn hn
    change taken id v.trace ++ c'.unread ++ carried c c'.streamId = received c'.streamId v.trace
    rw [hr, taken_append, received_append, taken_of_plain he, received_of_plain he,
      append_nil, append_nil, ← hs, ← hu]
    exact hl
  total := ho
  fresh := by
    intro id hi
    change taken id v.trace = []
    change .accepted id ∉ v.trace ∨ (v.retriableTcpRequests.lookup id).isSome ∨ id ∈ c.held at hi
    rw [hr, taken_append, taken_of_plain he, append_nil]
    refine h.fresh id (hi.imp (fun ha hmem ↦ ha ?_) (Or.imp_left (ht id)))
    rw [hr]
    exact mem_append_left _ hmem
  peer := by
    intro id u hmem
    change _ ∈ v.trace at hmem
    rw [hr, mem_append] at hmem
    rcases hmem with hmem | hmem
    · exact h.peer id u hmem
    · exact (he _ hmem).peer id u rfl

theorem calm (h : Bytes c) (hm : Calm c.upstream v) : Bytes { c with upstream := v } := by
  obtain ⟨es, ht, hes⟩ := hm.events
  refine h.of_same es (fun id c' hc ↦ ?_) (fun id hi ↦ hm.retriable ▸ hi) ?_ ht
    fun e he ↦ plain_of_silent (hes e he)
  · obtain ⟨cn, hn, hs, hu⟩ := hm.symm_conn hc
    exact ⟨cn, hn, Prod.ext hs hu⟩
  · rw [hm.total, hm.unreadSum, h.total]

theorem emit (h : Bytes c) (he : Plain e) : Bytes { c with upstream := c.upstream.emit e } :=
  h.of_same [e] (fun _ cn hc ↦ ⟨cn, hc, rfl⟩) (fun _ hid ↦ hid) h.total rfl
    (by simpa using he)

theorem credit (h : Bytes c) (hes : ∀ e ∈ es, Plain e) (ss : ℕ) :
    Bytes { c with upstream := { c.upstream with
      trace := c.upstream.trace ++ es
      connFcSurplus := ss } } :=
  h.of_same es (fun _ cn hc ↦ ⟨cn, hc, rfl⟩) (fun _ hid ↦ hid) h.total rfl hes

theorem creditStreamFc (h : Bytes c) (si n : ℕ) :
    Bytes { c with upstream := c.upstream.creditStreamFc si n } := by
  obtain ⟨es, hq, hs⟩ := creditStreamFc_fields (u := c.upstream) si n
  rw [hq]
  refine h.credit (fun e he ↦ ?_) _
  rcases hs with ⟨_, rfl⟩ | rfl
  · cases he
  · rw [mem_singleton.1 he]
    exact plain_of_not rfl

theorem creditConnectionFc (h : Bytes c) (l : ℕ) :
    Bytes { c with upstream := c.upstream.creditConnectionFc l } := by
  obtain ⟨es, hq, hs⟩ := creditConnectionFc_fields (u := c.upstream) l
  rw [hq]
  refine h.credit (fun e he ↦ ?_) _
  rcases hs with ⟨_, rfl⟩ | ⟨_, rfl⟩
  · cases he
  · rw [mem_singleton.1 he]
    exact plain_of_not rfl

theorem clean (h : Bytes c) (id : ℕ) :
    Bytes { c with upstream := c.upstream.cleanTcpConnectionData id } := by
  by_cases hr : (c.upstream.retriableTcpRequests.lookup id).isSome
  · rw [clean_of_retriable hr]
    refine h.of_same [] (fun _ cn hn ↦ ⟨cn, hn, rfl⟩) (fun i hi ↦ ?_) h.total (by simp) (by simp)
    change ((c.upstream.retriableTcpRequests.erase id).lookup i).isSome at hi
    rw [lookup_erase] at hi
    split at hi
    · cases hi
    · exact hi
  · rw [not_isSome_iff_eq_none] at hr
    cases hc : c.upstream.tcpConnections.lookup id with
    | none =>
      rw [clean_of_none hr hc]
      exact h.of_same [] (fun _ cn hn ↦ ⟨cn, hn, rfl⟩) (fun _ hi ↦ hi) h.total (by simp) (by simp)
    | some cn =>
      rw [clean_of_conn hr hc]
      refine h.of_same [] (fun i c' h' ↦ ?_) (fun _ hi ↦ hi) ?_ (by simp) (by simp)
      · exact ⟨c', (lookup_erase_eq_some.1 h').2, rfl⟩
      · have hs := sumOf_erase (fun cn : TcpConnection ↦ cn.unread.length) hc
        have ht := h.total
        simp only [unreadSum] at ht ⊢
        omega

theorem of_read (h : Bytes c) (ht : Tables c) (hd : d.held = c.held)
    (hid : (c.upstream.tcpConnections.lookup id).isSome) {n : ℕ} (es : List Event)
    (htr : d.upstream.trace = c.upstream.trace ++ [.read id data (some n)] ++ es)
    (hes : ∀ e ∈ es, Plain e) (he : ∀ c', d.upstream.tcpConnections.lookup id = some c' →
      taken id c.upstream.trace ++ data.take n ++ c'.unread ++ carried d c'.streamId =
        received c'.streamId c.upstream.trace)
    (hh : ∀ i c', i ≠ id → d.upstream.tcpConnections.lookup i = some c' →
      ∃ cn, c.upstream.tcpConnections.lookup i = some cn ∧ view cn = view c' ∧
        carried d cn.streamId = carried c cn.streamId)
    (hret : d.upstream.retriableTcpRequests = c.upstream.retriableTcpRequests)
    (ho : d.upstream.totalUnreadBytes = unreadSum d.upstream) : Bytes d  where
  live := by
    intro i c' h'
    have hr : receivedOf c'.streamId (.read id data (some n)) = [] := rfl
    rw [htr, taken_append, taken_append, received_append, received_append, taken_of_plain hes,
      received_of_plain hes, append_nil, append_nil, taken_singleton, received_singleton,
      hr, append_nil, takenOf]
    by_cases hi : i = id
    · subst hi
      rw [if_pos rfl]
      exact he c' h'
    · obtain ⟨cn, hco, hv, hc⟩ := hh i c' hi h'
      obtain ⟨hs, hu⟩ := Prod.mk.inj hv
      rw [if_neg (Ne.symm hi), append_nil, ← hs, ← hu, hc]
      exact h.live i cn hco
  total := ho
  fresh := by
    intro i hi
    have hne : id ≠ i := by
      rintro rfl
      obtain ⟨ha, hno, hn⟩ := ht.connected id hid
      rw [hret, hd, hno] at hi
      rcases hi with hi | hi | hi
      · refine hi ?_
        rw [htr, append_assoc]
        exact mem_append_left _ ha
      · cases hi
      · exact hn hi
    rw [htr, taken_append, taken_append, taken_of_plain hes, append_nil, taken_singleton,
      takenOf, if_neg hne, append_nil]
    rw [htr, hret, hd] at hi
    refine h.fresh i (hi.imp_left fun ha hmem ↦ ha ?_)
    rw [append_assoc]
    exact mem_append_left _ hmem
  peer := by
    intro i u hmem
    rw [htr, mem_append, mem_append] at hmem
    rcases hmem with (hmem | hmem) | hmem
    · exact h.peer i u hmem
    · cases mem_singleton.1 hmem
    · exact (hes _ hmem).peer i u rfl

theorem take (h : Bytes c) (ht : Tables c) {cn : TcpConnection} {r : ℕ}
    (hn : c.upstream.tcpConnections.lookup id = some cn) (ha : data <+: cn.unread)
    (hr : r ≤ data.length) (hm : Calm (c.upstream.emit (.read id data (some r))) v) :
    Bytes { c with upstream := v.drain id r } := by
  obtain ⟨es, htr, hes⟩ := hm.events
  obtain ⟨c', hc, hs, hu⟩ := hm.exists_conn (u := c.upstream.emit (.read id data (some r))) hn
  have hl : ∀ i, (v.drain id r).tcpConnections.lookup i =
      if i = id then (v.tcpConnections.lookup id).map fun cn ↦
        { cn with unreadData := some (cn.unread.drop r) } else v.tcpConnections.lookup i :=
    fun i ↦ lookup_modify _ _ _ _
  refine h.of_read ht rfl (by rw [hn]; rfl) es htr (fun e he ↦ plain_of_silent (hes e he))
    (fun co h' ↦ ?_) (fun i co hi h' ↦ ?_) hm.retriable ?_
  · change (v.drain id r).tcpConnections.lookup id = some co at h'
    rw [hl, if_pos rfl, hc, map_some, some.injEq] at h'
    subst h'
    have hv := h.live id cn hn
    obtain ⟨rest, hre⟩ := ha
    change taken id c.upstream.trace ++ data.take r ++ c'.unread.drop r ++
      carried c c'.streamId = received c'.streamId c.upstream.trace
    rw [hu, hs, ← hv, ← hre, drop_append_of_le_length hr]
    simp [← append_assoc (data.take r)]
  · change (v.drain id r).tcpConnections.lookup i = some co at h'
    rw [hl, if_neg hi] at h'
    obtain ⟨c₀, hc₀, hs₀, hu₀⟩ := hm.symm_conn h'
    exact ⟨c₀, hc₀, Prod.ext hs₀ hu₀, rfl⟩
  · have hsu := sumOf_modify (fun cn : TcpConnection ↦ cn.unread.length) hc
      fun cn ↦ { cn with unreadData := some (cn.unread.drop r) }
    have hle : r ≤ c'.unread.length := hu ▸ Nat.le_trans hr ha.length_le
    have ho := hm.total.trans (h.total.trans hm.unreadSum.symm)
    change v.totalUnreadBytes - r = sumOf _ (modify v.tcpConnections id _)
    simp only [TcpConnection.unread, getD_some, length_drop, unreadSum] at hsu ho hle ⊢
    omega

theorem deliver (h : Bytes c) (ht : Tables c) {n : ℕ} (hr : c.stream = some streamId)
    (hd : c.upstream.tcpConnByStreamId.lookup streamId = some id)
    (hu : c.upstream.unreadOf id = []) (hm : Calm (c.upstream.emit (.read id c.owed (some n))) v) :
    Bytes { c with owed := c.owed.drop n, upstream := v } := by
  obtain ⟨es, htr, hs⟩ := hm.events
  obtain ⟨cn, hc, ho⟩ := ht.conn_of_stream streamId id hd
  refine h.of_read ht rfl (by rw [hc]; rfl) es htr (fun e he ↦ plain_of_silent (hs e he))
    (fun c' h' ↦ ?_) (fun i c' hi h' ↦ ?_) hm.retriable
    (hm.total.trans (h.total.trans hm.unreadSum.symm))
  · obtain ⟨c₀, hc₀, hs₀, hu₀⟩ := hm.symm_conn h'
    change c.upstream.tcpConnections.lookup id = some c₀ at hc₀
    rw [hc, some.injEq] at hc₀
    subst hc₀
    have hv := h.live id cn hc
    rw [unreadOf, hc] at hu
    change cn.unread = [] at hu
    rw [← hs₀, ← hu₀, ← hv, hu, carried, carried, ho, if_pos hr,
      if_pos hr, append_nil, append_nil, append_assoc, take_append_drop]
  · obtain ⟨c₀, hc₀, hs₀, hu₀⟩ := hm.symm_conn h'
    refine ⟨c₀, hc₀, Prod.ext hs₀ hu₀, ?_⟩
    have hn : c.stream ≠ some c₀.streamId := by
      rw [hr]
      intro he
      have hl := ht.stream_of_conn i c₀ hc₀
      rw [← some.inj he, hd, some.injEq] at hl
      exact hi hl.symm
    rw [carried, carried, if_neg hn, if_neg hn]

theorem of_waiting (h : Bytes c)
    (hc : d.upstream.tcpConnections = c.upstream.tcpConnections)
    (ht : d.upstream.totalUnreadBytes = c.upstream.totalUnreadBytes)
    (hr : d.upstream.trace = c.upstream.trace) (hd : carried d = carried c)
    (hg : ∀ id, (d.upstream.retriableTcpRequests.lookup id).isSome ∨ id ∈ d.held →
      (c.upstream.retriableTcpRequests.lookup id).isSome ∨ id ∈ c.held) : Bytes d where
  live := by
    rw [hc, hr, hd]
    exact h.live
  total := by
    rw [unreadSum, hc, ht]
    exact h.total
  fresh := by
    intro id hi
    rw [hr] at hi ⊢
    exact h.fresh id (hi.imp_right (hg id))
  peer := by
    rw [hr]
    exact h.peer

theorem received_unused (ht : Tables c) (hi : c.upstream.nextStreamId ≤ streamId) :
    received streamId c.upstream.trace = [] := by
  refine flatMap_eq_nil_iff.2 fun e he ↦ ?_
  cases e with
  | body s d =>
    have hl := ht.used_lt _ he s rfl
    exact if_neg (by omega)
  | _ => rfl

theorem openStream (h : Bytes c) (ht : Tables c) (s : ℕ)
    (he : c.upstream.tcpConnections.lookup id = none) (hf : taken id c.upstream.trace = []) :
    Bytes { c with upstream := c.upstream.openStream id s } := by
  have hcs : (c.upstream.openStream id s).tcpConnections =
      c.upstream.tcpConnections.insert id { streamId := c.upstream.nextStreamId + s } := by
    simp [Http3Upstream.openStream, he]
  refine ⟨fun i cn hc ↦ ?_, ?_, h.fresh, h.peer⟩
  · change (c.upstream.openStream id s).tcpConnections.lookup i = some cn at hc
    rw [hcs, lookup_insert] at hc
    split at hc
    · next hi =>
      subst hi
      cases hc
      have hu : c.stream ≠ some (c.upstream.nextStreamId + s) := by
        intro hs
        have := ht.stream_lt _ hs
        omega
      change taken i c.upstream.trace ++ [] ++ carried c (c.upstream.nextStreamId + s) =
        received (c.upstream.nextStreamId + s) c.upstream.trace
      rw [hf, carried, if_neg hu, received_unused ht (Nat.le_add_right _ _)]
      rfl
    · exact h.live i cn hc
  · change c.upstream.totalUnreadBytes = sumOf _ (c.upstream.openStream id s).tcpConnections
    rw [hcs, sumOf_insert_new _ he, h.total, unreadSum]
    exact (Nat.zero_add _).symm

theorem store (h : Bytes c) (ht : Tables c) (hr : c.stream = some streamId)
    (hid : c.upstream.tcpConnByStreamId.lookup streamId = some id) :
    Bytes { c with stream := none, upstream := Acts.store c.upstream id c.owed } := by
  obtain ⟨cn, hc, hm⟩ := ht.conn_of_stream streamId id hid
  have hn : ∀ i c', i ≠ id → c.upstream.tcpConnections.lookup i = some c' →
      carried c c'.streamId = [] := by
    intro i c' hi h'
    refine if_neg fun hs ↦ hi (ht.eq_of_streamId h' hc ?_)
    rw [hr, some.injEq] at hs
    rw [← hs, hm]
  have hd : carried c cn.streamId = c.owed := if_pos (hm ▸ hr)
  have hl := h.live id cn hc
  rw [hd] at hl
  rw [Acts.store]
  split
  · next ho =>
    refine ⟨fun i c' h' ↦ ?_, h.total, h.fresh, h.peer⟩
    by_cases hi : i = id
    · subst hi
      change c.upstream.tcpConnections.lookup i = some c' at h'
      rw [hc, some.injEq] at h'
      rw [← h', ← hl, ho]
      rfl
    · have hh := h.live i c' h'
      rwa [hn i c' hi h'] at hh
  · have hu := sumOf_modify (fun cn : TcpConnection ↦ cn.unread.length) hc
      fun cn ↦ { cn with unreadData := some (cn.unread ++ c.owed) }
    refine ⟨fun i c' h' ↦ ?_, ?_, h.fresh, h.peer⟩
    · change (modify c.upstream.tcpConnections id _).lookup i = some c' at h'
      rw [lookup_modify] at h'
      split at h'
      · next hi =>
        rw [hc, map_some, some.injEq] at h'
        rw [← h', hi]
        change taken id c.upstream.trace ++ (cn.unread ++ c.owed) ++ [] = _
        rw [append_nil, ← append_assoc]
        exact hl
      · next hi =>
        have hh := h.live i c' h'
        rwa [hn i c' hi h'] at hh
    · have hto := h.total
      change c.upstream.totalUnreadBytes + c.owed.length = sumOf _ (modify _ id _)
      simp only [TcpConnection.unread, getD_some, length_append, unreadSum] at hu hto ⊢
      omega

theorem body (h : Bytes c) (hid : c.stream = none) (si : ℕ) (ck : List UInt8) (due : ℕ) :
    Bytes { c with
      stream := some si
      owed := ck
      due
      upstream := c.upstream.emit (.body si ck) } := by
  have ht : ∀ i, taken i (c.upstream.emit (.body si ck)).trace =
      taken i c.upstream.trace := fun i ↦ (taken_append i _ _).trans (append_nil _)
  refine ⟨fun i cn hc ↦ ?_, h.total, fun i hi ↦ ?_, fun i u hmem ↦ ?_⟩
  · have hl := h.live i cn hc
    have hn : carried c cn.streamId = [] := if_neg (by rw [hid]; simp)
    rw [hn, append_nil] at hl
    rw [ht]
    change _ = received cn.streamId (c.upstream.trace ++ [.body si ck])
    rw [received_append, ← hl, received_singleton, receivedOf, carried]
    by_cases hs : si = cn.streamId
    · rw [if_pos (congrArg some hs), if_pos hs]
    · rw [if_neg fun he ↦ hs (some.inj he), if_neg hs]
  · rw [ht]
    exact h.fresh i (hi.imp_left fun ha hmem ↦ ha (mem_append_left _ hmem))
  · rcases mem_append.1 hmem with hmem | hmem
    · exact h.peer i u hmem
    · cases mem_singleton.1 hmem

theorem move (h : Bytes c) (ht : Tables c) (hm : Move c.upstream v) :
    Bytes { c with upstream := v } := by
  cases hm with
  | calm hc => exact h.calm hc
  | tell id e hi he =>
    refine h.emit (plain_of_not ?_)
    rcases he with rfl | ⟨n, rfl⟩ <;> rfl
  | pass id d r hi hr => exact h.emit (plain_read hr)
  | take id cn d r hn hd hs hr hc =>
    exact (h.take ht hn hd hr hc).creditStreamFc cn.streamId r
  | finish id e hi he hp => exact (h.emit (plain_of_terminal he hp)).clean id

/-- The step lemma: one case for each act. -/
theorem act (h : Bytes c) (ht : Tables c) (ha : Act env c d) : Bytes d := by
  cases ha with
  | move hm hc => exact h.move ht hm
  | muxStream v si hid hv hx =>
    rw [hv]
    exact h.of_waiting rfl rfl rfl rfl fun _ hi ↦ hi
  | accept id sd hw =>
    have hem : Bytes { c with upstream := c.upstream.emit (.accepted id) } :=
      h.emit (plain_of_not rfl)
    have hb : Tables { c with upstream := c.upstream.emit (.accepted id) } :=
      ht.emit fun s hs ↦ (by cases hs)
    refine hem.openStream hb sd ?_ ?_
    · exact not_isSome_iff_eq_none.1 fun ho ↦ hw (ht.connected id ho).1
    · change taken id (c.upstream.trace ++ [.accepted id]) = []
      rw [taken_append, h.fresh id (.inl hw)]
      rfl
  | acceptRetriable id r hw =>
    have hem : Bytes { c with upstream := c.upstream.emit (.accepted id) } :=
      h.emit (plain_of_not rfl)
    refine ⟨hem.live, hem.total, fun i hi ↦ ?_, hem.peer⟩
    by_cases he : i = id
    · change taken i (c.upstream.trace ++ [.accepted id]) = []
      rw [he, taken_append, h.fresh id (.inl hw)]
      rfl
    · refine hem.fresh i (hi.imp_right (Or.imp_left fun ho ↦ ?_))
      change ((c.upstream.retriableTcpRequests.insert id r).lookup i).isSome at ho
      rwa [lookup_insert, if_neg he] at ho
  | hold rs hp hh =>
    refine h.of_waiting rfl rfl rfl rfl fun i hi ↦ .inl ?_
    rcases hi with hi | hi
    · cases hi
    · exact (mem_keys_pairs _).1 ((hp.map Prod.fst).mem_iff.1 hi)
  | retried id sd held hh =>
    have hme : id ∈ c.held := hh ▸ mem_cons_self
    have hl : Bytes { c with held } :=
      h.of_waiting rfl rfl rfl rfl fun i hi ↦ hi.imp_right fun hi ↦ hh ▸ mem_cons_of_mem _ hi
    refine hl.openStream (ht.tail hh) sd ?_ (h.fresh id (.inr (.inr hme)))
    exact not_isSome_iff_eq_none.1 fun ho ↦ (ht.connected id ho).2.2 hme
  | dropped id e held hh hd =>
    have hl : Bytes { c with held } :=
      h.of_waiting rfl rfl rfl rfl fun i hi ↦ hi.imp_right fun hi ↦ hh ▸ mem_cons_of_mem _ hi
    exact (hl.emit (plain_of_not rfl)).clean id
  | release rs his hep =>
    refine h.of_waiting rfl rfl rfl rfl fun i hi ↦ .inr ?_
    rcases hi with hi | hi
    · exact his ▸ (isSome_lookup_mapOf rs).1 hi
    · cases hi
  | body si ck hid hd => exact h.body hd.1 si ck ck.length
  | drop si hr hno =>
    have hem : Bytes { c with upstream := c.upstream.consumeStream si c.due } :=
      h.emit (plain_of_not rfl)
    refine ⟨fun i cn hco ↦ ?_, hem.total, hem.fresh, hem.peer⟩
    have hli := hem.live i cn hco
    have hnt : c.stream ≠ some cn.streamId := by
      rw [hr]
      intro hs
      rw [some.inj hs, ht.stream_of_conn i cn hco] at hno
      cases hno
    rwa [carried, if_neg hnt] at hli
  | deliver si id n hf hr hid hu hn hc =>
    exact (h.deliver ht hr hid hu hc).creditStreamFc si n
  | doom => exact h.of_waiting rfl rfl rfl rfl fun _ hi ↦ hi
  | close id dd hdm hh =>
    have hcl := (h.emit (plain_of_terminal (e := .connectionClosed id .own
      (c.upstream.unreadOf id)) rfl fun _ he ↦ (by cases he))).clean id
    exact hcl.of_waiting rfl rfl rfl rfl fun _ hi ↦ hi
  | deferAgain => exact h.of_waiting rfl rfl rfl rfl fun _ hi ↦ hi

theorem outcome {u : Http3Upstream} {it : Input} (h : Bytes c) (ht : Tables c)
    (hou : Outcome u it c v) : Bytes (idle v) := by
  cases hou with
  | done v sd hs => exact h.of_waiting rfl rfl rfl rfl fun _ hi ↦ hi
  | @settled w v si owed d hse =>
    cases hse with
    | stored s id hr hid hdu =>
      have hd := (h.store ht hr hid).creditConnectionFc d
      exact hd.of_waiting rfl rfl rfl rfl fun _ hi ↦ hi
    | @delivered v s id n hr hid hdu hu hn hc =>
      have he := (h.deliver ht hr hid hu hc).creditStreamFc s n
      have hl : s < v.nextStreamId := by
        rw [hc.nextStreamId]
        exact ht.stream_lt s hr
      have hb := ((ht.emit (e := .read id owed (some n)) fun s hs ↦ (by cases hs)).calm
        hc).creditStreamFc hl n
      have hy : (v.creditStreamFc s n).tcpConnByStreamId.lookup s = some id := by
        obtain ⟨es, hq, _⟩ := creditStreamFc_fields (u := v) s n
        rw [hq]
        change v.tcpConnByStreamId.lookup s = some id
        rw [hc.byStream]
        exact hid
      have hd := (he.store (c := { passing w si owed d with
        owed := owed.drop n, upstream := v.creditStreamFc s n }) { hb with } hr
        hy).creditConnectionFc d
      exact hd.of_waiting rfl rfl rfl rfl fun _ hi ↦ hi
  | closed w sd ha hv =>
    refine ⟨fun i conn ho ↦ (by cases ho), rfl, fun i hi ↦ h.fresh i (.inl ?_), h.peer⟩
    rcases hi with hi | hi | hi
    · exact hi
    · cases hi
    · cases hi

theorem init : Bytes (idle {}) :=
  ⟨fun i conn hc ↦ (by cases hc), rfl, fun _ _ ↦ rfl, fun _ _ hm ↦ (by cases hm)⟩

end Bytes

def taking (n : ℕ) : Env :=
  { answer := fun _ ↦ some n, peek := fun _ ↦ some 9, request := fun _ ↦ .stream 0 }

end TrustTunnel.Upstream.Http3.ByteStream

import TrustTunnel.Upstream.Http3.ByteStream

namespace TrustTunnel.Upstream.Http3.FlowControl

open Acts ByteStream Connections Http3Upstream Lib.Assoc Lib.Transition Moves Steps List Option

variable {e : Event}

def creditOf : Event → ℕ
  | .consumeStream _ length => length
  | .consumeConnection length => length
  | _ => 0

def streamCreditOf (streamId : ℕ) : Event → ℕ
  | .consumeStream s length => if s = streamId then length else 0
  | _ => 0

def bodySize : Event → ℕ
  | .body _ data => data.length
  | _ => 0

def connectionCredit (trace : List Event) : ℕ := (trace.map creditOf).sum

def streamCredit (streamId : ℕ) (trace : List Event) : ℕ :=
  (trace.map (streamCreditOf streamId)).sum

def bytesReceived (trace : List Event) : ℕ := (trace.map bodySize).sum

section Sums

variable (l l' : List Event) (e : Event) (si : ℕ)

theorem connectionCredit_append :
    connectionCredit (l ++ l') = connectionCredit l + connectionCredit l' := by
  rw [connectionCredit, map_append, sum_append]
  rfl

theorem streamCredit_append :
    streamCredit si (l ++ l') = streamCredit si l + streamCredit si l' := by
  rw [streamCredit, map_append, sum_append]
  rfl

theorem bytesReceived_append : bytesReceived (l ++ l') = bytesReceived l + bytesReceived l' := by
  rw [bytesReceived, map_append, sum_append]
  rfl

theorem connectionCredit_singleton : connectionCredit [e] = creditOf e := Nat.add_zero _

theorem streamCredit_singleton : streamCredit si [e] = streamCreditOf si e := Nat.add_zero _

theorem bytesReceived_singleton : bytesReceived [e] = bodySize e := Nat.add_zero _

end Sums

structure Neutral (e : Event) : Prop where
  credit : creditOf e = 0
  streamCredit : ∀ streamId, streamCreditOf streamId e = 0
  body : bodySize e = 0
  taken : ∀ id, takenOf id e = []

def movesBytes : Event → Bool
  | .read _ _ (some _) | .body _ _ | .consumeStream _ _ | .consumeConnection _ => true
  | _ => false

theorem neutral_of_not (h : movesBytes e = false) : Neutral e := by
  cases e with
  | read id d r =>
    cases r with
    | none => exact ⟨rfl, fun _ ↦ rfl, rfl, fun _ ↦ rfl⟩
    | some n => cases h
  | body => cases h
  | consumeStream => cases h
  | consumeConnection => cases h
  | _ => exact ⟨rfl, fun _ ↦ rfl, rfl, fun _ ↦ rfl⟩

theorem neutral_of_silent (h : silent e) : Neutral e :=
  neutral_of_not (by cases e <;> first | rfl | cases h)

theorem neutral_read {id : ℕ} {d : List UInt8} {r : Option ℕ} (hr : r = none ∨ r = some 0) :
    Neutral (.read id d r) := ⟨rfl, fun _ ↦ rfl, rfl, (plain_read hr).taken⟩

theorem neutral_of_terminal {id : ℕ} (h : e.terminal = some id) : Neutral e :=
  neutral_of_not (by cases e <;> first | rfl | cases h)

section Neutral

variable {es : List Event} (hes : ∀ e ∈ es, Neutral e)

theorem sum_eq_zero_of_forall {f : Event → ℕ} (hf : ∀ e ∈ es, f e = 0) : (es.map f).sum = 0 := by
  induction es with
  | nil => rfl
  | cons e es ih =>
    rw [map_cons, sum_cons, hf e mem_cons_self, ih fun e he ↦ hf e (mem_cons_of_mem _ he)]

include hes

theorem connectionCredit_neutral : connectionCredit es = 0 :=
  sum_eq_zero_of_forall fun e he ↦ (hes e he).credit

theorem streamCredit_neutral (si : ℕ) : streamCredit si es = 0 :=
  sum_eq_zero_of_forall fun e he ↦ (hes e he).streamCredit si

theorem bytesReceived_neutral : bytesReceived es = 0 :=
  sum_eq_zero_of_forall fun e he ↦ (hes e he).body

theorem taken_neutral (id : ℕ) : taken id es = [] :=
  flatMap_eq_nil_iff.2 fun e he ↦ (hes e he).taken id

end Neutral

/-- The connection credit is what was received and the surplus, that of a stream what was taken. -/
structure Credit (c : Running) : Prop where
  connection : connectionCredit c.upstream.trace + c.due =
    bytesReceived c.upstream.trace + c.upstream.connFcSurplus
  stream : ∀ id conn, c.upstream.tcpConnections.lookup id = some conn →
    streamCredit conn.streamId c.upstream.trace = (taken id c.upstream.trace).length

namespace Credit

variable {env : Env} {c d : Running} {v : Http3Upstream} {id : ℕ}

theorem of_same (h : Credit c) (es : List Event)
    (hcs : ∀ id c', v.tcpConnections.lookup id = some c' →
      ∃ cn, c.upstream.tcpConnections.lookup id = some cn ∧ cn.streamId = c'.streamId)
    (hs : v.connFcSurplus = c.upstream.connFcSurplus)
    (ht : v.trace = c.upstream.trace ++ es) (he : ∀ e ∈ es, Neutral e) :
    Credit { c with upstream := v } where
  connection := by
    change connectionCredit v.trace + c.due = bytesReceived v.trace + v.connFcSurplus
    rw [ht, connectionCredit_append, bytesReceived_append, connectionCredit_neutral he,
      bytesReceived_neutral he, hs]
    exact h.connection
  stream := by
    intro id c' hc
    obtain ⟨cn, hn, hr⟩ := hcs id c' hc
    change streamCredit c'.streamId v.trace = (taken id v.trace).length
    rw [ht, streamCredit_append, taken_append, streamCredit_neutral he, taken_neutral he,
      append_nil, ← hr]
    exact h.stream id cn hn

theorem calm (h : Credit c) (hm : Calm c.upstream v) : Credit { c with upstream := v } := by
  obtain ⟨es, ht, hes⟩ := hm.events
  refine h.of_same es (fun id c' hc ↦ ?_) hm.surplus ht
    fun e he ↦ neutral_of_silent (hes e he)
  obtain ⟨cn, hn, hs, _⟩ := hm.symm_conn hc
  exact ⟨cn, hn, hs⟩

theorem emit (h : Credit c) (he : Neutral e) : Credit { c with upstream := c.upstream.emit e } :=
  h.of_same [e] (fun _ cn hc ↦ ⟨cn, hc, rfl⟩) rfl rfl (by simpa using he)

theorem clean (h : Credit c) (id : ℕ) :
    Credit { c with upstream := c.upstream.cleanTcpConnectionData id } := by
  refine h.of_same [] (fun i cn hn ↦ ⟨cn, ?_, rfl⟩) surplus_clean (by simp) (by simp)
  by_cases hr : (c.upstream.retriableTcpRequests.lookup id).isSome
  · rwa [clean_of_retriable hr] at hn
  rw [not_isSome_iff_eq_none] at hr
  cases hc : c.upstream.tcpConnections.lookup id with
  | none => rwa [clean_of_none hr hc] at hn
  | some c' =>
    rw [clean_of_conn hr hc] at hn
    exact (lookup_erase_eq_some.1 hn).2

theorem of_read (h : Credit c) (ht : Tables c) {cn : TcpConnection}
    (hc : c.upstream.tcpConnections.lookup id = some cn) {d : List UInt8} {n : ℕ}
    (hn : n ≤ d.length) (es : List Event)
    (hcs : ∀ i, (v.tcpConnections.lookup i).map TcpConnection.streamId =
      (c.upstream.tcpConnections.lookup i).map TcpConnection.streamId)
    (hu : v.connFcSurplus = c.upstream.connFcSurplus)
    (htr : v.trace = c.upstream.trace ++ [.read id d (some n)] ++ es)
    (hes : ∀ e ∈ es, Neutral e) :
    Credit { c with upstream := v.creditStreamFc cn.streamId n } := by
  obtain ⟨es', hq, he⟩ := creditStreamFc_fields (u := v) cn.streamId n
  have hcr : connectionCredit es' = n ∧ bytesReceived es' = 0 ∧
      (∀ s, streamCredit s es' = if cn.streamId = s then n else 0) ∧
      ∀ i, taken i es' = [] := by
    rcases he with ⟨rfl, rfl⟩ | rfl
    · exact ⟨rfl, rfl, fun s ↦ (ite_self 0).symm, fun _ ↦ rfl⟩
    · exact ⟨connectionCredit_singleton _, rfl, fun s ↦ streamCredit_singleton _ s, fun _ ↦ rfl⟩
  obtain ⟨ho, hb, hr, ha⟩ := hcr
  rw [hq]
  constructor
  · have hf := h.connection
    change connectionCredit (v.trace ++ es') + c.due =
      bytesReceived (v.trace ++ es') + (v.connFcSurplus + n)
    simp only [htr, connectionCredit_append, bytesReceived_append, connectionCredit_neutral hes,
      bytesReceived_neutral hes, ho, hb, hu, connectionCredit_singleton,
      bytesReceived_singleton, creditOf, bodySize]
    omega
  · intro i c' h'
    change v.tcpConnections.lookup i = some c' at h'
    have hm := (hcs i).symm
    rw [h', map_some, map_eq_some_iff] at hm
    obtain ⟨c₀, hc₀, hs₀⟩ := hm
    have hf := h.stream i c₀ hc₀
    change streamCredit c'.streamId (v.trace ++ es') = (taken i (v.trace ++ es')).length
    simp only [htr, streamCredit_append, taken_append, streamCredit_neutral hes, taken_neutral hes,
      ha, hr, streamCredit_singleton, taken_singleton, append_nil, length_append,
      takenOf, streamCreditOf]
    rw [← hs₀, hf]
    by_cases hi : id = i
    · subst hi
      rw [hc, some.injEq] at hc₀
      rw [hc₀, if_pos rfl, if_pos rfl, length_take, Nat.min_eq_left hn]
      rfl
    · rw [if_neg hi, if_neg fun hs ↦ hi (ht.eq_of_streamId hc hc₀ hs)]
      rfl

theorem move (h : Credit c) (ht : Tables c) (hm : Move c.upstream v) :
    Credit { c with upstream := v } := by
  cases hm with
  | calm hc => exact h.calm hc
  | tell id e hi he =>
    refine h.emit (neutral_of_not ?_)
    rcases he with rfl | ⟨n, rfl⟩ <;> rfl
  | pass id d r hi hr => exact h.emit (neutral_read hr)
  | @take w id cn d r hn hd ho hr hc =>
    obtain ⟨es, htr, hs⟩ := hc.events
    refine h.of_read (v := w.drain id r) ht hn hr es (fun i ↦ ?_) hc.surplus htr
      fun e he ↦ neutral_of_silent (hs e he)
    exact (streamIds_modifyConnection (f := fun cn ↦
      { cn with unreadData := some (cn.unread.drop r) }) (fun _ ↦ rfl) i).trans
      (hc.streamIds i)
  | finish id e hi he hp => exact (h.emit (neutral_of_terminal he)).clean id

theorem streamCredit_unused (ht : Tables c) {si : ℕ}
    (hi : c.upstream.nextStreamId ≤ si) : streamCredit si c.upstream.trace = 0 := by
  refine sum_eq_zero_of_forall fun e he ↦ ?_
  cases e with
  | consumeStream s l =>
    have hl := ht.used_lt _ he s rfl
    exact if_neg (by omega)
  | _ => rfl

theorem openStream (h : Credit c) (ht : Tables c) (s : ℕ) (hf : taken id c.upstream.trace = []) :
    Credit { c with upstream := c.upstream.openStream id s } := by
  refine ⟨h.connection, fun i cn hc ↦ ?_⟩
  change (c.upstream.tcpConnections.insert id _).lookup i = some cn at hc
  rw [lookup_insert] at hc
  split at hc
  · next hi =>
    cases hc
    change streamCredit (c.upstream.nextStreamId + s) c.upstream.trace =
      (taken i c.upstream.trace).length
    rw [hi, hf, streamCredit_unused ht (Nat.le_add_right _ _)]
    rfl
  · exact h.stream i cn hc

theorem of_eq (h : Credit c) (hcs : d.upstream.tcpConnections = c.upstream.tcpConnections)
    (ht : d.upstream.trace = c.upstream.trace)
    (hs : d.upstream.connFcSurplus = c.upstream.connFcSurplus) (he : d.due = c.due) :
    Credit d where
  connection := by
    rw [ht, hs, he]
    exact h.connection
  stream := by
    rw [hcs, ht]
    exact h.stream

theorem act (h : Credit c) (ht : Tables c) (hb : Bytes c) (hen : env.init ∧ env.push)
    (ha : Act env c d) : Credit d := by
  cases ha with
  | move hm hca => exact h.move ht hm
  | muxStream v si hd hv hx =>
    rw [hv]
    exact h.of_eq rfl rfl rfl rfl
  | accept id sd hw =>
    have hta : Tables { c with upstream := c.upstream.emit (.accepted id) } :=
      ht.emit fun s hs ↦ (by cases hs)
    have he : Credit { c with upstream := c.upstream.emit (.accepted id) } :=
      h.emit (neutral_of_not rfl)
    refine he.openStream hta sd ?_
    change taken id (c.upstream.trace ++ [.accepted id]) = []
    rw [taken_append, hb.fresh id (.inl hw)]
    rfl
  | acceptRetriable id r hw =>
    have he : Credit { c with upstream := c.upstream.emit (.accepted id) } :=
      h.emit (neutral_of_not rfl)
    exact he.of_eq rfl rfl rfl rfl
  | hold => exact h.of_eq rfl rfl rfl rfl
  | retried id sd held hh =>
    have hl : Credit { c with held } := h.of_eq rfl rfl rfl rfl
    refine hl.openStream (ht.tail hh) sd (hb.fresh id (.inr (.inr ?_)))
    exact hh ▸ mem_cons_self
  | dropped id e held hh hi =>
    have he : Credit { c with held, upstream := c.upstream.emit (.error id e) } :=
      (h.emit (neutral_of_not rfl)).of_eq rfl rfl rfl rfl
    exact he.clean id
  | release => exact h.of_eq rfl rfl rfl rfl
  | body si ck hd hi =>
    refine ⟨?_, fun i cn hc ↦ ?_⟩
    · have hbe := h.connection
      change connectionCredit (c.upstream.trace ++ [.body si ck]) + ck.length =
        bytesReceived (c.upstream.trace ++ [.body si ck]) + c.upstream.connFcSurplus
      have hcr : creditOf (.body si ck) = 0 := rfl
      rw [connectionCredit_append, bytesReceived_append, connectionCredit_singleton,
        bytesReceived_singleton, hcr, bodySize]
      omega
    · have hbe := h.stream i cn hc
      change streamCredit cn.streamId (c.upstream.trace ++ [.body si ck]) =
        (taken i (c.upstream.trace ++ [.body si ck])).length
      rw [streamCredit_append, taken_append, hbe, length_append]
      rfl
  | drop si hr hn =>
    refine ⟨?_, fun i cn hc ↦ ?_⟩
    · have hbe := h.connection
      change connectionCredit (c.upstream.trace ++ [.consumeStream si c.due]) + 0 =
        bytesReceived (c.upstream.trace ++ [.consumeStream si c.due]) + c.upstream.connFcSurplus
      rw [connectionCredit_append, bytesReceived_append, connectionCredit_singleton,
        bytesReceived_singleton]
      exact hbe
    · have hbe := h.stream i cn hc
      have hne : si ≠ cn.streamId := by
        rintro rfl
        rw [ht.stream_of_conn i cn hc] at hn
        cases hn
      change streamCredit cn.streamId (c.upstream.trace ++ [.consumeStream si c.due]) =
        (taken i (c.upstream.trace ++ [.consumeStream si c.due])).length
      rw [streamCredit_append, taken_append, streamCredit_singleton, streamCreditOf, if_neg hne,
        hbe, length_append]
      rfl
  | deliver si id n hf => exact absurd hen hf
  | doom => exact h.of_eq rfl rfl rfl rfl
  | close id dd hdm hh =>
    have hcl := (h.emit (neutral_of_not (e := .connectionClosed id .own
      (c.upstream.unreadOf id)) rfl)).clean id
    exact hcl.of_eq rfl rfl rfl rfl
  | deferAgain => exact h.of_eq rfl rfl rfl rfl

theorem creditConnectionFc (h : Credit c) :
    Credit { c with due := 0, upstream := c.upstream.creditConnectionFc c.due } := by
  obtain ⟨es, hq, he⟩ := creditConnectionFc_fields (u := c.upstream) c.due
  have hr : connectionCredit es = c.due - c.upstream.connFcSurplus ∧ bytesReceived es = 0 ∧
      (∀ s, streamCredit s es = 0) ∧ ∀ i, taken i es = [] := by
    rcases he with ⟨hl, rfl⟩ | ⟨_, rfl⟩
    · exact ⟨(Nat.sub_eq_zero_of_le hl).symm, rfl, fun _ ↦ rfl, fun _ ↦ rfl⟩
    · exact ⟨connectionCredit_singleton _, rfl, fun _ ↦ rfl, fun _ ↦ rfl⟩
  obtain ⟨hn, hb, hs, ht⟩ := hr
  rw [hq]
  refine ⟨?_, fun i cn hc ↦ ?_⟩
  · have hf := h.connection
    change connectionCredit (c.upstream.trace ++ es) + 0 =
      bytesReceived (c.upstream.trace ++ es) + (c.upstream.connFcSurplus - c.due)
    rw [connectionCredit_append, bytesReceived_append, hn, hb]
    omega
  · have hf := h.stream i cn hc
    change streamCredit cn.streamId (c.upstream.trace ++ es) =
      (taken i (c.upstream.trace ++ es)).length
    rw [streamCredit_append, taken_append, hs, ht, append_nil, hf]
    rfl

theorem store (h : Credit c) (id : ℕ) (r : List UInt8) :
    Credit { c with upstream := Acts.store c.upstream id r } := by
  rw [Acts.store]
  split
  · exact h
  · refine h.of_same [] (fun i c' hc ↦ ?_) rfl (by simp [modifyConnection]) (by simp)
    have hm := (@streamIds_modifyConnection c.upstream id
      (fun cn ↦ { cn with unreadData := some (cn.unread ++ r) }) (fun _ ↦ rfl) i).symm
    change (c.upstream.modifyConnection id _).tcpConnections.lookup i = some c' at hc
    rw [hc, map_some, map_eq_some_iff] at hm
    exact hm

theorem settle (h : Credit c) (ht : Tables c) (hs : Settle c v) :
    Credit { c with due := 0, upstream := v } := by
  cases hs with
  | stored si id hr hi hd => exact (h.store id c.owed).creditConnectionFc
  | @delivered w si id n hr hi hd hu hn hc =>
    obtain ⟨conn, ho, rfl⟩ := ht.conn_of_stream si id hi
    obtain ⟨es, htr, hes⟩ := hc.events
    have ha := h.of_read ht ho hn es hc.streamIds hc.surplus htr
      fun e he ↦ neutral_of_silent (hes e he)
    exact (ha.store id (c.owed.drop n)).creditConnectionFc

end Credit

section Slack

variable {env : Env} {c d : Running} {u v : Http3Upstream} {id : ℕ}

/-- The surplus, together with what it can still grow by when the buffers are read out. -/
def slack (u : Http3Upstream) : ℕ := u.connFcSurplus + u.totalUnreadBytes

theorem slack_clean_le (u : Http3Upstream) (id : ℕ) :
    slack (u.cleanTcpConnectionData id) ≤ slack u := by
  have ht : (u.cleanTcpConnectionData id).totalUnreadBytes ≤ u.totalUnreadBytes := by
    simp only [cleanTcpConnectionData]
    split
    · exact Nat.le_refl _
    split
    · exact Nat.le_refl _
    · exact Nat.sub_le _ _
  rw [slack, slack, surplus_clean]
  omega

theorem total_creditStreamFc (si n : ℕ) :
    (u.creditStreamFc si n).totalUnreadBytes = u.totalUnreadBytes := by
  obtain ⟨es, he, _⟩ := creditStreamFc_fields (u := u) si n
  rw [he]

theorem surplus_creditStreamFc (si n : ℕ) :
    (u.creditStreamFc si n).connFcSurplus = u.connFcSurplus + n := by
  obtain ⟨es, he, _⟩ := creditStreamFc_fields (u := u) si n
  rw [he]

theorem slack_move_le (hb : Bytes c) (h : Move c.upstream v) : slack v ≤ slack c.upstream := by
  cases h with
  | calm hc => exact Nat.le_of_eq (by rw [slack, slack, hc.surplus, hc.total])
  | tell => exact Nat.le_refl _
  | pass => exact Nat.le_refl _
  | @take w id cn d r hn hd ho hr hc =>
    have hm := sumOf_erase (fun cn : TcpConnection ↦ cn.unread.length) hn
    have hle : r ≤ cn.unread.length := Nat.le_trans hr hd.length_le
    have ht := hb.total
    have hs : w.connFcSurplus = c.upstream.connFcSurplus := hc.surplus
    have hl : w.totalUnreadBytes = c.upstream.totalUnreadBytes := hc.total
    rw [slack, slack, total_creditStreamFc, surplus_creditStreamFc]
    change w.connFcSurplus + r + (w.totalUnreadBytes - r) ≤ _
    simp only [unreadSum] at ht
    omega
  | finish id e hi he hp => exact slack_clean_le _ _

theorem slack_act_le (hb : Bytes c) (he : env.init ∧ env.push) (h : Act env c d) :
    slack d.upstream ≤ slack c.upstream := by
  cases h with
  | move hm hc => exact slack_move_le hb hm
  | muxStream v si hi hv hx =>
    rw [hv]
    exact Nat.le_refl _
  | dropped => exact slack_clean_le _ _
  | deliver si id n hf => exact absurd he hf
  | close => exact slack_clean_le _ _
  | accept => exact Nat.le_refl _
  | acceptRetriable => exact Nat.le_refl _
  | hold => exact Nat.le_refl _
  | retried => exact Nat.le_refl _
  | release => exact Nat.le_refl _
  | body => exact Nat.le_refl _
  | drop => exact Nat.le_refl _
  | doom => exact Nat.le_refl _
  | deferAgain => exact Nat.le_refl _

theorem total_store (u : Http3Upstream) (id : ℕ) (r : List UInt8) :
    (store u id r).totalUnreadBytes = u.totalUnreadBytes + r.length := by
  rw [store]
  split
  · next h => simp [h]
  · rfl

theorem surplus_store (u : Http3Upstream) (id : ℕ) (r : List UInt8) :
    (store u id r).connFcSurplus = u.connFcSurplus := by
  rw [store]
  split <;> rfl

theorem slack_creditConnectionFc (l : ℕ) :
    slack (u.creditConnectionFc l) = u.connFcSurplus - l + u.totalUnreadBytes ∧
      (u.creditConnectionFc l).totalUnreadBytes = u.totalUnreadBytes := by
  obtain ⟨es, he, _⟩ := creditConnectionFc_fields (u := u) l
  rw [he]
  exact ⟨rfl, rfl⟩

theorem slack_settle_le (h : Settle c v) :
    slack v ≤ slack c.upstream ∨ slack v ≤ v.totalUnreadBytes := by
  cases h with
  | stored si id hr hi hd =>
    obtain ⟨hs, ht⟩ := slack_creditConnectionFc (u := store c.upstream id c.owed) c.due
    rw [hs, ht, total_store, surplus_store, slack, hd]
    omega
  | @delivered w si id n hr hi hd hu hn hc =>
    obtain ⟨hs, ht⟩ := slack_creditConnectionFc
      (u := store (w.creditStreamFc si n) id (c.owed.drop n)) c.due
    have hsu : w.connFcSurplus = c.upstream.connFcSurplus := hc.surplus
    have hl : w.totalUnreadBytes = c.upstream.totalUnreadBytes := hc.total
    rw [hs, ht, total_store, surplus_store, total_creditStreamFc, surplus_creditStreamFc,
      slack, hd, hsu, hl, length_drop]
    omega

theorem slack_outcome_le {i : Input} (h : Outcome u i c v) :
    slack v ≤ slack c.upstream ∨ slack v ≤ v.totalUnreadBytes := by
  cases h with
  | done => exact .inl (Nat.le_refl _)
  | settled hs => exact slack_settle_le hs
  | closed => exact .inl (Nat.zero_le _)

end Slack

def BuffersWork (l : Env × Input) : Prop := l.1.init ∧ l.1.push

instance : DecidablePred BuffersWork := fun _ ↦ inferInstanceAs (Decidable (_ ∧ _))

def Accounted (c : Running) : Prop := Bytes c ∧ (c.upstream.session = true → Credit c)

theorem Accounted.act {l : Env × Input} {c d : Running} (h : Accounted c) (ht : Tables c)
    (hok : BuffersWork l) (ha : Act l.1 c d) : Accounted d :=
  ⟨h.1.act ht ha, fun hs ↦ (h.2 ((session_act ha).symm.trans hs)).act ht h.1 hok ha⟩

theorem Accounted.outcome {u v : Http3Upstream} {i : Input} {c : Running} (h : Accounted c)
    (ht : Tables c) (hse : c.upstream.session = true) (ho : Outcome u i c v) :
    Accounted (idle v) := by
  refine ⟨h.1.outcome ht ho, fun hs ↦ ?_⟩
  have hc := h.2 hse
  cases ho with
  | done v s => exact hc.of_eq rfl rfl rfl rfl
  | settled he => exact (hc.settle ht he).of_eq rfl rfl rfl rfl
  | closed => cases hs

/-- What is not credited grows only up to what is unread. -/
theorem slack_step_le {u v : Http3Upstream} {l : Env × Input} (ht : Tables (idle u))
    (hb : Bytes (idle u)) (hk : BuffersWork l) (h : step u l = some v) :
    (Tables (idle v) ∧ Bytes (idle v)) ∧ (slack v ≤ slack u ∨ slack v ≤ v.totalUnreadBytes) := by
  obtain ⟨he, c, ha, ho⟩ := step_outcome ht h
  obtain ⟨hta, hbs, hs⟩ := acting_invariant
    (P := fun c ↦ Bytes c ∧ slack c.upstream ≤ slack u) hk
    (fun l c d hk _ ht hc hac ↦ ⟨hc.1.act ht hac, Nat.le_trans (slack_act_le hc.1 hk hac) hc.2⟩)
    he ht ⟨hb, Nat.le_refl _⟩ ha
  exact ⟨⟨tables_outcome hta ho, hbs.outcome hta ho⟩,
    (slack_outcome_le ho).imp_left fun hl ↦ Nat.le_trans hl hs⟩

/-- While the session lasts, the credit on the connection is what was received and the surplus, that
on a stream at most what was taken from it, and the surplus at most what all the buffers held at
some time. -/
theorem credit_accounted {ls : List (Env × Input)} {u : Http3Upstream}
    (hrun : Run step (fun _ l ↦ BuffersWork l) {} ls u) (hsession : u.session = true) :
    connectionCredit u.trace = bytesReceived u.trace + u.connFcSurplus ∧
    (∀ id conn, u.tcpConnections.lookup id = some conn →
      streamCredit conn.streamId u.trace ≤ (taken id u.trace).length) ∧
    ∃ ls₁ ls₂ w, ls = ls₁ ++ ls₂ ∧ Run step (fun _ l ↦ BuffersWork l) {} ls₁ w ∧
      Run step (fun _ l ↦ BuffersWork l) w ls₂ u ∧ u.connFcSurplus ≤ w.totalUnreadBytes := by
  have hi : Accounted (idle {}) := ⟨.init, fun _ ↦ ⟨rfl, fun i conn hn ↦ (by cases hn)⟩⟩
  obtain ⟨_, _, hr⟩ := run_invariant (P := Accounted) hrun hi
    (fun l c d ho _ ht hc ha ↦ hc.act ht ho ha)
    fun u l c v _ _ hs _ ht hc hou ↦ hc.outcome ht hs hou
  have hw := hr hsession
  refine ⟨hw.connection, fun id conn hn ↦ Nat.le_of_eq (hw.stream id conn hn), ?_⟩
  obtain ⟨ls₁, ls₂, w, hl, h₁, h₂, he⟩ := hrun.exists_past_le (f := totalUnreadBytes) (g := slack)
    (P := fun u ↦ Tables (idle u) ∧ Bytes (idle u)) ⟨tables_init, .init⟩ (Nat.le_refl _)
    fun u l v hu ho hp ↦ slack_step_le hu.1 hu.2 ho hp
  exact ⟨ls₁, ls₂, w, hl, h₁, h₂, Nat.le_trans (Nat.le_add_right _ _) he⟩

/-- A buffer is read out, which leaves a surplus, and another chunk is passed on. -/
theorem credit_accounted_after_read_out : ∃ u,
    Run step (fun _ l ↦ BuffersWork l) {} [(taking 2, .openConnection 7 (.namePort ⟨"a", 80⟩) ""),
      (taking 2, .body 0 [1, 2, 3]), (taking 2, .updateFlowControl 7 true),
      (taking 2, .completeRead [7]), (taking 2, .body 0 [4])] u ∧
    u.connFcSurplus = 3 ∧ connectionCredit u.trace = bytesReceived u.trace + u.connFcSurplus :=
  exists_run_imp (P := fun u ↦ u.connFcSurplus = 3 ∧ u.session = true) (by decide)
    fun _ hrun hp ↦ ⟨hp.1, (credit_accounted hrun hp.2).1⟩

end TrustTunnel.Upstream.Http3.FlowControl

import TrustTunnel.Lib.Transition
import TrustTunnel.Upstream.Http2.Connections

namespace TrustTunnel.Upstream.Http2.ByteStream

open Lib.Transition Connections TcpConnection Http2Upstream List Option

variable {env : Env} {conn conn' : TcpConnection} {data : List UInt8} {p : Bool}
  {f r size streamId : ℕ}

/-- The bytes that were taken, followed by those that are kept, are the same as before. -/
structure Steady (conn conn' : TcpConnection) : Prop where
  received : conn'.received = conn.received
  bytes : conn'.failed = false →
    conn.failed = false ∧ conn'.accepted ++ conn'.unread = conn.accepted ++ conn.unread

theorem Steady.rfl : Steady conn conn := ⟨Eq.refl _, fun h ↦ ⟨h, Eq.refl _⟩⟩

theorem Steady.trans {a b c : TcpConnection} (h : Steady a b) (h' : Steady b c) : Steady a c where
  received := h'.received.trans h.received
  bytes := by
    intro hc
    obtain ⟨hb, hbc⟩ := h'.bytes hc
    obtain ⟨ha, hab⟩ := h.bytes hb
    exact ⟨ha, hbc.trans hab⟩

theorem steady_fail : Steady conn conn.fail := ⟨rfl, nofun⟩

@[simp] theorem received_raiseRead : (conn.raiseRead env).received = conn.received := by
  unfold raiseRead
  cases (env.answer conn.raised).flow <;> rfl

@[simp] theorem unreadData_raiseRead : (conn.raiseRead env).unreadData = conn.unreadData := by
  unfold raiseRead
  cases (env.answer conn.raised).flow <;> rfl

@[simp] theorem failed_raiseRead : (conn.raiseRead env).failed = conn.failed := by
  unfold raiseRead
  cases (env.answer conn.raised).flow <;> rfl

@[simp] theorem raised_raiseRead : (conn.raiseRead env).raised = conn.raised + 1 := by
  unfold raiseRead
  cases (env.answer conn.raised).flow <;> rfl

@[simp] theorem readEnabled_raiseRead : (conn.raiseRead env).readEnabled =
    (env.answer conn.raised).flow.getD conn.readEnabled := by
  unfold raiseRead
  cases (env.answer conn.raised).flow <;> rfl

structure Took (conn : TcpConnection) (data : List UInt8) (r : ℕ) (conn' : TcpConnection) :
    Prop where
  le : r ≤ data.length
  received : conn'.received = conn.received
  unreadData : conn'.unreadData = conn.unreadData
  accepted : conn'.accepted = conn.accepted ++ data.take r
  failed : conn'.failed = conn.failed

theorem handleRead_took (h : conn.handleRead env data = (conn', some r)) :
    Took conn data r conn' := by
  unfold handleRead at h
  split at h
  · cases h
  · cases h
    exact ⟨Nat.min_le_right _ _, received_raiseRead, unreadData_raiseRead, rfl, failed_raiseRead⟩

theorem handleRead_refused (h : conn.handleRead env data = (conn', none)) : Steady conn conn' := by
  unfold handleRead at h
  split at h
  · cases h
    exact ⟨received_raiseRead, nofun⟩
  · cases h

theorem Took.drain (h : Took conn (conn.unread.take size) r c') :
    Steady conn { c' with unreadData := some (c'.unread.drop r) } := by
  have hu : c'.unread = conn.unread := by rw [unread, h.unreadData, unread]
  have hr : r ≤ size := by
    have hl := h.le
    rw [length_take] at hl
    omega
  refine ⟨h.received, fun hf ↦ ⟨h.failed ▸ hf, ?_⟩⟩
  show c'.accepted ++ c'.unread.drop r = _
  rw [h.accepted, hu, take_take, Nat.min_eq_left hr, append_assoc, take_append_drop]

theorem Took.none (h : Took conn data 0 conn') : Steady conn conn' := by
  refine ⟨h.received, fun hf ↦ ⟨h.failed ▸ hf, ?_⟩⟩
  rw [h.accepted, take_zero, append_nil, unread, h.unreadData, unread]

theorem readOutLoop_steady (fuel : ℕ) : Steady conn (readOutLoop env fuel conn).1 := by
  induction fuel generalizing conn with
  | zero => exact .rfl
  | succ fuel ih =>
    unfold readOutLoop
    split
    · exact .rfl
    split
    · exact steady_fail
    next size hs =>
    split
    · next next hr => exact handleRead_refused hr
    · next next hr => exact (handleRead_took hr).none
    · next next r hr => exact (handleRead_took hr).drain.trans ih

theorem readOutPendingData_steady : Steady conn (readOutPendingData env conn).1 := by
  have hl : Steady conn (readOutLoop env conn.unread.length conn).1 := readOutLoop_steady _
  unfold readOutPendingData
  split
  · exact .rfl
  simp only
  split
  · next hd =>
    refine hl.trans ⟨rfl, fun hf ↦ ⟨hf, ?_⟩⟩
    rw [hd.2]
    rfl
  · exact hl

theorem readOutLoop_failed (h : (readOutLoop env fuel conn).2 ≠ .done) :
    (readOutLoop env fuel conn).1.failed = true := by
  induction fuel generalizing conn with
  | zero => exact absurd rfl h
  | succ fuel ih =>
    unfold readOutLoop at h ⊢
    split
    · next hs => exact absurd (by rw [if_pos hs]) h
    next hs =>
    rw [if_neg hs] at h
    split
    · rfl
    next size he =>
    simp only [he] at h
    split
    · next next hr =>
      unfold handleRead at hr
      split at hr
      · cases hr
        rfl
      · cases hr
    · next next hr =>
      simp only [hr] at h
      exact absurd rfl h
    · next next r hr =>
      simp only [hr] at h
      exact ih h

theorem readOutPendingData_failed (h : (readOutPendingData env conn).2 ≠ .done) :
    (readOutPendingData env conn).1.failed = true := by
  unfold readOutPendingData at h ⊢
  split
  · next hn => exact absurd (by rw [if_pos hn]) h
  · next hn =>
    rw [if_neg hn] at h
    simp only [if_neg fun hd : _ ∧ _ ↦ h hd.1]
    exact readOutLoop_failed h

theorem readOutPendingData_unreadData (h : (readOutPendingData env conn).2 = .done) :
    (readOutPendingData env conn).1.unreadData ≠ some [] := by
  unfold readOutPendingData at h ⊢
  split
  · next hn =>
    rw [isNone_iff_eq_none.1 hn]
    nofun
  · next hn =>
    rw [if_neg hn] at h
    simp only at h ⊢
    split
    · nofun
    · next he =>
      intro hl
      exact he ⟨h, by rw [unread, hl]; rfl⟩

def Whole (conn : TcpConnection) : Prop :=
  conn.failed = false → conn.accepted ++ conn.unread = conn.received ∧ conn.unreadData ≠ some []

theorem Whole.readOut (h : Whole conn) : Whole (readOutPendingData env conn).1 := by
  intro hf
  have hs : Steady conn (readOutPendingData env conn).1 := readOutPendingData_steady
  obtain ⟨ho, hb⟩ := hs.bytes hf
  refine ⟨?_, ?_⟩
  · rw [hb, hs.received]
    exact (h ho).1
  · by_cases hdone : (readOutPendingData env conn).2 = .done
    · exact readOutPendingData_unreadData hdone
    · rw [readOutPendingData_failed hdone] at hf
      cases hf

def Owes (conn : TcpConnection) (data : List UInt8) : Prop :=
  conn.failed = false → conn.accepted ++ conn.unread ++ data = conn.received

theorem whole_pushUnread (h : Owes conn data) (ha : data ≠ []) :
    Whole (conn.pushUnread env data).1 := by
  unfold pushUnread
  split
  · intro hf
    refine ⟨?_, ?_⟩
    · rw [← h hf, append_assoc]
      rfl
    · intro hn
      have := some.inj hn
      exact ha (append_eq_nil_iff.1 this).2
  · nofun

theorem whole_keep (h : Owes conn data) (ha : data ≠ []) (hp : p = conn.unreadData.isSome) :
    Whole (conn.keep env p data).1 := by
  unfold keep
  split
  · next hd =>
    split
    · next hn =>
      rw [hd, hn] at hp
      cases hp
    · exact whole_pushUnread h ha
  · next hd =>
    have hn : conn.unreadData = none := by
      rw [hp] at hd
      simpa using hd
    simp only
    split
    · refine whole_pushUnread ?_ ha
      intro hf
      rw [← h hf, unread, unread, hn]
      rfl
    · nofun

theorem whole_deliver (h : Owes conn data)
    (hu : conn.failed = false → conn.unreadData ≠ some [])
    (he : pending = conn.unreadData.isSome ∧
        (conn.unreadData = none ∨ conn.readEnabled = false) ∨
      conn.unreadData = none ∧ conn.readEnabled = true ∧
        ∃ k, (env.answer conn.raised).result = some k ∧ data.length ≤ k) :
    Whole (conn.deliver env pending data).1 := by
  unfold deliver
  cases hread : conn.readEnabled with
  | true =>
    have ho : conn.unreadData = none := by
      rcases he with ⟨-, hn | hoff⟩ | ⟨hn, -⟩
      · exact hn
      · rw [hread] at hoff
        cases hoff
      · exact hn
    rw [if_pos rfl]
    split
    · next next hr =>
      intro hf
      unfold handleRead at hr
      split at hr
      · cases hr
        cases hf
      · cases hr
    · next next r hr =>
      have ht := handleRead_took hr
      have hs : Owes next (data.drop r) := by
        intro hf
        rw [ht.accepted, unread, ht.unreadData, ho, ht.received, ← h (ht.failed ▸ hf), unread, ho]
        simp
      split
      · next hlt =>
        have hne : data.drop r ≠ [] := by
          intro hl
          rw [drop_eq_nil_iff] at hl
          omega
        refine whole_keep hs hne ?_
        rw [ht.unreadData]
        rcases he with ⟨hp, -⟩ | ⟨-, -, k, hk, hle⟩
        · exact hp
        · simp only [handleRead, hk, Prod.mk.injEq, some.injEq] at hr
          omega
      · next hg =>
        intro hf
        have hb := hs hf
        rw [drop_eq_nil_of_le (by omega), append_nil] at hb
        exact ⟨hb, by rw [ht.unreadData, ho]; nofun⟩
  | false =>
    have hp : pending = conn.unreadData.isSome := by
      rcases he with ⟨hp, -⟩ | ⟨-, hon, -⟩
      · exact hp
      · rw [hread] at hon
        cases hon
    simp only [Bool.false_eq_true, if_false, drop_zero]
    split
    · next hlt => exact whole_keep h (ne_nil_of_length_pos hlt) hp
    · next hg =>
      have hl : data = [] := length_eq_zero_iff.1 (by omega)
      intro hf
      have hb := h hf
      rw [hl, append_nil] at hb
      exact ⟨hb, hu hf⟩

def Takes (answer : Answer) (size : ℕ) : Prop :=
  answer.flow ≠ some false ∧ answer.result.any fun n ↦ size ≤ n

instance (answer : Answer) (size : ℕ) : Decidable (Takes answer size) :=
  inferInstanceAs (Decidable (_ ∧ _))

theorem Takes.result {a : Answer} (h : Takes a size) : ∃ n, a.result = some n ∧ size ≤ n := by
  obtain ⟨n, hn, hl⟩ := (any_eq_true _ _).1 h.2
  exact ⟨n, hn, by simpa using hl⟩

theorem Takes.readEnabled (h : Takes (env.answer conn.raised) size)
    (hd : conn.readEnabled = true) : (conn.raiseRead env).readEnabled = true := by
  rw [readEnabled_raiseRead, hd]
  cases hflow : (env.answer conn.raised).flow with
  | none => rfl
  | some on =>
    cases on with
    | true => rfl
    | false => exact absurd hflow h.1

def Eager (env : Env) (conn : TcpConnection) (data : List UInt8) : Prop :=
  ∀ i ≤ conn.unread.length, Takes (env.answer (conn.raised + i)) (conn.unread.length + data.length)

instance (env : Env) (conn : TcpConnection) (data : List UInt8) : Decidable (Eager env conn data) :=
  inferInstanceAs (Decidable (∀ i ≤ _, _))

theorem readOutLoop_turn {n : ℕ} (h : conn.readEnabled = true) (hn : conn.unread ≠ [])
    (hk : env.peek conn.raised = some n)
    (hr : conn.handleRead env (conn.unread.take (n + 1)) = (c', some (r + 1))) :
    readOutLoop env (f + 1) conn =
      readOutLoop env f { c' with unreadData := some (c'.unread.drop (r + 1)) } := by
  have hg : ¬ (!conn.readEnabled || conn.unread.isEmpty) = true := by simp [h, hn]
  rw [readOutLoop, if_neg hg]
  simp only [hk, hr]

theorem handleRead_of_takes (h : Takes (env.answer conn.raised) size)
    (hd : conn.readEnabled = true) (ha : data.length ≤ size) :
    ∃ next, conn.handleRead env data = (next, some data.length) ∧ next.readEnabled = true ∧
      next.raised = conn.raised + 1 ∧ next.unread = conn.unread := by
  obtain ⟨k, hk, hl⟩ := h.result
  have hm : min k data.length = data.length := by omega
  refine ⟨{ conn.raiseRead env with accepted := conn.accepted ++ data.take data.length },
    ?_, h.readEnabled hd, raised_raiseRead, ?_⟩
  · simp only [handleRead, hk, hm]
  · rw [unread, unread, unreadData_raiseRead]

theorem readOutLoop_of_eager (hfu : conn.unread.length ≤ f) (h : conn.readEnabled = true)
    (he : conn.unread.length ≤ size)
    (hs : ∀ i ≤ conn.unread.length, Takes (env.answer (conn.raised + i)) size)
    (hf : (readOutLoop env f conn).1.failed = false) :
    (readOutLoop env f conn).1.unread = [] ∧
    (readOutLoop env f conn).1.readEnabled = true ∧
    ∃ i ≤ conn.unread.length, (readOutLoop env f conn).1.raised = conn.raised + i := by
  induction f generalizing conn with
  | zero =>
    have hni : conn.unread = [] := length_eq_zero_iff.1 (by omega)
    exact ⟨hni, h, 0, Nat.zero_le _, rfl⟩
  | succ f ih =>
    by_cases hne : conn.unread = []
    · have hp : readOutLoop env (f + 1) conn = (conn, .done) := by simp [readOutLoop, hne]
      rw [hp]
      exact ⟨hne, h, 0, Nat.zero_le _, rfl⟩
    cases hpeek : env.peek conn.raised with
    | none =>
      have hn : readOutLoop env (f + 1) conn = (conn.fail, .broken) := by
        simp [readOutLoop, h, hne, hpeek]
      rw [hn] at hf
      cases hf
    | some n =>
      have hle : 0 < conn.unread.length := length_pos_of_ne_nil hne
      have hc : (conn.unread.take (n + 1)).length = min n (conn.unread.length - 1) + 1 := by
        rw [length_take]
        omega
      have hd : (conn.unread.take (n + 1)).length ≤ size := by omega
      obtain ⟨nt, hr, ho, ha, hu⟩ := handleRead_of_takes (hs 0 (Nat.zero_le _)) h hd
      rw [hc] at hr
      rw [readOutLoop_turn h hne hpeek hr] at hf ⊢
      generalize hrest : ({ nt with unreadData := some (nt.unread.drop
        (min n (conn.unread.length - 1) + 1)) } : TcpConnection) = rest at hf ⊢
      have hl : rest.unread.length = conn.unread.length - (min n (conn.unread.length - 1) + 1) := by
        rw [← hrest, ← hu]
        exact length_drop
      have hb : rest.raised = conn.raised + 1 := by rw [← hrest, ← ha]
      obtain ⟨hni, h', i, hi, hra'⟩ := ih (by omega) (by rw [← hrest]; exact ho) (by omega)
        (fun i hi ↦ by
          rw [hb, Nat.add_assoc]
          exact hs (1 + i) (by omega)) hf
      exact ⟨hni, h', i + 1, by omega, by rw [hra', hb]; omega⟩

theorem readOutPendingData_of_eager (h : c.readEnabled = true) (he : c.unread.length ≤ size)
    (hs : ∀ i ≤ c.unread.length, Takes (env.answer (c.raised + i)) size)
    (hf : (readOutPendingData env c).1.failed = false) :
    (readOutPendingData env c).1.unreadData = none ∧
    (readOutPendingData env c).1.readEnabled = true ∧
    ∃ i ≤ c.unread.length, (readOutPendingData env c).1.raised = c.raised + i := by
  have hl : (readOutPendingData env c).2 = .done := by
    by_contra hne
    rw [readOutPendingData_failed hne] at hf
    cases hf
  unfold readOutPendingData at hf hl ⊢
  by_cases hnone : c.unreadData.isNone = true
  · rw [if_pos hnone]
    exact ⟨isNone_iff_eq_none.1 hnone, h, 0, Nat.zero_le _, rfl⟩
  · rw [if_neg hnone] at hf hl ⊢
    simp only at hf hl ⊢
    have hp : (readOutLoop env c.unread.length c).1.failed = false := by
      split at hf <;> exact hf
    obtain ⟨hn, ho, i, hi, hr⟩ := readOutLoop_of_eager (Nat.le_refl _) h he hs hp
    rw [if_pos ⟨hl, hn⟩]
    exact ⟨rfl, ho, i, hi, hr⟩

/-- When data comes, nothing is unread, or the reads are off, or the handler takes all of it. -/
def Ordered (env : Env) (conn : TcpConnection) (data : List UInt8) : Prop :=
  conn.unreadData = none ∨ conn.readEnabled = false ∨ Eager env conn data

instance (env : Env) (conn : TcpConnection) (data : List UInt8) :
    Decidable (Ordered env conn data) := inferInstanceAs (Decidable (_ ∨ _ ∨ _))

theorem readOutPendingData_of_off (h : conn.readEnabled = false)
    (hf : conn.unreadData ≠ some []) : readOutPendingData env conn = (conn, .done) := by
  have hl : ∀ f, readOutLoop env f conn = (conn, .done) := by
    intro f
    cases f <;> simp [readOutLoop, h]
  unfold readOutPendingData
  split
  · rfl
  · next hs =>
    simp only [hl, true_and]
    rw [if_neg]
    intro hn
    cases hdata : conn.unreadData with
    | none => simp [hdata] at hs
    | some bs =>
      rw [unread, hdata] at hn
      exact hf (by rw [hdata]; exact congrArg some hn)

theorem pushUnread_failed (h : conn.failed = true) :
    (conn.pushUnread env data).1.failed = true := by
  unfold pushUnread
  split
  · exact h
  · rfl

theorem keep_failed (h : conn.failed = true) : (conn.keep env p data).1.failed = true := by
  unfold keep
  split
  · split
    · exact h
    · exact pushUnread_failed h
  · simp only
    split
    · exact pushUnread_failed h
    · rfl

theorem handleRead_failed (h : conn.failed = true) :
    (conn.handleRead env data).1.failed = true := by
  unfold handleRead
  split
  · rfl
  · exact failed_raiseRead.trans h

theorem deliver_failed (h : conn.failed = true) : (conn.deliver env p data).1.failed = true := by
  have hd : (if conn.readEnabled then conn.handleRead env data else (conn, some 0)).1.failed =
      true := by
    split
    · exact handleRead_failed h
    · exact h
  unfold deliver
  split
  · next hr =>
    rw [hr] at hd
    exact hd
  · next hr =>
    rw [hr] at hd
    split
    · exact keep_failed hd
    · exact hd

theorem Ordered.after_readOut (h : Ordered env c data) (hb : c.unreadData ≠ some [])
    {n : TcpConnection} (ht : readOutPendingData env (c.arrive data) = (n, .done))
    (hf : n.failed = false) :
    c.unreadData.isSome = n.unreadData.isSome ∧
        (n.unreadData = none ∨ n.readEnabled = false) ∨
      n.unreadData = none ∧ n.readEnabled = true ∧
        ∃ k, (env.answer n.raised).result = some k ∧ data.length ≤ k := by
  by_cases hnone : c.unreadData = none
  · have hs : readOutPendingData env (c.arrive data) = (c.arrive data, .done) := by
      simp [readOutPendingData, arrive, hnone]
    rw [hs] at ht
    cases ht
    exact .inl ⟨rfl, .inl hnone⟩
  cases hread : c.readEnabled with
  | false =>
    have ho : (c.arrive data).readEnabled = false := hread
    rw [readOutPendingData_of_off ho hb] at ht
    cases ht
    exact .inl ⟨rfl, .inr hread⟩
  | true =>
    have he : Eager env c data := by
      rcases h with h | h | h
      · exact absurd h hnone
      · rw [hread] at h
        cases h
      · exact h
    have hn : (c.arrive data).readEnabled = true := hread
    have hp := readOutPendingData_of_eager hn (Nat.le_add_right _ _) he
    rw [ht] at hp
    obtain ⟨hu, hon', i, hi, ha⟩ := hp hf
    have hr : n.raised = c.raised + i := ha
    obtain ⟨k, hk, hl⟩ := (he i hi).result
    exact .inr ⟨hu, hon', k, by rw [hr, hk], by omega⟩

theorem Whole.receiveData (h : Whole conn) (hd : Ordered env conn data) :
    Whole (conn.receiveData env data).1 := by
  have hs : Steady (conn.arrive data) (readOutPendingData env (conn.arrive data)).1 :=
    readOutPendingData_steady
  have he : (readOutPendingData env (conn.arrive data)).2 ≠ .done →
      (readOutPendingData env (conn.arrive data)).1.failed = true := readOutPendingData_failed
  have hu : (readOutPendingData env (conn.arrive data)).2 = .done →
      (readOutPendingData env (conn.arrive data)).1.unreadData ≠ some [] :=
    readOutPendingData_unreadData
  unfold TcpConnection.receiveData
  rcases hr : readOutPendingData env (conn.arrive data) with ⟨next, outcome⟩
  rw [hr] at hs he hu
  cases outcome with
  | done =>
    by_cases hf : next.failed = true
    · intro ha
      rw [deliver_failed hf] at ha
      cases ha
    · have hf : next.failed = false := by simpa using hf
      obtain ⟨ho, hbs⟩ := hs.bytes hf
      obtain ⟨hw, hb⟩ := h ho
      refine whole_deliver ?_ (fun _ ↦ hu rfl) (hd.after_readOut hb hr hf)
      intro _
      rw [hbs, hs.received]
      show conn.accepted ++ conn.unread ++ data = conn.received ++ data
      rw [hw]
  | refused =>
    intro hf
    rw [he nofun] at hf
    cases hf
  | broken =>
    intro hf
    rw [he nofun] at hf
    cases hf

section Upstream

variable {u : Http2Upstream} {id : ℕ}

def AllWhole (u : Http2Upstream) : Prop :=
  ∀ id conn, u.tcpConnections.lookup id = some conn → Whole conn

theorem AllWhole.set (h : AllWhole u) (hc : Whole conn) : AllWhole (u.setConnection id conn) := by
  intro k o hk
  rw [setConnection, Lib.Assoc.lookup_replace] at hk
  split at hk
  · obtain ⟨old, -, rfl⟩ := map_eq_some_iff.1 hk
    exact hc
  · exact h k o hk

theorem AllWhole.clean (h : AllWhole u) : AllWhole (u.cleanTcpConnectionData id) := by
  unfold cleanTcpConnectionData
  split
  · exact h
  · intro k o hk
    exact h k o (Lib.Assoc.lookup_erase_eq_some.1 hk).2

theorem AllWhole.emit {e : Event} (h : AllWhole u) : AllWhole (u.emit e) := h

theorem AllWhole.close (h : AllWhole u) (g : Bool) : AllWhole (u.closeTcpConnection id g) := by
  unfold closeTcpConnection
  split
  · next c _ hn =>
    split
    · exact h.emit.clean
    · have hc : Whole { c with clientClosed := true } := h id c hn
      exact h.emit.set hc
  · exact h.clean

theorem AllWhole.closeRefused (h : AllWhole u) (o : Outcome) : AllWhole (u.closeRefused id o) := by
  cases o with
  | refused => exact h.close false
  | done => exact h
  | broken => exact h

theorem mem_of_getConnByStreamId (h : u.getConnByStreamId streamId = some (id, conn)) :
    u.tcpConnections.lookup id = some conn := by
  simp only [getConnByStreamId, bind_eq_bind, bind_eq_some_iff] at h
  obtain ⟨k, -, c, hc, he⟩ := h
  cases he
  exact hc

def inOrder (u : Http2Upstream) (label : Env × Input) : Prop :=
  match label.2 with
  | .data streamId data =>
    ∀ entry ∈ u.getConnByStreamId streamId, Ordered label.1 entry.2 data
  | _ => True

instance (u : Http2Upstream) (label : Env × Input) : Decidable (inOrder u label) := by
  unfold inOrder
  split <;> infer_instance

theorem AllWhole.handleData (h : AllWhole u)
    (hd : ∀ e ∈ u.getConnByStreamId streamId, Ordered env e.2 data) :
    AllWhole (u.handleData env streamId data) := by
  unfold Http2Upstream.handleData
  split
  · exact h
  · next id conn hf =>
    have hc : Whole conn := h id conn (mem_of_getConnByStreamId hf)
    exact (h.set (hc.receiveData (hd _ hf))).closeRefused _

theorem AllWhole.completeRead (h : AllWhole u) : AllWhole (u.completeRead env id) := by
  unfold Http2Upstream.completeRead
  split
  · exact h
  · next c hn =>
    have hc : Whole { c with completeReadTask := false } := h id c hn
    have hr : Whole (readOutPendingData env { c with completeReadTask := false }).1 := hc.readOut
    have hd : AllWhole ((u.setConnection id
        (readOutPendingData env { c with completeReadTask := false }).1).closeRefused id
        (readOutPendingData env { c with completeReadTask := false }).2) :=
      (h.set hr).closeRefused _
    simp only
    split
    · split
      · exact hd.emit.clean
      · exact hd
    · exact hd.close false
    · exact hd.close false

theorem AllWhole.streamProcessed {et : Option String} (h : AllWhole u) :
    AllWhole (u.streamProcessed streamId et) := by
  unfold Http2Upstream.streamProcessed
  split
  · exact h
  · next id c hf =>
    have hc : Whole { c with streamClosed := true } := h id c (mem_of_getConnByStreamId hf)
    have hs : AllWhole (u.setConnection id { c with streamClosed := true }) := h.set hc
    simp only
    split
    · exact hs.emit.clean
    · split
      · exact hs.emit.clean
      · exact hs

theorem AllWhole.openConnection (h : AllWhole u) : AllWhole (u.openConnection id streamId) := by
  intro k o hk
  simp only [Http2Upstream.openConnection, Lib.Assoc.lookup_insert] at hk
  split at hk
  · cases hk
    cases hold : u.tcpConnections.lookup id with
    | none => exact fun _ ↦ ⟨rfl, nofun⟩
    | some c => exact h id c hold
  · exact h k o hk

/-- The step lemma: what each connection has received was accepted or is unread. -/
theorem AllWhole.step {t : Http2Upstream} {l : Env × Input} (h : AllWhole u)
    (ho : inOrder u l) (hp : Connections.step u l = some t) : AllWhole t := by
  obtain ⟨env, i⟩ := l
  unfold Connections.step at hp
  split at hp
  · cases hp
    cases i with
    | openConnection id si => exact h.openConnection
    | headers si sc e =>
      show AllWhole (u.handleResponse si sc e)
      unfold handleResponse
      split
      · exact h
      · next id c hf =>
        have hc : Whole { c with pendingError := some e } := h id c (mem_of_getConnByStreamId hf)
        split
        · exact h.emit
        · exact h.set hc
    | data si data => exact h.handleData ho
    | streamProcessed si et => exact h.streamProcessed
    | completeRead id => exact h.completeRead
    | updateFlowControl id on =>
      show AllWhole (u.updateFlowControl id on)
      unfold Http2Upstream.updateFlowControl
      split
      · exact h
      · next c hn =>
        have hc : Whole (c.updateFlowControl on) := h id c hn
        exact h.set hc
    | closeConnection id g a =>
      show AllWhole (u.closeConnection id g a)
      unfold closeConnection
      split
      · exact h.emit
      · next c hn =>
        have hc : Whole { c with closeTask := some g } := h id c hn
        split
        · exact h.set hc
        · exact h.close g
    | closeTask id =>
      show AllWhole (u.runCloseTask id)
      unfold runCloseTask
      split
      · exact h
      · next c hn =>
        have hc : Whole { c with closeTask := none } := h id c hn
        split
        · exact h
        · exact (h.set hc).close _
  · cases hp

end Upstream

def taking (results : List ℕ) : Env :=
  { answer := fun n ↦ { result := some (results.getD n 0) }, peek := fun _ ↦ some 9 }

end TrustTunnel.Upstream.Http2.ByteStream

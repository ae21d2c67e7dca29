import TrustTunnel.Lib.Transition
import TrustTunnel.Resolver.Queries

namespace TrustTunnel.Resolver.Timers

open Lib Lib.Assoc Lib.Transition Net.Address Queries Option
open List hiding extract
open VpnDnsResolver

variable {s t u : VpnDnsResolver} {now : ℕ} {state : ResolveState}

def ArmedBy (state : ResolveState) (due : ℕ) : Prop :=
  ∃ fire, state.periodicQueriesCheckTask = some fire ∧ fire ≤ due

def Armed (state : ResolveState) : Prop :=
  ∀ d ∈ state.deadlines, (state.queries.lookup d.2).isSome = true → ArmedBy state d.1

structure Timely (now : ℕ) (state : ResolveState) : Prop where
  sorted : Multimap.Sorted state.deadlines
  ahead : ∀ d ∈ state.deadlines, now ≤ d.1
  armed : Armed state

def destination : Record → Option SocketAddress
  | .connectRequest _ _ dst => some dst
  | _ => none

structure Opens (s t : VpnDnsResolver) : Prop where
  resolverAddress : t.resolverAddress = s.resolverAddress
  trace : ∃ l, t.trace = s.trace ++ l ∧
    (∀ r ∈ l, ∀ dst, destination r = some dst → dst = s.resolverAddress) ∧
    ∀ queryId, s.state.queries.lookup queryId = none →
      t.state.queries.lookup queryId = none ∨ ∃ connection, .read connection queryId ∈ l

theorem Opens.trans (h : Opens s t) (h' : Opens t u) : Opens s u := by
  obtain ⟨l, hl, hs, hq⟩ := h.trace
  obtain ⟨l', hl', hds, hq'⟩ := h'.trace
  refine ⟨h'.resolverAddress.trans h.resolverAddress, l ++ l', ?_, fun r hr d he ↦ ?_,
    fun qi hn ↦ ?_⟩
  · rw [hl', hl, append_assoc]
  · rcases mem_append.1 hr with hr | hr
    · exact hs r hr d he
    · exact (hds r hr d he).trans h.resolverAddress
  · rcases hq qi hn with ht | ⟨c, hd⟩
    · refine (hq' qi ht).imp_right ?_
      rintro ⟨c, hd⟩
      exact ⟨c, mem_append_right l hd⟩
    · exact .inr ⟨c, mem_append_left l' hd⟩

def Ahead (now : ℕ) (state : ResolveState) : Prop :=
  Multimap.Sorted state.deadlines ∧ ∀ d ∈ state.deadlines, now ≤ d.1

theorem timely_of_nil (h : state.deadlines = []) : Timely now state := by
  refine ⟨h ▸ Multimap.sorted_nil, fun d hd ↦ ?_, fun d hd ↦ ?_⟩ <;>
  · rw [h] at hd
    cases hd

structure Narrows (state state' : ResolveState) : Prop where
  queries : ∀ queryId, state.queries.lookup queryId = none → state'.queries.lookup queryId = none
  deadlines : state'.deadlines = [] ∨ state'.deadlines = state.deadlines ∧
    state'.periodicQueriesCheckTask = state.periodicQueriesCheckTask

theorem Narrows.refl (state : ResolveState) : Narrows state state := ⟨fun _ h ↦ h, .inr ⟨rfl, rfl⟩⟩

theorem Narrows.timely {state' : ResolveState} (h : Narrows state state')
    (hy : Timely now state) : Timely now state' := by
  rcases h.deadlines with hi | ⟨hs, ht⟩
  · exact timely_of_nil hi
  · refine ⟨hs ▸ hy.sorted, hs ▸ hy.ahead, fun d hd hl ↦ ?_⟩
    rw [ArmedBy, ht]
    refine hy.armed d (hs ▸ hd) (isSome_iff_ne_none.2 fun hn ↦ ?_)
    rw [h.queries d.2 hn] at hl
    cases hl

/-- Without a query sent the deadlines stay or go. With one the timer is set anew, to the first of
them. -/
def Outcome (now : ℕ) (state state' : ResolveState) : Prop :=
  Narrows state state' ∨ Timely now state' ∨
    state.deadlines.length < state'.deadlines.length ∧ (Ahead now state → Timely now state')

section

variable {state' state'' : ResolveState}

theorem Outcome.timely (h : Outcome now state state') (hy : Timely now state) :
    Timely now state' := by
  rcases h with h | h | ⟨-, h⟩
  · exact h.timely hy
  · exact h
  · exact h ⟨hy.sorted, hy.ahead⟩

theorem Outcome.trans (h : Outcome now state state') (h' : Outcome now state' state'') :
    Outcome now state state'' := by
  rcases h with h | h | ⟨hl, h⟩
  · rcases h.deadlines with hi | hs
    · exact .inr (.inl (h'.timely (timely_of_nil hi)))
    · rcases h' with h' | h' | ⟨hl', h'⟩
      · exact .inl ⟨fun q hq ↦ h'.queries q (h.queries q hq), h'.deadlines.imp_right fun hs' ↦
          ⟨hs'.1.trans hs.1, hs'.2.trans hs.2⟩⟩
      · exact .inr (.inl h')
      · exact .inr (.inr ⟨hs.1 ▸ hl', fun ha ↦ h' (by rwa [Ahead, hs.1])⟩)
  · exact .inr (.inl (h'.timely h))
  · rcases h' with h' | h' | ⟨hl', h'⟩
    · rcases h'.deadlines with hi | hs
      · exact .inr (.inl (timely_of_nil hi))
      · exact .inr (.inr ⟨by rwa [hs.1], fun ha ↦ h'.timely (h ha)⟩)
    · exact .inr (.inl h')
    · exact .inr (.inr ⟨hl.trans hl', fun ha ↦ h' ⟨(h ha).sorted, (h ha).ahead⟩⟩)

end

structure Acts (now : ℕ) (s t : VpnDnsResolver) : Prop extends Opens s t where
  outcome : Outcome now s.state t.state

theorem Acts.trans (h : Acts now s t) (h' : Acts now t u) : Acts now s u :=
  ⟨h.toOpens.trans h'.toOpens, h.outcome.trans h'.outcome⟩

theorem opens_of_append {l : List Record} (h : t.resolverAddress = s.resolverAddress)
    (ht : t.trace = s.trace ++ l) (hl : ∀ r ∈ l, destination r = none)
    (hs : ∀ qi, s.state.queries.lookup qi = none →
      t.state.queries.lookup qi = none) : Opens s t := by
  refine ⟨h, l, ht, fun r hr dst he ↦ ?_, fun q hq ↦ .inl (hs q hq)⟩
  rw [hl r hr] at he
  cases he

theorem acts_of_narrows {l : List Record} (h : t.resolverAddress = s.resolverAddress)
    (htr : t.trace = s.trace ++ l) (hl : ∀ r ∈ l, destination r = none)
    (hst : Narrows s.state t.state) : Acts now s t :=
  ⟨opens_of_append h htr hl hst.queries, .inl hst⟩

theorem acts_of_eq (h : t.resolverAddress = s.resolverAddress) (htr : t.trace = s.trace)
    (hst : Narrows s.state t.state) : Acts now s t :=
  acts_of_narrows (l := []) h (htr.trans (append_nil _).symm) (fun r hr ↦ (by cases hr)) hst

theorem Acts.refl (s : VpnDnsResolver) : Acts now s s := acts_of_eq rfl rfl (.refl _)

theorem acts_record (s : VpnDnsResolver) {r : Record} (hr : destination r = none) :
    Acts now s (s.record r) :=
  acts_of_narrows rfl rfl (forall_mem_singleton.2 hr) (.refl _)

theorem acts_foldl {α : Type*} {f : VpnDnsResolver → α → VpnDnsResolver}
    (hf : ∀ s a, Acts now s (f s a)) (l : List α) (s : VpnDnsResolver) :
    Acts now s (l.foldl f s) := by
  induction l generalizing s with
  | nil => exact .refl s
  | cons a rest ih => exact (hf s a).trans (ih (f s a))

section Receding

variable (s)

theorem narrows_erase (qi : UInt16) :
    Narrows s.state { s.state with queries := s.state.queries.erase qi } := by
  refine ⟨fun q hq ↦ ?_, .inr ⟨rfl, rfl⟩⟩
  rw [lookup_erase, hq, ite_self]

theorem acts_eraseQuery (qi : UInt16) : Acts now s (s.eraseQuery qi) :=
  acts_of_eq rfl rfl (narrows_erase s qi)

theorem acts_eraseQueries (qs : List UInt16) : Acts now s (s.eraseQueries qs) :=
  acts_foldl (fun s qi ↦ acts_eraseQuery s qi) qs s

theorem acts_finish (id : UInt32) (r : VpnDnsResolverResult) : Acts now s (s.finish id r) := by
  rw [finish]
  split
  · exact .refl s
  · exact acts_of_narrows rfl rfl (forall_mem_singleton.2 rfl) (.refl _)

theorem acts_cancel (id : UInt32) : Acts now s (s.cancel id) := by
  have he : Acts now s (s.extract id) := by
    rw [extract]
    split
    · exact .refl s
    · refine .trans ?_ (acts_eraseQueries _ _)
      exact acts_of_narrows rfl rfl (forall_mem_singleton.2 rfl) (.refl _)
  simp only [cancel]
  split
  · exact he
  · exact he.trans (acts_eraseQuery _ _)

theorem acts_stopEntry (ei : UInt32) : Acts now s (s.stopEntry ei) := by
  rw [stopEntry]
  split
  · exact .refl s
  · exact (acts_finish s ei .failure).trans (acts_eraseQueries _ _)

theorem acts_stopQueue (q : VpnDnsResolverQueue) : Acts now s (s.stopQueue q) :=
  .trans (t := s.setQueue q []) (acts_of_eq rfl rfl (.refl _))
    (acts_foldl (fun s id ↦ acts_stopEntry s id) (s.queues q) (s.setQueue q []))

theorem acts_stopResolvingQueues (sg : Finset VpnDnsResolverQueue) :
    Acts now s (s.stopResolvingQueues sg) := by
  have hq : ∀ s q, Acts now s (if q ∈ sg then s.stopQueue q else s) := by
    intro s q
    split
    · exact acts_stopQueue s q
    · exact .refl s
  refine ((hq s .background).trans (hq _ .foreground)).trans ?_
  exact .trans (acts_eraseQueries _ _) (acts_foldl (fun s id ↦ acts_finish s id .failure) _ _)

theorem acts_closeConnection (c : Option ℕ) (a : Bool) : Acts now s (s.closeConnection c a) := by
  rw [closeConnection]
  split
  · exact .refl s
  · split
    · exact acts_of_eq rfl rfl (.refl _)
    · refine acts_of_narrows rfl (append_assoc _ _ _) (fun r hr ↦ ?_) ⟨fun _ _ ↦ rfl, .inl rfl⟩
      rcases mem_append.1 hr with hr | hr
      · obtain ⟨e, -, rfl⟩ := mem_map.1 hr
        rfl
      · rw [mem_singleton.1 hr]
        rfl

theorem acts_deinit : Acts now s s.deinit := acts_of_eq rfl rfl ⟨fun _ _ ↦ rfl, .inl rfl⟩

theorem acts_stopResolving : Acts now s s.stopResolving := by
  have hc : ∀ s : VpnDnsResolver, Acts now s
      (if s.state.connectionId ≠ none then s.closeConnection s.state.connectionId false
          else s) := by
    intro s
    split
    · exact acts_closeConnection s _ false
    · exact .refl s
  exact (((acts_stopResolvingQueues s _).trans (hc _)).trans (acts_deinit _)).trans
    (acts_record _ rfl)

theorem acts_completeConnectRequest (id : ℕ) (p : Bool) :
    Acts now s (s.completeConnectRequest id p) := by
  rw [completeConnectRequest]
  split
  · exact .refl s
  · split
    · exact acts_of_eq rfl rfl (.refl _)
    · exact acts_closeConnection s _ true

theorem acts_finishIfDone (id : UInt32) : Acts now s (s.finishIfDone id) := by
  rw [finishIfDone]
  split
  · exact .refl s
  · split
    · exact acts_finish s id _
    · exact .refl s

theorem acts_settleQuery (qi : UInt16) (a : List SocketAddress) :
    Acts now s (s.settleQuery qi a) := by
  rw [settleQuery]
  split
  · exact .refl s
  · rename_i q _
    refine .trans ?_ (acts_finishIfDone _ q.id)
    exact (acts_eraseQuery s qi).trans (acts_of_eq rfl rfl (.refl _))

end Receding

section Sending

variable {qt : VpnDnsResolverQueue} {ei : UInt32}

theorem armedBy_fireTime {ds : List (ℕ × UInt16)} (ht : Multimap.Sorted ds)
    (h : ∀ d ∈ ds, now ≤ d.1) {d : ℕ × UInt16} (hd : d ∈ ds)
    (hk : state.periodicQueriesCheckTask = ds.head?.map fun d ↦ fireTime now d.1) :
    ArmedBy state d.1 := by
  cases ds with
  | nil => cases hd
  | cons f rest =>
    refine ⟨_, hk, ?_⟩
    have hf : f.1 ≤ d.1 := by
      rcases mem_cons.1 hd with rfl | hd
      · exact le_refl _
      · exact (pairwise_cons.1 ht).1 d hd
    have hn := h f mem_cons_self
    -- a delay that is not negative is not made longer by the cast
    change now + (((f.1 : ℤ) - now) % 2 ^ 32).toNat ≤ d.1
    omega

theorem acts_sendRequest (s : VpnDnsResolver) (e : Resolve) (rt : RecordType) (re : Request) :
    Acts now s (s.sendRequest now qt ei e rt re) := by
  cases re with
  | unencodable => exact acts_record s rfl
  | encoded qi st =>
    have hqs : ∀ qy q, q ≠ qi → s.state.queries.lookup q = none →
        (if (s.state.queries.lookup qi).isSome then s.state.queries
          else s.state.queries.insert qi qy).lookup q = none := by
      intro qy q hn hq
      split
      · exact hq
      · rw [lookup_insert, if_neg hn, hq]
    simp only [sendRequest]
    cases st with
    | false =>
      refine acts_of_narrows rfl (append_assoc _ _ _) (fun r hr ↦ ?_)
        ⟨fun q hq ↦ ?_, .inr ⟨rfl, rfl⟩⟩
      · rcases mem_pair.1 hr with rfl | rfl <;> rfl
      · refine (lookup_erase _ _ _).trans ?_
        split
        · rfl
        · exact hqs _ q ‹_› hq
    | true =>
      refine ⟨⟨rfl, _, rfl, fun r hr dst he ↦ ?_, fun q hq ↦ ?_⟩, .inr (.inr ⟨?_, fun h ↦ ?_⟩)⟩
      · rw [mem_singleton.1 hr] at he
        cases he
      · by_cases hn : q = qi
        · subst hn
          exact .inr ⟨_, mem_singleton.2 rfl⟩
        · exact .inl (hqs _ q hn hq)
      · exact Nat.lt_of_lt_of_eq (Nat.lt_succ_self _) (Multimap.insert_perm ..).length_eq.symm
      · have hs := h.1.insert (now + s.queryTimeout) qi
        have ha : ∀ d ∈ Multimap.insert (now + s.queryTimeout) qi s.state.deadlines,
            now ≤ d.1 := by
          intro d hd
          rcases Multimap.mem_insert.1 hd with rfl | hd
          · exact Nat.le_add_right _ _
          · exact h.2 d hd
        exact ⟨hs, ha, fun d hd _ ↦ armedBy_fireTime hs ha hd rfl⟩

theorem acts_sendRequests (rs : List RecordType) (s : VpnDnsResolver) (r : List Request) :
    Acts now s (sendRequests now qt ei rs s r).1 := by
  induction rs generalizing s r with
  | nil => exact .refl s
  | cons rt rest ih =>
    rw [sendRequests]
    split
    · exact .refl s
    · split
      · exact (acts_sendRequest s _ rt _).trans (ih _ _)
      · exact ih s r

theorem acts_resolveEntry (s : VpnDnsResolver) (rs : List Request) :
    Acts now s (s.resolveEntry now qt ei rs).1 := by
  have hs : Acts now s (sendRequests now qt ei RecordType.values s rs).1 := acts_sendRequests _ s rs
  simp only [resolveEntry]
  split
  · exact hs.trans (acts_finish _ _ _)
  · exact hs

theorem acts_setQueue (s : VpnDnsResolver) (ids : List UInt32) : Acts now s (s.setQueue qt ids) :=
  acts_of_eq rfl rfl (.refl _)

theorem acts_resolveQueue (o : List UInt32) (s : VpnDnsResolver) (rs : List Request) :
    Acts now s (resolveQueue now qt o s rs).1 := by
  induction o generalizing s rs with
  | nil => exact acts_setQueue s []
  | cons ei r ih =>
    rw [resolveQueue]
    split
    · exact ((acts_setQueue s r).trans (acts_resolveEntry _ rs)).trans (ih _ _)
    · exact acts_setQueue s (ei :: r)

theorem acts_startConnectionTimeout (s : VpnDnsResolver) : Acts now s s.startConnectionTimeout :=
  acts_of_eq rfl rfl ⟨fun _ h ↦ h, .inr ⟨rfl, rfl⟩⟩

theorem acts_requestConnection (s : VpnDnsResolver) (ci : ℕ) :
    Acts now s (s.requestConnection ci) := by
  refine ⟨⟨rfl, _, rfl, fun r hr dst he ↦ ?_, fun _ h ↦ .inl h⟩,
    .inl ⟨fun _ h ↦ h, .inr ⟨rfl, rfl⟩⟩⟩
  rw [mem_singleton.1 hr, destination, some.injEq] at he
  exact he.symm

theorem acts_resolvePendingDomains (s : VpnDnsResolver) (e : Environment) :
    Acts e.now s (s.resolvePendingDomains e) := by
  rw [resolvePendingDomains]
  split
  · exact .refl s
  · split
    · exact (acts_requestConnection s e.connectionId).trans (acts_startConnectionTimeout _)
    · split
      · refine .trans ?_ (acts_startConnectionTimeout _)
        exact (acts_resolveQueue _ s _).trans (acts_resolveQueue _ _ _)
      · exact acts_startConnectionTimeout s

theorem acts_send (s : VpnDnsResolver) (e : Environment) (id : ℕ) (p : Packet)
    (l : ℕ) : Acts e.now s (s.send e id p l).1 := by
  refine .trans (acts_startConnectionTimeout s) ?_
  generalize hs : s.startConnectionTimeout = t
  simp only [send, hs]
  split
  · exact .refl t
  · split
    · exact .refl t
    · split
      · exact .refl t
      · split
        · exact acts_eraseQuery t _
        · exact (acts_settleQuery t _ _).trans (acts_resolvePendingDomains _ e)

end Sending

theorem erase_of_lookup_eq_none {map : AList (fun _ : UInt16 ↦ Query)} {qi : UInt16}
    (h : map.lookup qi = none) : map.erase qi = map :=
  AList.ext (kerase_of_notMem_keys (AList.lookup_eq_none.1 h))

theorem finishIfDone_state (s : VpnDnsResolver) (id : UInt32) :
    (s.finishIfDone id).state = s.state := by
  rw [finishIfDone]
  split
  · rfl
  · split
    · exact finish_state s _ id
    · rfl

theorem settleQuery_state (s : VpnDnsResolver) (qi : UInt16) (a : List SocketAddress) :
    (s.settleQuery qi a).state = { s.state with queries := s.state.queries.erase qi } := by
  rw [settleQuery]
  split
  · rw [erase_of_lookup_eq_none ‹_›]
  · rw [finishIfDone_state]
    rfl

theorem settleQueries_state (ds : List (ℕ × UInt16)) (s : VpnDnsResolver) :
    ∃ queries, (ds.foldl (fun s d ↦ s.settleQuery d.2 []) s).state =
        { s.state with queries } ∧
      (∀ qi, s.state.queries.lookup qi = none → queries.lookup qi = none) ∧
      ∀ d ∈ ds, queries.lookup d.2 = none := by
  induction ds generalizing s with
  | nil => exact ⟨_, rfl, fun _ h ↦ h, fun d hd ↦ (by cases hd)⟩
  | cons d rest ih =>
    obtain ⟨queries, hs, hn, hg⟩ := ih (s.settleQuery d.2 [])
    rw [settleQuery_state] at hs hn
    refine ⟨queries, hs, fun q hq ↦ hn q ?_, fun d' hd' ↦ ?_⟩
    · exact (narrows_erase s d.2).queries q hq
    · rcases mem_cons.1 hd' with rfl | hd'
      · exact hn d'.2 (AList.lookup_erase _ _)
      · exact hg d' hd'


/-- The check drops what has expired and then goes on like any other step. -/
theorem onPeriodicQueriesCheck_eq (s : VpnDnsResolver) (e : Environment) :
    ∃ queries t, s.onPeriodicQueriesCheck e = t.resolvePendingDomains e ∧ Opens s t ∧
      t.state = { s.state with
        queries
        deadlines := Multimap.after e.now s.state.deadlines
        periodicQueriesCheckTask := none } ∧
      (∀ queryId, s.state.queries.lookup queryId = none → queries.lookup queryId = none) ∧
      ∀ d ∈ Multimap.upTo e.now s.state.deadlines, queries.lookup d.2 = none := by
  let released := { s with state := { s.state with periodicQueriesCheckTask := none } }
  have hs : Acts 0 released
      ((Multimap.upTo e.now s.state.deadlines).foldl (fun s d ↦ s.settleQuery d.2 []) released) :=
    acts_foldl (fun s (d : ℕ × UInt16) ↦ acts_settleQuery s d.2 []) _ released
  obtain ⟨queries, ht, hn, hg⟩ :=
    settleQueries_state (Multimap.upTo e.now s.state.deadlines) released
  have hl : Opens s released :=
    opens_of_append rfl (append_nil _).symm (fun r hr ↦ (by cases hr)) fun _ h ↦ h
  refine ⟨queries, _, rfl, (hl.trans hs.toOpens).trans ?_, ?_, hn, hg⟩
  · exact opens_of_append rfl (append_nil _).symm (fun r hr ↦ (by cases hr)) fun _ h ↦ h
  · simp only [ht, released]

def timeOf (input : Input) : ℕ := (input.environment.map Environment.now).getD 0

theorem acts_handle (s : VpnDnsResolver) (i : Input) (hk : ∀ e, i ≠ .queriesCheck e)
    (hs : ∀ ss, i ≠ .dnsUpdated ss) : Acts (timeOf i) s (handle s i) := by
  cases i with
  | resolve q n rs hr =>
    exact acts_of_narrows rfl rfl (forall_mem_singleton.2 rfl) (.refl _)
  | cancel id => exact acts_cancel s id
  | stopResolvingQueues qs => exact acts_stopResolvingQueues s qs
  | stopResolving => exact acts_stopResolving s
  | completeConnectRequest id ps => exact acts_completeConnectRequest s id ps
  | closeConnection id a => exact acts_closeConnection s (some id) a
  | send e id p l => exact acts_send s e id p l
  | connectionTimeout =>
    refine .trans ?_ (acts_closeConnection _ _ false)
    exact acts_of_eq rfl rfl ⟨fun _ h ↦ h, .inr ⟨rfl, rfl⟩⟩
  | queriesCheck e => exact absurd rfl (hk e)
  | deferredAccept e =>
    refine .trans ?_ (acts_resolvePendingDomains _ e)
    exact acts_of_narrows rfl rfl (forall_mem_singleton.2 rfl) ⟨fun _ h ↦ h, .inr ⟨rfl, rfl⟩⟩
  | deferredClose =>
    refine .trans ?_ (acts_closeConnection _ _ false)
    exact acts_of_eq rfl rfl (.refl _)
  | deferredResolve e =>
    refine .trans ?_ (acts_resolvePendingDomains _ e)
    exact acts_of_eq rfl rfl (.refl _)
  | setQueryTimeout t => exact acts_of_eq rfl rfl (.refl _)
  | dnsUpdated ss => exact absurd rfl (hs ss)

theorem opens_handle (s : VpnDnsResolver) (i : Input)
    (hs : ∀ ss, i ≠ .dnsUpdated ss) : Opens s (handle s i) := by
  by_cases hchk : ∃ e, i = .queriesCheck e
  · obtain ⟨e, rfl⟩ := hchk
    obtain ⟨-, t, he, ho, -⟩ := onPeriodicQueriesCheck_eq s e
    rw [handle, he]
    exact ho.trans (acts_resolvePendingDomains t e).toOpens
  · exact (acts_handle s i (fun e he ↦ hchk ⟨e, he⟩) hs).toOpens

/-- The deadlines that a step has before it sends queries. -/
def deadlinesBefore (s : VpnDnsResolver) : Input → List (ℕ × UInt16)
  | .queriesCheck env => Multimap.after env.now s.state.deadlines
  | _ => s.state.deadlines

/-- A query is sent: there is a deadline more. -/
def sends (s : VpnDnsResolver) (input : Input) : Bool :=
  (deadlinesBefore s input).length < (handle s input).state.deadlines.length

def sending (now : ℕ) (id : List UInt32) (requests : List Request) : Environment where
  now := now
  connectionId := 7
  order
    | .background => []
    | .foreground => id
  requests := requests

end TrustTunnel.Resolver.Timers

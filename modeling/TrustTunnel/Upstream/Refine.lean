import TrustTunnel.Lib.Assoc
import TrustTunnel.Upstream.Pool

namespace TrustTunnel.Upstream.Refine

open Session.Types Multiplexer Pool UpstreamMultiplexer List
open Traffic.Types (ServerEvent ErrorCode)

variable {A : Rules} {env : Env} {s t : System} {u id : ℕ} {map : AList (fun _ : ℕ ↦ ℕ)}
  {children : Children} {e : ServerEvent} {mux : UpstreamMultiplexer} {a : ℕ}

theorem steps_quiet (h : Quiet s t) : Steps A s t := .single (.quiet h)

theorem quiet_of_mux (calls : List ChildCall) (h : mux = { s.1 with
      calls := s.1.calls ++ calls
      nextUpstreamId := mux.nextUpstreamId
      closeTasks := mux.closeTasks })
    (hn : ∀ u id, .openConnection u id ∉ calls) : Quiet s (mux, s.2) := by
  rw [h]
  exact ⟨rfl, rfl, rfl, rfl, ⟨calls, rfl, hn⟩, rfl, le_rfl, rfl, rfl, rfl⟩

theorem steps_defer (ids : List ℕ) :
    Steps A s ({ s.1 with closeTasks := s.1.closeTasks ++ [ids] }, s.2) :=
  steps_quiet (quiet_of_mux [] (by rw [append_nil]) (by simp))

theorem steps_flags (hA : A.session) (o : Bool) (e : Option VpnError) :
    Steps A s ({ s.1 with sessionOpen := o, pendingError := e }, s.2) :=
  .single (.note hA ⟨rfl, [], by simp, by simp⟩)

theorem steps_tell (hA : A.session) {p : List ℕ} (h : isSessionEvent e = true) :
    Steps A s (s.1, s.2.tell p e) :=
  .single (.note hA ⟨rfl, [⟨e, p⟩], rfl, by simpa using h⟩)

@[simp]
theorem hasUpstream_iff : mux.hasUpstream u = true ↔ u ∈ mux.upstreamsPool := AList.lookup_isSome

theorem mem_keysOf :
    id ∈ (map.entries.filter fun e ↦ e.2 = u).map (·.1) ↔ map.lookup id = some u := by
  rw [← Option.mem_def, AList.mem_lookup_iff]
  simp only [mem_map, mem_filter, decide_eq_true_eq]
  constructor
  · rintro ⟨⟨a, b⟩, ⟨hm, rfl⟩, rfl⟩
    exact hm
  · intro hm
    exact ⟨⟨id, u⟩, ⟨hm, rfl⟩, rfl⟩

theorem mem_pendingOf : id ∈ mux.pendingOf u ↔ mux.pendingConnections.lookup id = some u :=
  mem_keysOf

theorem pendingOf_nodup (mux : UpstreamMultiplexer) : (mux.pendingOf u).Nodup :=
  (filter_sublist.map _).nodup mux.pendingConnections.keys_nodup

theorem emplace_of_mem (h : id ∈ map) : emplace map id u = map := if_pos h

theorem mem_iff_lookup : a ∈ map ↔ map.lookup a ≠ none := by
  rw [← AList.lookup_isSome, Option.isSome_iff_ne_none]

theorem lookup_emplace : (emplace map id u).lookup a =
    if a = id ∧ map.lookup a = none then some u else map.lookup a := by
  unfold emplace
  grind [Lib.Assoc.lookup_insert, mem_iff_lookup]

theorem mem_emplace : a ∈ emplace map id u ↔ a = id ∨ a ∈ map := by
  simp only [mem_iff_lookup, lookup_emplace]
  grind

theorem openConnectionOn_cases (m : UpstreamMultiplexer) (c : Children) (u id : ℕ) :
    (u ∉ m.upstreamsPool ∧ m.openConnectionOn c u id = (m, false)) ∨
    (m.upstreamsPool.lookup u = some .openingSession ∧
      m.openConnectionOn c u id = (m.postpone u id, true)) ∨
    (u ∈ m.upstreamsPool ∧ m.openConnectionOn c u id =
      ({ m with
        calls := m.calls ++ [.openConnection u id]
        connections := emplace m.connections id u }, true)) ∨
    (m.upstreamsPool.lookup u = some .sessionOpened ∧ c.opensConnection u id = false ∧
      m.openConnectionOn c u id = (m.call (.openConnection u id), false)) := by
  unfold openConnectionOn
  cases hu : m.upstreamsPool.lookup u with
  | none => exact .inl ⟨AList.lookup_eq_none.1 hu, rfl⟩
  | some s =>
    cases s with
    | openingSession => exact .inr (.inl ⟨rfl, rfl⟩)
    | sessionOpened =>
      cases ho : c.opensConnection u id with
      | true =>
        refine .inr (.inr (.inl ⟨AList.lookup_isSome.1 (by simp [hu]), ?_⟩))
        simp [call]
      | false => exact .inr (.inr (.inr ⟨rfl, rfl, by simp⟩))

theorem pending_openConnectionOn (m : UpstreamMultiplexer) (c : Children) (u id : ℕ) :
    (m.openConnectionOn c u id).1.pendingConnections = m.pendingConnections ∨
      (m.openConnectionOn c u id).1.pendingConnections = emplace m.pendingConnections id u := by
  rcases openConnectionOn_cases m c u id with
    ⟨-, he⟩ | ⟨-, he⟩ | ⟨-, he⟩ | ⟨-, -, he⟩
  · exact .inl (by rw [he])
  · exact .inr (by rw [he]; rfl)
  · exact .inl (by rw [he])
  · exact .inl (by rw [he]; rfl)

theorem pool_openConnectionOn (m : UpstreamMultiplexer) (c : Children) (u id : ℕ) :
    (m.openConnectionOn c u id).1.upstreamsPool = m.upstreamsPool := by
  rcases openConnectionOn_cases m c u id with
    ⟨-, he⟩ | ⟨-, he⟩ | ⟨-, he⟩ | ⟨-, -, he⟩
  · rw [he]
  · rw [he]
    rfl
  · rw [he]
  · rw [he]
    rfl

theorem quiet_skip (h : s.2.connIdGenerator ≤ id) : Quiet s (s.1, s.2.skip id) :=
  ⟨rfl, rfl, rfl, rfl, ⟨[], by simp, by simp⟩, rfl, h.trans (Nat.le_succ id), rfl, rfl, rfl⟩

theorem steps_openConnectionOn (h : s.2.connIdGenerator ≤ id) :
    Steps A s (answer s.2 id (s.1.openConnectionOn children u id)) := by
  rcases openConnectionOn_cases s.1 children u id with
    ⟨-, he⟩ | ⟨hu, he⟩ | ⟨hu, he⟩ | ⟨-, -, he⟩
  · rw [he]
    exact steps_quiet (quiet_skip h)
  · rw [he]
    exact .single (.postpone h (AList.lookup_isSome.1 (by simp [hu])))
  · rw [he]
    exact .single (.attach h hu)
  · rw [he]
    exact .single (.fail h)

theorem exists_foldl_eq_some {f : Option ℕ → ℕ → Option ℕ}
    (hf : ∀ b id, f (some b) id = some id ∨ f (some b) id = some b) (r : List ℕ) (b : ℕ) :
    ∃ c ∈ b :: r, r.foldl f (some b) = some c := by
  induction r generalizing b with
  | nil => exact ⟨b, mem_cons_self, rfl⟩
  | cons a r ih =>
    rw [foldl_cons]
    rcases hf b a with he | he
    · rw [he]
      obtain ⟨c, hc, hd⟩ := ih a
      exact ⟨c, mem_cons_of_mem _ hc, hd⟩
    · rw [he]
      obtain ⟨c, hc, hd⟩ := ih b
      rcases mem_cons.1 hc with rfl | hc
      · exact ⟨c, mem_cons_self, hd⟩
      · exact ⟨c, mem_cons_of_mem _ (mem_cons_of_mem _ hc), hd⟩

theorem leastLoaded_cases (c : Children) (i : List ℕ) :
    i = [] ∨ ∃ b ∈ i, leastLoaded c i = some b := by
  cases i with
  | nil => exact .inl rfl
  | cons a r =>
    simp only [leastLoaded, foldl_cons]
    refine .inr (exists_foldl_eq_some ?_ r a)
    intro b id
    dsimp only
    split
    · exact .inl rfl
    · exact .inr rfl

theorem mem_of_selectExistingUpstream {i : Option ℕ} {uw : Bool}
    (h : mux.selectExistingUpstream children i uw = some u) : u ∈ mux.upstreamsPool := by
  have hm : u ∈ mux.upstreamsPool.keys.filter fun id ↦ i ≠ some id := by
    simp only [selectExistingUpstream, Option.or_eq_some_iff] at h
    rcases h with h | ⟨-, h⟩
    · exact mem_of_find?_eq_some h
    · split at h
      · rcases leastLoaded_cases children (mux.upstreamsPool.keys.filter
            fun id ↦ i ≠ some id) with hn | ⟨b, hb, he⟩
        · rw [hn] at h
          cases h
        · obtain rfl : b = u := Option.some.inj (he.symm.trans h)
          exact hb
      · cases h
  exact AList.mem_keys.2 (mem_filter.1 hm).1

theorem room_of_selectExistingUpstream (h : mux.selectExistingUpstream children none false = none) :
    (mux.upstreamsPool.entries.length < mux.maxUpstreamsNum ∨ mux.upstreamsPool.entries = []) ∧
      ∀ v ∈ mux.upstreamsPool,
        newUpstreamConnectionsNumThreshold ≤ mux.connectionsNumByUpstream children v := by
  simp only [selectExistingUpstream, Option.or_eq_none_iff, ne_eq,
    reduceCtorEq, not_false_eq_true, decide_true, filter_true, Bool.false_eq_true,
    false_or, find?_eq_none, decide_eq_true_eq, Nat.not_lt] at h
  refine ⟨?_, fun v hv ↦ h.1 v (AList.mem_keys.1 hv)⟩
  have hr := h.2
  split at hr
  · rcases leastLoaded_cases children mux.upstreamsPool.keys with he | ⟨b, -, he⟩
    · refine .inr ?_
      simpa [AList.keys, keys] using he
    · rw [he] at hr
      cases hr
  · rename_i hl
    exact .inl (Nat.lt_of_not_le hl)

structure Prepared (mux m : UpstreamMultiplexer) : Prop where
  eq : m = { mux with nextUpstreamId := m.nextUpstreamId, calls := m.calls }
  calls : ∃ calls, m.calls = mux.calls ++ calls ∧ ∀ u id, .openConnection u id ∉ calls

theorem Prepared.quiet {m : UpstreamMultiplexer} (h : Prepared s.1 m) : Quiet s (m, s.2) := by
  obtain ⟨cs, hc, hn⟩ := h.calls
  refine quiet_of_mux cs ?_ hn
  rw [h.eq, hc]

theorem prepared_next (mux : UpstreamMultiplexer) (n : ℕ) :
    Prepared mux { mux with nextUpstreamId := n } :=
  ⟨rfl, [], by simp, by simp⟩

theorem Prepared.session {m : UpstreamMultiplexer} (h : Prepared mux m) (u : ℕ) :
    Prepared mux (m.call (.openSession u)) := by
  obtain ⟨cs, hc, hn⟩ := h.calls
  refine ⟨?_, cs ++ [.openSession u], ?_, ?_⟩
  · rw [call, h.eq]
  · rw [call, hc, append_assoc]
  · simpa using hn

theorem openConnection_cases (mx : UpstreamMultiplexer) (c : Children) (id : ℕ) :
    (∃ m, Prepared mx m ∧ (mx.openConnection c id = (m, false) ∨
      ∃ v, mx.openConnection c id = m.openConnectionOn c v id)) ∨
    ∃ m u, Prepared mx m ∧ mx.selectExistingUpstream c none false = none ∧
      mx.openConnection c id =
        (({ m with upstreamsPool := m.upstreamsPool.insert u .openingSession } :
          UpstreamMultiplexer).postpone u id, true) := by
  unfold openConnection selectUpstreamForConnection
  split
  · exact .inl ⟨mx, prepared_next mx mx.nextUpstreamId, .inl rfl⟩
  · cases hsel : mx.selectExistingUpstream c none false with
    | some v =>
      simp only
      rw [if_pos (hasUpstream_iff.2 (mem_of_selectExistingUpstream hsel))]
      exact .inl ⟨mx, prepared_next mx mx.nextUpstreamId, .inr ⟨v, rfl⟩⟩
    | none =>
      have hn := prepared_next mx (mx.nextUpstreamId + 1)
      simp only
      split
      · exact .inl ⟨_, hn, .inr ⟨_, rfl⟩⟩
      · unfold openNewUpstream
        cases c.opensSession mx.nextUpstreamId with
        | true =>
          exact .inr ⟨_, mx.nextUpstreamId, hn.session mx.nextUpstreamId, trivial, rfl⟩
        | false =>
          refine .inl ⟨_, hn.session mx.nextUpstreamId, ?_⟩
          simp only [Bool.false_eq_true, if_false]
          split
          · exact .inr ⟨_, rfl⟩
          · exact .inl rfl

theorem steps_openConnection (h : s.2.connIdGenerator ≤ id) :
    Steps A s (answer s.2 id (s.1.openConnection children id)) := by
  rcases openConnection_cases s.1 children id with
    ⟨m, hm, he | ⟨v, he⟩⟩ | ⟨m, u, hm, hsel, he⟩
  · rw [he]
    exact (steps_quiet hm.quiet).trans (steps_quiet (quiet_skip h))
  · rw [he]
    exact (steps_quiet hm.quiet).trans (steps_openConnectionOn h)
  · have hr := (room_of_selectExistingUpstream hsel).1
    have ha : Move A (m, s.2)
        ({ m with upstreamsPool := m.upstreamsPool.insert u .openingSession }, s.2) := by
      refine .addChild u ?_
      rw [hm.eq]
      exact hr
    rw [he]
    exact ((steps_quiet hm.quiet).tail ha).tail
      (.postpone h (AList.mem_insert _ |>.2 (.inl rfl)))

theorem steps_openSession : Steps A s ((s.1.openSession children).1, s.2) := by
  unfold openSession
  split
  · exact .refl
  · rename_i he
    have hl : s.1.upstreamsPool.entries = [] := by simpa using he
    have hn : ∀ v, v ∉ s.1.upstreamsPool := fun v ↦ by
      simp [AList.mem_keys, AList.keys, hl]
    unfold selectUpstreamForConnection
    cases hsel : s.1.selectExistingUpstream children none false with
    | some v => exact absurd (mem_of_selectExistingUpstream hsel) (hn v)
    | none =>
      have hc := ((prepared_next s.1 (s.1.nextUpstreamId + 1)).session s.1.nextUpstreamId).quiet
      unfold openNewUpstream
      simp only
      split
      · exact (steps_quiet hc).tail (.addChild _ (.inr hl))
      · exact steps_quiet hc

theorem steps_request (r : Request) : Steps A s (request env r s) := by
  cases r with
  | openConnection sd =>
    simp only [request]
    split
    · exact .refl
    · exact steps_openConnection (Nat.le_add_right _ _)
  | closeConnection id g a =>
    simp only [request, closeConnection]
    split
    · rename_i v _
      exact steps_quiet (quiet_of_mux [.closeConnection v id g a] rfl (by simp))
    · exact .refl

theorem steps_requests : Steps A s (requests env s) := by
  unfold requests
  induction env.requests generalizing s with
  | nil => exact .refl
  | cons r rest ih => exact (steps_request r).trans ih

theorem raise_eq (h : e ≠ .sessionOpened) :
    raise env e s = (s.1, s.2.tell s.1.upstreamsPool.keys e) := if_neg h

theorem steps_raise (hA : A.session) (h : isSessionEvent e = true) : Steps A s (raise env e s) := by
  unfold raise
  simp only
  split
  · exact (steps_tell hA h).trans steps_requests
  · exact steps_tell hA h

theorem childConnectionEnded_eq {c : Option ErrorCode} :
    childConnectionEnded (raise env) id c s =
      ({ s.1 with connections := s.1.connections.erase id },
        s.2.tell s.1.upstreamsPool.keys (c.elim (.connectionClosed id) (.error id))) :=
  raise_eq (by cases c <;> simp)

theorem steps_childConnectionEnded {c : Option ErrorCode} (h : A.asked → Asked s.1 id) :
    Steps A s (childConnectionEnded (raise env) id c s) := by
  rw [childConnectionEnded_eq]
  exact .single (.ended _ c h)

theorem steps_closeChildSession (h : A.asked → ∀ e ∈ env.children.ended u, Asked s.1 e.1) :
    Steps A s (closeChildSession env.children (raise env) u s) := by
  have hc : Steps A s (s.1.call (.closeSession u), s.2) :=
    steps_quiet (quiet_of_mux [.closeSession u] rfl (by simp))
  have hf : ∀ (ed : List (ℕ × Option ErrorCode)) (s : System),
      (A.asked → ∀ e ∈ ed, Asked s.1 e.1) →
      Steps A s (ed.foldl (fun s e ↦ childConnectionEnded (raise env) e.1 e.2 s) s) := by
    intro ed
    induction ed with
    | nil => exact fun s _ ↦ .refl
    | cons e rest ih =>
      intro s h
      have ht : Steps A s (childConnectionEnded (raise env) e.1 e.2 s) :=
        steps_childConnectionEnded fun ha ↦ h ha e mem_cons_self
      exact ht.trans (ih _ fun ha e' he ↦ (h ha e' (mem_cons_of_mem _ he)).mono ht.calls_subset)
  exact hc.trans (hf _ _ fun ha e he ↦ (h ha e he).mono hc.calls_subset)

def EndsAsked (env : Env) (s : System) (ids : List ℕ) : Prop :=
  ∀ u ∈ ids, ∀ e ∈ env.children.ended u, Asked s.1 e.1

theorem steps_closeChildSessions (i : List ℕ) (h : A.asked → EndsAsked env s i) :
    Steps A s (i.foldl (fun s u ↦ closeChildSession env.children (raise env) u s) s) := by
  induction i generalizing s with
  | nil => exact .refl
  | cons u rest ih =>
    have hf : Steps A s (closeChildSession env.children (raise env) u s) :=
      steps_closeChildSession fun ha ↦ h ha u mem_cons_self
    exact hf.trans (ih fun ha v hv e he ↦ (h ha v (mem_cons_of_mem _ hv) e he).mono hf.calls_subset)

theorem steps_childFailed {er : VpnError} (hA : A.session) (hu : u ∈ s.1.upstreamsPool)
    (h : A.asked → EndsAsked env s s.1.upstreamsPool.keys) :
    Steps A s (childFailed env.children (raise env) u er s) := by
  have hn : Steps A s ((if isFatalError er then
      { s.1 with pendingError := some er } else s.1), s.2) := by
    split
    · exact steps_flags hA s.1.sessionOpen (some er)
    · exact .refl
  have hc := steps_closeChildSessions
    (if isFatalError er then s.1.upstreamsPool.keys else [u]) fun ha v hv e he ↦ by
      refine (h ha v ?_ e he).mono hn.calls_subset
      split at hv
      · exact hv
      · exact mem_singleton.1 hv ▸ AList.mem_keys.1 hu
  exact (hn.trans hc).trans (steps_defer _)

def eraseAll (ids : List ℕ) (map : AList (fun _ : ℕ ↦ ℕ)) : AList (fun _ : ℕ ↦ ℕ) :=
  ids.foldl (fun map id ↦ map.erase id) map

theorem lookup_eraseAll (i : List ℕ) :
    (eraseAll i map).lookup a = if a ∈ i then none else map.lookup a := by
  unfold eraseAll
  induction i generalizing map with
  | nil => simp
  | cons id rest ih =>
    rw [foldl_cons, ih]
    by_cases ha : a = id
    · subst ha
      simp
    · simp [ha, AList.lookup_erase_ne ha]

theorem refusePending_eq : refusePending (raise env) id s =
    ({ s.1 with pendingConnections := s.1.pendingConnections.erase id },
      s.2.tell s.1.upstreamsPool.keys (.error id .connRefused)) := by
  unfold refusePending refuse
  rw [raise_eq (by simp)]
  rfl

theorem steps_refuseAll : Steps A s (refuseAll (raise env) u s) ∧
    (refuseAll (raise env) u s).1 =
      { s.1 with pendingConnections := eraseAll (s.1.pendingOf u) s.1.pendingConnections } := by
  have hf : ∀ (i : List ℕ) (s : System), i.Nodup →
      (∀ id ∈ i, id ∈ s.1.pendingConnections) →
      Steps A s (i.foldl (fun s id ↦ refusePending (raise env) id s) s) ∧
      (i.foldl (fun s id ↦ refusePending (raise env) id s) s).1 =
        { s.1 with pendingConnections := eraseAll i s.1.pendingConnections } := by
    intro i
    induction i with
    | nil => exact fun s _ _ ↦ ⟨.refl, rfl⟩
    | cons id rest ih =>
      intro s hn hm
      rw [nodup_cons] at hn
      have ht : Move A s (refusePending (raise env) id s) := by
        rw [refusePending_eq]
        have := @Move.refuse A s id [] s.1.upstreamsPool.keys (hm id mem_cons_self)
          (by simp [AsksFor]) (by simp)
        simpa using this
      obtain ⟨hs, hr⟩ := ih (refusePending (raise env) id s) hn.2 fun a ha ↦ by
        rw [refusePending_eq]
        refine AList.mem_erase.2 ⟨?_, hm a (mem_cons_of_mem _ ha)⟩
        rintro rfl
        exact hn.1 ha
      refine ⟨hs.head ht, ?_⟩
      rw [foldl_cons, hr, refusePending_eq]
      rfl
  refine hf _ s (pendingOf_nodup s.1) fun id hi ↦ ?_
  exact AList.lookup_isSome.1 (by simp [mem_pendingOf.1 hi])

def connectionsOf (mux : UpstreamMultiplexer) (u : ℕ) : List ℕ :=
  (mux.connections.entries.filter fun entry ↦ entry.2 = u).map (·.1)

theorem mem_connectionsOf : id ∈ connectionsOf mux u ↔ mux.connections.lookup id = some u :=
  mem_keysOf

theorem steps_forget (i : List ℕ) (h : A.kept → i = []) :
    Steps A s (i.foldl (fun mux id ↦ mux.eraseConnection id) s.1, s.2) ∧
      i.foldl (fun mux id ↦ mux.eraseConnection id) s.1 =
        { s.1 with connections := eraseAll i s.1.connections } := by
  induction i generalizing s with
  | nil => exact ⟨.refl, rfl⟩
  | cons id rest ih =>
    have hn : ¬ A.kept := fun hk ↦ by simpa using h hk
    obtain ⟨hs, hr⟩ := @ih (s.1.eraseConnection id, s.2) fun hk ↦ absurd hk hn
    exact ⟨hs.head (.forget id hn), hr⟩

theorem steps_escalate (hA : A.session) : Steps A s (escalate (raise env) s) := by
  unfold escalate
  split
  · exact .refl
  · split
    · exact (steps_flags hA false none).trans (steps_raise hA rfl)
    · exact (steps_flags hA false s.1.pendingError).trans (steps_raise hA rfl)

theorem escalate_connections : (escalate (raise env) s).1.connections = s.1.connections := by
  unfold escalate
  split
  · rfl
  · split <;> rw [raise_eq (by simp)]

theorem steps_closeUpstream (hA : A.session)
    (h : A.kept → ∀ id, s.1.connections.lookup id ≠ some u) :
    Steps A s (closeUpstream (raise env) u s) := by
  unfold closeUpstream
  split
  · exact .refl
  · have he : A.kept → connectionsOf s.1 u = [] := fun hk ↦
      eq_nil_iff_forall_not_mem.2 fun id hi ↦ h hk id (mem_connectionsOf.1 hi)
    obtain ⟨hf, hm⟩ := @steps_forget A s (connectionsOf s.1 u) he
    obtain ⟨hr, hs⟩ := @steps_refuseAll A env
      ((connectionsOf s.1 u).foldl (fun m id ↦ m.eraseConnection id) s.1, s.2) u
    refine ((hf.trans hr).tail (.drop (u := u) hA ?_ ?_)).trans
      (steps_escalate hA)
    · intro id
      rw [hs, hm]
      simp only [lookup_eraseAll]
      split
      · simp
      · rename_i hn
        exact fun hl ↦ hn (mem_connectionsOf.2 hl)
    · intro id
      rw [hs]
      simp only [lookup_eraseAll]
      split
      · simp
      · rename_i hn
        exact fun hl ↦ hn (mem_pendingOf.2 hl)

theorem connections_closeUpstream {v : ℕ}
    (h : (closeUpstream (raise env) u s).1.connections.lookup id = some v) :
    s.1.connections.lookup id = some v := by
  unfold closeUpstream at h
  split at h
  · exact h
  · have hm :=
      (@steps_forget ⟨False, False, True, fun _ ↦ False⟩ s (connectionsOf s.1 u) False.elim).2
    have hr := (@steps_refuseAll ⟨False, False, True, fun _ ↦ False⟩ env
      ((connectionsOf s.1 u).foldl (fun m id ↦ m.eraseConnection id) s.1, s.2) u).2
    rw [escalate_connections] at h
    change (refuseAll (raise env) u ((connectionsOf s.1 u).foldl
      (fun m id ↦ m.eraseConnection id) s.1, s.2)).1.connections.lookup id = some v at h
    rw [hr, hm] at h
    exact (Option.ite_none_left_eq_some.1 (lookup_eraseAll .. ▸ h)).2

theorem steps_runCloseTask (hA : A.session)
    (h : A.kept → ∀ i ∈ s.1.closeTasks.head?, ∀ u ∈ i, ∀ id,
      s.1.connections.lookup id ≠ some u) : Steps A s (runCloseTask (raise env) s) := by
  have hf : ∀ (i : List ℕ) (s : System),
      (A.kept → ∀ u ∈ i, ∀ id, s.1.connections.lookup id ≠ some u) →
      Steps A s (i.foldl (fun s u ↦ closeUpstream (raise env) u s) s) := by
    intro i
    induction i with
    | nil => exact fun s _ ↦ .refl
    | cons u rest ih =>
      intro s h
      refine (steps_closeUpstream hA fun hk ↦ h hk u mem_cons_self).trans
        (ih _ fun hk v hv id hl ↦ ?_)
      exact h hk v (mem_cons_of_mem _ hv) id (connections_closeUpstream hl)
  unfold runCloseTask
  split
  · exact .refl
  · rename_i i ts ht
    have ha : Steps A s ({ s.1 with closeTasks := ts }, s.2) :=
      steps_quiet (quiet_of_mux [] (by rw [append_nil]) (by simp))
    exact ha.trans (hf i _ fun hk ↦ h hk i (by simp [ht]))

theorem resetPending_eq (i : List ℕ) : resetPending (raise env) i s =
    (s.1, { s.2 with events := s.2.events ++
      (i.map fun id ↦ ⟨.error id .connReset, s.1.upstreamsPool.keys⟩) }) := by
  unfold resetPending
  induction i generalizing s with
  | nil => simp
  | cons id rest ih =>
    rw [foldl_cons, raise_eq (by simp), ih]
    simp [Parent.tell]

theorem connections_closeChildSession {v : ℕ}
    (h : (closeChildSession env.children (raise env) u s).1.connections.lookup id = some v) :
    s.1.connections.lookup id = some v ∧ id ∉ (env.children.ended u).map (·.1) := by
  have hf : ∀ (ed : List (ℕ × Option ErrorCode)) (s : System),
      (ed.foldl (fun s e ↦ childConnectionEnded (raise env) e.1 e.2 s) s).1.connections.lookup
        id = some v → s.1.connections.lookup id = some v ∧ id ∉ ed.map (·.1) := by
    intro ed
    induction ed with
    | nil => exact fun s h ↦ ⟨h, by simp⟩
    | cons e rest ih =>
      intro s h
      obtain ⟨hl, hn⟩ := ih _ h
      simp only [childConnectionEnded_eq] at hl
      by_cases hid : id = e.1
      · subst hid
        rw [AList.lookup_erase] at hl
        cases hl
      · rw [AList.lookup_erase_ne hid] at hl
        exact ⟨hl, by simp [hid, hn]⟩
  exact hf _ (s.1.call (.closeSession u), s.2) h

def EndsAll (env : Env) (s : System) : Prop :=
  ∀ id ∈ s.1.connections, ∃ u ∈ s.1.upstreamsPool, id ∈ (env.children.ended u).map (·.1)

theorem connections_closeChildSessions (h : EndsAll env s) :
    (s.1.upstreamsPool.keys.foldl (fun s u ↦ closeChildSession env.children (raise env) u s)
      s).1.connections = ∅ := by
  have hf : ∀ (i : List ℕ) (s : System) (id v : ℕ),
      (i.foldl (fun s u ↦ closeChildSession env.children (raise env) u s)
        s).1.connections.lookup id = some v →
      s.1.connections.lookup id = some v ∧
        ∀ u ∈ i, id ∉ (env.children.ended u).map (·.1) := by
    intro i
    induction i with
    | nil => exact fun s id v h ↦ ⟨h, by simp⟩
    | cons u rest ih =>
      intro s id v h
      obtain ⟨hl, hr⟩ := ih _ id v h
      obtain ⟨hl, ht⟩ := connections_closeChildSession hl
      refine ⟨hl, fun w hw ↦ ?_⟩
      rcases mem_cons.1 hw with rfl | hw
      · exact ht
      · exact hr w hw
  refine AList.ext (eq_nil_iff_forall_not_mem.2 fun e he ↦ ?_)
  obtain ⟨hl, hn⟩ := hf _ s e.1 e.2 (AList.mem_lookup_iff.2 he)
  obtain ⟨u, hu, hi⟩ := h e.1 (AList.lookup_isSome.1 (by simp [hl]))
  exact hn u (AList.mem_keys.1 hu) hi

theorem steps_closeSession (hA : A.session)
    (ha : A.asked → EndsAsked env s s.1.upstreamsPool.keys) (hk : A.kept → EndsAll env s) :
    Steps A s (closeSession env.children (raise env) s) := by
  have hc := steps_closeChildSessions s.1.upstreamsPool.keys ha
  unfold closeSession
  simp only [resetPending_eq]
  exact (hc.tail (.clear hA fun hA ↦ connections_closeChildSessions (hk hA))).trans
    (steps_flags hA _ none)

structure Ready (A : Rules) (children : Children) (u id : ℕ) (s : System) : Prop where
  pending : id ∈ s.1.pendingConnections
  held : ¬ A.held id
  opened : A.kept → s.1.upstreamsPool.lookup u = some .sessionOpened
  kept : A.kept → children.opensConnection u id = true ∨
    ∀ v, s.1.upstreamsPool.lookup v ≠ some .openingSession

theorem asksFor_nil : AsksFor id [] := by simp [AsksFor]

theorem asksFor_append {a : List ChildCall} (h : AsksFor id a) (u : ℕ) :
    AsksFor id (a ++ [.openConnection u id]) := by
  intro c hc
  rcases mem_append.1 hc with hc | hc
  · exact h c hc
  · exact ⟨u, mem_singleton.1 hc⟩

theorem move_fallback {a : List ChildCall} {v : ℕ} {r : System}
    (hr : r = match ({ s.1 with calls := s.1.calls ++ a } :
        UpstreamMultiplexer).openConnectionOn c v id with
      | (m, true) => (m, s.2)
      | (m, false) => refuse (raise env) id (m, s.2))
    (hp : id ∈ s.1.pendingConnections) (hh : ¬ A.held id) (ha : AsksFor id a)
    (hk : A.kept → s.1.upstreamsPool.lookup v ≠ some .openingSession) :
    Move A s (r.1.erasePending id, r.2) := by
  have hre : ∀ m : UpstreamMultiplexer, refuse (raise env) id (m, s.2) =
      (m, s.2.tell m.upstreamsPool.keys (.error id .connRefused)) := fun _ ↦
    raise_eq (by simp)
  subst hr
  simp only [hre]
  rcases openConnectionOn_cases { s.1 with calls := s.1.calls ++ a } c v id with
    ⟨-, he⟩ | ⟨hv, he⟩ | ⟨hv, he⟩ | ⟨-, -, he⟩
  · rw [he]
    exact .refuse _ hp ha fun _ ↦ hh
  · rw [he]
    simp only [postpone, emplace_of_mem hp]
    exact .lose (fun hA ↦ hk hA hv) hp hh ha
  · rw [he]
    simp only [append_assoc]
    exact .proceed hp hh (asksFor_append ha v) hv
  · rw [he]
    simp only [call, append_assoc]
    exact .refuse _ hp (asksFor_append ha v) fun _ ↦ hh

def settlePending (env : Env) (u : ℕ) (s : System) (id : ℕ) : System :=
  let s := proceedPendingConnection env.children (raise env) u id s
  (s.1.erasePending id, s.2)

theorem move_settlePending (h : Ready A env.children u id s) :
    Move A s (settlePending env u s id) := by
  have hl : ¬ A.kept → Move A s (s.1.erasePending id, s.2) := fun hA ↦ by
    have := @Move.lose A s id [] hA h.pending h.held asksFor_nil
    rwa [append_nil] at this
  unfold settlePending proceedPendingConnection
  rcases openConnectionOn_cases s.1 env.children u id with
    ⟨hu, he⟩ | ⟨hu, he⟩ | ⟨hu, he⟩ | ⟨hu, hno, he⟩
  · have hA : ¬ A.kept := fun hA ↦ hu (AList.lookup_isSome.1 (by simp [h.opened hA]))
    simp only [he]
    cases hhead : s.1.upstreamsPool.keys.head? with
    | none => exact hl hA
    | some v =>
      exact @move_fallback A env s id env.children [] v _ (by rw [append_nil] <;> rfl)
        h.pending h.held asksFor_nil fun hk ↦ absurd hk hA
  · have hA : ¬ A.kept := fun hA ↦ by
      rw [h.opened hA] at hu
      cases hu
    simp only [he, postpone, emplace_of_mem h.pending]
    exact hl hA
  · simp only [he]
    exact .proceed h.pending h.held (by simp [AsksFor]) hu
  · have ha : AsksFor id [.openConnection u id] := by simp [AsksFor]
    have hk : ∀ v, A.kept → s.1.upstreamsPool.lookup v ≠ some .openingSession := by
      intro v hA
      rcases h.kept hA with hy | hall
      · rw [hno] at hy
        cases hy
      · exact hall v
    simp only [he, call]
    cases hhead : s.1.upstreamsPool.keys.head? with
    | none =>
      refine .lose (fun hA ↦ ?_) h.pending h.held ha
      have hm : u ∈ s.1.upstreamsPool := AList.lookup_isSome.1 (by simp [hu])
      rw [AList.mem_keys, head?_eq_none_iff.1 hhead] at hm
      cases hm
    | some v => exact move_fallback rfl h.pending h.held ha (hk v)

theorem settlePending_mux : ((settlePending env u s id).1.upstreamsPool = s.1.upstreamsPool) ∧
    ∀ a, a ≠ id → a ∈ s.1.pendingConnections →
      a ∈ (settlePending env u s id).1.pendingConnections := by
  have ho : ∀ (mx : UpstreamMultiplexer) (v a : ℕ), a ∈ mx.pendingConnections →
      a ∈ (mx.openConnectionOn env.children v id).1.pendingConnections := by
    intro mx v a ha
    rcases pending_openConnectionOn mx env.children v id with he | he
    · rwa [he]
    · rw [he]
      exact mem_emplace.2 (.inr ha)
  have hp : (proceedPendingConnection env.children (raise env) u id s).1.upstreamsPool =
      s.1.upstreamsPool ∧ ∀ a, a ∈ s.1.pendingConnections →
      a ∈ (proceedPendingConnection env.children (raise env) u id s).1.pendingConnections := by
    have hl := pool_openConnectionOn s.1 env.children u id
    have hd := ho s.1 u
    unfold proceedPendingConnection
    split
    · rename_i mx he
      rw [he] at hl hd
      exact ⟨hl, hd⟩
    · rename_i mx he
      rw [he] at hl hd
      split
      · exact ⟨hl, hd⟩
      · rename_i v _
        have hpool' := pool_openConnectionOn mx env.children v id
        have hpend' := ho mx v
        split
        · rename_i m he'
          rw [he'] at hpool' hpend'
          exact ⟨hpool'.trans hl, fun a ha ↦ hpend' a (hd a ha)⟩
        · rename_i m he'
          rw [he'] at hpool' hpend'
          unfold refuse
          rw [raise_eq (by simp)]
          exact ⟨hpool'.trans hl, fun a ha ↦ hpend' a (hd a ha)⟩
  exact ⟨hp.1, fun a hn ha ↦ AList.mem_erase.2 ⟨hn, hp.2 a ha⟩⟩

theorem steps_settleAll (i : List ℕ) (hn : i.Nodup)
    (h : ∀ id ∈ i, Ready A env.children u id s) :
    Steps A s (i.foldl (settlePending env u) s) := by
  induction i generalizing s with
  | nil => exact .refl
  | cons id rest ih =>
    rw [nodup_cons] at hn
    obtain ⟨hl, hd⟩ := @settlePending_mux env s u id
    have hf := move_settlePending (h id mem_cons_self)
    refine Relation.ReflTransGen.head hf (ih hn.2 fun a ha ↦ ?_)
    obtain ⟨hp, hh, ho, hk⟩ := h a (mem_cons_of_mem _ ha)
    refine ⟨hd a ?_ hp, hh, ?_, ?_⟩
    · rintro rfl
      exact hn.1 ha
    · rwa [hl]
    · rwa [hl]

theorem generator_of_move (h : Move A s t) : s.2.connIdGenerator ≤ t.2.connIdGenerator := by
  cases h with
  | quiet hq => exact hq.generator
  | note _ hn =>
    obtain ⟨es, hp, -⟩ := hn.parent
    rw [hp]
  | postpone hi | attach hi | fail hi => exact Nat.le_succ_of_le hi
  | _ => exact le_rfl

/-- Only new ids come to wait in one move. -/
theorem pending_of_move {v : ℕ} (h : Move A s t)
    (hl : t.1.pendingConnections.lookup a = some v) : s.1.pendingConnections.lookup a = some v ∨
      s.2.connIdGenerator ≤ a ∧ a < t.2.connIdGenerator := by
  cases h with
  | quiet hq => exact .inl (hq.pending ▸ hl)
  | note _ hn =>
    rw [hn.mux] at hl
    exact .inl hl
  | postpone hi =>
    grind [lookup_emplace, Parent.issue]
  | proceed | refuse | lose => exact .inl (Lib.Assoc.lookup_erase_eq_some.1 hl).2
  | clear => cases hl
  | _ => exact .inl hl

/-- A connection that has come to wait has got a new id. -/
theorem pending_of_steps (h : Steps A s t) : s.2.connIdGenerator ≤ t.2.connIdGenerator ∧
    ∀ a v, t.1.pendingConnections.lookup a = some v → s.1.pendingConnections.lookup a = some v ∨
      s.2.connIdGenerator ≤ a ∧ a < t.2.connIdGenerator := by
  induction h with
  | refl => exact ⟨le_rfl, fun _ _ h ↦ .inl h⟩
  | tail _ hm ih =>
    have hg := generator_of_move hm
    refine ⟨ih.1.trans hg, fun a v hl ↦ ?_⟩
    rcases pending_of_move hm hl with hl | ⟨he, ht⟩
    · exact (ih.2 a v hl).imp_right fun h ↦ ⟨h.1, h.2.trans_le hg⟩
    · exact .inr ⟨ih.1.trans he, ht⟩

theorem mem_pool_of_move (hA : ¬ A.session) (h : Move A s t) (hu : u ∈ s.1.upstreamsPool) :
    u ∈ t.1.upstreamsPool := by
  cases h with
  | quiet hq => exact hq.pool ▸ hu
  | note hs => exact absurd hs hA
  | addChild => exact (AList.mem_insert _).2 (.inr hu)
  | openChild => exact AList.mem_replace.2 hu
  | drop hs => exact absurd hs hA
  | clear hs => exact absurd hs hA
  | _ => exact hu

theorem mem_pool_of_steps (hA : ¬ A.session) (h : Steps A s t) (hu : u ∈ s.1.upstreamsPool) :
    u ∈ t.1.upstreamsPool := by
  induction h with
  | refl => exact hu
  | tail _ hm ih => exact mem_pool_of_move hA hm ih

theorem mem_pool_requests (h : u ∈ s.1.upstreamsPool) : u ∈ (requests env s).1.upstreamsPool :=
  mem_pool_of_steps (A := ⟨False, False, False, fun _ ↦ False⟩) id steps_requests h

def idBound (rs : List Request) (generator : ℕ) : ℕ :=
  rs.foldl (fun n r ↦
    match r with
    | .openConnection skipped => n + skipped + 1
    | .closeConnection .. => n) generator

theorem idBound_mono (rs : List Request) {n m : ℕ} (h : n ≤ m) : idBound rs n ≤ idBound rs m := by
  unfold idBound
  induction rs generalizing n m with
  | nil => exact h
  | cons r rest ih =>
    cases r with
    | openConnection s =>
      exact ih (Nat.add_le_add_right (Nat.add_le_add_right h s) 1)
    | closeConnection => exact ih h

theorem idBound_ge (rs : List Request) (n : ℕ) : n ≤ idBound rs n := by
  unfold idBound
  induction rs generalizing n with
  | nil => exact le_rfl
  | cons r rest ih =>
    cases r with
    | openConnection s => exact (by omega : n ≤ n + s + 1).trans (ih _)
    | closeConnection => exact ih n

theorem generator_request (r : Request) :
    (request env r s).2.connIdGenerator ≤ idBound [r] s.2.connIdGenerator := by
  cases r with
  | openConnection sd =>
    simp only [request, idBound, foldl_cons, foldl_nil]
    split
    · omega
    · simp only [answer]
      split
      · exact le_rfl
      · exact le_rfl
  | closeConnection => exact le_rfl

theorem generator_requests :
    (requests env s).2.connIdGenerator ≤ idBound env.requests s.2.connIdGenerator := by
  unfold requests
  induction env.requests generalizing s with
  | nil => exact le_rfl
  | cons r rt ih => exact ih.trans (idBound_mono rt (generator_request r))

def closesOnly (rs : List Request) : Bool :=
  rs.all fun
    | .openConnection _ => false
    | .closeConnection .. => true

theorem pool_requests (h : closesOnly env.requests = true) :
    (requests env s).1.upstreamsPool = s.1.upstreamsPool := by
  unfold requests
  unfold closesOnly at h
  revert h
  induction env.requests generalizing s with
  | nil => exact fun _ ↦ rfl
  | cons r rest ih =>
    intro h
    simp only [all_cons, Bool.and_eq_true] at h
    rw [foldl_cons, ih h.2]
    cases r with
    | openConnection sd => cases h.1
    | closeConnection id g a =>
      simp only [request, closeConnection]
      split <;> rfl

/-- When the child `u` opens, it opens all that waits for it, or no other child is being opened. -/
def proceeds (env : Env) (s : System) (u : ℕ) : Bool :=
  (List.range (idBound env.requests s.2.connIdGenerator)).all (env.children.opensConnection u) ||
    (closesOnly env.requests &&
      s.1.upstreamsPool.entries.all fun e ↦ e.1 == u || e.2 != .openingSession)

theorem steps_announce (hA : A.session) : ∃ t : System, Steps A s t ∧
    (if s.1.sessionOpen then s else
      raise env .sessionOpened ({ s.1 with sessionOpen := true }, s.2)) = t ∧
    (u ∈ s.1.upstreamsPool → u ∈ t.1.upstreamsPool) ∧
    (closesOnly env.requests = true → t.1.upstreamsPool = s.1.upstreamsPool) ∧
    ∀ a v, t.1.pendingConnections.lookup a = some v → s.1.pendingConnections.lookup a = some v ∨
      s.2.connIdGenerator ≤ a ∧ a < idBound env.requests s.2.connIdGenerator := by
  refine ⟨_, ?_, rfl, ?_, ?_, ?_⟩
  · split
    · exact .refl
    · exact (steps_flags hA true s.1.pendingError).trans (steps_raise hA rfl)
  · intro hu
    split
    · exact hu
    · exact mem_pool_requests hu
  · intro hc
    split
    · rfl
    · exact pool_requests hc
  · intro a v h
    split at h
    · exact .inl h
    · refine ((pending_of_steps (A := A) steps_requests).2 a v h).imp_right fun hg ↦ ?_
      exact ⟨hg.1, hg.2.trans_le generator_requests⟩

theorem steps_childOpened (hA : A.session) (hu : u ∈ s.1.upstreamsPool)
    (hb : ∀ a ∈ s.1.pendingConnections, a < s.2.connIdGenerator)
    (hk : A.kept → proceeds env s u = true)
    (hh : ∀ a, A.held a → a < s.2.connIdGenerator ∧ s.1.pendingConnections.lookup a ≠ some u) :
    Steps A s (childOpened env.children (raise env) u s) := by
  obtain ⟨t, hs, he, hm, hl, hd⟩ := @steps_announce A env s u hA
  have hn : Steps A t
      ({ t.1 with upstreamsPool := t.1.upstreamsPool.replace u .sessionOpened }, t.2) :=
    .single (.openChild u)
  unfold childOpened
  rw [he]
  refine (hs.trans hn).trans (steps_settleAll _ (pendingOf_nodup _) fun id hi ↦ ?_)
  have hlo : t.1.pendingConnections.lookup id = some u := mem_pendingOf.1 hi
  refine ⟨AList.lookup_isSome.1 (by simp [hlo]), fun hhe ↦ ?_, fun _ ↦ ?_, fun hA ↦ ?_⟩
  · obtain ⟨ht, hne⟩ := hh id hhe
    rcases hd id u hlo with h | ⟨hg, -⟩
    · exact hne h
    · omega
  · obtain ⟨st, hst⟩ := Option.isSome_iff_exists.1 (AList.lookup_isSome.2 (hm hu))
    simp [Lib.Assoc.lookup_replace, hst]
  · have hp := hk hA
    simp only [proceeds, Bool.or_eq_true, Bool.and_eq_true, all_eq_true, mem_range] at hp
    rcases hp with ha | ⟨hc, ho⟩
    · refine .inl (ha id ?_)
      rcases hd id u hlo with h | ⟨-, ht⟩
      · have ht := hb id (AList.lookup_isSome.1 (by simp [h]))
        exact ht.trans_le (idBound_ge env.requests s.2.connIdGenerator)
      · exact ht
    · refine .inr fun v hv ↦ ?_
      simp only [Lib.Assoc.lookup_replace, hl hc] at hv
      split at hv
      · simp at hv
      · rename_i hvu
        have := ho ⟨v, .openingSession⟩ (AList.mem_lookup_iff.1 hv)
        simp [hvu] at this

/-- What waits for a child can proceed when it opens, and a dropped child has reported its
connections. -/
def keepsConnections (s : System) (label : Env × Input) : Bool :=
  match label.2 with
  | .child u .sessionOpened => proceeds label.1 s u
  | .closeTask =>
    s.1.closeTasks.head?.all fun ids ↦ ids.all fun u ↦ s.1.connections.entries.all fun e ↦ e.2 != u
  | .closeSession =>
    s.1.connections.keys.all fun id ↦ s.1.upstreamsPool.keys.any fun u ↦
      ((label.1.children.ended u).map (·.1)).contains id
  | _ => true

def wasAsked (mux : UpstreamMultiplexer) (id : ℕ) : Bool :=
  mux.calls.any fun
    | .openConnection _ a => a == id
    | _ => false

/-- Children speak only of connections that they, or others, were asked to open. -/
def speaksOfAsked (s : System) (label : Env × Input) : Bool :=
  match label.2 with
  | .child _ (.connectionOpened id) | .child _ (.connectionClosed id) | .child _ (.error id _) =>
    wasAsked s.1 id
  | .child _ (.sessionError _) | .closeSession =>
    s.1.upstreamsPool.keys.all fun u ↦ (label.1.children.ended u).all fun e ↦ wasAsked s.1 e.1
  | _ => true

/-- The child that the pending connection `id` waits for does not open. -/
def leavesPending (id : ℕ) (s : System) (label : Env × Input) : Bool :=
  match label.2 with
  | .child u .sessionOpened => s.1.pendingConnections.lookup id != some u
  | _ => true

theorem asked_of_wasAsked (h : wasAsked s.1 id = true) : Asked s.1 id := by
  obtain ⟨c, hc, hi⟩ := any_eq_true.1 h
  split at hi
  · rename_i u a
    exact ⟨u, (beq_iff_eq.1 hi) ▸ hc⟩
  · cases hi

theorem endsAsked_of_all (h : (s.1.upstreamsPool.keys.all fun u ↦
    (env.children.ended u).all fun e ↦ wasAsked s.1 e.1) = true) :
    EndsAsked env s s.1.upstreamsPool.keys := by
  intro u hu e he
  exact asked_of_wasAsked (all_eq_true.1 (all_eq_true.1 h u hu) e he)

structure Meets (A : Rules) (s : System) (label : Env × Input) : Prop where
  session : A.session
  kept : A.kept → keepsConnections s label = true
  asked : A.asked → speaksOfAsked s label = true
  held : ∀ a, A.held a → a < s.2.connIdGenerator ∧ leavesPending a s label = true

theorem steps_childUpstreamHandler {e : ChildEvent}
    (hb : ∀ a ∈ s.1.pendingConnections, a < s.2.connIdGenerator)
    (hm : Meets A s (env, .child u e)) :
    Steps A s (childUpstreamHandler env.children (raise env) u e s) := by
  unfold childUpstreamHandler
  split
  · exact .refl
  · rename_i hi
    have hu : u ∈ s.1.upstreamsPool := hasUpstream_iff.1 (by simpa using hi)
    cases e with
    | sessionOpened =>
      refine steps_childOpened hm.session hu hb hm.kept fun a ha ↦ ⟨(hm.held a ha).1, ?_⟩
      simpa [leavesPending] using (hm.held a ha).2
    | sessionClosed =>
      exact steps_refuseAll.1.trans (steps_defer _)
    | connectionOpened id =>
      simp only
      rw [raise_eq (by simp)]
      exact .single (.opened _ fun ha ↦ asked_of_wasAsked (hm.asked ha))
    | connectionClosed id =>
      exact steps_childConnectionEnded fun ha ↦ asked_of_wasAsked (hm.asked ha)
    | error id c =>
      exact steps_childConnectionEnded fun ha ↦ asked_of_wasAsked (hm.asked ha)
    | sessionError error =>
      exact steps_childFailed hm.session hu fun ha ↦ endsAsked_of_all (hm.asked ha)

theorem handle_steps {i : Input} (hb : ∀ a ∈ s.1.pendingConnections, a < s.2.connIdGenerator)
    (hm : Meets A s (env, i)) : Steps A s (handle env i s) := by
  cases i with
  | openSession => exact steps_openSession
  | closeSession =>
    refine steps_closeSession hm.session (fun ha ↦ endsAsked_of_all (hm.asked ha)) fun hA id hd ↦ ?_
    have hk := all_eq_true.1 (hm.kept hA) id (AList.mem_keys.1 hd)
    obtain ⟨u, hu, hn⟩ := any_eq_true.1 hk
    exact ⟨u, AList.mem_keys.2 hu, by simpa using hn⟩
  | request r => exact steps_request r
  | child u e => exact steps_childUpstreamHandler hb hm
  | closeTask =>
    refine steps_runCloseTask hm.session fun hA ids hi u hu id hl ↦ ?_
    have hk := hm.kept hA
    simp only [keepsConnections, Option.mem_def.1 hi, Option.all_some, all_eq_true] at hk
    have := hk u hu ⟨id, u⟩ (AList.mem_lookup_iff.1 hl)
    simp at this

end TrustTunnel.Upstream.Refine

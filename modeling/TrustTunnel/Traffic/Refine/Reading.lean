import TrustTunnel.Traffic.Fake.Reading
import TrustTunnel.Traffic.Refine.Routing

namespace TrustTunnel.Traffic.Refine.Reading

open Function Relation Traffic.Types Moves Option List
open Traffic.Close Traffic.Routing Traffic.Reading Refine.Basic Refine.Close Refine.Routing
open Fake.Reading

variable {A : Assumptions} {t t' : Tunnel} {env : Env} {r k : ℕ} {c x x' : VpnConnection}

section Lookup

variable {se : LookupSource}

theorem notes_passThroughDomainLookup : Notes t (passThroughDomainLookup t env r c se).1 := by
  unfold passThroughDomainLookup
  split
  · exact .refl
  · rename_i rt _
    have hn : Notes t (t.modify r fun c ↦ { c with domainExtractorResult := rt }) :=
      .modify .refl (fun _ ↦ rfl) fun _ ↦ rfl
    simp only
    split
    · exact hn
    · exact hn.call rfl
    · exact hn
    · exact hn

theorem client_passThroughDomainLookup (h : (view t).Client k r c) :
    ∃ d, (view (passThroughDomainLookup t env r c se).1).Client k r
      { c with domainExtractorResult := d } := by
  unfold passThroughDomainLookup
  split
  · exact ⟨c.domainExtractorResult, h⟩
  · rename_i rt _
    refine ⟨rt, ?_⟩
    simp only
    split <;> exact client_modify h

theorem domainLookupProcessUdp_source {f : LookupSource} {r : DomainExtractorResult}
    (h : domainLookupProcessUdp t env c se = .inr (f, r)) : f = se ∨ f = .cache := by
  unfold domainLookupProcessUdp at h
  split at h
  · cases h
  · cases h
  · cases h
    exact .inl rfl
  all_goals
    split at h
    · cases h
      exact .inr rfl
    · cases h

theorem passThroughDomainLookup_shutdown (hs : se ≠ .incoming)
    (h : (passThroughDomainLookup t env r c se).2 = .shutdown) :
    ∃ f d, f ≠ .incoming ∧ .lookedUp c.clientId f d .exclusion ∈
      (passThroughDomainLookup t env r c se).1.calls := by
  unfold passThroughDomainLookup at h ⊢
  split at h
  · rename_i a ha
    simp only at h
    subst h
    split at ha
    · exfalso
      unfold domainLookupProcessUdp at ha
      repeat' split at ha
      all_goals cases ha
    · cases ha
  · rename_i f rt ha
    have hf : f ≠ .incoming := by
      split at ha
      · rcases domainLookupProcessUdp_source ha with rfl | rfl
        · exact hs
        · simp
      · cases ha
        exact hs
    simp only at h ⊢
    split at h
    · cases h
    · simp only at h
      split at h
      · rename_i he
        refine ⟨f, rt.domain, hf, ?_⟩
        simp [he, Tunnel.call]
      · cases h
    · cases h
    · cases h

end Lookup

section Sending

variable {si : Option ℕ}

theorem sendPackets_flatten (si : Option ℕ) (ss : List (Option ℕ)) (ps : List Packet) :
    (sendPackets si ss ps).sent.flatten ++ (sendPackets si ss ps).left.flatten = ps.flatten := by
  induction ps generalizing ss with
  | nil => rfl
  | cons p ps ih =>
    unfold sendPackets
    split
    · rfl
    · rename_i n _
      split
      · simp only [flatten_cons, append_assoc]
        rw [ih]
      · simp only [flatten_cons, flatten_nil, append_nil]
        rw [← append_assoc, take_append_drop]

theorem sendPackets_none (ss : List (Option ℕ)) (ps : List Packet) :
    (sendPackets none ss ps).sent = [] := by
  cases ps <;> rfl

theorem kept_apply (r : SendResult) (v : View) : Kept A v x (r.apply x) := kept_of_buffered rfl

theorem view_sendAll {u : Upstream} {s : List Packet} :
    view (sendAll t u si s) = (view t).emit (s.map (.send u si)) := rfl

theorem steps_flush {u : Upstream} (hu : A.fake → u ≠ .fake)
    (ss : List (Option ℕ)) (hc : (view t).Client k r x) :
    Steps A t
      ((sendAll t u x.serverId (sendPackets x.serverId ss x.bufferedPackets).sent).modify r
        (sendPackets x.serverId ss x.bufferedPackets).apply) := by
  have hf := sendPackets_flatten x.serverId ss x.bufferedPackets
  have hn : x.serverId = none →
      (sendPackets x.serverId ss x.bufferedPackets).sent = [] := by
    intro hs
    rw [hs]
    exact sendPackets_none _ _
  generalize sendPackets x.serverId ss x.bufferedPackets = result at hf hn ⊢
  have hg : (sendAll t u x.serverId result.sent).connections.get r = some x := hc.2
  refine .move fun _ ↦ ?_
  rw [view_modify hg, view_sendAll]
  exact .flush u result.sent hc (kept_apply result _) rfl hn hf hu

theorem lockUpstream_eq {u : Upstream} (h : t.lockUpstream c = some u) : c.upstream = some u := by
  unfold Tunnel.lockUpstream at h
  split at h
  · split at h
    · rename_i hc _
      rw [hc, h]
    · cases h
  · exact h

theorem steps_untask : Steps A t (t.modify r fun c ↦ { c with sendBufferedTask := none }) :=
  steps_modify fun _ _ ↦ ⟨kept_of_place rfl .inl fun _ _ ↦
    ⟨id, fun hf hp ↦ ⟨hf, hp⟩, .inl, nofun⟩, fun _ ↦ rfl⟩

theorem sendBufferedData_spec (hl : (view t).Client k r c) (hu : A.fake → c.upstream ≠ some .fake) :
    Steps A t (sendBufferedData t env (some k)).1 ∧
      ∃ c', (view (sendBufferedData t env (some k)).1).Client k r c' ∧ Copy c c' := by
  have hr := client_modify (f := fun c ↦ { c with sendBufferedTask := none }) hl
  have ht := @steps_untask A t r
  have hc : ∀ f : SendResult, Copy c (f.apply { c with sendBufferedTask := none }) :=
    fun _ ↦ ⟨rfl, rfl, rfl, rfl, rfl, rfl⟩
  unfold sendBufferedData
  rw [byClientId_eq_some.2 hl]
  simp only
  generalize t.modify r (fun c ↦ { c with sendBufferedTask := none }) = t₁ at hr ht ⊢
  split
  · rename_i u l hp _
    have hn : A.fake → u ≠ .fake := fun hf he ↦ hu hf (he ▸ lockUpstream_eq hp)
    have hs := ht.trans (steps_flush hn env.sends hr)
    have hcl' := client_modify (f := (sendPackets c.serverId env.sends c.bufferedPackets).apply)
      (t := sendAll t₁ u c.serverId
        (sendPackets c.serverId env.sends c.bufferedPackets).sent) hr
    split
    · exact ⟨hs, _, hcl', hc _⟩
    · exact ⟨hs.call rfl, _, hcl', hc _⟩
    · exact ⟨hs.call rfl, _, hcl', hc _⟩
  · exact ⟨ht, _, hr, ⟨rfl, rfl, rfl, rfl, rfl, rfl⟩⟩

theorem steps_sendBufferedData {id : Option ℕ}
    (hu : A.fake → ∀ r c, t.byClientId id = some (r, c) → c.upstream ≠ some .fake) :
    Steps A t (sendBufferedData t env id).1 := by
  cases hk : t.byClientId id with
  | none =>
    simp only [sendBufferedData, hk]
    exact .refl
  | some rc =>
    obtain ⟨r, c⟩ := rc
    cases id with
    | none => simp at hk
    | some k => exact (sendBufferedData_spec (byClientId_eq_some.1 hk) fun hf ↦ hu hf r c hk).1

end Sending

section Migration

variable {upstream : Upstream} {p : Packet} {s : ℕ}

structure Unmarks (x x' : VpnConnection) : Prop where
  place : place x' = place x
  buffered : x'.bufferedPackets = x.bufferedPackets
  marks : marks x' = { marks x with fake := x'.flags.fakeConnection }
  fake : x'.flags.fakeConnection = true → x.flags.fakeConnection = true

theorem migrates_awaitReplacement (hx : Unmarks x x') (hc : Copy c x)
    (hb : x.bufferedPackets = c.bufferedPackets) (hi : c.clientId = some k) :
    Migrates k s upstream x (awaitReplacement p x') (replacement c upstream s) := by
  have hx' := hx.place
  simp only [place, Prod.mk.injEq] at hx'
  obtain ⟨h1, h2, h3, h4, h5, h6, h7, h8⟩ := hx'
  exact
    { clientId := h1
      serverId := h2
      proto := h4
      migratingClientId := h7
      state := rfl
      upstream := h5
      forced := h8
      marks := ⟨_, hx.fake, hx.marks⟩
      sw_clientId := rfl
      sw_serverId := rfl
      sw_proto := hc.proto.symm
      sw_migratingClientId := hi
      sw_state := rfl
      sw_upstream := rfl
      sw_forced := rfl
      sw_buffered := fun hp ↦ by simp [replacement, hc.proto.symm.trans hp, hb]
      sw_marks := ⟨_, by rw [hc.listener]; rfl⟩ }

theorem view_addReplacement :
    view (addReplacement t c upstream s) =
      { view t with
        record := update (view t).record (view t).next (some (replacement c upstream s))
        byServer := update (view t).byServer s (some (view t).next)
        next := (view t).next + 1 } := by
  unfold addReplacement
  rw [view_addConnection (x := replacement c upstream s) (by simp)]
  simp [view, replacement, VpnConnection.make]

theorem get_addReplacement (h : r ≠ t.connections.next) :
    (addReplacement t c upstream s).connections.get r = t.connections.get r := by
  have hv := congrFun (congrArg View.record (@view_addReplacement t c upstream s)) r
  exact hv.trans (update_of_ne h _ _)

structure MayMigrate (A : Assumptions) (t : Tunnel) (k : ℕ) (x : VpnConnection)
    (upstream : Option Upstream) : Prop where
  routed : x.upstream.isSome
  justified : A.general → upstream = some .bypass → Justified t.calls k
  untouched : A.streams → x.proto = .tcp →
    x.state ≠ .connectedMigrating ∧ sentOn t.calls x.serverId = []
  allowed : ∀ u, upstream = some u → A.migrates k x.state u ∧ A.opens u
  real : A.fake → upstream ≠ some .fake

theorem view_awaitReplacement (hv : view t' = (view t).put r x') (hne : r ≠ t.connections.next)
    (ct : Option ℕ) :
    view ((addReplacement (opened t' upstream ct c.addr) c upstream
        t'.upstreamConnIdGenerator).modify r (awaitReplacement packet)) =
      { view t with
        record := update (update (view t).record (view t).next (some (replacement c upstream
          (view t).nextServerId))) r (some (awaitReplacement packet x'))
        byServer := update (view t).byServer (view t).nextServerId (some (view t).next)
        next := (view t).next + 1
        nextServerId := (view t).nextServerId + 1
        calls := (view t).calls ++
          [.openConnection upstream ct c.addr (some (view t).nextServerId)] } := by
  have hn : t'.connections.next = t.connections.next := congrArg View.next hv
  have hg : t'.connections.get r = some x' :=
    (congrFun (congrArg View.record hv) r).trans (update_self ..)
  have hget' : (addReplacement (opened t' upstream ct c.addr) c upstream
      t'.upstreamConnIdGenerator).connections.get r = some x' :=
    (get_addReplacement (t := opened t' upstream ct c.addr) (fun he ↦ hne (he.trans hn))).trans hg
  have hop : view (opened t' upstream ct c.addr) =
      { (view t').emit [.openConnection upstream ct c.addr (some (view t').nextServerId)] with
        nextServerId := (view t').nextServerId + 1 } := rfl
  have hi : t'.upstreamConnIdGenerator = (view t).nextServerId := congrArg View.nextServerId hv
  rw [view_modify hget', view_addReplacement, hop, hi, hv]
  simp only [View.put, View.emit]
  rw [update_comm (show r ≠ (view t).next from hne), update_idem]

theorem steps_awaitReplacement (hl : (view t).Client k r x) (hx : Unmarks x x')
    (hv : view t' = (view t).put r x') (hc : Copy c x)
    (hb : x.bufferedPackets = c.bufferedPackets) (hi : c.clientId = some k)
    (hm : MayMigrate A t k x (some upstream)) :
    Steps A t ((addReplacement (opened t' upstream c.clientId c.addr) c upstream
      t'.upstreamConnIdGenerator).modify r (awaitReplacement p)) := by
  refine .assume fun hg ↦ .move fun _ ↦ ?_
  rw [view_awaitReplacement hv (hg.base.counted.bounded r x hl.2).ne, hi]
  exact .migrate c.addr hl hm.routed (fun hA hb ↦ hm.justified hA (by rw [hb])) hm.untouched
    (hm.allowed upstream rfl).1 (migrates_awaitReplacement hx hc hb hi)
    (fun hf he ↦ hm.real hf (by rw [he])) (hm.allowed upstream rfl).2

theorem lockListener_addReplacement :
    (addReplacement t c upstream s).lockListener x = t.lockListener x := by
  unfold addReplacement addConnection
  split
  · rfl
  · rename_i y _
    cases hy : y.clientId <;> cases hy' : y.serverId <;> rfl

theorem steps_turnOff {t₁ : Tunnel} (h : Steps A t t₁) (hc : (view t₁).Client k r x)
    (hx : Unmarks x x') (hv : view t' = (view t₁).put r x') :
    Steps A t (t'.call (.turnRead (some k) false)) := by
  refine h.trans (.assume fun hg _ ↦ ?_)
  have he : Move A (view t₁) ((view t₁).emit [.turnRead (some k) false]) := .emit _ rfl
  rw [view_call, hv]
  refine (ReflTransGen.single he).tail (.edit hc.2 ⟨kept_of_place hx.place (fun ha ↦ ?_)
    fun _ _ ↦ ⟨fun _ j hj _ ↦ .inr (.inr ?_), fun hf hp ↦ ⟨hx.fake hf, ?_⟩, fun hu ↦ .inl ?_,
      fun _ ht ↦ .inl ?_⟩, fun _ ↦ hx.buffered⟩)
  · exact .inl ((congrArg Marks.action hx.marks).symm.trans ha)
  · have hj' := (copy_of_place hx.place).clientId.symm.trans hj
    rw [hg.base.clientId_eq hc] at hj'
    cases hj'
    simp [View.emit]
  · exact (congrArg Marks.plainDns hx.marks).symm.trans hp
  · exact (copy_of_place hx.place).upstream.symm.trans hu
  · exact (congrArg Marks.task hx.marks).symm.trans ht

theorem migrateRead_spec {um : Option Upstream} (hg : Good A (view t))
    (hcl : (view t).Client k r x) (hx : Unmarks x x') (hv : view t' = (view t).put r x')
    (hc : Copy c x) (hb : x.bufferedPackets = c.bufferedPackets) (hl : (t'.lockListener c).isSome)
    (hm : MayMigrate A t k x um) :
    Steps A t (migrateRead t' env r c um packet).1 ∧
      ((migrateRead t' env r c um packet).2.isSome →
        ∀ y, (migrateRead t' env r c um packet).1.connections.get r = some y →
          y.state = .connectedMigrating) := by
  have hid : c.clientId = some k := hc.clientId.symm.trans (hg.base.clientId_eq hcl)
  have hx' := copy_of_place hx.place
  -- a migration that does not start leaves the record as it is
  have hf : ∀ t₁ t₁' : Tunnel, Steps A t t₁ → (view t₁).Client k r x →
      view t₁' = (view t₁).put r x' → Steps A t
        (closeClientSideConnection (t₁'.call (.turnRead (some k) false)) env r c
            .connReset true) := by
    intro t₁ t₁' hto hcl₁ hv₁
    have hof := steps_turnOff hto hcl₁ hx hv₁
    have hcl₂ : (view (t₁'.call (.turnRead (some k) false))).Client k r x' := by
      rw [view_call, hv₁]
      exact ⟨hcl₁.1, update_self ..⟩
    refine hof.trans (steps_closeClientSideConnection
      ⟨x', hcl₂.2, hx'.clientId.trans hc.clientId, hx'.state.trans hc.state⟩ (.inl ?_))
    rw [hid, byClientId_eq_some.2 hcl₂]
    rfl
  unfold migrateRead initiateConnectionMigration
  cases um with
  | none =>
    simp only [hid]
    exact ⟨hf t t' .refl hcl hv, nofun⟩
  | some u =>
    cases ho : env.opens with
    | false =>
      simp only [openConnection_failed ho, hid]
      refine ⟨hf (t.call (.openConnection u (some k) c.addr none)) _ ?_ hcl ?_, nofun⟩
      · refine .move fun _ ↦ .openFailed c.addr (fun hA hb _ hk ↦ ?_) (hm.allowed u rfl).2
        exact some.inj hk ▸ hm.justified hA (by rw [hb])
      · rw [view_call, view_call, hv]
        rfl
    | true =>
      have hi := @steps_awaitReplacement A t t' r k c x x' u packet hcl hx hv hc hb hid hm
      have he : t'.connections.get r = some x' :=
        (congrFun (congrArg View.record hv) r).trans (update_self ..)
      have hn : r ≠ (opened t' u c.clientId c.addr).connections.next := by
        rw [show (opened t' u c.clientId c.addr).connections.next = _ from congrArg View.next hv]
        exact (hg.base.counted.bounded r x hcl.2).ne
      have hget₁ : (addReplacement (opened t' u c.clientId c.addr) c u
          t'.upstreamConnIdGenerator).connections.get r = some x' :=
        (get_addReplacement hn).trans he
      have ht : (view (addReplacement (opened t' u c.clientId c.addr) c u
          t'.upstreamConnIdGenerator)).byClient k = some r := by
        rw [view_addReplacement]
        exact (congrFun (congrArg View.byClient hv) k).trans hcl.1
      have hlo : ((addReplacement (opened t' u c.clientId c.addr) c u
          t'.upstreamConnIdGenerator).lockListener c).isSome := by
        rw [lockListener_addReplacement]
        exact hl
      simp only [openConnection_opened ho]
      generalize addReplacement (opened t' u c.clientId c.addr) c u t'.upstreamConnIdGenerator = t₁
        at hi hget₁ ht hlo ⊢
      have hd : ∀ y, (t₁.modify r (awaitReplacement packet)).connections.get r = some y →
          y.state = .connectedMigrating := by
        intro y hy
        rw [get_modify hget₁] at hy
        exact some.inj hy ▸ rfl
      by_cases hp : c.proto = .udp
      · simp only [hp, ↓reduceIte]
        split
        · exact ⟨hi, fun _ ↦ hd⟩
        · refine ⟨hi.trans (.move fun _ ↦ ?_), fun _ ↦ hd⟩
          rw [hid]
          exact .discard _ (client_modify ⟨ht, hget₁⟩) ((hx'.proto.trans hc.proto).trans hp)
      · simp only [hp, ↓reduceIte]
        obtain ⟨listener, hs⟩ := isSome_iff_exists.1 hlo
        simp only [hs, true_or, ↓reduceIte]
        exact ⟨hi.call rfl, fun _ ↦ hd⟩

end Migration

structure Readable (A : Assumptions) (t : Tunnel) (k r : ℕ) (x : VpnConnection) (u : Upstream) :
    Prop where
  client : (view t).Client k r x
  upstream : x.upstream = some u
  listening : (t.lockListener x).isSome
  still : A.streams → x.proto = .tcp → x.state ≠ .connectedMigrating
  untouched : A.streams → x.proto = .tcp → x.flags.fakeConnection = true →
    sentOn t.calls x.serverId = []
  leaves : A.fake → u = .fake → x.flags.fakeConnection = true ∨ x.state = .connectedMigrating

theorem lockListener_congr (h : x.listener = c.listener) : t.lockListener x = t.lockListener c := by
  simp only [Tunnel.lockListener, h]

theorem Readable.harmless {u : Upstream} (h : Readable A t k r x u) (hh : Harmless t t') :
    ∃ x', Readable A t' k r x' u ∧ essentials x' = essentials x := by
  obtain ⟨x', hl, he⟩ := hh.exists_client h.client
  refine ⟨x', ?_, he⟩
  have hc := copy_of_essentials he
  have ha : x'.flags.fakeConnection = x.flags.fakeConnection := congrArg (·.2.1.1) he
  refine ⟨hl, hc.upstream.trans h.upstream, ?_, fun hA hp ↦ ?_, fun hA hp hf ↦ ?_, ?_⟩
  · rw [lockListener_congr hc.listener, hh.listener]
    exact h.listening
  · rw [hc.state]
    exact h.still hA (hc.proto ▸ hp)
  · rw [hc.serverId, hh.sent]
    exact h.untouched hA (hc.proto ▸ hp) (ha ▸ hf)
  · rw [ha, hc.state]
    exact h.leaves

section Forwarding

variable {um : Upstream} {pt : Packet}

theorem steps_countSent {n s : ℕ} (hc : (view t).Client k r x) (hs : x.serverId = some s)
    (hb : x.bufferedPackets = []) (ht : x.state ≠ .connectedMigrating)
    (hu : A.fake → um ≠ .fake) : Steps A t (countSent t env r x um pt n) := by
  refine .assume fun hg ↦ ?_
  unfold countSent
  refine .call (.modify (.move fun _ ↦ ?_) fun _ ↦ rfl) rfl
  rw [hs, hg.base.clientId_eq hc]
  have hm := Move.forward (A := A) um (pt.take n) hc hs (fun _ ↦ by simp [hb]) ht hu
  simpa [View.emit] using hm

theorem steps_sendChunk {ss : List (Option ℕ)} (hc : (view t).Client k r x)
    (ht : x.state ≠ .connectedMigrating) (hu : A.fake → um ≠ .fake) :
    Steps A t (sendChunk t env ss r um pt).1 := by
  have hg : t.connections.get r = some x := hc.2
  unfold sendChunk
  simp only [hg]
  split
  · exact .refl
  · rename_i hb
    split
    · exact .refl
    · rename_i n hn
      cases hs : x.serverId with
      | none => simp [hs, sendAnswer] at hn
      | some s => exact steps_countSent hc hs (by simpa using hb) ht hu

theorem steps_sendRead (hl : (view t).Client k r x) (hst : x.state ≠ .connectedMigrating)
    (hp : x.upstream = some um) (hu : A.fake → um ≠ .fake) :
    Steps A t (sendRead t env r um pt).1 := by
  refine .assume fun hg ↦ ?_
  have ht : t.connections.get r = some x := hl.2
  unfold sendRead
  simp only [ht]
  split
  · exact steps_sendChunk hl hst hu
  · rw [hg.base.clientId_eq hl]
    have hs := @sendBufferedData_spec A t env r k x hl fun hf he ↦
      hu hf (some.inj (hp.symm.trans he))
    generalize sendBufferedData t env (some k) = res at hs ⊢
    obtain ⟨t₁, ok, ss⟩ := res
    obtain ⟨ho, c', h', hc⟩ := hs
    cases ok with
    | false => exact ho
    | true =>
      refine ho.trans (steps_sendChunk h' ?_ hu)
      rw [hc.state]
      exact hst

def MayOpen (A : Assumptions) : Prop := ∀ u, (A.fake → isReal u = true) → A.opens u

theorem steps_forwardRead (h : Readable A t k r x um)
    (hmo : A.general → env.mode = .general)
    (hm : x.flags.fakeConnection = true → MayOpen A ∧ (∀ u, A.migrates k x.state u) ∧
      (A.fake → x.flags.plainDnsConnection = false ∧ needsFake env (cleared x) = false)) :
    Steps A t (forwardRead t env r um pt).1 := by
  refine .assume fun hg ↦ ?_
  have ht : t.connections.get r = some x := h.client.2
  unfold forwardRead
  simp only [ht]
  split
  · rename_i he
    obtain ⟨ho, hi, hr⟩ := hm he
    have hl : ∀ u, selectUpstream (t.modify r cleared) env .default (some (cleared x)) = some u →
        A.fake → isReal u = true := fun u hu hf ↦ selectUpstream_real (hr hf).2 (hr hf).1 hu
    have hn : Unmarks x (cleared x) := ⟨rfl, rfl, rfl, fun hf ↦ absurd hf Bool.false_ne_true⟩
    have hv : view (t.modify r cleared) = (view t).put r (cleared x) := view_modify ht
    refine (migrateRead_spec hg h.client hn hv
      ⟨rfl, rfl, rfl, rfl, rfl, rfl⟩ rfl ?_ ⟨?_, fun hA hb ↦ ?_, fun hA hp ↦ ?_, fun u hu ↦ ?_,
        fun hf hb ↦ ?_⟩).1
    · rw [lockListener_modify]
      exact h.listening
    · simp [h.upstream]
    · exact absurd (selectUpstream_bypass (hmo hA) hb) (by simp)
    · exact ⟨h.still hA hp, h.untouched hA hp he⟩
    · exact ⟨hi u, ho u (hl u hu)⟩
    · cases hl .fake hb hf
  · rename_i he
    have hc : Steps A t (t.modify r fun c ↦
        { c with flags := { c.flags with firstPacket := false, fakeConnection := false } }) := by
      refine steps_modify fun y hy ↦ quiet_of_core ?_
      obtain rfl := some.inj (ht.symm.trans hy)
      simp only [core, place, face, he]
    have hcl := client_modify (f := fun c ↦
      { c with flags := { c.flags with firstPacket := false, fakeConnection := false } }) h.client
    split
    · rename_i hst
      refine hc.trans (steps_sendRead hcl (by simp [hst]) h.upstream fun hf hu ↦ ?_)
      rcases h.leaves hf hu with hf | hs
      · exact he hf
      · rw [hst] at hs
        cases hs
    · rename_i hst hpr
      refine hc.trans (steps_modify fun y hy ↦ ?_)
      obtain rfl := some.inj (hy.symm.trans hcl.2)
      exact ⟨kept_of_buffered rfl, fun hp ↦ by simp [hpr] at hp⟩
    · exact hc

def Excluded (calls : List Call) (k : ℕ) : Prop :=
  ∃ source domain, source ≠ .incoming ∧ .lookedUp (some k) source domain .exclusion ∈ calls

theorem excused_of_excluded {cs : List Call} (h : Excluded cs k) : Excused cs k := by
  obtain ⟨s, d, hs, hm⟩ := h
  cases s with
  | outgoing => exact .domain d (.inl rfl) hm
  | incoming => exact absurd rfl hs
  | cache => exact .domain d (.inr rfl) hm

theorem selectUpstream_exclusionAction {c : Option VpnConnection} :
    selectUpstream t env (exclusionAction env) c = forcedUpstream t (exclusionAction env) := by
  unfold exclusionAction
  cases env.mode <;> rfl

structure MayMove (A : Assumptions) (t : Tunnel) (env : Env) (k r : ℕ) (c : VpnConnection) :
    Prop where
  excluded : c.flags.lookingupDomain = true →
    (passThroughDomainLookup t env r c .outgoing).2 = .shutdown → MayOpen A ∧
      ∀ t₁ u, forcedUpstream t₁ (exclusionAction env) = some u → A.migrates k c.state u
  scanned : (c.flags.lookingupDomain = true →
      (passThroughDomainLookup t env r c .outgoing).2 ≠ .shutdown) →
    c.flags.fakeConnection = true → MayOpen A ∧ ∀ u, A.migrates k c.state u
  leaves : A.fake → c.upstream = some .fake →
    c.flags.fakeConnection = true ∨ c.state = .connectedMigrating
  named : A.fake → c.flags.fakeConnection = true → c.flags.plainDnsConnection = false ∧
    (c.flags.lookingupDomain = true → needsFake env (cleared c) = true → unfinished t env c = false)

/-- A client whose host is excluded goes over to the other upstream. -/
theorem steps_rerouteRead (h : Readable A t k r c um) (hex : Excluded t.calls k)
    (hn : MayOpen A)
    (hm : ∀ t₁ u, forcedUpstream t₁ (exclusionAction env) = some u → A.migrates k c.state u)
    (hfs : A.streams → c.proto = .tcp → c.flags.firstPacket = true →
      sentOn t.calls c.serverId = []) :
    Steps A t (rerouteRead t env r c um pt).1 := by
  refine .assume fun hg ↦ ?_
  unfold rerouteRead
  simp only
  generalize hf : (fun c : VpnConnection ↦
    { c with
      action := some (exclusionAction env)
      flags := { c.flags with lookingupDomain := false } }) = exclude
  have hes : ∀ c, essentials (exclude c) = essentials c := by
    intro c
    rw [← hf]
    rfl
  have hx : { c with
      action := some (exclusionAction env)
      flags := { c.flags with lookingupDomain := false } } = exclude c := by rw [← hf]
  rw [hx]
  have hh : Harmless t (reportConnectionInfo (t.modify r exclude) env r
      (some c.domainExtractorResult.domain)) :=
    .trans (.of_modify hes) notes_reportConnectionInfo.harmless
  have ho : Steps A t (reportConnectionInfo (t.modify r exclude) env r
      (some c.domainExtractorResult.domain)) := by
    refine .trans (steps_decide h.client ?_ fun _ ↦ .inr (excused_of_excluded hex))
      notes_reportConnectionInfo.steps
    rw [← hf]
    exact ⟨rfl, rfl, rfl⟩
  generalize reportConnectionInfo (t.modify r exclude) env r
    (some c.domainExtractorResult.domain) = t₁ at hh ho ⊢
  obtain ⟨x, hr, he⟩ := h.harmless hh
  have he' : essentials x = essentials (exclude c) := he.trans (hes c).symm
  have hc := copy_of_essentials he
  have hl : (exclude c).listener = c.listener := (copy_of_essentials (hes c)).listener
  split
  · exact .call (.call ho rfl) rfl
  · rename_i ht
    have ha : MayMigrate A t₁ k x
        (selectUpstream t₁ env (exclusionAction env) (some (exclude c))) := by
      rw [selectUpstream_exclusionAction]
      refine ⟨by simp [hr.upstream], fun _ _ ↦ ?_, fun hA hp ↦ ⟨hr.still hA hp, ?_⟩,
        fun u hu ↦ ⟨?_, hn u fun _ ↦ forcedUpstream_real hu⟩, fun _ ↦ forcedUpstream_ne_fake _⟩
      · obtain ⟨se, d, hs, hm⟩ := hex
        exact .inr (.inr ⟨se, d, hs, hh.calls hm⟩)
      · rw [hc.serverId, hh.sent]
        exact hfs hA (hc.proto ▸ hp) (by simpa using ht)
      · rw [hc.state]
        exact hm t₁ u hu
    have hsa : view t₁ = (view t₁).put r x := by
      rw [View.put, ← hr.client.2, update_eq_self]
    have hli : (t₁.lockListener (exclude c)).isSome := by
      rw [lockListener_congr hl, hh.listener]
      exact h.listening
    obtain ⟨hi, hd⟩ := @migrateRead_spec A t₁ t₁ env r k (exclude c) x x pt _
      (ho.good hg) hr.client ⟨rfl, rfl, rfl, id⟩ hsa (copy_of_essentials he')
          (congrArg (·.2.2.1) he')
      hli ha
    generalize migrateRead t₁ env r (exclude c)
      (selectUpstream t₁ env (exclusionAction env) (some (exclude c))) pt = res
      at hi hd ⊢
    obtain ⟨t₂, n⟩ := res
    cases n with
    | none => exact ho.trans hi
    | some n =>
      refine (ho.trans hi).trans (steps_modify fun y hy ↦ ⟨kept_of_place rfl .inl fun _ _ ↦
        ⟨fun _ _ _ _ ↦ .inr (.inl (hd rfl y hy)), by simp, .inl, fun _ ↦ .inl⟩, fun _ ↦ rfl⟩)

theorem passThroughDomainLookup_drop {s : LookupSource}
    (h : (passThroughDomainLookup t env r c s).2 = .drop) : c.proto = .udp := by
  by_contra hp
  simp only [passThroughDomainLookup, hp, ↓reduceIte] at h
  split at h
  · cases h
  · split at h <;> cases h
  · cases h
  · cases h

theorem steps_take (h : Readable A t k r x um) :
    Steps A t ((t.modify r fun c ↦
      { c with bufferedPackets := c.bufferedPackets ++ [pt] }).call (.accepted (some k) pt)) := by
  refine .move fun _ ↦ ?_
  have hg : t.connections.get r = some x := h.client.2
  rw [view_call, view_modify hg]
  exact .take pt h.client (kept_of_buffered rfl) rfl h.still (by simp)

theorem client_reportConnectionInfo {d : Option String} (h : (view t).Client k r c) :
    ∃ b, (view (reportConnectionInfo t env r d)).Client k r
      { c with flags := { c.flags with connInfoSent := b } } := by
  have hg : t.connections.get r = some c := h.2
  unfold reportConnectionInfo
  simp only [hg]
  split
  · exact ⟨c.flags.connInfoSent, h⟩
  · exact ⟨true, client_modify h⟩

theorem steps_reportAndForward {d : Option String} (h : Readable A t k r x um)
    (he : A.general → env.mode = .general)
    (hm : x.flags.fakeConnection = true → MayOpen A ∧ (∀ u, A.migrates k x.state u) ∧
      (A.fake → x.flags.plainDnsConnection = false ∧ needsFake env (cleared x) = false)) :
    Steps A t (forwardRead (reportConnectionInfo t env r d) env r um pt).1 := by
  obtain ⟨b, hc⟩ := @client_reportConnectionInfo t env r k x d h.client
  obtain ⟨y, hy, -⟩ := h.harmless notes_reportConnectionInfo.harmless
  obtain rfl := some.inj (hy.client.2.symm.trans hc.2)
  exact notes_reportConnectionInfo.steps.trans (steps_forwardRead hy he hm)

theorem steps_lookupRead (h : Readable A t k r c um) (hmo : A.general → env.mode = .general)
    (hk : c.flags.lookingupDomain = true) (hm : MayMove A t env k r c)
    (hfs : A.streams → c.proto = .tcp → c.flags.firstPacket = true →
      (passThroughDomainLookup t env r c .outgoing).2 = .shutdown →
        sentOn t.calls c.serverId = []) :
    Steps A t (lookupRead t env r c um pt).1 := by
  refine .assume fun hg ↦ ?_
  have hno := @notes_passThroughDomainLookup t env r c .outgoing
  have hh := hno.harmless
  have hto := hno.steps (A := A)
  have ht := @passThroughDomainLookup_shutdown t env r c .outgoing (by simp)
  have hdr := @passThroughDomainLookup_drop t env r c .outgoing
  have hv := @passThroughDomainLookup_verdict t env r c
  obtain ⟨d, hl⟩ := @client_passThroughDomainLookup t env r k c .outgoing h.client
  have hx := hm.excluded hk
  have ha := hm.scanned
  unfold lookupRead
  generalize passThroughDomainLookup t env r c .outgoing = res
    at hno hh hto ht hdr hv hl hfs hx ha ⊢
  obtain ⟨t₁, a⟩ := res
  simp only at hh hto ht hdr hv hl hfs hx ha ⊢
  obtain ⟨x, hr, -⟩ := h.harmless hh
  obtain rfl : x = { c with domainExtractorResult := d } := some.inj (hr.client.2.symm.trans hl.2)
  have hge : t₁.connections.get r = some { c with domainExtractorResult := d } := hl.2
  simp only [hge, getD_some]
  have hfo : a ≠ .shutdown → ∀ f : VpnConnection → VpnConnection,
      (∀ c, essentials (f c) = essentials c) → (∀ c, core (f c) = core c) →
      (A.fake → c.flags.fakeConnection = true →
        needsFake env (cleared (f { c with domainExtractorResult := d })) = false) →
      ∀ dn, Steps A t (forwardRead (reportConnectionInfo (t₁.modify r f) env r dn) env r
        um pt).1 := by
    intro hne f hes hc hns dn
    obtain ⟨y, hy, he⟩ := hr.harmless (.of_modify hes)
    obtain rfl := some.inj (hy.client.2.symm.trans (client_modify hl).2)
    refine (hto.modify hc).trans (steps_reportAndForward hy hmo fun hf ↦ ?_)
    have hco := copy_of_essentials he
    have hf' : c.flags.fakeConnection = true := (congrArg (·.2.1.1) he).symm.trans hf
    obtain ⟨ho, hi⟩ := ha (fun _ ↦ hne) hf'
    rw [hco.state]
    refine ⟨ho, hi, fun hA ↦ ⟨?_, hns hA hf'⟩⟩
    exact (congrArg (·.2.1.2.1) he).trans (hm.named hA hf').1
  have hd : A.fake → c.flags.fakeConnection = true → unfinished t env c = true →
      needsFake env (cleared c) = false := by
    intro hA hf hu
    by_contra hn
    rw [(hm.named hA hf).2 hk (by simpa using hn)] at hu
    cases hu
  cases a <;> simp only
  case done =>
    refine hfo (by simp) (fun c ↦
      { c with flags := { c.flags with lookingupDomain := false } }) (fun _ ↦ rfl) (fun _ ↦ rfl)
      (fun _ _ ↦ ?_) _
    simp [needsFake, cleared]
  case pass =>
    have hread' := @steps_reportAndForward A t₁ env r k _ um pt (some d.domain) hr hmo
      fun hf ↦ ⟨(ha (by simp) hf).1, (ha (by simp) hf).2, fun hA ↦ ⟨(hm.named hA hf).1,
        hd hA hf (by simp [unfinished, hv.1 rfl])⟩⟩
    exact hto.trans hread'
  case drop =>
    refine hto.trans (.move fun _ ↦ ?_)
    rw [hg.base.clientId_eq h.client]
    exact .discard pt hr.client (hdr rfl)
  case wantMore =>
    split
    · have hme : Harmless t₁ (t₁.modify r fun c ↦
          { c with lookupAttemptsNum := c.lookupAttemptsNum + 1 }) := .modify .refl fun _ ↦ rfl
      obtain ⟨y, hy, _⟩ := hr.harmless hme
      rw [hg.base.clientId_eq h.client]
      refine .trans ?_ (steps_take hy)
      exact hto.modify fun _ ↦ rfl
    · rename_i hma
      refine hfo (by simp) (fun c ↦ { c with lookupAttemptsNum := c.lookupAttemptsNum + 1 })
        (fun _ ↦ rfl) (fun _ ↦ rfl) (fun hA hf ↦ ?_) _
      exact hd hA hf (by simpa [unfinished, hv.2 rfl] using hma)
  case shutdown =>
    refine hto.trans (steps_rerouteRead hr ?_ (hx rfl).1 (hx rfl).2 fun hA hp hf ↦ ?_)
    · obtain ⟨s, dn, hs, hm⟩ := ht rfl
      rw [hg.base.clientId_eq h.client] at hm
      exact ⟨s, dn, hs, hm⟩
    · rw [hh.sent]
      exact hfs hA hp hf rfl
  case block =>
    refine (hto.call rfl).trans (steps_closeClientSideConnection (current_of_get hge) (.inl ?_))
    exact byClientId_isSome (t := t₁) (hto.good hg).base hr.client

end Forwarding

def findsExclusion (env : Env) : Bool :=
  env.extracted.status == .found && env.matchDomain env.extracted.domain == .exclusion

theorem findsExclusion_of_shutdown {s : LookupSource} (hp : c.proto = .tcp)
    (h : (passThroughDomainLookup t env r c s).2 = .shutdown) : findsExclusion env = true := by
  have hu : c.proto ≠ .udp := by simp [hp]
  simp only [passThroughDomainLookup, if_neg hu] at h
  cases hs : env.extracted.status <;> simp only [hs, reduceCtorEq] at h
  split at h
  · simp [findsExclusion, *]
  · cases h

/-- What a read must satisfy for the stream of the connection to stay whole. -/
def readsWhole (t : Tunnel) (env : Env) (id : ℕ) : Prop :=
  ∀ r c, t.byClientId (some id) = some (r, c) → c.proto = .tcp →
    c.state ≠ .connectedMigrating ∧
      (c.flags.fakeConnection = true ∨ (c.flags.lookingupDomain = true ∧
        c.flags.firstPacket = true ∧ findsExclusion env = true) →
        sentOn t.calls c.serverId = [])

/-- Every read of a client makes moves, under what the assumptions ask of it. -/
theorem steps_clientRead {id : ℕ} {p : Packet}
    (hl : ∀ r c, t.byClientId (some id) = some (r, c) → (t.lockListener c).isSome)
    (hw : A.streams → readsWhole t env id) (he : A.general → env.mode = .general)
    (hm : ∀ r c, t.byClientId (some id) = some (r, c) → MayMove A t env id r c) :
    Steps A t (clientRead t env id p).1 := by
  unfold clientRead
  cases hk : t.byClientId (some id) with
  | none => exact .refl
  | some rc =>
    obtain ⟨r, c⟩ := rc
    simp only
    split
    · exact .refl
    · rename_i upstream hu
      have hr : Readable A t id r c upstream :=
        ⟨byClientId_eq_some.1 hk, lockUpstream_eq hu, hl r c hk,
          fun hA hp ↦ (hw hA r c hk hp).1, fun hA hp hf ↦ (hw hA r c hk hp).2 (.inl hf),
          fun hA hf ↦ (hm r c hk).leaves hA (hf ▸ lockUpstream_eq hu)⟩
      split
      · rename_i hlo
        exact steps_lookupRead hr he hlo (hm r c hk) fun hA hp hf hs ↦
          (hw hA r c hk hp).2 (.inr ⟨hlo, hf, findsExclusion_of_shutdown hp hs⟩)
      · rename_i hlo
        refine steps_forwardRead hr he fun hf ↦ ?_
        obtain ⟨ho, hg⟩ := (hm r c hk).scanned (fun h ↦ absurd h hlo) hf
        exact ⟨ho, hg, fun hA ↦ ⟨((hm r c hk).named hA hf).1, by simp [needsFake, cleared, hlo]⟩⟩

theorem steps_clientAccepted {l : Listener} {id : ℕ} : Steps A t (clientAccepted t env l id) := by
  refine .assume fun hg ↦ ?_
  unfold clientAccepted
  cases hk : t.byClientId (some id) with
  | none => exact .refl
  | some rc =>
    obtain ⟨r, c⟩ := rc
    have hc := byClientId_eq_some.1 hk
    simp only
    split
    · exact steps_closeClientSideConnection (current_of_get hc.2)
        (.inl (byClientId_isSome hg.base hc))
    · rename_i hst
      rw [not_not] at hst
      have ha : Steps A t ((t.modify r fun c ↦ { c with state := .connected }).call
          (.turnRead (some id) true)) := by
        refine .call (steps_modify fun y hy ↦ ?_) rfl
        obtain rfl := some.inj (hy.symm.trans hc.2)
        exact quiet_state (by simp [hst]) (by simp [hst]) (by simp) (by simp)
          fun _ _ ↦ .inl (.inr (by simp [hst]))
      split
      · exact ha
      · split
        · exact .call (.modify ha fun _ ↦ rfl) rfl
        · exact ha

end TrustTunnel.Traffic.Refine.Reading

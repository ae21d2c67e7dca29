import TrustTunnel.Traffic.Refine.Close
import TrustTunnel.Traffic.Routing

namespace TrustTunnel.Traffic.Refine.Routing

open Function Relation Lib.TwoKeyStore Net.Address Session.Types Traffic.Types Moves Option List
open Traffic.Close Traffic.Routing Refine.Basic Refine.Close

variable {A : Assumptions} {t t' : Tunnel} {env : Env} {r k : ℕ} {c x : VpnConnection}
  {listener : Listener} {action : VpnConnectAction} {f : VpnConnection → VpnConnection} {s : ℕ}
  {rt : ClientConnectRequest}

theorem notes_reportConnectionInfo {d : Option String} :
    Notes t (reportConnectionInfo t env r d) := by
  unfold reportConnectionInfo
  split
  · exact .refl
  · split
    · exact .refl
    · exact .call (.modify .refl (fun _ ↦ rfl) fun _ ↦ rfl) rfl

theorem place_applyMatch (a : Option VpnConnectAction) (ss : DomainFilterMatchStatus)
    (c : VpnConnection) :
    place (applyMatch env a ss c) = place c ∧
      face (applyMatch env a ss c) = face c ∧
        (applyMatch env a ss c).bufferedPackets = c.bufferedPackets := by
  unfold applyMatch
  split
  · split <;> exact ⟨rfl, rfl, rfl⟩
  · exact ⟨rfl, rfl, rfl⟩
  · exact ⟨rfl, rfl, rfl⟩

theorem applyMatch_bypass {a : Option VpnConnectAction} {ss : DomainFilterMatchStatus}
    (ha : a ≠ some .forceBypass) (h : (applyMatch env a ss c).action = some .forceBypass) :
    c.action = some .forceBypass ∨ ss = .exclusion := by
  simp only [applyMatch] at h
  split at h
  · split at h <;> exact .inl h
  · exact .inr rfl
  · exact absurd h ha

theorem client_modify (h : (view t).Client k r c) : (view (t.modify r f)).Client k r (f c) :=
  ⟨(congrFun leftRef_modify k).trans h.1, get_modify h.2⟩

theorem steps_decide (hc : (view t).Client k r c)
    (hf : place (f c) = place c ∧ face (f c) = face c ∧ (f c).bufferedPackets = c.bufferedPackets)
    (ha : (f c).action = some .forceBypass → c.action = some .forceBypass ∨ Excused t.calls k) :
    Steps A t (t.modify r f) := by
  refine .assume fun hg ↦ steps_modify fun x hx ↦ ?_
  obtain rfl : c = x := some.inj (hc.2.symm.trans hx)
  refine ⟨kept_of_place hf.1 (fun h ↦ ?_) fun _ _ ↦ idles_of_face (copy_of_place hf.1) hf.2.1,
    fun _ ↦ hf.2.2⟩
  exact (ha h).imp_right fun he ↦ ⟨k, hg.base.clientId_eq hc, he⟩

/-- Each function of the routing is a run of the moves. -/
theorem steps_finalizeConnectAction {rt : ConnectRequestResult} :
    Steps A t (finalizeConnectAction t env rt).1 := by
  unfold finalizeConnectAction
  split
  · exact .refl
  · rename_i r c hk
    have hc : ∀ cl, (view ((t.modify r (applyRequest rt)).call cl)).Client rt.id r
        (applyRequest rt c) := fun _ ↦ client_modify (byClientId_eq_some.1 hk)
    have hy : ∀ ss, Steps A t ((t.modify r (applyRequest rt)).call
        (.finalized rt.id rt.action ss)) := fun _ ↦
      .call (steps_of_core fun _ ↦ rfl) rfl
    simp only
    split
    · rw [modify_call]
      refine (hy none).trans (steps_decide (hc _) ⟨rfl, rfl, rfl⟩ fun ha ↦ .inr ?_)
      rw [show rt.action = some .forceBypass from ha]
      exact .demanded none (by simp [Tunnel.call])
    · rename_i has
      have ho : rt.action ≠ some .forceBypass := by
        intro ho
        simp [ho] at has
      generalize (matchDestination env (applyRequest rt c)).1 = ss
      rw [modify_call]
      have hm := (hy (some ss)).trans (steps_decide (A := A) (hc _)
        (@place_applyMatch env rt.action ss (applyRequest rt c)) fun ha ↦
          (applyMatch_bypass ho ha).imp_right fun hs ↦
            .destination rt.action (by simp [Tunnel.call, hs]))
      split
      · exact hm.trans notes_reportConnectionInfo.steps
      · exact hm

/-- An action that forces the bypass is excused by the calls made so far. -/
theorem excused_finalizeConnectAction {rt : ConnectRequestResult} (hb : Base (view t))
    (h : (finalizeConnectAction t env rt).2 = some .forceBypass) :
    Excused (finalizeConnectAction t env rt).1.calls rt.id := by
  unfold finalizeConnectAction at h ⊢
  split at h
  · cases h
  · rename_i r c hk
    have hc := byClientId_eq_some.1 hk
    simp only at h ⊢
    split at h
    · rename_i has
      rw [if_pos has]
      exact .demanded none (by simp [Tunnel.call, show rt.action = _ from h])
    · rename_i has
      have ho : rt.action ≠ some .forceBypass := by
        intro ho
        simp [ho] at has
      rw [if_neg has]
      generalize (matchDestination env (applyRequest rt c)).1 = status at h ⊢
      have he : ∀ t' : Tunnel,
          t.calls ++ [.finalized rt.id rt.action (some status)] ⊆ t'.calls →
          Excused t'.calls rt.id := by
        intro t' hu
        rcases applyMatch_bypass ho h with ha | hs
        · exact ((hb.each r c hc.2).excused rt.id ha (hb.clientId_eq hc)).mono
            (List.Subset.trans (subset_append_left _ _) hu)
        · exact .destination rt.action (hu (by simp [hs]))
      generalize ht₁ : ((t.modify r (applyRequest rt)).modify r
        (applyMatch env rt.action status)).call
          (.finalized rt.id rt.action (some status)) = t₁
      have hcs : t₁.calls = t.calls ++ [.finalized rt.id rt.action (some status)] := by
        rw [← ht₁]
        simp [Tunnel.call]
      rw [← hcs] at he
      dsimp only
      split
      · exact he _ notes_reportConnectionInfo.harmless.calls
      · exact he _ (List.Subset.refl _)

theorem view_addConnection (h : t.connections.get r = some x) :
    view (addConnection t r) =
      { view t with
        byClient := x.clientId.elim (view t).byClient fun k ↦ update (view t).byClient k (some r)
        byServer := x.serverId.elim (view t).byServer fun s ↦
          update (view t).byServer s (some r) } := by
  simp only [addConnection, h]
  cases x.clientId <;> cases x.serverId <;>
    simp [Tunnel.putClientId, Tunnel.putServerId, view]

/-- The request of `k` is completed and has no upstream yet. -/
structure Unserved (A : Assumptions) (t : Tunnel) (k : ℕ) (x : VpnConnection) : Prop where
  completed : A.once → Completed t.calls k
  serverId : A.once → x.serverId = none
  state : A.once → x.state ≠ .connected ∧ x.state ≠ .connectedMigrating

theorem Unserved.mono {x' : VpnConnection} (h : Unserved A t k x) (hcs : t.calls ⊆ t'.calls)
    (hc : Copy x x') : Unserved A t' k x' :=
  ⟨fun ho ↦ (h.completed ho).mono hcs, fun ho ↦ hc.serverId.trans (h.serverId ho),
    fun ho ↦ hc.state ▸ h.state ho⟩

/-- What the assumptions ask before `k` is connected on `upstream`. -/
structure MayConnect (A : Assumptions) (t : Tunnel) (k : ℕ) (x : VpnConnection)
    (upstream : Option Upstream) : Prop where
  justified : A.general → upstream = some .bypass → Justified t.calls k
  opens : ∀ u, upstream = some u → A.opens u
  fake : A.fake → upstream = some .fake → (view t).Untasked k ∧ x.flags.fakeConnection = true

section ConnectRecord

variable {upstream : Option Upstream}

theorem openConnection_opened {u : Upstream} {c : Option ℕ} {a : TunnelAddressPair}
    (h : env.opens = true) :
    openConnection t env u c a = (opened t u c a, some t.upstreamConnIdGenerator) := by
  simp [openConnection, h]

theorem openConnection_failed {u : Upstream} {c : Option ℕ} {a : TunnelAddressPair}
    (h : env.opens = false) :
    openConnection t env u c a = (t.call (.openConnection u c a none), none) := by
  simp [openConnection, h]

theorem quiet_upstream (hg : Base (view t)) (hcl : (view t).Client k r x) (hu : Unserved A t k x)
    (hm : MayConnect A t k x upstream) {serverId : Option ℕ} (hs : A.once → serverId = none) :
    Quiet A (view t) x { x with upstream := upstream, serverId := serverId } where
  clientId := rfl
  serverId ho := (hs ho).trans (hu.serverId ho).symm
  proto := rfl
  listener := rfl
  migratingClientId := rfl
  replacing := Iff.rfl
  migrating _ := Iff.rfl
  resolving := .inl
  routed ho _ := .inr ⟨k, hg.clientId_eq hcl, hu.completed ho⟩
  settled ho := .inr ⟨hu.serverId ho, hu.state ho⟩
  forced := .inl
  action := .inl
  idle _ hf :=
    { marked := fun _ _ _ hu ↦ .inl (hm.fake hf hu).2
      named := fun hf hp ↦ ⟨hf, hp⟩
      upstream := fun hu ↦ .inr ⟨k, hg.clientId_eq hcl, (hm.fake hf hu).1⟩
      task := fun _ ↦ .inl }
  buffered _ := rfl

def served (x : VpnConnection) (upstream : Option Upstream) (s : ℕ) : VpnConnection :=
  { x with upstream := upstream, serverId := some s, state := .waitingResponse }

theorem attached_served : Attached s x (served x upstream s) :=
  ⟨rfl, rfl, rfl, rfl, rfl, rfl, rfl, rfl⟩

theorem view_attach (hg : Base (view t)) (hc : (view t).Client k r x) (s : ℕ) :
    view (addConnection ((t.modify r fun c ↦
        { c with upstream := upstream, serverId := some s }).modify r fun c ↦
          { c with state := .waitingResponse }) r) =
      { (view t).put r (served x upstream s) with
        byServer := update (view t).byServer s (some r) } := by
  have h1 := get_modify (f := fun c ↦ { c with upstream := upstream, serverId := some s }) hc.2
  have h2 := get_modify (f := fun c ↦ { c with state := .waitingResponse }) h1
  have hv : view ((t.modify r fun c ↦
      { c with upstream := upstream, serverId := some s }).modify r fun c ↦
        { c with state := .waitingResponse }) = (view t).put r (served x upstream s) := by
    rw [view_modify h1, view_modify hc.2]
    simp [View.put, served]
  rw [view_addConnection h2, hv]
  simp only [served, hg.clientId_eq hc, elim_some, View.put]
  rw [← hc.1, update_eq_self]

theorem steps_connectRecord (hcl : (view t).Client k r x) (hc : Copy c x) (hu : Unserved A t k x)
    (hm : MayConnect A t k x upstream) : Steps A t (connectRecord t env r c upstream).1 := by
  refine .assume fun hg ↦ ?_
  have hi : c.clientId = some k := hc.clientId.symm.trans (hg.base.clientId_eq hcl)
  cases upstream with
  | none =>
    cases hs : c.serverId with
    | none =>
      simp only [connectRecord, hs]
      refine steps_modify fun y hy ↦ ?_
      obtain rfl : y = x := some.inj (hy.symm.trans hcl.2)
      exact quiet_upstream hg.base hcl hu hm fun _ ↦ rfl
    | some s =>
      simp only [connectRecord, hs]
      refine .move fun _ ↦ ?_
      rw [view_attach hg.base hcl]
      refine .relink (fun ho ↦ ?_) hcl attached_served
      have hn := hc.serverId.symm.trans (hu.serverId ho)
      simp [hs] at hn
  | some u =>
    cases ho : env.opens with
    | false =>
      simp only [connectRecord, openConnection_failed ho]
      have hl : Steps A t (t.call (.openConnection u c.clientId c.addr none)) := by
        refine .move fun _ ↦ .openFailed c.addr (fun hA hb j hj ↦ ?_) (hm.opens u rfl)
        rw [hi] at hj
        exact some.inj hj ▸ hm.justified hA (by rw [hb])
      have hsu : t.calls ⊆ (t.call (.openConnection u c.clientId c.addr none)).calls :=
        subset_append_left _ _
      refine hl.trans (steps_modify fun y hy ↦ ?_)
      obtain rfl : y = x := some.inj (hy.symm.trans hcl.2)
      refine quiet_upstream (hl.good hg).base hcl (hu.mono hsu .refl) ?_ fun _ ↦ rfl
      exact ⟨fun hA hb ↦ (hm.justified hA hb).mono hsu, hm.opens, hm.fake⟩
    | true =>
      simp only [connectRecord, openConnection_opened ho, hi]
      refine .move fun _ ↦ ?_
      rw [view_attach (x := x) (k := k)]
      · exact .attach c.addr hcl (fun h ↦ ⟨hu.completed h, hu.serverId h, hu.state h⟩)
          (fun hA hb ↦ hm.justified hA (by rw [hb])) attached_served rfl
          (fun hf hb ↦ hm.fake hf (by rw [hb])) (hm.opens u rfl)
      · exact ⟨hg.base.left, hg.base.counted,
          fun a y hy ↦ (hg.base.each a y hy).mono (subset_append_left _ _),
          hg.base.announced_append (by simp [isCompletion])⟩
      · exact hcl

theorem current_connectRecord (hc : (view t).Client k r x) (hy : Copy c x)
    (hi : c.clientId = some k) (h : (connectRecord t env r c upstream).2 = false) :
    Current (connectRecord t env r c upstream).1 r c ∧
      ((connectRecord t env r c upstream).1.byClientId c.clientId).isSome := by
  have hm : ∀ t₁ : Tunnel, t₁.connections = t.connections →
      Current (t₁.modify r fun c ↦ { c with upstream := upstream, serverId := none }) r c ∧
        ((t₁.modify r fun c ↦ { c with upstream := upstream, serverId := none }).byClientId
          c.clientId).isSome := by
    intro t₁ h₁
    have hg : t₁.connections.get r = some x := by
      rw [h₁]
      exact hc.2
    refine ⟨Current.modify ⟨x, hg, hy.clientId, hy.state⟩ (fun _ ↦ rfl) fun _ ↦ rfl, ?_⟩
    rw [byClientId_modify, hi]
    have hcl' : (view t₁).Client k r x := by
      simpa only [View.Client, view, h₁] using hc
    simp [byClientId_eq_some.2 hcl']
  cases upstream with
  | none =>
    cases hs : c.serverId with
    | none =>
      simp only [connectRecord, hs]
      exact hm t rfl
    | some s => simp [connectRecord, hs] at h
  | some u =>
    cases ho : env.opens with
    | false =>
      simp only [connectRecord, openConnection_failed ho]
      exact hm _ rfl
    | true => simp [connectRecord, openConnection_opened ho] at h

end ConnectRecord

theorem byClientId_isSome (hg : Base (view t)) (h : (view t).Client k r c) :
    (t.byClientId c.clientId).isSome := by
  rw [hg.clientId_eq h, byClientId_eq_some.2 h]
  rfl

theorem forcedUpstream_bypass (h : forcedUpstream t action = some .bypass) :
    action = .forceBypass := by
  cases action with
  | forceBypass => rfl
  | forceRedirect => simp [forcedUpstream, Tunnel.endpoint] at h
  | default => simp [forcedUpstream] at h
  | reject => simp [forcedUpstream] at h

/-- In general mode only a forced action leads to the bypass. -/
theorem selectUpstream_bypass {c : Option VpnConnection} (hm : env.mode = .general)
    (h : selectUpstream t env a c = some .bypass) : a = .forceBypass := by
  have hn : ∀ a, a ≠ .forceBypass → forcedUpstream t a ≠ some .bypass :=
    fun _ hne he ↦ hne (forcedUpstream_bypass he)
  unfold selectUpstream at h
  split at h
  · split at h
    · exact absurd h (hn _ (by simp))
    · split at h
      · cases h
      · split at h
        · cases h
        · exact absurd h (hn _ (by simp [vpnModeToAction, hm]))
  · exact absurd h (hn _ (by simp [vpnModeToAction, hm]))
  · exact forcedUpstream_bypass h

theorem forcedUpstream_ne_fake (a : VpnConnectAction) : forcedUpstream t a ≠ some .fake := by
  cases a <;> simp [forcedUpstream, Tunnel.endpoint]

theorem selectUpstream_fake {c : Option VpnConnection} (h : selectUpstream t env a c = some .fake) :
    ∃ x, c = some x ∧ x.flags.plainDnsConnection = false := by
  have ho : ∀ a, forcedUpstream t a ≠ some .fake := fun _ ↦ forcedUpstream_ne_fake _
  unfold selectUpstream at h
  split at h
  · rename_i x
    split at h
    · exact absurd h (ho _)
    · split at h
      · cases h
      · rename_i hp
        split at h
        · exact ⟨x, rfl, by simpa using hp⟩
        · exact absurd h (ho _)
  · exact absurd h (ho _)
  · exact absurd h (ho _)

theorem steps_startResolve {n : String} (hl : (view t).Client k r c) (hu : Unserved A t k c) :
    Steps A t (startResolve t env r c n) := by
  refine .assume fun hg ↦ ?_
  have hc : Steps A t (t.call (.resolve n env.resolveId)) := steps_call rfl
  unfold startResolve
  simp only
  split
  · exact hc.trans (steps_closeClientSideConnection (current_of_get hl.2)
      (.inl (byClientId_isSome (t := t) hg.base hl)))
  · have hw : ∀ t₁, view t₁ = view (t.call (.resolve n env.resolveId)) →
        Steps A t (t₁.modify r fun c ↦ { c with state := .waitingResolve }) := by
      intro t₁ h₁
      have ht : Steps A t t₁ := hc.trans (.of_view h₁)
      refine ht.trans (steps_modify fun x hx ↦ ?_)
      have hx' : (view t₁).record r = some c := by
        rw [h₁]
        exact hl.2
      obtain rfl : x = c := some.inj (hx.symm.trans hx')
      refine quiet_state (hg.base.notReplacing hl) (fun ho ↦ (hu.state ho).2) (by simp)
        (fun _ ↦ hu.serverId) fun ho _ ↦ .inr ⟨k, hg.base.clientId_eq hl, ?_⟩
      rw [h₁]
      exact (hu.completed ho).mono (subset_append_left _ _)
    refine hw _ ?_
    split
    · rfl
    · split <;> rfl

theorem untasked_modify (h : (view t).Untasked k)
    (hf : ∀ c, (f c).sendBufferedTask = c.sendBufferedTask) : (view (t.modify r f)).Untasked k := by
  intro a x hx
  cases hr : t.connections.get r with
  | none =>
    rw [modify_none hr] at hx
    exact h a x hx
  | some c =>
    rw [view_modify hr] at hx
    exact forall_update h (hf c ▸ h r c hr) a x hx

structure Unrouted (A : Assumptions) (t : Tunnel) (k : ℕ) (x : VpnConnection) : Prop
    extends Unserved A t k x where
  upstream : A.once → x.upstream = none
  untasked : A.fake → (view t).Untasked k

theorem steps_markFake {u : Option Upstream} (hc : (view t).Client k r c)
    (hu : Unrouted A t k c) (h : u = some .fake → c.flags.plainDnsConnection = false) :
    Steps A t (t.modify r fun c ↦ if u.isSome then
      { c with flags := { c.flags with fakeConnection := u == some .fake } } else c) := by
  refine steps_modify fun x hx ↦ ?_
  obtain rfl : c = x := some.inj (hc.2.symm.trans hx)
  split
  · refine ⟨kept_of_place rfl .inl fun ho _ ↦ ⟨fun _ _ _ hf ↦ ?_, fun hf hp ↦ ?_, .inl,
      fun _ ↦ .inl⟩, fun _ ↦ rfl⟩
    · cases (hu.upstream ho).symm.trans hf
    · cases (h (by simpa using hf)).symm.trans hp
  · exact quiet_of_core rfl

theorem steps_connectNow {upstream : Option Upstream} (hl : (view t).Client k r c)
    (hu : Unrouted A t k c) (hp : upstream = some .fake → c.flags.plainDnsConnection = false)
    (hj : A.general → upstream = some .bypass → Justified t.calls k) (hs : ∀ u, A.opens u) :
    Steps A t (connectNow t env r c upstream) := by
  refine .assume fun hg ↦ ?_
  have hi := hg.base.clientId_eq hl
  unfold connectNow
  split
  · have hr : Steps A t (t.modify r fun c ↦ { c with upstream := none }) := by
      refine steps_modify fun x hx ↦ ?_
      obtain rfl : x = c := some.inj (hx.symm.trans hl.2)
      have hn : MayConnect A t k x none := ⟨fun _ ↦ nofun, fun _ ↦ nofun, fun _ ↦ nofun⟩
      exact quiet_upstream hg.base hl hu.toUnserved hn hu.serverId
    refine hr.trans (steps_closeClientSideConnection
      ((current_of_get hl.2).modify (fun _ ↦ rfl) fun _ ↦ rfl) (.inl ?_))
    rw [byClientId_modify]
    exact byClientId_isSome hg.base hl
  · have hm := steps_markFake hl hu hp
    generalize hf : (fun c : VpnConnection ↦ if upstream.isSome then
      { c with flags := { c.flags with fakeConnection := upstream == some .fake } } else c) = f
      at hm ⊢
    have hcl' := client_modify (f := f) hl
    have hc : Copy c (f c) := by
      rw [← hf]
      dsimp only
      split <;> exact ⟨rfl, rfl, rfl, rfl, rfl, rfl⟩
    have ho : Steps A t (connectRecord (t.modify r f) env r c upstream).1 := by
      refine hm.trans (steps_connectRecord hcl' hc (hu.toUnserved.mono (by simp) hc)
        ⟨fun hA hb ↦ ?_, fun u _ ↦ hs u, fun hA hb ↦ ⟨?_, ?_⟩⟩)
      · rw [calls_modify]
        exact hj hA hb
      · refine untasked_modify (hu.untasked hA) fun c ↦ ?_
        rw [← hf]
        dsimp only
        split <;> rfl
      · simp [← hf, hb]
    simp only
    split
    · split
      · exact ho
      · split
        · exact ho.call rfl
        · exact ho
    · rename_i hno
      obtain ⟨hcu, hd⟩ := current_connectRecord hcl' hc hi (by simpa using hno)
      exact ho.trans (steps_closeClientSideConnection hcu (.inl hd))

theorem quiet_setActionFlags {v : View} (hi : c.clientId = some k)
    (h : action = .forceBypass → .completed k (some .forceBypass) ∈ v.calls) :
    Quiet A v c (setActionFlags action c) := by
  cases action with
  | forceBypass =>
    exact
      { clientId := rfl
        serverId := fun _ ↦ rfl
        proto := rfl
        listener := rfl
        migratingClientId := rfl
        replacing := Iff.rfl
        migrating := fun _ ↦ Iff.rfl
        resolving := .inl
        routed := fun _ ↦ .inl
        settled := fun _ ↦ .inl rfl
        forced := fun _ ↦ .inr ⟨k, hi, h rfl⟩
        action := .inl
        idle := fun _ _ ↦ idles_of_face ⟨rfl, rfl, rfl, rfl, rfl, rfl⟩ rfl
        buffered := fun _ ↦ rfl }
  | forceRedirect => exact quiet_of_core rfl
  | default => exact quiet_of_core rfl
  | reject => exact quiet_of_core rfl

theorem copy_setActionFlags (a : VpnConnectAction) (c : VpnConnection) :
    Copy c (setActionFlags a c) ∧ (setActionFlags a c).sendBufferedTask = c.sendBufferedTask := by
  cases a <;> exact ⟨⟨rfl, rfl, rfl, rfl, rfl, rfl⟩, rfl⟩

theorem steps_routeRequest (hcl : (view t).Client k r c) (hu : Unrouted A t k c)
    (ht : action = .forceBypass → .completed k (some .forceBypass) ∈ t.calls)
    (h : A.general → env.mode = .general) (hop : ∀ u, A.opens u) :
    Steps A t (routeRequest t env r c action) := by
  refine .assume fun hg ↦ ?_
  have hi := hg.base.clientId_eq hcl
  have hl : Steps A t (t.modify r (setActionFlags action)) := by
    refine steps_modify fun x hx ↦ ?_
    obtain rfl : x = c := some.inj (hx.symm.trans hcl.2)
    exact quiet_setActionFlags hi ht
  have hc := (copy_setActionFlags action c).1
  have hcl' := client_modify (f := setActionFlags action) hcl
  have he := (hl.good hg).base
  have hu' : Unrouted A (t.modify r (setActionFlags action)) k (setActionFlags action c) :=
    { hu.toUnserved.mono (by simp) hc with
      upstream := fun ho ↦ hc.upstream.trans (hu.upstream ho)
      untasked := fun hf ↦ untasked_modify (hu.untasked hf) fun c ↦
        (copy_setActionFlags action c).2 }
  unfold routeRequest
  simp only
  split
  · exact hl.trans (steps_closeClientSideConnection (current_of_get hcl'.2)
      (.inl (byClientId_isSome he hcl')))
  · split
    · split
      · exact hl
      · exact hl.trans (steps_startResolve hcl' hu'.toUnserved)
    · refine hl.trans (steps_connectNow hcl' hu' (fun hf ↦ ?_) (fun hA hb ↦ ?_) hop)
      · obtain ⟨x, hx, hp⟩ := selectUpstream_fake hf
        exact some.inj hx ▸ hp
      · rw [calls_modify]
        exact .inl (ht (selectUpstream_bypass (h hA) hb))

theorem steps_completeConnectRequest {id : ℕ} {a : Option VpnConnectAction}
    (h : A.once → ¬ Completed t.calls id) (he : A.general → env.mode = .general)
    (hx : A.general → a = some .forceBypass → Excused t.calls id ∨ Foreign t.calls id)
    (ht : A.fake → (view t).Untasked id) (hp : ∀ u, A.opens u) :
    Steps A t (completeConnectRequest t env id a) := by
  refine .assume fun hg ↦ ?_
  unfold completeConnectRequest
  cases hk : t.byClientId (some id) with
  | none => exact .refl
  | some rc =>
    obtain ⟨r, c⟩ := rc
    have hc := byClientId_eq_some.1 hk
    have hi := hg.base.clientId_eq hc
    have hd : Steps A t (t.call (.completed id a)) := .move fun _ ↦ .complete a hc h hx
    have hn : ∀ ho : A.once, c.serverId = none ∧ ¬ Routed c := fun ho ↦
      ((hg.served ho).each r c hc.2).unserved id hi (h ho)
    have hu : Unrouted A (t.call (.completed id a)) id c := by
      refine ⟨⟨fun _ ↦ ⟨a, by simp [Tunnel.call]⟩, fun ho ↦ (hn ho).1, fun ho ↦ ?_⟩,
        fun ho ↦ ?_, ht⟩
      · have hno := not_or.1 (hn ho).2
        constructor <;> exact fun hs ↦ hno.2 (by simp [hs])
      · simpa using (not_or.1 (hn ho).2).1
    simp only
    split
    · exact hd.trans (steps_closeClientSideConnection (current_of_get hc.2)
        (.inl (byClientId_isSome (t := t) hg.base hc)))
    · refine hd.trans (steps_routeRequest hc hu (fun hb ↦ ?_) he hp)
      cases a with
      | none => cases hb
      | some a =>
        rw [getD_some] at hb
        simp [Tunnel.call, hb]

theorem fresh_requestedConnection : Fresh rt.id (requestedConnection env listener rt) :=
  ⟨rfl, rfl, rfl, rfl, rfl, rfl, rfl, rfl, rfl, rfl⟩

theorem view_announce :
    view (announce t env listener request) =
      { (view t).put (view t).next (requestedConnection env listener request) with
        byClient := update (view t).byClient request.id (some (view t).next)
        next := (view t).next + 1
        calls := (view t).calls ++ [.requested listener request.id request.addr] } := by
  have hf := @fresh_requestedConnection env listener request
  unfold announce
  rw [view_addConnection (x := requestedConnection env listener request) (by simp [Tunnel.call]),
    hf.clientId, hf.serverId]
  simp [view, View.put, Tunnel.call]

theorem steps_announce (h : ¬ Announced t.calls rt.id) :
    Steps A t (announce t env listener rt) := by
  refine .move fun _ ↦ ?_
  rw [view_announce]
  exact .create listener rt.addr h fresh_requestedConnection rfl

theorem steps_connectRequest (hw : ¬ Announced t.calls request.id)
    (h : A.general → env.mode = .general) (hu : A.fake → (view t).Untasked request.id)
    (ho : ∀ u, A.opens u) : Steps A t (connectRequest t env listener request) := by
  refine .assume fun hg ↦ ?_
  have he : Steps A t (announce t env listener request) := steps_announce hw
  have hv := @view_announce t env listener request
  unfold connectRequest
  generalize announce t env listener request = w at *
  have hcs : w.calls = _ := congrArg View.calls hv
  have hm : .requested listener request.id request.addr ∈ w.calls := by
    rw [hcs]
    simp
  have hc : ∀ action, (action = some .forceBypass →
      Excused w.calls request.id ∨ Foreign w.calls request.id) →
      Steps A t (completeConnectRequest w env request.id action) := by
    intro action hx
    refine he.trans (steps_completeConnectRequest (fun _ hd ↦ ?_) h (fun _ ↦ hx) (fun hf ↦ ?_) ho)
    · rw [hcs] at hd
      exact hw (hg.base.announced _ (completed_append (by simp [isCompletion]) hd))
    · rw [hv]
      exact forall_update (hu hf) (fun hs ↦ (by cases hs))
  have hn : listener ≠ .client → Foreign w.calls request.id :=
    fun hne ↦ ⟨listener, request.addr, hne, hm⟩
  cases listener with
  | client =>
    dsimp only
    split
    · rename_i hp
      rw [Bool.and_eq_true] at hp
      obtain ⟨dst, ht, hl⟩ := (any_eq_true _ _).1 hp.2
      exact hc _ fun _ ↦ .inl (.loopback hm ht hl)
    · exact he.call rfl
  | _ => exact hc _ fun _ ↦ .inr (hn (by simp))

theorem resolvedAction_bypass {a : SocketAddress}
    (h : resolvedAction env c a = .forceBypass) :
    c.flags.forciblyBypassed = true ∨ (env.matchTag a "").1 = .exclusion := by
  unfold resolvedAction at h
  split at h
  · exact .inl ‹_›
  · split at h
    · cases h
    · split at h
      · exact .inr ‹_›
      · cases h

theorem steps_connectResolved {a : SocketAddress} (hl : (view t).Client k r c)
    (hu : Unserved A t k c) (h : A.general → env.mode = .general) (ho : ∀ u, A.opens u) :
    Steps A t (connectResolved t env r c a) := by
  refine .assume fun hg ↦ ?_
  have hi := hg.base.clientId_eq hl
  unfold connectResolved
  simp only
  generalize hm : Call.resolvedMatch c.clientId a (env.matchTag a "").1 = found
  have hp : isNeutral found = true := by
    rw [← hm]
    rfl
  generalize hw : (t.call found).modify r (setDestination a) = w
  have ht : Steps A t w := hw ▸ .modify (.call .refl hp) fun _ ↦ rfl
  have hcl' : (view w).Client k r (setDestination a c) :=
    hw ▸ client_modify (t := t.call found) hl
  have hu' : Unserved A w k (setDestination a c) :=
    hw ▸ hu.mono (by simp [Tunnel.call]) ⟨rfl, rfl, rfl, rfl, rfl, rfl⟩
  have hy : MayConnect A w k (setDestination a c)
      (selectUpstream (t.call found) env (resolvedAction env c a) none) := by
    refine ⟨fun hA hb ↦ ?_, fun u _ ↦ ho u, fun _ hf ↦ ?_⟩
    · rw [← hw, calls_modify]
      rcases resolvedAction_bypass (selectUpstream_bypass (h hA) hb) with hf | hx
      · exact .inl (mem_append_left _ ((hg.base.each r c hl.2).forced k hf hi))
      · refine .inr (.inl ⟨a, ?_⟩)
        rw [← hm, hi, hx]
        simp [Tunnel.call]
    · obtain ⟨x, hx, -⟩ := selectUpstream_fake hf
      cases hx
  have hc : Steps A t (connectRecord w env r (setDestination a c)
      (selectUpstream (t.call found) env (resolvedAction env c a) none)).1 :=
    ht.trans (steps_connectRecord hcl' Copy.refl hu' hy)
  split
  · exact hc
  · rename_i hn
    obtain ⟨hr, hd⟩ := current_connectRecord hcl' Copy.refl hi (by simpa using hn)
    exact hc.trans (steps_closeClientSideConnection hr (.inl hd))

theorem steps_onDestinationResolveResult {ri : ℕ} {a : Option (List SocketAddress)}
    (h : A.general → env.mode = .general) (hs : ∀ u, A.opens u) :
    Steps A t (onDestinationResolveResult t env ri a) := by
  unfold onDestinationResolveResult
  split
  · exact steps_call rfl
  · rename_i id _
    simp only
    generalize ht₁ : { t with dnsResolveWaiters := t.dnsResolveWaiters.erase ri } = t₁
    have hv : Steps A t t₁ := by
      rw [← ht₁]
      exact .of_view rfl
    refine hv.trans (.assume fun hg ↦ ?_)
    cases hk : t₁.byClientId (some id) with
    | none => exact steps_call rfl
    | some rc =>
      obtain ⟨r, c⟩ := rc
      have hl := byClientId_eq_some.1 hk
      have hi := hg.base.clientId_eq hl
      have hf := byClientId_isSome hg.base hl
      have he : ∀ ec, Steps A t₁ (closeClientSideConnection t₁ env r c ec false) :=
        fun _ ↦ steps_closeClientSideConnection (current_of_get hl.2) (.inl hf)
      have hc : Steps A t₁ (t₁.call (.cancelResolve ri)) := steps_call rfl
      have hcl' : ∀ ec, Steps A t₁
          (closeClientSideConnection (t₁.call (.cancelResolve ri)) env r c ec false) :=
        fun _ ↦ hc.trans
          (steps_closeClientSideConnection (current_of_get hl.2) (.inl hf))
      simp only
      split
      · exact hcl' _
      · rename_i ht
        rw [not_not] at ht
        split
        · exact he _
        · split
          · exact hcl' _
          · rename_i ad _
            have hu : Unserved A t₁ id c := by
              refine ⟨fun ho ↦ (hg.served ho).completed hl.2 hi (.inr (by simp [ht])),
                fun ho ↦ ((hg.served ho).each r c hl.2).resolving ht, fun _ ↦ ?_⟩
              simp [ht]
            exact hc.trans (steps_connectResolved (t := t₁.call (.cancelResolve ri)) hl
              (hu.mono (subset_append_left _ _) .refl) h hs)

end TrustTunnel.Traffic.Refine.Routing

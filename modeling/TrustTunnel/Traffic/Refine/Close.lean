import TrustTunnel.Traffic.Close
import TrustTunnel.Traffic.Refine.Basic

namespace TrustTunnel.Traffic.Refine.Close

open Function Relation Traffic.Types Moves Traffic.Close Refine.Basic Option

variable {A : Assumptions} {t t' : Tunnel} {e : Env} {r k : ℕ} {c x : VpnConnection}
  {id : Option ℕ}

/-- Only calls that no invariant looks at are added. -/
def Emits (t t' : Tunnel) : Prop :=
  ∃ calls, (∀ cl ∈ calls, isNeutral cl = true) ∧ view t' = (view t).emit calls

theorem emits_of_view (h : view t' = view t) : Emits t t' := ⟨[], by simp, by simp [h, View.emit]⟩

theorem Emits.call (h : Emits t t') {cl : Call} (hn : isNeutral cl = true) :
    Emits t (t'.call cl) := by
  obtain ⟨cs, hcs, hv⟩ := h
  refine ⟨cs ++ [cl], List.forall_mem_append.2 ⟨hcs, List.forall_mem_singleton.2 hn⟩, ?_⟩
  rw [view_call, hv]
  simp [View.emit]

theorem emits_cancelDestinationResolve : Emits t (cancelDestinationResolve t c) := by
  unfold cancelDestinationResolve
  split
  · exact emits_of_view rfl
  · next e _ => exact ⟨[.cancelResolve e.1], by simp [isNeutral], rfl⟩

theorem emits_reportDestroyed : Emits t (reportDestroyed t c) := by
  unfold reportDestroyed
  split <;> split <;> split
  all_goals first
    | exact ((emits_of_view rfl).call rfl).call rfl
    | exact (emits_of_view rfl).call rfl
    | exact emits_of_view rfl

theorem view_removeKeys (ci si : Option ℕ) :
    view ((t.removeClientId ci).removeServerId si) =
      { view t with
        byClient := eraseKey (view t).byClient ci
        byServer := eraseKey (view t).byServer si } := by
  cases ci <;> cases si <;>
    simp [Tunnel.removeClientId, Tunnel.removeServerId, view, eraseKey]

theorem view_destroyRecord :
    ∃ calls, (∀ cl ∈ calls, isNeutral cl = true) ∧
      view (destroyRecord t r c) =
        { view t with
          record := update (view t).record r none
          byClient := eraseKey (view t).byClient c.clientId
          byServer := eraseKey (view t).byServer c.serverId
          dropped := (view t).dropped ++ [r]
          calls := (view t).calls ++ calls } := by
  obtain ⟨t₁, ⟨cs, hcs, ht₁⟩, hd⟩ : ∃ t₁, Emits t t₁ ∧ destroyRecord t r c =
      (let t := reportDestroyed ((t₁.removeClientId c.clientId).removeServerId c.serverId) c
      { t with connections := t.connections.drop r }) := by
    by_cases hs : c.state = .waitingResolve
    · exact ⟨_, emits_cancelDestinationResolve (c := c),
        by simp only [destroyRecord, hs, ↓reduceIte]⟩
    · exact ⟨t, emits_of_view rfl, by simp only [destroyRecord, hs, ↓reduceIte]⟩
  obtain ⟨cs', hcs', hv⟩ := emits_reportDestroyed
    (t := (t₁.removeClientId c.clientId).removeServerId c.serverId) (c := c)
  refine ⟨cs ++ cs', List.forall_mem_append.2 ⟨hcs, hcs'⟩, ?_⟩
  have hp : ∀ t : Tunnel, view { t with connections := t.connections.drop r } =
      { view t with
        record := update (view t).record r none
        dropped := (view t).dropped ++ [r] } := fun t ↦ by simp [view]
  rw [hd, hp, hv, view_removeKeys, ht₁]
  simp [View.emit]

theorem steps_destroyRecord (hc : t.connections.get r = some c)
    (hf : Good A (view t) → (∃ k, (view t).Client k r c) ∨
      (A.once → A.streams → c.state = .waitingResponseMigrating →
        ∀ k r₀ c₀, c.migratingClientId = some k → ¬ (view t).Client k r₀ c₀)) :
    Steps A t (destroyRecord t r c) := by
  obtain ⟨cs, hn, hv⟩ := view_destroyRecord (t := t) (r := r) (c := c)
  refine .move fun hg ↦ ?_
  rw [hv]
  exact .destroy _ hc (hf hg) hn

theorem steps_destroyConnection {ci si : Option ℕ}
    (h : Good A (view t) → A.once → A.streams → t.byClientId ci = none →
      ∀ r c, t.byServerId si = some (r, c) → c.state = .waitingResponseMigrating →
        ∀ k r₀ c₀, c.migratingClientId = some k → ¬ (view t).Client k r₀ c₀) :
    Steps A t (destroyConnection t ci si) := by
  unfold destroyConnection
  cases hk : t.byClientId ci with
  | some rc =>
    obtain ⟨r, c⟩ := rc
    cases ci with
    | none => simp at hk
    | some k =>
      have hc := byClientId_eq_some.1 hk
      simp only [some_or]
      exact steps_destroyRecord hc.2 fun _ ↦ .inl ⟨k, hc⟩
  | none =>
    simp only [none_or]
    cases hs : t.byServerId si with
    | none => exact .refl
    | some rc =>
      obtain ⟨r, c⟩ := rc
      cases si with
      | none => simp at hs
      | some s =>
        exact steps_destroyRecord (byServerId_eq_some.1 hs).2 fun hg ↦
          .inr fun ho ht ↦ h hg ho ht hk r c hs

theorem steps_destroyConnection_of_client {ci si : Option ℕ}
    (h : (t.byClientId ci).isSome) : Steps A t (destroyConnection t ci si) :=
  steps_destroyConnection fun _ _ _ hn ↦ by simp [hn] at h

theorem steps_clientClosed (id : ℕ) : Steps A t (clientClosed t id) := by
  unfold clientClosed
  cases hk : t.byClientId (some id) with
  | none => exact .refl
  | some rc =>
    obtain ⟨r, c⟩ := rc
    simp only
    split
    · exact steps_destroyConnection_of_client (by simp [hk])
    · rename_i hs
      simp only [Bool.or_eq_true, not_or, Bool.not_eq_true, isNone_eq_false_iff] at hs
      split
      · exact steps_destroyConnection_of_client (by simp [hk])
      · rename_i u _
        refine .trans (.move fun _ ↦ ?_) (steps_call rfl)
        have hv : view (t.removeClientId (some id)) =
            { view t with byClient := update (view t).byClient id none } := by
          simp [Tunnel.removeClientId, view]
        rw [hv]
        obtain ⟨⟨r', c'⟩, hr'⟩ := isSome_iff_exists.1 hs.2
        cases hsid : c.serverId with
        | none => simp [hsid] at hr'
        | some s =>
          rw [hsid] at hr'
          exact .forgetClient (byClientId_eq_some.1 hk) ⟨s, r', c', hsid, byServerId_eq_some.1 hr'⟩

theorem byClient_destroyRecord (id : ℕ) (h : c.clientId = some id) :
    (destroyRecord t r c).byClientId (some id) = none := by
  obtain ⟨calls, _, hv⟩ := view_destroyRecord (t := t) (r := r) (c := c)
  rw [eq_none_iff_forall_ne_some]
  rintro ⟨r', c'⟩ hk
  have hcl := (byClientId_eq_some.1 hk).1
  rw [hv, h] at hcl
  simp [eraseKey] at hcl

theorem byClientId_clientClosed (hg : Good A (view t)) (id : ℕ) :
    (clientClosed t id).byClientId (some id) = none := by
  unfold clientClosed
  cases hk : t.byClientId (some id) with
  | none => exact hk
  | some rc =>
    obtain ⟨r, c⟩ := rc
    have hi := hg.base.clientId_eq (byClientId_eq_some.1 hk)
    have hd : (destroyConnection t (some id) c.serverId).byClientId (some id) = none := by
      simp only [destroyConnection, hk, some_or]
      exact byClient_destroyRecord id hi
    simp only
    split
    · exact hd
    · split
      · exact hd
      · simp [Tunnel.removeClientId, Tunnel.byClientId, Tunnel.call]

theorem steps_closedNow (id : Option ℕ) : Steps A t (closedNow t e id) := by
  unfold closedNow
  cases id with
  | none => exact .refl
  | some id =>
    simp only
    split
    · exact steps_clientClosed id
    · exact .refl

theorem byClientId_closedNow (hg : Good A (view t))
    (h : (closedNow t e id).byClientId id = some (r, c)) : t.byClientId id = some (r, c) := by
  cases id with
  | none => simp at h
  | some id =>
    simp only [closedNow] at h
    split at h
    · rw [byClientId_clientClosed hg id] at h
      cases h
    · exact h

def Current (t : Tunnel) (r : ℕ) (c : VpnConnection) : Prop :=
  ∃ x, t.connections.get r = some x ∧ x.clientId = c.clientId ∧ x.state = c.state

theorem current_of_get (h : t.connections.get r = some c) : Current t r c := ⟨c, h, rfl, rfl⟩

theorem Current.modify (h : Current t r c) {f : VpnConnection → VpnConnection}
    (hi : ∀ c, (f c).clientId = c.clientId) (hs : ∀ c, (f c).state = c.state) :
    Current (t.modify r f) r c := by
  obtain ⟨x, hx, hd, hxs⟩ := h
  exact ⟨f x, get_modify hx, (hi x).trans hd, (hs x).trans hxs⟩

theorem steps_rejectClient {l : Listener} {ec : ErrorCode}
    (h : Good A (view t) → A.once → ∀ r c, t.byClientId id = some (r, c) →
      c.state ≠ .connectedMigrating) : Steps A t (rejectClient t e l id ec) := by
  refine .assume fun hg ↦ ?_
  have hc : Steps A t (t.call (.completeConnectRequest l id
      (serverErrorToConnectResult ec))) := steps_call rfl
  have hn : Steps A t (closedNow (t.call (.completeConnectRequest l id
      (serverErrorToConnectResult ec))) e id) := hc.trans (steps_closedNow id)
  unfold rejectClient
  simp only
  split
  · exact hn
  · split
    · exact hn
    · rename_i r c hk
      refine hn.trans (steps_modify fun x hx ↦ ?_)
      cases id with
      | none => simp at hk
      | some k =>
        have hl := byClientId_eq_some.1 hk
        have hb := (hn.good hg).base
        have hx' : x = c := some.inj (hx.symm.trans hl.2)
        subst hx'
        have hd := byClientId_closedNow (hc.good hg) hk
        exact quiet_state (hb.notReplacing hl) (fun ho ↦ h hg ho r x hd) (by simp)
          nofun fun _ he ↦ absurd rfl he

/-- A connection that is closed makes moves, whether it migrates, waits or is connected. -/
theorem steps_closeClientSideConnection {ec : ErrorCode} {async : Bool} (hc : Current t r c)
    (hl : (t.byClientId c.clientId).isSome ∨ (t.lockListener c).isSome) :
    Steps A t (closeClientSideConnection t env r c ec async) := by
  have ht : ∀ l ec, c.state ≠ .connectedMigrating →
      Steps A t (rejectClient t env l c.clientId ec) := by
    intro l ec hs
    refine steps_rejectClient fun hg _ r' c' hk ↦ ?_
    obtain ⟨x, hx, hi, hst⟩ := hc
    cases hck : c.clientId with
    | none => simp [hck] at hk
    | some k =>
      rw [hck] at hk hi
      have hcl := byClientId_eq_some.1 hk
      have hr := hg.base.left.unique r' r c' x k hcl.2 hx (hg.base.clientId_eq hcl) hi
      subst hr
      have hcx : c' = x := some.inj (hcl.2.symm.trans hx)
      rw [hcx, hst]
      exact hs
  unfold closeClientSideConnection
  split
  · rename_i hn
    exact steps_destroyConnection_of_client (hl.resolve_right (by simp [hn]))
  · rename_i l _
    have he : Steps A t
        (if async then t.call (.closeClient l c.clientId (ec == .none) async)
        else closedNow (t.call (.closeClient l c.clientId (ec == .none) async)) env
          c.clientId) := by
      split
      · exact steps_call rfl
      · exact .trans (steps_call rfl) (steps_closedNow c.clientId)
    have hw : c.state ≠ .connectedMigrating → Steps A t
        (if !async then
          rejectClient t env l c.clientId (if ec = .none then .connRefused else ec)
        else if c.completeConnectRequestTask.isSome then t
        else t.modify r fun x ↦
          { x with
            completeConnectRequestTask :=
              some ⟨x.clientId, if ec = .none then .connRefused else ec⟩ }) := by
      intro hs
      split
      · exact ht _ _ hs
      · split
        · exact .refl
        · exact steps_of_core fun _ ↦ rfl
    cases hs : c.state <;> simp only [hs] at hw ⊢
    case waitingResponseMigrating => exact .refl
    case waitingAccept => exact he
    case connected => exact he
    case connectedMigrating => exact he
    case rejected => exact he
    all_goals exact hw (by simp)

theorem byClientId_modify {f : VpnConnection → VpnConnection} :
    ((t.modify r f).byClientId id).isSome = (t.byClientId id).isSome := by
  cases id with
  | none => rfl
  | some k =>
    simp only [Tunnel.byClientId, bind_some, leftRef_modify]
    cases t.connections.leftRef k with
    | none => rfl
    | some a => simpa using get_modify_isSome a

/-- The deferred completion of a connect request makes moves. -/
theorem steps_completeConnectRequestTask {cx : CompleteConnectRequestCtx} :
    Steps A t (completeConnectRequestTask t e cx) := by
  refine .assume fun hg ↦ ?_
  unfold completeConnectRequestTask
  cases hk : t.byClientId cx.listenerConnId with
  | none => exact .refl
  | some rc =>
    obtain ⟨r, c⟩ := rc
    simp only
    generalize hw : t.modify r (fun c ↦ { c with completeConnectRequestTask := none }) = w
    have hc : Steps A t w := hw ▸ steps_of_core fun _ ↦ rfl
    have hf : (w.byClientId cx.listenerConnId).isSome := by
      rw [← hw, byClientId_modify]
      simp [hk]
    split
    · exact hc.trans (steps_destroyConnection_of_client hf)
    · rename_i l _
      have ht : c.state ≠ .connectedMigrating →
          Steps A t (rejectClient w e l c.clientId cx.errCode) := by
        intro hs
        refine hc.trans (steps_rejectClient fun hg' _ r' c' hk' ↦ ?_)
        cases hid : cx.listenerConnId with
        | none => simp [hid] at hk
        | some k =>
          rw [hid] at hk
          have hcl := byClientId_eq_some.1 hk
          rw [hg.base.clientId_eq hcl, ← hw] at hk'
          obtain ⟨hl, hr⟩ := byClientId_eq_some.1 hk'
          have hrr : r' = r := by
            have hl' : t.connections.leftRef k = some r' := by
              simpa only [view, leftRef_modify] using hl
            exact some.inj (hl'.symm.trans hcl.1)
          subst hrr
          have hge := get_modify (f := fun c ↦ { c with completeConnectRequestTask := none })
            (show t.connections.get r' = some c from hcl.2)
          rw [show c' = _ from some.inj (hr.symm.trans hge)]
          exact hs
      have he : Steps A t (closedNow (w.call (.closeClient l cx.listenerConnId false false)) e
          cx.listenerConnId) :=
        hc.trans (.trans (steps_call rfl) (steps_closedNow _))
      cases hs : c.state <;> simp only [hs] at ht ⊢
      case waitingResolve => exact ht (by simp)
      case waitingResponse => exact ht (by simp)
      case waitingAction => exact ht (by simp)
      all_goals exact he

theorem steps_closeEach {f : VpnConnection → VpnConnection} (h : ∀ c, core (f c) = core c)
    (i : List ℕ) : Steps A t (closeEach t e f i) := by
  have hc : ∀ c, Copy c (f c) := fun c ↦ copy_of_place (place_of_core (h c))
  unfold closeEach
  induction i generalizing t with
  | nil => exact .refl
  | cons id i ih =>
    rw [List.foldl_cons]
    refine .trans ?_ ih
    split
    · exact .refl
    · rename_i r c hk
      refine .assume fun hg ↦ ?_
      have hm : Steps A t (t.modify r f) := steps_of_core h
      refine hm.trans ?_
      have hl := byClientId_eq_some.1 hk
      refine steps_closeClientSideConnection ((current_of_get hl.2).modify
        (fun c ↦ (hc c).clientId) fun c ↦ (hc c).state) (.inl ?_)
      rw [byClientId_modify, hg.base.clientId_eq hl]
      simp [hk]

theorem steps_closeClientSide {u : Upstream} : Steps A t (closeClientSide t e u) := by
  have hm : ∀ c, core (markSessionClosed c) = core c := fun _ ↦ rfl
  exact steps_closeEach hm _

theorem steps_onBeforeEndpointDisconnect {u : Option Upstream} :
    Steps A t (onBeforeEndpointDisconnect t e u) := by
  unfold onBeforeEndpointDisconnect
  split
  · exact .refl
  · have hc : Steps A t (closeEach t e id (clientIds t fun _ ↦ true)) :=
      steps_closeEach (fun _ ↦ rfl) _
    exact hc.trans (.of_view rfl)

theorem steps_onAfterEndpointDisconnect {u : Upstream} :
    Steps A t (onAfterEndpointDisconnect t u) := by
  unfold onAfterEndpointDisconnect
  generalize clientIds t _ = i
  induction i generalizing t with
  | nil => exact .refl
  | cons id i ih =>
    rw [List.foldl_cons]
    refine .trans ?_ ih
    split
    · exact .refl
    · rename_i r c _
      have hm : Steps A t (t.modify r markSessionClosed) := steps_of_core fun _ ↦ rfl
      simp only
      split
      · exact hm.trans (steps_call rfl)
      · exact hm

end TrustTunnel.Traffic.Refine.Close

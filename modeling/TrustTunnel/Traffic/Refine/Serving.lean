import TrustTunnel.Traffic.Refine.Reading
import TrustTunnel.Traffic.Serving

namespace TrustTunnel.Traffic.Refine.Serving

open Function Relation Lib.TwoKeyStore Traffic.Types Moves Option
open Traffic.Close Traffic.Routing Traffic.Reading Traffic.Serving
open Refine.Basic Refine.Close Refine.Routing Refine.Reading

variable {A : Assumptions} {t t' : Tunnel} {e : Env} {r k : ℕ} {c x : VpnConnection}
  {label : Env × Input} {listener : Listener} {id : Option ℕ} {upstream : Upstream}
  {c₀ : VpnConnection} {r₀ : ℕ}

def unawaited (t : Tunnel) (id : Option ℕ) : Prop :=
  ∀ r c, t.byServerId id = some (r, c) → c.state = .waitingResponseMigrating →
    t.byClientId c.migratingClientId = none

theorem not_client (h : t.byClientId (some k) = none) : ¬ (view t).Client k r c := by
  intro hc
  rw [byClientId_eq_some.2 hc] at h
  cases h

theorem byServerId_serverId (hs : Served (view t)) {s : ℕ} (h : (view t).Server s r c) :
    t.byServerId c.serverId = some (r, c) := by
  rw [hs.serverId_eq h]
  exact byServerId_eq_some.2 h

theorem steps_destroyFound (hk : t.byServerId id = some (r, c))
    (hu : Good A (view t) → A.once → A.streams → c.state = .waitingResponseMigrating →
      t.byClientId c.migratingClientId = none) :
    Steps A t (destroyConnection t c.clientId c.serverId) := by
  cases id with
  | none => simp at hk
  | some s =>
    have hs := byServerId_eq_some.1 hk
    refine steps_destroyConnection fun hg ho hA _ r' c' hk' ht k r₀ c₀ hm ↦ ?_
    rw [byServerId_serverId (hg.served ho) hs] at hk'
    cases hk'
    have hn := hu hg ho hA ht
    rw [hm] at hn
    exact not_client hn

theorem steps_removeServerId (hk : t.byServerId id = some (r, c))
    (hc : (t.byClientId c.clientId).isSome) : Steps A t (t.removeServerId c.serverId) := by
  cases id with
  | none => simp at hk
  | some s =>
    have hsv := byServerId_eq_some.1 hk
    refine .move fun _ ↦ ?_
    have hv : view (t.removeServerId c.serverId) =
        { view t with byServer := eraseKey (view t).byServer c.serverId } := by
      cases hs : c.serverId <;> simp [Tunnel.removeServerId, view, eraseKey]
    rw [hv]
    obtain ⟨⟨r', c'⟩, hk'⟩ := isSome_iff_exists.1 hc
    cases hid : c.clientId with
    | none => simp [hid] at hk'
    | some k =>
      rw [hid] at hk'
      exact .forgetServer hsv ⟨k, r', c', hid, byClientId_eq_some.1 hk'⟩

theorem removeServerId_client {id' : Option ℕ} :
    (t.removeServerId id).byClientId id' = t.byClientId id' := by
  cases id <;> rfl

theorem removeServerId_get : (t.removeServerId id).connections.get = t.connections.get := by
  cases id <;> rfl

theorem get_of_byServerId (h : t.byServerId id = some (r, c)) : t.connections.get r = some c := by
  cases id with
  | none => simp at h
  | some s => exact (byServerId_eq_some.1 h).2

theorem steps_serverClosed (hu : A.once → A.streams → unawaited t id) :
    Steps A t (serverClosed t e id) := by
  unfold serverClosed
  cases hk : t.byServerId id with
  | none => exact .refl
  | some rc =>
    obtain ⟨r, c⟩ := rc
    simp only
    split
    · rename_i hc
      simp only [Bool.and_eq_true] at hc
      have hr := steps_removeServerId (A := A) hk hc.1
      refine .trans (hr.call rfl) (steps_closeClientSideConnection (current_of_get ?_) (.inl ?_))
      · exact (congrFun removeServerId_get r).trans (get_of_byServerId hk)
      · rw [byClientId_call, removeServerId_client]
        exact hc.1
    · exact steps_destroyFound hk fun _ ho hA hs ↦ hu ho hA r c hk hs

theorem steps_acceptNow : Steps A t (acceptNow t e listener id) := by
  unfold acceptNow
  have hc : Steps A t (t.call (.completeConnectRequest listener id .pass)) := steps_call rfl
  cases id with
  | none => exact hc
  | some id =>
    simp only
    split
    · exact hc.trans steps_clientAccepted
    · exact hc

theorem steps_closeOldServer (hu : A.once → A.streams → unawaited t c.serverId) :
    Steps A t (closeOldServer t e c) := by
  unfold closeOldServer
  split
  · exact .refl
  · rename_i u _
    have hc : Steps A t (t.call (.closeServer u c.serverId false false)) := steps_call rfl
    simp only
    split
    · exact hc.trans (steps_serverClosed hu)
    · exact hc

theorem get_closeOldServer (hc : ∀ r' c', t.byServerId c.serverId = some (r', c') →
    r' ≠ r ∧ c'.clientId = none ∧ c'.serverId = c.serverId) :
    (closeOldServer t e c).connections.get r = t.connections.get r := by
  unfold closeOldServer
  split
  · rfl
  · simp only
    split
    · unfold serverClosed
      simp only [byServerId_call]
      cases hk : t.byServerId c.serverId with
      | none => rfl
      | some rc =>
        obtain ⟨r', c'⟩ := rc
        obtain ⟨hn, hi, hs⟩ := hc r' c' hk
        obtain ⟨cs, -, hv⟩ := @view_destroyRecord
          (t.call (.closeServer _ c.serverId false false)) r' c'
        simp only [hi, hs, byClientId_none, isSome_none, Bool.false_and,
          Bool.false_eq_true, if_false, destroyConnection, byServerId_call, hk, none_or]
        exact (congrFun (congrArg View.record hv) r).trans (update_of_ne hn.symm _ _)
    · rfl

def attached (t : Tunnel) (c : VpnConnection) : Prop :=
  ∀ r₀ c₀, t.byClientId c.migratingClientId = some (r₀, c₀) →
    ∃ c', t.byServerId c₀.serverId = some (r₀, c')

theorem switches_takeOver (hid : c₀.clientId = some k) (h : c.clientId = none) :
    Switches k c (takeOver c₀ c) c₀ (handOver c c₀) where
  clientId := hid
  serverId := rfl
  proto := rfl
  migratingClientId := rfl
  state := rfl
  upstream := rfl
  forced := rfl
  buffered hp := by simp [takeOver, hp]
  marks := rfl
  old_clientId := h
  old_serverId := rfl
  old_state := rfl
  old_migratingClientId := rfl
  old_forced := rfl
  old_marks := rfl

theorem view_switchUpstream (hr : t.connections.get r = some c)
    (hr₀ : t.connections.get r₀ = some c₀) (hn : r ≠ r₀) :
    view (switchUpstream t r c r₀ c₀) =
      { view t with
        record := update (update (view t).record r₀ (some (handOver c c₀))) r
          (some (takeOver c₀ c))
        byClient := c₀.clientId.elim (view t).byClient fun k ↦ update (view t).byClient k (some r)
        byServer := c.serverId.elim (view t).byServer fun s ↦
          update (view t).byServer s (some r) } := by
  have hget₀ : (t.modify r (takeOver c₀)).connections.get r₀ = some c₀ := by
    rw [modify_eq hr]
    simp [hr₀, hn.symm]
  have hg : ((t.modify r (takeOver c₀)).modify r₀ (handOver c)).connections.get r =
      some (takeOver c₀ c) := by
    rw [modify_eq hget₀, modify_eq hr]
    simp [hn]
  unfold switchUpstream
  rw [view_addConnection hg, view_modify hget₀, view_modify hr]
  simp only [View.put, takeOver]
  rw [update_comm hn]

theorem steps_switchUpstream {s : ℕ} (hr : (view t).Server s r c)
    (ht : c.state = .waitingResponseMigrating) (hm : c.migratingClientId = some k)
    (hk : (view t).Client k r₀ c₀) (ha : A.attached → attached t c) :
    Steps A t (switchUpstream t r c r₀ c₀) := by
  refine .assume fun hg ↦ .move fun _ ↦ ?_
  have hi := hg.base.clientId_eq hk
  have hn := ((hg.base.each r c hr.2).replacing ht).1
  rw [view_switchUpstream hr.2 hk.2 (hg.base.replacement_ne hr.2 ht hk), hi, elim_some]
  refine .switch hr ht hm hk (fun hA ↦ ?_) (switches_takeOver hi hn)
  obtain ⟨c', hc'⟩ := ha hA r₀ c₀ (by rw [hm]; exact byClientId_eq_some.2 hk)
  cases hs : c₀.serverId with
  | none => simp [hs] at hc'
  | some s₀ =>
    rw [hs] at hc'
    exact ⟨s₀, rfl, (byServerId_eq_some.1 hc').1⟩

theorem get_switchUpstream (hr : t.connections.get r = some c)
    (hr₀ : t.connections.get r₀ = some c₀) (hn : r ≠ r₀) :
    (switchUpstream t r c r₀ c₀).connections.get r = some (takeOver c₀ c) ∧
      (switchUpstream t r c r₀ c₀).connections.get r₀ = some (handOver c c₀) := by
  have hv : (switchUpstream t r c r₀ c₀).connections.get =
      update (update t.connections.get r₀ (some (handOver c c₀))) r (some (takeOver c₀ c)) :=
    congrArg View.record (view_switchUpstream hr hr₀ hn)
  rw [hv]
  refine ⟨update_self .., ?_⟩
  rw [update_of_ne hn.symm, update_self]

theorem byServerId_switchUpstream {r' : ℕ} {c' : VpnConnection} (hr : t.connections.get r = some c)
    (hr₀ : t.connections.get r₀ = some c₀) (hn : r ≠ r₀)
    (hs : Served (view (switchUpstream t r c r₀ c₀)))
    (hk : (switchUpstream t r c r₀ c₀).byServerId c₀.serverId = some (r', c')) :
    r' = r₀ ∧ c' = handOver c c₀ := by
  cases hid : c₀.serverId with
  | none => simp [hid] at hk
  | some s₀ =>
    rw [hid] at hk
    have hv := byServerId_eq_some.1 hk
    have ho := (get_switchUpstream hr hr₀ hn).2
    obtain rfl := hs.right.unique r' r₀ c' _ s₀ hv.2 ho (hs.serverId_eq hv) hid
    exact ⟨rfl, some.inj (hv.2.symm.trans ho)⟩

theorem steps_scheduleSendBufferedData (h : A.once → A.fake → ∀ x, t.connections.get r = some x →
    x.upstream ≠ some .fake ∧ ∀ k, x.clientId = some k → Completed t.calls k) :
    Steps A t (scheduleSendBufferedData t r) :=
  steps_modify fun x hx ↦ ⟨kept_of_place rfl .inl fun ho hf ↦ ⟨id, .intro, .inl, fun k hk ↦
    .inr ⟨some.inj hk, (h ho hf x hx).1, (h ho hf x hx).2 k (some.inj hk)⟩⟩, fun _ ↦ rfl⟩

theorem steps_completeMigration {id : ℕ} (hr : (view t).Server id r c)
    (ht : c.state = .waitingResponseMigrating) (ha : A.attached → attached t c)
    (h : A.fake → c.upstream ≠ some .fake) :
    Steps A t (completeMigration t e upstream id r c) := by
  refine .assume fun hg ↦ ?_
  unfold completeMigration
  cases hk : t.byClientId c.migratingClientId with
  | none => exact steps_call rfl
  | some rc =>
    obtain ⟨r₀, c₀⟩ := rc
    cases hm : c.migratingClientId with
    | none => simp [hm] at hk
    | some k =>
      rw [hm] at hk
      have hcl := byClientId_eq_some.1 hk
      have hn := hg.base.replacement_ne hr.2 ht hcl
      have hh := steps_switchUpstream hr ht hm hcl ha
      have hd : A.once → ∀ r' c', (switchUpstream t r c r₀ c₀).byServerId c₀.serverId =
          some (r', c') → r' = r₀ ∧ c' = handOver c c₀ := fun ho _ _ ↦
        byServerId_switchUpstream hr.2 hcl.2 hn ((hh.good hg).served ho)
      have hol : Steps A (switchUpstream t r c r₀ c₀)
          (closeOldServer (switchUpstream t r c r₀ c₀) e c₀) := by
        refine steps_closeOldServer fun ho _ r' c' hk' hs ↦ ?_
        obtain ⟨-, rfl⟩ := hd ho r' c' hk'
        exact (hg.base.notReplacing hcl hs).elim
      have hc := hh.trans hol
      simp only
      split
      · exact hc
      · split
        · exact hc.call rfl
        · refine hc.trans (steps_scheduleSendBufferedData fun ho hf x hx ↦ ?_)
          rw [get_closeOldServer, (get_switchUpstream hr.2 hcl.2 hn).1] at hx
          · cases hx
            refine ⟨h hf, fun j hj ↦ ?_⟩
            obtain rfl := some.inj ((hg.base.clientId_eq hcl).symm.trans hj)
            exact (((hg.served ho).each r c hr.2).moved k hm).mono
              (subset_of_moves (hc hg))
          · intro r' c' hk'
            obtain ⟨rfl, rfl⟩ := hd ho r' c' hk'
            exact ⟨hn.symm, ((hg.base.each r c hr.2).replacing ht).1, rfl⟩

theorem steps_serverOpened {id : ℕ} (ha : A.attached → ∀ r c, t.byServerId (some id) = some (r, c) →
      c.state = .waitingResponseMigrating → attached t c)
    (h : A.fake → ∀ r c, t.connections.get r = some c → c.state = .waitingResponseMigrating →
      c.upstream ≠ some .fake) :
    Steps A t (serverOpened t e upstream id) := by
  refine .assume fun hg ↦ ?_
  have hc : Steps A t (t.call (.closeServer upstream (some id) false true)) := steps_call rfl
  unfold serverOpened
  cases hk : t.byServerId (some id) with
  | none => exact hc
  | some rc =>
    obtain ⟨r, c⟩ := rc
    have hv := byServerId_eq_some.1 hk
    simp only
    split
    · exact hc
    · split
      · exact hc
      · split
        · rename_i hs
          have hr : Steps A t (reportConnectionInfo t e r
              (some c.domainExtractorResult.domain)) := notes_reportConnectionInfo.steps
          have hh : Harmless t (reportConnectionInfo t e r
              (some c.domainExtractorResult.domain)) := notes_reportConnectionInfo.harmless
          obtain ⟨x, hx, he⟩ := hh.exists_get hv.2
          have ho := copy_of_essentials he
          have hxs : x.state = .waitingResponse := ho.state.trans hs
          have hw : Steps A t ((reportConnectionInfo t e r
              (some c.domainExtractorResult.domain)).modify r
                fun c ↦ { c with state := .waitingAccept }) := by
            refine hr.trans (steps_modify fun y hy ↦ ?_)
            obtain rfl : x = y := some.inj (hx.symm.trans hy)
            exact quiet_state (by simp [hxs]) (fun _ ↦ by simp [hxs]) (by simp) nofun
              fun _ _ ↦ .inl (.inr (by simp [hxs]))
          exact hw.trans steps_acceptNow
        · rename_i hs
          exact steps_completeMigration hv hs (fun hA ↦ ha hA r c hk hs)
            fun hA ↦ h hA r c hv.2 hs
        · exact hc

theorem steps_sendToClient {d : Packet} : Steps A t (sendToClient t e r c d).1 := by
  unfold sendToClient
  split
  · exact .refl
  · exact .call (.modify .refl fun _ ↦ rfl) rfl

theorem steps_serverRead {id : ℕ} {d : Packet} : Steps A t (serverRead t e upstream id d).1 := by
  unfold serverRead
  cases hk : t.byServerId (some id) with
  | none => exact .refl
  | some rc =>
    obtain ⟨r, c⟩ := rc
    have hv := byServerId_eq_some.1 hk
    simp only
    split
    · exact .refl
    · rename_i hl
      simp only [Bool.or_eq_true, not_or, Bool.not_eq_true, isNone_eq_false_iff] at hl
      split
      · have hn := @notes_passThroughDomainLookup t e r c .incoming
        generalize passThroughDomainLookup t e r c .incoming = res at hn ⊢
        obtain ⟨t₁, a⟩ := res
        have ht : Steps A t t₁ := hn.steps
        have hh : Harmless t t₁ := hn.harmless
        have hcl : ∀ ec, Steps A t
            (closeClientSideConnection t₁ e r c ec false) := by
          intro ec
          obtain ⟨x, hx, he⟩ := hh.exists_get hv.2
          have hc := copy_of_essentials he
          refine ht.trans (steps_closeClientSideConnection ⟨x, hx, hc.clientId, hc.state⟩ (.inr ?_))
          rw [hh.listener]
          exact hl.2
        have hs : ∀ t₂, Steps A t t₂ → Steps A t (sendToClient t₂ e r c d).1 :=
          fun _ h ↦ h.trans steps_sendToClient
        cases a <;> simp only
        case done => exact hs _ (ht.modify fun _ ↦ rfl)
        case shutdown => exact hcl _
        case block => exact hcl _
        all_goals exact hs _ ht
      · exact steps_sendToClient

theorem steps_serverDataSent {id : ℕ} (hu : A.fake → upstream ≠ .fake) :
    Steps A t (serverDataSent t e upstream id) := by
  refine .assume fun hg ↦ ?_
  unfold serverDataSent
  split
  · exact .refl
  · rename_i r c hk
    have hv := byServerId_eq_some.1 hk
    split
    · exact steps_call rfl
    · rename_i hl
      simp only [Bool.or_eq_true, decide_eq_true_eq, not_or, not_not] at hl
      split
      · simp only
        have hc : Steps A t (t.call (.turnRead c.clientId e.canSend)) := steps_call rfl
        split
        · exact hc
        · refine hc.trans (steps_scheduleSendBufferedData fun ho hf x hx ↦ ?_)
          obtain rfl : c = x := some.inj (hv.2.symm.trans hx)
          refine ⟨fun he ↦ hu hf ?_, fun k hi ↦ ?_⟩
          · exact some.inj ((lockUpstream_eq hl.1).symm.trans he)
          · refine Completed.mono ?_ (subset_of_moves (hc hg))
            by_contra hno
            have hs := (((hg.served ho).each r c hv.2).unserved k hi hno).1
            rw [(hg.served ho).serverId_eq hv] at hs
            cases hs
      · exact .refl

theorem steps_failMigration : Steps A t (failMigration t upstream c) := by
  unfold failMigration
  simp only
  split
  · split
    · exact .refl
    · exact steps_call rfl
  · split
    · exact steps_call rfl
    · exact .call (steps_call rfl) rfl

theorem steps_serverError {ec : ErrorCode} : Steps A t (serverError t e upstream id ec) := by
  unfold serverError
  split
  · exact steps_closeClientSide
  · cases hk : t.byServerId id with
    | none => exact .refl
    | some rc =>
      obtain ⟨r, c⟩ := rc
      simp only
      split
      · exact steps_failMigration
      · rename_i ht
        split
        · rename_i hc
          refine (steps_removeServerId hk hc).trans (steps_closeClientSideConnection
            (current_of_get ?_) (.inl ?_))
          · exact (congrFun removeServerId_get r).trans (get_of_byServerId hk)
          · rw [removeServerId_client]
            exact hc
        · exact steps_destroyFound hk fun _ _ _ hs ↦ absurd hs ht

def isCompleted (calls : List Call) (k : ℕ) : Bool :=
  calls.any fun
    | .completed j _ => j == k
    | _ => false

theorem isCompleted_iff {cs : List Call} : isCompleted cs k = true ↔ Completed cs k := by
  simp only [isCompleted, List.any_eq_true, Completed]
  constructor
  · rintro ⟨c, hm, hc⟩
    split at hc
    · rename_i j a
      exact ⟨a, by simpa using (beq_iff_eq.1 hc) ▸ hm⟩
    · cases hc
  · rintro ⟨a, hm⟩
    exact ⟨_, hm, by simp⟩

/-- `complete_connect_request` is not called for a connection a second time. -/
def completesOnce (t : Tunnel) (label : Env × Input) : Bool :=
  match label.2 with
  | .completeConnectRequest id _ => !isCompleted t.calls id
  | _ => true

def opensAttached (t : Tunnel) (label : Env × Input) : Bool :=
  match label.2 with
  | .serverOpened _ id =>
    (t.byServerId (some id)).all fun (_, c) ↦
      c.state != .waitingResponseMigrating ||
        (t.byClientId c.migratingClientId).all fun (r₀, c₀) ↦
          (t.byServerId c₀.serverId).any fun (r, _) ↦ r == r₀
  | _ => true

/-- No TCP connection migrates after data was sent or is read while it migrates, and no replacement
is closed while it is waited for. -/
def staysWhole (t : Tunnel) (label : Env × Input) : Bool :=
  match label.2 with
  | .clientRead id _ =>
    (t.byClientId (some id)).all fun (_, c) ↦
      c.proto != .tcp ||
        (c.state != .connectedMigrating &&
          (!(c.flags.fakeConnection || (c.flags.lookingupDomain && c.flags.firstPacket &&
              findsExclusion label.1)) ||
            sentOn t.calls c.serverId == []))
  | .serverClosed id =>
    (t.byServerId (some id)).all fun (_, c) ↦
      c.state != .waitingResponseMigrating || (t.byClientId c.migratingClientId).isNone
  | _ => true

theorem readsWhole_of_staysWhole {id : ℕ} {p : Packet}
    (h : staysWhole t (e, .clientRead id p) = true) : readsWhole t e id := by
  intro r c hk hp
  simp only [staysWhole, hk, all_some, hp, bne_self_eq_false, Bool.false_or,
    Bool.and_eq_true, bne_iff_ne, ne_eq, Bool.or_eq_true, Bool.not_eq_true'] at h
  refine ⟨h.1, fun hm ↦ ?_⟩
  rcases h.2 with hn | hemp
  · simp only [Bool.or_eq_false_iff, Bool.and_eq_false_iff] at hn
    rcases hm with hf | ⟨hl, hf, hs⟩
    · simp [hn.1] at hf
    · rcases hn.2 with (h | h) | h
      · simp [h] at hl
      · simp [h] at hf
      · simp [hs] at h
  · simpa using hemp

theorem unawaited_of_staysWhole {id : ℕ}
    (h : staysWhole t (e, .serverClosed id) = true) : unawaited t (some id) := by
  intro r c hk hs
  simpa [staysWhole, hk, hs] using h

theorem attached_of_opensAttached {id : ℕ}
    (h : opensAttached t (e, .serverOpened upstream id) = true)
    (hk : t.byServerId (some id) = some (r, c)) (ht : c.state = .waitingResponseMigrating) :
    attached t c := by
  intro r₀ c₀ hk₀
  simp only [opensAttached, hk, all_some, ht, bne_self_eq_false, Bool.false_or, hk₀] at h
  obtain ⟨⟨r', c'⟩, hs, hr⟩ := (any_eq_true _ _).1 h
  obtain rfl : r' = r₀ := by simpa using hr
  exact ⟨c', hs⟩

theorem not_announced_of_possible {r : ClientConnectRequest}
    (h : possible t (.connectRequest listener r) = true) : ¬ Announced t.calls r.id := by
  rintro ⟨l, a, hm⟩
  simp only [possible, Bool.and_eq_true, List.all_eq_true] at h
  have := h.1 _ hm
  simp at this

structure LeavesFake (t : Tunnel) (input : Input) : Prop where
  untasked : ∀ k, ¬ Completed t.calls k → (view t).Untasked k
  replaced : ∀ r c, t.connections.get r = some c → c.state = .waitingResponseMigrating →
    c.upstream ≠ some .fake
  sent : ∀ upstream id, input = .serverDataSent upstream id → upstream ≠ .fake
  task : ∀ id, input = .sendTask id → ∀ r c, t.byClientId id = some (r, c) → c.upstream ≠ some .fake

structure Meets (A : Assumptions) (t : Tunnel) (label : Env × Input) : Prop where
  general : A.general → label.1.mode = .general
  once : A.once → completesOnce t label = true
  attached : A.attached → opensAttached t label = true
  streams : A.streams → staysWhole t label = true
  migrates : ∀ id packet, label.2 = .clientRead id packet →
    ∀ r c, t.byClientId (some id) = some (r, c) → MayMove A t label.1 id r c
  excused : A.general → ∀ id, label.2 = .completeConnectRequest id (some .forceBypass) →
    Excused t.calls id ∨ Foreign t.calls id
  fake : A.fake → A.once ∧ LeavesFake t label.2
  opens : (∀ id packet, label.2 ≠ .clientRead id packet) → ∀ u, A.opens u

structure Lenient (A : Assumptions) : Prop where
  fake : ¬ A.fake
  opens : ∀ u, A.opens u

theorem Lenient.mayOpen (h : Lenient A) : MayOpen A := fun u _ ↦ h.opens u

/-- An input meets lenient assumptions if it meets those that are made. -/
theorem Lenient.meets (h : Lenient A) (hl : A.general → label.1.mode = .general ∧
      ∀ id, label.2 = .completeConnectRequest id (some .forceBypass) →
        Excused t.calls id ∨ Foreign t.calls id)
    (he : A.once → completesOnce t label = true)
    (hd : A.attached → opensAttached t label = true)
    (hs : A.streams → staysWhole t label = true)
    (hm : ∀ id p, label.2 = .clientRead id p →
      ∀ r c, t.byClientId (some id) = some (r, c) → MayMove A t label.1 id r c) :
    Meets A t label where
  general hA := (hl hA).1
  once := he
  attached := hd
  streams := hs
  migrates := hm
  excused hA := (hl hA).2
  fake hA := absurd hA h.fake
  opens _ := h.opens

theorem Lenient.mayMove (h : Lenient A) (hm : ∀ k s u, A.migrates k s u) :
    ∀ id p, label.2 = .clientRead id p →
      ∀ r c, t.byClientId (some id) = some (r, c) → MayMove A t label.1 id r c :=
  fun _ _ _ _ _ _ ↦ ⟨fun _ _ ↦ ⟨h.mayOpen, fun _ _ _ ↦ hm _ _ _⟩,
    fun _ _ ↦ ⟨h.mayOpen, fun _ ↦ hm _ _ _⟩, fun hA ↦ absurd hA h.fake,
    fun hA ↦ absurd hA h.fake⟩

theorem handle_steps {i : Input} (hp : possible t i = true) (hm : Meets A t (e, i)) :
    Steps A t (handle t e i) := by
  refine .assume fun hg ↦ ?_
  have he : A.general → e.mode = .general := hm.general
  cases i with
  | connectRequest l rt =>
    have hn := not_announced_of_possible hp
    exact steps_connectRequest hn he
      (fun hA ↦ (hm.fake hA).2.untasked _ fun hd ↦ hn (hg.base.announced _ hd)) (hm.opens nofun)
  | clientAccepted l id => exact steps_clientAccepted
  | clientClosed id => exact steps_clientClosed id
  | clientRead id p =>
    refine steps_clientRead (fun r c hk ↦ ?_)
      (fun hA ↦ readsWhole_of_staysWhole (hm.streams hA)) he (hm.migrates id p rfl)
    simpa [possible, Tunnel.listening, hk] using hp
  | sessionOpened u =>
    simp only [handle, sessionOpened]
    split
    · exact .of_view rfl
    · exact .refl
  | sessionClosed u => exact steps_closeClientSide
  | serverOpened u id =>
    exact steps_serverOpened
      (fun hA r c hk hs ↦ attached_of_opensAttached (hm.attached hA) hk hs)
      fun hA ↦ (hm.fake hA).2.replaced
  | serverClosed id => exact steps_serverClosed fun _ hA ↦ unawaited_of_staysWhole (hm.streams hA)
  | serverRead u id d => exact steps_serverRead
  | serverDataSent u id =>
    exact steps_serverDataSent fun hA ↦ (hm.fake hA).2.sent u id rfl
  | serverError u id ec => exact steps_serverError
  | completeConnectRequest id an =>
    have hno : A.once → ¬ Completed t.calls id := by
      intro ho hd
      have hno := hm.once ho
      simp [completesOnce, isCompleted_iff.2 hd] at hno
    exact steps_completeConnectRequest hno he (fun hA ha ↦ hm.excused hA id (by rw [ha]))
      (fun hA ↦ (hm.fake hA).2.untasked id (hno (hm.fake hA).1)) (hm.opens nofun)
  | finalizeConnectAction rt => exact steps_finalizeConnectAction
  | resolveResult ri a =>
    exact steps_onDestinationResolveResult he (hm.opens nofun)
  | completeTask ctx => exact steps_completeConnectRequestTask
  | sendTask id => exact steps_sendBufferedData fun hA ↦ (hm.fake hA).2.task id rfl
  | resetConnectionsByUid uid => exact steps_closeEach (fun _ ↦ rfl) _
  | resetConnectionsByListener l => exact steps_closeEach (fun _ ↦ rfl) _
  | resetConnection id => exact steps_closeEach (fun _ ↦ rfl) _
  | onBeforeEndpointDisconnect u => exact steps_onBeforeEndpointDisconnect
  | onAfterEndpointDisconnect u => exact steps_onAfterEndpointDisconnect
  | endpointReplaced sn => exact .of_view rfl
  | dnsProxyReplaced sn => exact .of_view rfl

def Initial (t : Tunnel) : Prop := t.connections = {} ∧ t.calls = []

theorem initial_good (h : Initial t) : Good A (view t) := by
  obtain ⟨hc, hs⟩ := h
  have hg : ∀ r, (view t).record r = none := fun r ↦ by simp [view, hc, Store.get]
  have hl : ∀ k, (view t).byClient k = none := fun k ↦ by simp [view, hc, Store.leftRef]
  have hr : ∀ k, (view t).byServer k = none := fun k ↦ by simp [view, hc, Store.rightRef]
  refine ⟨⟨⟨?_, ?_⟩, ⟨?_, ?_⟩, ?_, ?_⟩, fun _ ↦ ⟨⟨?_, ?_⟩, ?_⟩⟩
  · simp [hl]
  · simp [hg]
  · simp [hg]
  · simp [view, hc]
  · simp [hg]
  · simp [view, hs, Completed]
  · simp [hr]
  · simp [hg]
  · simp [hg]

theorem possible_of_step (hs : step t label = some t') : possible t label.2 = true := by
  unfold step at hs
  split at hs
  · assumption
  · cases hs

/-- The refinement: a step of the tunnel is a run of the moves of its view. -/
theorem step_steps (hm : Meets A t label) (hs : step t label = some t') : Steps A t t' := by
  unfold step at hs
  split at hs
  · rename_i hp
    cases hs
    exact handle_steps hp hm
  · cases hs

end TrustTunnel.Traffic.Refine.Serving

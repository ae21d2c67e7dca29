import TrustTunnel.Lib.Transition
import TrustTunnel.Traffic.Refine.Serving

namespace TrustTunnel.Traffic.Tables

open Function Relation Lib.TwoKeyStore Lib.Transition Traffic.Types Moves Serving
open Refine.Serving

def Found (v : View) : Prop :=
  Complete v.record v.byClient VpnConnection.clientId v.byServer VpnConnection.serverId

variable {A : Assumptions} {v v' : View}

theorem Found.edit (h : Found v) {r : ℕ} {c c' : VpnConnection} (hc : v.record r = some c)
    (h₁ : c'.clientId = c.clientId) (h₂ : c'.serverId = c.serverId) (calls : List Call) :
    Found { v.put r c' with calls := calls } := Complete.edit h hc h₁ h₂

theorem Move.found (ho : A.once) (ha : A.attached) (hb : Base v) (hs : Served v) (h : Found v)
    (hm : Move A v v') : Found v' := by
  cases hm with
  | emit _ _ => exact h
  | edit hc hq => exact h.edit hc hq.clientId (hq.serverId ho) v.calls
  | @create k c l ar hn hf =>
    refine Complete.store h (.inl ⟨k, hf.clientId, update_self ..⟩) ?_ fun _ _ _ _ _ _ hr ↦ hr
    intro a x j _ hx hj hr
    have hne : j ≠ k := by
      rintro rfl
      exact hn ((hb.each a x hx).announced j (.inl hj))
    exact (update_of_ne hne _ _).trans hr
  | complete _ _ _ => exact h
  | openFailed _ _ => exact h
  | @attach k r c c' u ar hk hno hj hat =>
    refine Complete.store h (.inr ⟨_, hat.serverId, update_self ..⟩) (fun _ _ _ _ _ _ hr ↦ hr) ?_
    intro a x j _ hx hj hr
    have hne : j ≠ v.nextServerId := by
      rintro rfl
      exact hs.unused a x hx hj
    exact (update_of_ne hne _ _).trans hr
  | relink hno _ _ => exact absurd ho hno
  | @migrate k r c c' sw u ar hk _ _ _ _ hg =>
    have hne : r ≠ v.next := (hb.counted.bounded r c hk.2).ne
    have hn : Complete (update v.record v.next (some sw)) v.byClient VpnConnection.clientId
        (update v.byServer v.nextServerId (some v.next)) VpnConnection.serverId := by
      refine Complete.store h (.inr ⟨_, hg.sw_serverId, update_self ..⟩)
        (fun _ _ _ _ _ _ hr ↦ hr) ?_
      intro a x j _ hx hj hr
      have hnj : j ≠ v.nextServerId := by
        rintro rfl
        exact hs.unused a x hx hj
      exact (update_of_ne hnj _ _).trans hr
    refine hn.edit ?_ hg.clientId hg.serverId
    rw [update_of_ne hne]
    exact hk.2
  | @switch k s r r₀ c c' c₀ c₀' hr hst hmk hk hat hw =>
    have hne := hb.replacement_ne hr.2 hst hk
    have hd := hs.serverId_eq hr
    obtain ⟨s₀, hs₀, hr₀⟩ := hat ha
    have hol : Complete (update v.record r₀ (some c₀')) (update v.byClient k (some r))
        VpnConnection.clientId v.byServer VpnConnection.serverId := by
      refine Complete.store h (.inr ⟨s₀, hw.old_serverId.trans hs₀, hr₀⟩) ?_
        fun _ _ _ _ _ _ hr ↦ hr
      intro a x j ha' hx hj hr'
      have hnj : j ≠ k := by
        rintro rfl
        exact ha' (hb.left.unique a r₀ x c₀ j hx hk.2 hj (hb.clientId_eq hk))
      exact (update_of_ne hnj _ _).trans hr'
    have hsa : (c.serverId.elim v.byServer fun s ↦ update v.byServer s (some r)) =
        v.byServer := by
      rw [hd, Option.elim_some, ← hr.1, update_eq_self]
    simp only [Found, hsa]
    exact Complete.store hol (.inl ⟨k, hw.clientId, update_self ..⟩)
      (fun _ _ _ _ _ _ hr ↦ hr) fun _ _ _ _ _ _ hr ↦ hr
  | @forgetClient k r c hk hex =>
    obtain ⟨s, r', c', hd, hv⟩ := hex
    have hr' := hs.right.unique r' r c' c s hv.2 hk.2 (hs.serverId_eq hv) hd
    intro a x hx
    by_cases hra : a = r
    · subst hra
      obtain rfl : x = c := Option.some.inj (hx.symm.trans hk.2)
      exact .inr ⟨s, hd, hr' ▸ hv.1⟩
    · rcases h a x hx with ⟨j, hj, hr⟩ | hright
      · have hnj : j ≠ k := by
          rintro rfl
          exact hra (Option.some.inj (hr.symm.trans hk.1))
        exact .inl ⟨j, hj, (update_of_ne hnj _ _).trans hr⟩
      · exact .inr hright
  | @forgetServer s r c hv hex =>
    obtain ⟨k, r', c', hi, hk⟩ := hex
    have hr' := hb.left.unique r' r c' c k hk.2 hv.2 (hb.clientId_eq hk) hi
    intro a x hx
    by_cases hra : a = r
    · subst hra
      obtain rfl : x = c := Option.some.inj (hx.symm.trans hv.2)
      exact .inl ⟨k, hi, hr' ▸ hk.1⟩
    · rcases h a x hx with hl | ⟨j, hj, hr⟩
      · exact .inl hl
      · refine .inr ⟨j, hj, eraseKey_eq_some.2 ⟨hr, fun he ↦ ?_⟩⟩
        exact hra (hs.right.unique a r x c j hx hv.2 hj he)
  | @destroy r c cs hc _ _ =>
    intro a x hx
    have hra : a ≠ r := by
      rintro rfl
      simp at hx
    simp only at hx
    rw [update_of_ne hra] at hx
    rcases h a x hx with ⟨j, hj, hr⟩ | ⟨j, hj, hr⟩
    · refine .inl ⟨j, hj, eraseKey_eq_some.2 ⟨hr, fun he ↦ ?_⟩⟩
      exact hra (hb.left.unique a r x c j hx hc hj he)
    · refine .inr ⟨j, hj, eraseKey_eq_some.2 ⟨hr, fun he ↦ ?_⟩⟩
      exact hra (hs.right.unique a r x c j hx hc hj he)
  | flush u sent hk ht hi _ _ => exact h.edit hk.2 ht.clientId hi _
  | take d hk ht hi _ _ => exact h.edit hk.2 ht.clientId hi _
  | forward _ _ _ _ _ _ => exact h
  | discard _ _ _ => exact h

/-- The run lemma over the moves. -/
theorem found_of_moves (ho : A.once) (ha : A.attached) (hg : Good A v) (h : Found v)
    (hm : ReflTransGen (Move A) v v') : Found v' := by
  induction hm with
  | refl => exact h
  | tail hs hm ih =>
    have hg' := good_of_moves hg hs
    exact Move.found ho ha hg'.base (hg'.served ho) ih hm

structure Consistent (t : Tunnel) : Prop where
  by_client : ∀ k r, t.connections.leftRef k = some r →
    ∃ c, t.connections.get r = some c ∧ c.clientId = some k
  by_server : ∀ k r, t.connections.rightRef k = some r →
    ∃ c, t.connections.get r = some c ∧ c.serverId = some k
  reachable : ∀ r c, t.connections.get r = some c →
    (∃ k, c.clientId = some k ∧ t.connections.leftRef k = some r) ∨
      ∃ k, c.serverId = some k ∧ t.connections.rightRef k = some r
  client_unique : ∀ r r' c c' k, t.connections.get r = some c → t.connections.get r' = some c' →
    c.clientId = some k → c'.clientId = some k → r = r'
  destroyed_once : ∀ r, t.connections.dropped.count r =
    if r < t.connections.next ∧ t.connections.get r = none then 1 else 0

/-- The invariant of the view, read as the consistency of the tables. -/
theorem consistent_of_good {t : Tunnel} (ho : A.once) (hg : Good A (view t))
    (h : Found (view t)) : Consistent t where
  by_client := hg.base.left.sound
  by_server := (hg.served ho).right.sound
  reachable := h
  client_unique := hg.base.left.unique
  destroyed_once := hg.base.counted.once

def onceAttached : Assumptions := { once := True, attached := True }

theorem lenient_onceAttached : Lenient onceAttached := ⟨id, fun _ ↦ trivial⟩

theorem found_of_initial {t : Tunnel} (h : Initial t) : Found (view t) := by
  intro r c hc
  simp [view, h.1, Store.get] at hc

/-- In every run in which no connect request is completed twice, and a replacement is opened only
while its original is in `by_server_id`, the tables agree with the records after every step. -/
theorem tables_consistent {t₀ t : Tunnel} {labels : List (Env × Input)} (h₀ : Initial t₀)
    (h : Run step (fun t label ↦ completesOnce t label = true ∧ opensAttached t label = true)
      t₀ labels t) : Consistent t := by
  have ht : Good onceAttached (view t₀) ∧ Found (view t₀) := ⟨initial_good h₀, found_of_initial h₀⟩
  have hd := h.invariant (P := fun t ↦ Good onceAttached (view t) ∧ Found (view t)) ht ?_
  · exact consistent_of_good trivial hd.1 hd.2
  · rintro t label t' ⟨hg, hf⟩ ⟨ho, ha⟩ hs
    have he := lenient_onceAttached.meets nofun (fun _ ↦ ho) (fun _ ↦ ha) nofun
      (lenient_onceAttached.mayMove fun _ _ _ ↦ trivial)
    have hm := step_steps he hs
    exact ⟨hm.good hg, found_of_moves trivial trivial hg hf (hm hg)⟩

/-- A connection that migrates to the bypass. -/
theorem tables_consistent_after_migration :
    ∃ labels t, Run step (fun t label ↦ completesOnce t label = true ∧
        opensAttached t label = true) {} labels t ∧
      t.connections.leftRef 1 = some 1 ∧ t.connections.next = 2 ∧ Consistent t :=
  ⟨connectedRun ++ [(excludedHello, .clientRead 1 [22]), ({}, .serverOpened .bypass 1)],
    exists_run_imp (P := fun t ↦ t.connections.leftRef 1 = some 1 ∧ t.connections.next = 2)
      (by decide) fun _ hr hp ↦ ⟨hp.1, hp.2, tables_consistent ⟨rfl, rfl⟩ hr⟩⟩

/-- The endpoint closes the original while the replacement is being connected, and its client
closes later: the switch leaves the original without a place in either table. -/
theorem switch_loses_closed_original :
    ∃ labels t, Run step (fun t label ↦ completesOnce t label = true) {} labels t ∧
      ¬ Consistent t := by
  refine ⟨connectedRun ++ [(excludedHello, .clientRead 1 [22]), ({}, .serverClosed 0),
    ({}, .serverOpened .bypass 1)], exists_run_imp (P := fun t ↦ (t.connections.get 0).any (fun c ↦
      c.clientId = none ∧ c.serverId = some 0 ∧ t.connections.rightRef 0 = none)) (by decide)
    fun t _ hp hc ↦ ?_⟩
  obtain ⟨c, hg, hp⟩ := (Option.any_eq_true _ _).1 hp
  obtain ⟨ht, hs, hr⟩ := of_decide_eq_true hp
  rcases hc.reachable 0 c hg with ⟨k, hk, _⟩ | ⟨k, hk, hf⟩
  · simp [ht] at hk
  · cases hs.symm.trans hk
    simp [hr] at hf

def onceOnly : Assumptions := { once := True }

theorem lenient_onceOnly : Lenient onceOnly := ⟨id, fun _ ↦ trivial⟩

/-- In every run in which no connect request is completed twice, a connection has no upstream and
no server id before its request is completed, only a connection whose request was completed is
replaced, and `by_server_id` leads only to the record with that server id, which is the only one. -/
theorem served_after_completion {t₀ t : Tunnel} {labels : List (Env × Input)} (h₀ : Initial t₀)
    (h : Run step (fun t label ↦ completesOnce t label = true) t₀ labels t) :
    (∀ r c, t.connections.get r = some c →
      (∀ k, c.clientId = some k → (∀ action, .completed k action ∉ t.calls) →
        c.serverId = none ∧ c.upstream = none ∧ (c.state = .waitingAction ∨ c.state = .rejected)) ∧
      ∀ k, c.migratingClientId = some k → ∃ action, .completed k action ∈ t.calls) ∧
    Keyed t.connections.rightRef t.connections.get VpnConnection.serverId := by
  have hg := h.invariant (P := fun t ↦ Good onceOnly (view t)) (initial_good h₀) ?_
  · have hs := hg.served trivial
    refine ⟨fun r c hc ↦ ⟨fun k hk hn ↦ ?_, (hs.each r c hc).moved⟩, hs.right⟩
    obtain ⟨hi, hr⟩ := (hs.each r c hc).unserved k hk (not_exists.2 hn)
    simp only [Routed, not_or, Option.not_isSome_iff_eq_none] at hr
    exact ⟨hi, hr.1, by tauto⟩
  · intro t label t' hg ho hs
    exact (step_steps (lenient_onceOnly.meets False.elim (fun _ ↦ ho) False.elim False.elim
      (lenient_onceOnly.mayMove fun _ _ _ ↦ trivial)) hs).good hg

theorem served_after_completion_of_request : ∃ t c,
    Run step (fun t label ↦ completesOnce t label = true) {} (connectedRun.take 3) t ∧
      t.connections.get 0 = some c ∧ c.clientId = some 1 ∧ c.upstream = none :=
  exists_run_some_imp (P := fun t c ↦ c.clientId = some 1 ∧ isCompleted t.calls 1 = false)
    (by decide) fun t c hr hc hp ↦ ⟨hp.1, (((served_after_completion ⟨rfl, rfl⟩ hr).1 0 c hc).1 1
      hp.1 (not_exists.1 (isCompleted_iff.not.1 (by simp [hp.2])))).2.1⟩

end TrustTunnel.Traffic.Tables

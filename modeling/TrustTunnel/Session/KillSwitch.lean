import TrustTunnel.Session.Postponed

namespace TrustTunnel.Session.KillSwitch

open Lib.Deferral Session.Types Client Manager Actions Table Step Progress Calls Session.Frame
open Postponed List

variable {d : Dispatch} {ev : Env} {i : Input} {vpn' : Vpn}

def bypasses : Call → Option ℕ
  | .completeConnectRequest _ id (some .forceBypass) => some id
  | _ => none

def Undecided (vpn : Vpn) : Prop :=
  ∀ request ∈ vpn.postponedRequests, request.action ≠ some .forceBypass

def Calm (vpn vpn' : Vpn) : Prop := Extends (fun c ↦ bypasses c = none) vpn vpn'

theorem bypasses_eq_none {c : Call}
    (h : ∀ s id a, c = .completeConnectRequest s id a → a ≠ some .forceBypass) :
    bypasses c = none := by
  cases c with
  | completeConnectRequest s id a =>
    have hn := h s id a rfl
    cases a with
    | none => rfl
    | some a =>
      cases a with
      | forceBypass => exact absurd rfl hn
      | _ => rfl
  | _ => rfl

theorem calm_of_teardown {v : Vpn} (h : Extends Teardown v vpn') : Calm v vpn' := by
  apply h.mono
  intro c hc
  cases hc <;> rfl

theorem Calm.refl (vpn : Vpn) : Calm vpn vpn := extends_of_calls_eq rfl

theorem Calm.trans (a b c : Vpn) (hab : Calm a b) (hbc : Calm b c) : Calm a c :=
  Extends.trans hab hbc

variable (vpn : Vpn) (data : Data)

theorem calm_runClientConnect (ev : Env) (t : Option ℕ) : Calm vpn (runClientConnect vpn ev t) :=
  extends_one (calls_runClientConnect vpn ev t) rfl

theorem calm_reconnectClient : Calm vpn (reconnectClient vpn data) :=
  .trans _ _ _ (calm_of_teardown (extends_disconnectClient vpn)) (calm_runClientConnect _ _ _)

theorem calm_runPing : Calm vpn (runPing vpn data) := by
  obtain ⟨cs, r, hs, ht⟩ := calls_runPing vpn data
  refine ⟨_, hs, fun c hc ↦ ?_⟩
  rcases mem_append.1 hc with hc | hc
  · cases ht c hc <;> rfl
  · rw [mem_singleton.1 hc]
    rfl

theorem calm_retryConnect : Calm vpn (retryConnect vpn data) := by
  obtain ⟨cs, hs, ht⟩ := calls_retryConnect vpn data
  refine ⟨_, hs, fun c hc ↦ ?_⟩
  rcases mem_cons.1 hc with rfl | hc
  · rfl
  · cases ht c hc <;> rfl

theorem calm_startListening : Calm vpn (startListening vpn data) := by
  simp only [startListening]
  split
  · exact .refl vpn
  · exact extends_of_calls_eq rfl

theorem calm_raiseState : Calm vpn (raiseState vpn data) :=
  extends_one (calls_raiseState vpn data) rfl

theorem calm_enter (s : VpnSessionState) : Calm vpn (enter vpn s data) :=
  extends_one (calls_enter vpn data s) rfl

theorem calm_perform {e : ConnectEvent} (hq : e ≠ .completeRequest)
    (hr : e ≠ .clientReady) : Calm vpn (performTransition vpn e data) := by
  have hl : ∀ v, Calm v (onWrongListenState v data) := .refl
  have hd : ∀ {v v'}, Extends Teardown v v' → Calm v v' := calm_of_teardown
  refine Fsm.performTransition_relates Calm.refl Calm.trans Table.fsm
    (fun _ _ ↦ extends_of_calls_eq rfl) e data ?_ ?_ vpn
  · simp only [Table.fsm, Table.transitionTable, forall_mem_cons, Option.mem_some,
      Option.not_mem_none, forall_eq', not_mem_nil, IsEmpty.forall_iff, implies_true,
      and_self, connectClient, failConnectWithNoAttempts, prepareForRecoveryNc, calm_runPing,
      hd (extends_completeConnect _ _), calm_retryConnect,
      hd (extends_prepareForRecovery _ _), calm_startListening,
      hd (extends_doDisconnect _ _), hd (extends_onWrongConnectState _ _),
      calm_runClientConnect, calm_reconnectClient, hl, hq.symm, hr.symm]
  · intro e he _ a ha v
    rw [Table.afterTransition_eq e he a ha]
    exact calm_raiseState v data

/-- With the kill switch on, only the final action of a request orders it to bypass. -/
def Obeys (event : ConnectEvent) (data : Data) (c : Call) : Prop :=
  ∀ id, bypasses c = some id →
    event = .completeRequest ∧ data.request.id = id ∧ data.request.action = some .forceBypass

variable {vpn data}

theorem Calm.obeys {e : ConnectEvent} (h : Calm vpn vpn') : Extends (Obeys e data) vpn vpn' := by
  apply Extends.mono h
  intro c hc id hi
  rw [hc] at hi
  cases hi

theorem perform_completeRequest_obeys (hk : vpn.client.killSwitchOn = true) (hu : Undecided vpn) :
    Undecided (performTransition vpn .completeRequest data) ∧
      Extends (Obeys .completeRequest data) vpn (performTransition vpn .completeRequest data) := by
  rw [perform_completeRequest]
  split
  · refine ⟨hu, extends_one rfl fun id hi ↦ ?_⟩
    by_cases ha : data.request.action = some .forceBypass
    · rw [ha] at hi
      exact ⟨rfl, Option.some.inj hi, ha⟩
    · rw [bypasses_eq_none] at hi
      · cases hi
      · intro s id a he
        rw [← (Call.completeConnectRequest.inj he).2.2]
        exact ha
  · rename_i hn
    have hh : data.request.action ≠ some .forceBypass := by
      intro ha
      simp [canComplete, ha] at hn
    split
    · refine ⟨fun r hm ↦ ?_, extends_one rfl nofun⟩
      rcases mem_append.1 hm with hm | hm
      · exact hu r hm
      · rw [mem_singleton.1 hm]
        exact hh
    · split
      · exact ⟨hu, extends_one rfl nofun⟩
      · rename_i ho
        exact absurd hk ho

theorem undecided_of_keeps (hu : Undecided vpn) (h : Keeps vpn vpn') : Undecided vpn' := by
  have hk : vpn'.postponedRequests = vpn.postponedRequests := congrArg Books.kept h.books
  rw [Undecided, hk]
  exact hu

theorem calm_finalizeRecovery (hu : Undecided vpn) : Calm vpn (finalizeRecovery vpn data) := by
  obtain ⟨cs, hs, ht⟩ := calls_finalizeRecovery vpn data
  refine ⟨_, hs, fun c hc ↦ ?_⟩
  rcases mem_append.1 hc with hc | hc
  · rcases mem_append.1 hc with hc | hc
    · cases ht c hc <;> rfl
    · obtain ⟨r, hm, rfl⟩ := mem_map.1 hc
      apply bypasses_eq_none
      intro s id a he
      rw [← (Call.completeConnectRequest.inj he).2.2]
      exact hu r hm
  · obtain ⟨id, _, rfl⟩ := mem_map.1 hc
    rfl

theorem perform_clientReady_obeys (hu : Undecided vpn) :
    Undecided (performTransition vpn .clientReady data) ∧
      Extends (Obeys .clientReady data) vpn (performTransition vpn .clientReady data) := by
  rw [perform_clientReady]
  split
  · refine ⟨undecided_of_keeps hu (.trans _ _ _ (keeps_completeConnect vpn data)
      (keeps_enter _ data _)), Calm.obeys (.trans _ _ _ ?_ (calm_enter _ data _))⟩
    exact calm_of_teardown (extends_completeConnect vpn data)
  · have he : Undecided (finalizeRecovery vpn data) := by
      intro r hm
      cases hm
    exact ⟨undecided_of_keeps he (keeps_enter _ data _),
      Calm.obeys (.trans _ _ _ (calm_finalizeRecovery hu) (calm_enter _ data _))⟩
  · exact ⟨hu, (Calm.refl vpn).obeys⟩

theorem perform_obeys (hk : vpn.client.killSwitchOn = true) (hu : Undecided vpn)
    (e : ConnectEvent) : Undecided (performTransition vpn e data) ∧
      Extends (Obeys e data) vpn (performTransition vpn e data) := by
  by_cases hq : e = .completeRequest
  · rw [hq]
    exact perform_completeRequest_obeys hk hu
  · by_cases hr : e = .clientReady
    · rw [hr]
      exact perform_clientReady_obeys hu
    · exact ⟨undecided_of_keeps hu (keeps_perform vpn data hq hr),
        (calm_perform vpn data hq hr).obeys⟩

theorem calm_dispatch (hk : vpn.client.killSwitchOn = true) (h : dispatch vpn ev i = some d) :
    Calm vpn d.1 := by
  apply (dispatch_expired vpn ev h).mono
  rintro c (hc | ⟨r, _, rfl⟩)
  · cases hc <;> rfl
  · rw [hk]
    rfl

theorem undecided_dispatch (hu : Undecided vpn) (h : dispatch vpn ev i = some d) :
    Undecided d.1 := by
  by_cases hc : isCleanup i = false
  · rcases keeps_dispatch vpn ev hc h with hk | rfl
    · exact undecided_of_keeps hu hk
    · intro r hm
      cases hm
  · cases i with
    | eventLoopExited =>
      simp only [dispatch] at h
      split at h
      · cases h
        simp only [finishStop]
        refine undecided_of_keeps ?_ (keeps_stopPinging _)
        intro r hm
        cases hm
      · cases h
    | _ => exact absurd rfl hc

def nextRequest (vpn : Vpn) : Input → Option ConnectRequestResult
  | .runTask =>
    match vpn.taskQueue with
    | .completeConnectRequest request :: _ => some request
    | _ => none
  | _ => none

theorem pingerHandler_event {r : LocationsPingerResult} (h : pingerHandler vpn ev r = d)
    (da : Data) : d.2 ≠ some (.completeRequest, da) := by
  subst h
  simp only [pingerHandler]
  split
  · simp
  · split <;> simp

theorem clientHandler_event {c : VpnClient} (h : clientHandler vpn ev c = d)
    (da : Data) : d.2 ≠ some (.completeRequest, da) := by
  subst h
  simp only [clientHandler]
  split <;> simp

theorem task_completeRequest {t : Task} {p : Vpn}
    (h : Task.dispatch vpn ev t = (p, some (.completeRequest, data))) :
    ∃ r, t = .completeConnectRequest r ∧ data.request.id = r.id ∧
      data.request.action = ev.finalizedAction := by
  cases t with
  | completeConnectRequest r =>
    cases h
    exact ⟨r, rfl, rfl, rfl⟩
  | abandonEndpoint e =>
    simp only [Task.dispatch, abandonEndpoint] at h
    split at h
    · cases h
    · split at h <;> cases h
  | forceReconnect =>
    simp only [Task.dispatch, forceReconnect] at h
    split at h <;> cases h
  | _ => cases h

theorem dispatch_completeRequest {p : Vpn}
    (h : dispatch vpn ev i = some (p, some (.completeRequest, data))) :
    ∃ r, nextRequest vpn i = some r ∧ data.request.id = r.id ∧
      data.request.action = ev.finalizedAction := by
  generalize hd : (p, some (ConnectEvent.completeRequest, data)) = d at h
  cases dispatched_of_dispatch vpn ev h with
  | loop _ h =>
    cases h with
    | task hq =>
      obtain ⟨r, rfl, hi, ha⟩ := task_completeRequest hd.symm
      exact ⟨r, by simp [nextRequest, hq], hi, ha⟩
    | pinged => exact absurd rfl (pingerHandler_event hd.symm data)
    | client => exact absurd rfl (clientHandler_event hd.symm data)
    | _ => cases hd
  | _ => cases hd

/-- With the kill switch on, a step bypasses only the request that it finalizes so. -/
theorem step_obeys {l : Env × Input} (hk : vpn.client.killSwitchOn = true) (hu : Undecided vpn)
    (h : step vpn l = some vpn') :
    Undecided vpn' ∧ Extends (fun c ↦ ∀ id, bypasses c = some id →
      ∃ r, nextRequest vpn l.2 = some r ∧ r.id = id ∧
        l.1.finalizedAction = some .forceBypass) vpn vpn' := by
  have hl := step_killSwitchOn h
  obtain ⟨_, ⟨pre, t⟩, hd, _, rfl⟩ := step_dispatch h
  have hm := calm_dispatch hk hd
  have hp := undecided_dispatch hu hd
  have ht : Extends (fun c ↦ ∀ id, bypasses c = some id →
      ∃ r, nextRequest vpn l.2 = some r ∧ r.id = id ∧
        l.1.finalizedAction = some .forceBypass) vpn pre := by
    apply Extends.mono hm
    intro c hc id hi
    rw [hc] at hi
    cases hi
  cases t with
  | none => exact ⟨hp, ht⟩
  | some t =>
    obtain ⟨e, d⟩ := t
    have hon : pre.client.killSwitchOn = true := (killSwitchOn_perform e).symm.trans (hl.trans hk)
    obtain ⟨he, ho⟩ := @perform_obeys pre d hon hp e
    refine ⟨he, ht.trans (ho.mono fun c hc id hi ↦ ?_)⟩
    obtain ⟨rfl, hi, ha⟩ := hc id hi
    obtain ⟨r, hn, hr, hf⟩ := dispatch_completeRequest hd
    exact ⟨r, hn, hr.symm.trans hi, hf.symm.trans ha⟩

theorem started_undecided {ps : VpnConnectParameters} {k : Bool} {vpn : Vpn}
    (h : Started ps k vpn) : Undecided vpn := by
  simp only [Started, vpnConnect] at h
  split at h
  · cases h
  · cases h
    intro r hm
    cases hm

end TrustTunnel.Session.KillSwitch

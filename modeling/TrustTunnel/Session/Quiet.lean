import TrustTunnel.Session.Progress

namespace TrustTunnel.Session.Quiet

open Lib.Transition Session.Types Client Manager Table Step Progress Progress.Activity

variable {vpn : Vpn}

def Down (state : VpnSessionState) : Prop := state = .disconnected ∨ state = .waitingForNetwork

structure Inv (state : VpnSessionState) (a : Activity) : Prop where
  agrees : a.Agrees
  idle : Down state → a.Idle

theorem prelude_inv (hi : Inv vpn.state (activity vpn)) {d : Dispatch} (h : Prelude vpn d) :
    Inv d.1.state (activity d.1) := by
  cases h with
  | same hs ha => exact hs ▸ ha ▸ hi
  | pinged s hp hs ha =>
    refine ⟨ha ▸ hi.agrees, fun hd ↦ ?_⟩
    exact absurd (hi.idle (hs ▸ hd)).1 (by simp [activity, hp])
  | pingFailed hp hs ha =>
    refine ⟨ha ▸ hi.agrees, fun hd ↦ ?_⟩
    exact absurd (hi.idle (hs ▸ hd)).1 (by simp [activity, hp])
  | abandoned hs ha => exact ⟨ha ▸ hi.agrees, fun hd ↦ ha ▸ hi.idle (hs ▸ hd)⟩
  | clientMoved fsm hm hs ha =>
    exact ⟨ha ▸ hi.agrees.move hm, fun hd ↦ ha ▸ hi.idle (hs ▸ hd)⟩
  | clientReady hc hs ha =>
    refine ⟨ha ▸ by simp [Agrees], fun hd ↦ ?_⟩
    have hdi := hi.agrees.1 (hi.idle (hs ▸ hd)).2
    exact absurd hdi (by simp [activity, hc])
  | clientGone hs ha =>
    exact ⟨ha ▸ by simp [Agrees], fun hd ↦ ha ▸ ⟨(hi.idle (hs ▸ hd)).1, rfl⟩⟩
  | stopped hs ha => exact ⟨ha ▸ by simp [Agrees], fun _ ↦ ha ▸ ⟨rfl, rfl⟩⟩

/-- The transition does not give a connect attempt up while it leaves a ping or a client
connection of that attempt running. -/
def stopsWhatRuns (vpn : Vpn) (event : ConnectEvent) (data : Data) : Bool :=
  !givesUp vpn data event || disconnectsFirst vpn data event ||
    (vpn.pinger.isNone && vpn.clientState == .disconnected)

/-- A transition keeps the client and the copy of its state in agreement. -/
theorem effect_agrees {d : Data} {e : ConnectEvent} {s t : VpnSessionState} {a : Activity}
    (h : Effect vpn d e s t a) (ha : (activity vpn).Agrees) : a.Agrees := by
  cases h with
  | keep => exact ha
  | abandonIgnored => exact ha
  | connectFailed => exact ha
  | stop => exact ha.stop
  | firstPing => exact ha
  | nextPing => exact ha
  | recoveryPing => exact ha
  | connect => exact connect_agrees _
  | recoveryConnect => exact connect_agrees _
  | reconnect => exact connect_agrees _
  | reconnectFailed => exact ha.stopClient
  | ready => exact ha
  | recovered => exact ha
  | listenFailed fsm hm => exact ha.move hm
  | giveUp => exact ha
  | giveUpWaiting => exact ha

theorem effect_idle {data : Data} {e : ConnectEvent} {t : VpnSessionState} {a : Activity}
    (h : Effect vpn data e vpn.state t a) (hi : Down vpn.state → (activity vpn).Idle)
    (ho : stopsWhatRuns vpn e data = true) (hd : Down t) : a.Idle := by
  generalize hs : vpn.state = s at h hi
  cases h with
  | keep => exact hi hd
  | abandonIgnored => exact hi hd
  | stop => exact stop_idle _
  | listenFailed fsm hm => exact hi hd
  | giveUp hg hf =>
    simp only [stopsWhatRuns, hg, hf, Bool.not_true, Bool.false_or, Bool.and_eq_true,
      Option.isNone_iff_eq_none, beq_iff_eq] at ho
    exact ho
  | giveUpWaiting => exact hi (.inr rfl)
  | _ => rcases hd with h | h <;> cases h

/-- The step lemma: nothing runs while the session is down. -/
theorem step_inv {v : Vpn} {l : Env × Input} (hi : Inv vpn.state (activity vpn))
    (ho : performs stopsWhatRuns vpn l = true) (h : step vpn l = some v) :
    Inv v.state (activity v) := by
  obtain ⟨_, ⟨p, t⟩, hd, hp, rfl⟩ := step_dispatch h
  have hr := prelude_inv hi hp
  cases t with
  | none => exact hr
  | some t =>
    have he := perform_effect p t.2 t.1
    simp only [performs, hd] at ho
    exact ⟨effect_agrees he hr.agrees, effect_idle he hr.idle ho⟩

theorem started_inv {ps : VpnConnectParameters} {k : Bool}
    (h : Started ps k vpn) : Inv vpn.state (activity vpn) := by
  obtain ⟨_, ha⟩ := started_activity h
  exact ⟨ha ▸ by simp [Agrees], fun _ ↦ ha ▸ ⟨rfl, rfl⟩⟩

/-- As long as no connect attempt is given up with something of it still running, a session that
reports to be down has stopped its pinger and told its client to disconnect. -/
theorem down_is_idle {parameters : VpnConnectParameters} {killSwitchOn : Bool} {start vpn : Vpn}
    {labels : List (Env × Input)} (h : Started parameters killSwitchOn start)
    (hr : Run step (fun v l ↦ performs stopsWhatRuns v l = true) start labels vpn)
    (hd : vpn.state = .disconnected ∨ vpn.state = .waitingForNetwork) :
    vpn.pinger = none ∧ vpn.clientState = .disconnected := by
  have hi := hr.invariant (P := fun v ↦ Inv v.state (activity v)) (started_inv h)
    fun _ _ _ hi ho hs ↦ step_inv hi ho hs
  exact hi.idle hd

def connectingRun : List (Env × Input) :=
  [atTime 1 .runTask, atTime 2 (.pingerResult ⟨10, endpointAt 1, none, false, false⟩)]

theorem down_is_idle_after_shutdown :
    ∃ start vpn labels, Started (connectTo [endpointAt 1] ⟨.severalAttempts, 1⟩) true start ∧
      Run step (fun v l ↦ performs stopsWhatRuns v l = true) start labels vpn ∧
      vpn.state = .disconnected ∧ vpn.pinger = none ∧ vpn.clientState = .disconnected := by
  obtain ⟨start, vpn, hs, hr, hp⟩ :=
    exists_run_of_runFrom (fun v l ↦ performs stopsWhatRuns v l = true)
      (connectTo [endpointAt 1] ⟨.severalAttempts, 1⟩) true
      (connectingRun ++ [atTime 3 (.vpnForceDisconnect false), atTime 4 .runTask])
      (fun v ↦ v.state == .disconnected) (by decide)
  have hd := eq_of_beq hp
  exact ⟨start, vpn, _, hs, hr, hd, down_is_idle hs hr (.inl hd)⟩

/-- The last attempt is connecting its client when a reconnect is forced: the session reports to be
disconnected and leaves the client connecting. -/
theorem forced_reconnect_leaves_client_connecting :
    ∃ start vpn labels, Started (connectTo [endpointAt 1] ⟨.severalAttempts, 1⟩) true start ∧
      Run step anyStep start labels vpn ∧ vpn.state = .disconnected ∧
      vpn.clientState = .connecting := by
  obtain ⟨start, vpn, hs, hr, hp⟩ :=
    exists_run_of_runFrom anyStep (connectTo [endpointAt 1] ⟨.severalAttempts, 1⟩) true
      (connectingRun ++ [atTime 3 .vpnForceReconnect, atTime 4 .runTask])
      (fun v ↦ v.state == .disconnected && v.clientState == .connecting) (by decide)
  rw [Bool.and_eq_true] at hp
  exact ⟨start, vpn, _, hs, hr, eq_of_beq hp.1, eq_of_beq hp.2⟩

/-- And so does all that comes before it. -/
theorem prelude_agrees (ha : (activity vpn).Agrees) {d : Dispatch} (h : Prelude vpn d) :
    (activity d.1).Agrees := by
  cases h with
  | same _ h => exact h ▸ ha
  | pinged _ _ _ h => exact h ▸ ha
  | pingFailed _ _ h => exact h ▸ ha
  | abandoned _ h => exact h ▸ ha
  | clientMoved _ hm _ h => exact h ▸ ha.move hm
  | clientReady _ _ h => exact h ▸ by simp [Agrees]
  | clientGone _ h => exact h ▸ by simp [Agrees]
  | stopped _ h => exact h ▸ by simp [Agrees]

/-- Whatever happens, the session manager takes its client for disconnected exactly if the client
is. -/
theorem client_state_agrees {parameters : VpnConnectParameters} {killSwitchOn : Bool}
    {start vpn : Vpn} {labels : List (Env × Input)} (h : Started parameters killSwitchOn start)
    (hr : Run step anyStep start labels vpn) :
    vpn.clientState = .disconnected ↔ vpn.client.state = .disconnected := by
  refine hr.invariant (P := fun v ↦ (activity v).Agrees) (started_inv h).agrees ?_
  intro v l v' ha _ hs
  obtain ⟨_, ⟨p, t⟩, _, hp, rfl⟩ := step_dispatch hs
  cases t with
  | none => exact prelude_agrees ha hp
  | some t => exact effect_agrees (perform_effect p t.2 t.1) (prelude_agrees ha hp)

/-- The client is connecting. -/
theorem client_state_agrees_when_connecting :
    ∃ start vpn, Started (connectTo [endpointAt 1] ⟨.severalAttempts, 1⟩) true start ∧
      Run step anyStep start connectingRun vpn ∧ vpn.client.state = .connecting ∧
      vpn.clientState ≠ .disconnected :=
  exists_started_imp (P := fun v ↦ v.client.state = .connecting) (by decide)
    fun _ _ hs hr hp ↦ ⟨hp, fun hd ↦ by simp [(client_state_agrees hs hr).1 hd] at hp⟩

end TrustTunnel.Session.Quiet

import TrustTunnel.Session.Calls

namespace TrustTunnel.Session.Endpoint

open Lib.Transition Session.Types Client Manager Actions Table Step Progress Progress.Activity Calls

variable {a : Activity} {event : ConnectEvent} {d : Data} {vpn : Vpn} {state : VpnSessionState}

def endpointKnown : Call → Bool
  | .connectClient config _ => config.isSome
  | .stateChanged _ (.connected endpoint _) => endpoint.isSome
  | _ => true

/-- What is in progress has its endpoint; only a session reported as disconnected may have lost
it. -/
structure Inv (state : VpnSessionState) (a : Activity) : Prop where
  agrees : a.Agrees
  selected : state ≠ .disconnected → a.clientState ≠ .disconnected → a.selectedEndpoint.isSome
  unreported : a.pinger = some ⟨false⟩ → a.clientState = .disconnected
  waiting : state = .waitingRecovery ∨ state = .waitingForNetwork → a.Idle

structure PreInv (event : ConnectEvent) (state : VpnSessionState) (a : Activity) : Prop where
  agrees : a.Agrees
  selected : event ≠ .abandonEndpoint → state ≠ .disconnected → a.clientState ≠ .disconnected →
    a.selectedEndpoint.isSome
  unreported : a.pinger = some ⟨false⟩ → a.clientState = .disconnected
  waiting : state = .waitingRecovery ∨ state = .waitingForNetwork → a.Idle
  pinged : event = .pingReady → a.selectedEndpoint.isSome ∧ a.pinger ≠ some ⟨false⟩
  ready : event = .clientReady → a.clientState ≠ .disconnected

theorem Inv.toPreInv (h : Inv state a) (hp : event ≠ .pingReady) (hr : event ≠ .clientReady) :
    PreInv event state a :=
  ⟨h.agrees, fun _ ↦ h.selected, h.unreported, h.waiting, fun he ↦ absurd he hp,
    fun he ↦ absurd he hr⟩

theorem Inv.not_waiting (h : Inv vpn.state (activity vpn)) (hp : vpn.pinger = some ⟨false⟩) :
    ¬ (vpn.state = .waitingRecovery ∨ vpn.state = .waitingForNetwork) := by
  intro hw
  have hn := (h.waiting hw).1
  simp [activity, hp] at hn

theorem prelude_preInv {p : Vpn} (hi : Inv vpn.state (activity vpn))
    (h : Prelude vpn (p, some (event, d))) : PreInv event p.state (activity p) := by
  cases h with
  | same hs ha ht =>
    obtain ⟨hp, hr⟩ := ht event d rfl
    exact hs ▸ ha ▸ hi.toPreInv hp hr
  | pinged s hp hs ha =>
    rw [hs, ha]
    exact ⟨hi.agrees, fun _ _ _ ↦ rfl, by simp, fun hw ↦ absurd hw (hi.not_waiting hp),
      fun _ ↦ ⟨rfl, by simp⟩, by simp⟩
  | pingFailed hp hs ha =>
    rw [hs, ha]
    have hc := hi.unreported hp
    exact ⟨hi.agrees, fun _ _ hn ↦ absurd hc hn, by simp,
      fun hw ↦ absurd hw (hi.not_waiting hp), by simp, by simp⟩
  | abandoned hs ha =>
    rw [hs, ha]
    exact ⟨hi.agrees, fun h ↦ absurd rfl h, hi.unreported, hi.waiting, by simp, by simp⟩
  | clientReady hc hs ha =>
    rw [hs, ha]
    have hn : vpn.clientState ≠ .disconnected := by
      intro hd
      have hd' := hi.agrees.1 hd
      simp [activity, hc] at hd'
    exact ⟨by simp [Agrees], fun _ hst _ ↦ hi.selected hst hn,
      fun hp ↦ absurd (hi.unreported hp) hn, fun hw ↦ absurd (hi.waiting hw).2 hn,
      by simp, fun _ ↦ by simp⟩
  | clientGone hs ha =>
    rw [hs, ha]
    exact ⟨by simp [Agrees], fun _ _ hn ↦ absurd rfl hn, fun _ ↦ rfl,
      fun hw ↦ ⟨(hi.waiting hw).1, rfl⟩, by simp, by simp⟩

theorem prelude_inv {p : Vpn} (hi : Inv vpn.state (activity vpn)) (h : Prelude vpn (p, none)) :
    Inv p.state (activity p) := by
  cases h with
  | same hs ha => exact hs ▸ ha ▸ hi
  | clientMoved fsm hm hs ha =>
    rw [hs, ha]
    exact ⟨hi.agrees.move hm, hi.selected, hi.unreported, hi.waiting⟩
  | stopped hs ha =>
    rw [hs, ha]
    exact ⟨by simp [Agrees], fun h ↦ absurd rfl h, fun _ ↦ rfl, fun _ ↦ ⟨rfl, rfl⟩⟩

/-- A ping of a connect attempt is only started once the client is disconnected. -/
def pingsWithoutClient (vpn : Vpn) (event : ConnectEvent) (_ : Data) : Bool :=
  match event, vpn.state with
  | .doConnect, .disconnected | .retryConnect, .connecting => vpn.clientState == .disconnected
  | _, _ => true

theorem inv_ping (ha : a.Agrees) (hc : a.clientState = .disconnected)
    (hs : ¬ (state = .waitingRecovery ∨ state = .waitingForNetwork)) : Inv state a.ping :=
  ⟨ha, fun _ hn ↦ absurd hc hn, fun _ ↦ hc, fun hw ↦ absurd hw hs⟩

theorem inv_stop (ha : a.Agrees) (s : VpnSessionState) : Inv s a.stop :=
  ⟨ha.stop, fun _ hn ↦ absurd rfl hn, fun _ ↦ rfl, fun _ ↦ stop_idle a⟩

theorem inv_connect (hs : a.selectedEndpoint.isSome) (hp : a.pinger ≠ some ⟨false⟩)
    (hw : ¬ (state = .waitingRecovery ∨ state = .waitingForNetwork)) : Inv state a.connect :=
  ⟨connect_agrees a, fun _ _ ↦ hs, fun h ↦ absurd h hp, fun h ↦ absurd h hw⟩

theorem effect_inv {t : VpnSessionState} (h : Effect vpn d event vpn.state t a)
    (hi : PreInv event vpn.state (activity vpn)) (ho : pingsWithoutClient vpn event d = true) :
    Inv t a := by
  simp only [pingsWithoutClient] at ho
  generalize vpn.state = s at h hi ho
  cases h with
  | keep he => exact ⟨hi.agrees, hi.selected he, hi.unreported, hi.waiting⟩
  | abandonIgnored hs =>
    refine ⟨hi.agrees, fun hd hn ↦ ?_, hi.unreported, hi.waiting⟩
    have hw : t = .waitingRecovery ∨ t = .waitingForNetwork := by
      cases t <;> simp_all
    exact absurd (hi.waiting hw).2 hn
  | connectFailed =>
    have hl := hi.waiting (.inl rfl)
    exact ⟨hi.agrees, fun _ hn ↦ absurd hl.2 hn, hi.unreported, by simp⟩
  | stop => exact inv_stop hi.agrees _
  | firstPing => exact inv_ping hi.agrees (eq_of_beq ho) (by simp)
  | nextPing => exact inv_ping hi.agrees (eq_of_beq ho) (by simp)
  | recoveryPing => exact inv_ping hi.agrees (hi.waiting (.inl rfl)).2 (by simp)
  | connect hs => exact inv_connect hs (hi.pinged rfl).2 (by simp)
  | recoveryConnect hs =>
    refine inv_connect hs ?_ (by simp)
    rw [(hi.waiting (.inl rfl)).1]
    simp
  | reconnect hs => exact inv_connect hs (hi.pinged rfl).2 (by simp)
  | reconnectFailed =>
    exact ⟨hi.agrees.stopClient, fun _ hn ↦ absurd rfl hn, fun _ ↦ rfl, by simp⟩
  | ready => exact ⟨hi.agrees, fun _ ↦ hi.selected (by decide) (by decide), hi.unreported, by simp⟩
  | recovered => exact ⟨hi.agrees, fun _ ↦ hi.selected (by decide) (by decide), nofun, by simp⟩
  | listenFailed fsm hm =>
    exact ⟨hi.agrees.move hm, hi.selected (by decide), hi.unreported, hi.waiting⟩
  | giveUp => exact ⟨hi.agrees, fun hd ↦ absurd rfl hd, hi.unreported, by simp⟩
  | giveUpWaiting => exact ⟨hi.agrees, fun hd ↦ absurd rfl hd, hi.unreported, by simp⟩

theorem stateInfo_known (h : vpn.state ≠ .connected) :
    endpointKnown (.stateChanged vpn.state (stateInfo vpn)) = true := by
  unfold stateInfo
  cases hs : vpn.state <;> first | rfl | exact absurd hs h

theorem mayCall_known (hi : PreInv event vpn.state (activity vpn)) {c : Call}
    (h : MayCall vpn d event c) : endpointKnown c = true := by
  cases h with
  | teardown ht => cases ht <;> rfl
  | startPinger => rfl
  | connectClient t hn hc =>
    simp only [endpointKnown, hc]
    unfold connectsClient at hn
    split at hn
    · exact (hi.pinged rfl).1
    · exact (hi.pinged rfl).1
    · simp only [needToPingOnRecovery, Bool.not_eq_true', Bool.or_eq_false_iff] at hn
      simpa using hn.1.1
    · cases hn
  | retryConnect => rfl
  | stateChanged s hs hv =>
    rw [← hv]
    exact stateInfo_known (hv ▸ hs)
  | reportConnected he hs ho =>
    have hl : vpn.selectedEndpoint.isSome :=
      hi.selected (by simp [he]) (by rcases hs with h | h <;> simp [h]) (hi.ready he)
    simpa [endpointKnown, ho] using hl
  | request hr => cases hr <;> rfl

def Good (vpn : Vpn) : Prop :=
  Inv vpn.state (activity vpn) ∧ ∀ c ∈ vpn.calls, endpointKnown c = true

/-- The step lemma: the endpoint is known wherever it is reported. -/
theorem step_good {vpn' : Vpn} {l : Env × Input} (hg : Good vpn)
    (ho : performs pingsWithoutClient vpn l = true) (h : step vpn l = some vpn') : Good vpn' := by
  refine ⟨?_, Extends.forall (step_calls h ?_ ?_ ?_) hg.2⟩
  · obtain ⟨_, ⟨p, t⟩, hd, hp, rfl⟩ := step_dispatch h
    cases t with
    | none => exact prelude_inv hg.1 hp
    | some t =>
      simp only [performs, hd] at ho
      exact effect_inv (perform_effect p t.2 t.1) (prelude_preInv hg.1 hp) ho
  · intro c hc
    cases hc <;> rfl
  · intro c hc
    cases hc <;> rfl
  · intro p e d hd c hc
    exact mayCall_known (prelude_preInv hg.1 (prelude_dispatch vpn l.1 hd)) hc

theorem started_good {ps : VpnConnectParameters} {k : Bool}
    (h : Started ps k vpn) : Good vpn := by
  obtain ⟨hs, ha⟩ := started_activity h
  refine ⟨hs ▸ ha ▸ ⟨by simp [Agrees], fun h ↦ absurd rfl h, fun _ ↦ rfl, fun _ ↦ ⟨rfl, rfl⟩⟩, ?_⟩
  simp [started_calls h]

/-- As long as no ping of a connect attempt is started next to a client that still connects or is
connected, every connect and every report of the connected state has an endpoint. -/
theorem endpoint_known {parameters : VpnConnectParameters} {killSwitchOn : Bool} {start vpn : Vpn}
    {labels : List (Env × Input)} (h : Started parameters killSwitchOn start)
    (hr : Run step (fun v l ↦ performs pingsWithoutClient v l = true) start labels vpn) :
    ∀ c ∈ vpn.calls, endpointKnown c = true :=
  (hr.invariant (started_good h) fun _ _ _ hg hok hs ↦ step_good hg hok hs).2

def connectedRun : List (Env × Input) :=
  [atTime 1 .runTask, atTime 2 (.pingerResult ⟨10, endpointAt 1, none, false, false⟩),
   atTime 3 (.endpointConnectorResult none), atTime 4 .clientDeferredTask]

/-- A session that connects. -/
theorem endpoint_known_when_connected :
    ∃ start vpn, Started (connectTo [endpointAt 1] ⟨.severalAttempts, 1⟩) true start ∧
      Run step (fun v l ↦ performs pingsWithoutClient v l = true) start connectedRun vpn ∧
      vpn.state = .connected ∧ ∀ c ∈ vpn.calls, endpointKnown c = true :=
  exists_started_imp (P := fun v ↦ v.state = .connected) (by decide)
    fun _ _ hs hr hp ↦ ⟨hp, endpoint_known hs hr⟩

/-- Two forced reconnects while the client connects: the first leaves it connecting, the second
starts a ping, and then the client is connected to an endpoint that the session has dropped. -/
theorem connected_without_endpoint :
    ∃ start vpn labels, Started (connectTo [endpointAt 1] ⟨.severalAttempts, 1⟩) true start ∧
      Run step anyStep start labels vpn ∧ vpn.state = .connected ∧
      ∃ c ∈ vpn.calls, endpointKnown c = false := by
  obtain ⟨start, vpn, hs, hr, hp⟩ :=
    exists_run_of_runFrom anyStep (connectTo [endpointAt 1] ⟨.severalAttempts, 1⟩) true
      [atTime 1 .runTask, atTime 2 (.pingerResult ⟨10, endpointAt 1, none, false, false⟩),
       atTime 3 .vpnForceReconnect, atTime 4 .runTask, atTime 5 .vpnForceReconnect,
       atTime 6 .runTask, atTime 7 (.endpointConnectorResult none), atTime 8 .clientDeferredTask]
      (fun v ↦ v.state == .connected && v.calls.any fun c ↦ !endpointKnown c) (by decide)
  rw [Bool.and_eq_true, List.any_eq_true] at hp
  obtain ⟨hc, c, hm, hk⟩ := hp
  exact ⟨start, vpn, _, hs, hr, eq_of_beq hc, c, hm, by simpa using hk⟩

end TrustTunnel.Session.Endpoint

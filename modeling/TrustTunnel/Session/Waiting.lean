import TrustTunnel.Session.Calls

namespace TrustTunnel.Session.Waiting

open Lib.Transition Session.Types Manager Actions Table Step Progress Calls

/-- A step that may end the wait: the network comes back or the application connects. -/
def endsWait (vpn : Vpn) (label : Env × Input) : Bool :=
  match label.2, vpn.taskQueue with
  | .runTask, .connect _ _ :: _ => true
  | _, _ => !performs (fun v e d ↦ !(e == .networkChange && !networkLost v d)) vpn label

def startsAttempt : Call → Bool
  | .startPinger _ _ | .connectClient _ _ => true
  | _ => false

/-- No late failure of a connect reaches the session while it waits for the network, and no
reconnect is forced after it was disconnected from there. -/
def staysDown (vpn : Vpn) (event : ConnectEvent) (data : Data) : Bool :=
  match event, vpn.state with
  | .clientDisconnected, .waitingForNetwork => isFatalError vpn data
  | .doConnect, .disconnected => false
  | _, _ => true

def Down (state : VpnSessionState) : Prop := state = .waitingForNetwork ∨ state = .disconnected

section

variable {vpn : Vpn} {e : ConnectEvent} {d : Data}

theorem perform_down (hs : Down vpn.state) (ho : staysDown vpn e d = true)
    (hn : e = .networkChange → networkLost vpn d = true) :
    Down (performTransition vpn e d).state := by
  have hd : ∀ v : Vpn, Down (enter v .disconnected d).state :=
    fun v ↦ .inr (enter_state v d .disconnected)
  cases e
  case doConnect =>
    rw [perform_doConnect]
    rcases hs with hs | hs
    · rw [if_neg (by simp [hs])]
      exact hd _
    · simp [staysDown, hs] at ho
  case clientDisconnected =>
    rw [perform_clientDisconnected]
    rcases hs with hs | hs
    · have hf : isFatalError vpn d = true := by simpa [staysDown, hs] using ho
      simp only [hs, hf, if_true]
      exact hd _
    · simp [hs, Down]
  case shutdown =>
    rw [perform_shutdown]
    split
    · exact .inr ((doDisconnect_state vpn d).trans (by assumption))
    · exact hd _
  case networkChange =>
    rw [perform_networkChange]
    rcases hs with hs | hs
    · simp [hs, hn rfl, Down]
    · simp [hs, Down]
  case startListening =>
    rw [perform_startListening]
    split
    · exact hs
    · unfold startListening
      split <;> exact hs
  case completeRequest =>
    rw [(settles_completeRequest vpn d).frame.1]
    exact hs
  all_goals
    rcases hs with hs | hs <;> simp [perform_retryConnect, perform_pingReady, perform_pingFail,
      perform_clientReady, perform_doRecovery, perform_abandonEndpoint, hs, Down]

theorem startsAttempt_of_mayCall (hs : Down vpn.state) (ho : staysDown vpn event data = true)
    {c : Call} (h : MayCall vpn data event c) : startsAttempt c = false := by
  cases h with
  | teardown ht => cases ht <;> rfl
  | request hr => cases hr <;> rfl
  | retryConnect => rfl
  | stateChanged => rfl
  | reportConnected => rfl
  | startPinger relay h =>
    rcases hs with hs | hs <;> cases event <;> simp_all [startsPing, staysDown]
  | connectClient timeout h =>
    rcases hs with hs | hs <;> cases event <;> simp_all [connectsClient]

end

theorem prelude_down {v : Vpn} (hs : Down v.state) {d : Dispatch} (h : Prelude v d) :
    Down d.1.state := by
  cases h with
  | stopped hd => exact .inr hd
  | _ => simp [*]

theorem networkLost_of_endsWait {v p : Vpn} {l : Env × Input} {d : Data}
    (h : endsWait v l = false)
    (hd : dispatch v l.1 l.2 = some (p, some (.networkChange, d))) :
    networkLost p d = true := by
  unfold endsWait at h
  split at h
  · cases h
  · simpa [performs, hd] using h

structure StillDown (start vpn : Vpn) : Prop where
  down : Down vpn.state
  quiet : Extends (fun c ↦ startsAttempt c = false) start vpn

/-- The step lemma: the session waits on. -/
theorem step_stillDown {s vpn vpn' : Vpn} {l : Env × Input} (hi : StillDown s vpn)
    (hw : endsWait vpn l = false) (ho : performs staysDown vpn l = true)
    (h : step vpn l = some vpn') : StillDown s vpn' := by
  have hok' : ∀ pre e d, dispatch vpn l.1 l.2 = some (pre, some (e, d)) →
      staysDown pre e d = true := by
    intro pre e d hd
    simpa [performs, hd] using ho
  have hp : ∀ d, dispatch vpn l.1 l.2 = some d → Down d.1.state :=
    fun d hd ↦ prelude_down hi.down (prelude_dispatch vpn l.1 hd)
  refine ⟨?_, hi.quiet.trans (step_calls h ?_ ?_ ?_)⟩
  · obtain ⟨_, ⟨pre, t⟩, hd, _, rfl⟩ := step_dispatch h
    cases t with
    | none => exact hp _ hd
    | some t =>
      obtain ⟨event, data⟩ := t
      refine perform_down (hp _ hd) (hok' pre event data hd) ?_
      rintro rfl
      exact networkLost_of_endsWait hw hd
  · intro c hc
    cases hc <;> rfl
  · intro c hc
    cases hc <;> rfl
  · intro pre e d hd c hc
    exact startsAttempt_of_mayCall (hp _ hd) (hok' pre e d hd) hc

/-- A session that waits for the network starts nothing and only leaves the wait for the
disconnected state until the network comes back or the application connects, as long as no late
connect failure reaches it. -/
theorem waits_for_network {vpn vpn' : Vpn} {labels : List (Env × Input)}
    (hs : vpn.state = .waitingForNetwork)
    (hr : Run step (fun v l ↦ endsWait v l = false ∧ performs staysDown v l = true) vpn labels
      vpn') :
    (vpn'.state = .waitingForNetwork ∨ vpn'.state = .disconnected) ∧
      Extends (fun c ↦ startsAttempt c = false) vpn vpn' := by
  have h := hr.invariant (P := StillDown vpn) ⟨.inl hs, extends_of_calls_eq rfl⟩
    fun _ _ _ hi ho hp ↦ step_stillDown hi ho.1 ho.2 hp
  exact ⟨h.down, h.quiet⟩

def networkLostRun : List (Env × Input) :=
  [atTime 1 .runTask, atTime 2 (.vpnNotifyNetworkChange .notConnected),
   atTime 3 (.pingerResult ⟨-1, endpointAt 1, none, false, false⟩), atTime 4 .runTask]

/-- A retry that was in the queue is run while the network is down. -/
theorem waits_for_network_despite_retry :
    ∃ start vpn vpn', Started (connectTo [endpointAt 1] ⟨.severalAttempts, 3⟩) true start ∧
      Run step anyStep start networkLostRun vpn ∧ vpn.state = .waitingForNetwork ∧
      Run step (fun v l ↦ endsWait v l = false ∧ performs staysDown v l = true) vpn
        [atTime 5 .runTask] vpn' ∧
      (vpn'.state = .waitingForNetwork ∨ vpn'.state = .disconnected) ∧
      Extends (fun c ↦ startsAttempt c = false) vpn vpn' := by
  obtain ⟨start, vpn, hs, hr, hp⟩ :=
    exists_run_of_runFrom anyStep (connectTo [endpointAt 1] ⟨.severalAttempts, 3⟩) true
      networkLostRun
      (fun v ↦ v.state == .waitingForNetwork && (execWhile step
        (fun v l ↦ endsWait v l = false ∧ performs staysDown v l = true) v
        [atTime 5 .runTask]).any fun _ ↦ true) (by decide)
  rw [Bool.and_eq_true] at hp
  obtain ⟨vpn', hr', _⟩ := exists_run_of_execWhile _ _ _ _ _ hp.2
  have hw := eq_of_beq hp.1
  exact ⟨start, vpn, vpn', hs, hr, hw, hr', waits_for_network hw hr'⟩

/-- The connect of an attempt fails after the network was lost and before that is handled: the
failure meets a session that waits for the network, and that starts to recover without one. -/
theorem late_failure_ends_wait :
    ∃ start vpn vpn' labels, Started (connectTo [endpointAt 1] ⟨.severalAttempts, 3⟩) true start ∧
      Run step anyStep start labels vpn ∧ vpn.state = .waitingForNetwork ∧
      Run step (fun v l ↦ endsWait v l = false) vpn
        [atTime 5 .runTask, atTime (10 ^ 12) .recoveryTask] vpn' ∧
      vpn'.state = .recovering ∧ ¬ Extends (fun c ↦ startsAttempt c = false) vpn vpn' := by
  obtain ⟨start, vpn, hs, hr, hp⟩ :=
    exists_run_of_runFrom anyStep (connectTo [endpointAt 1] ⟨.severalAttempts, 3⟩) true
      [atTime 1 .runTask, atTime 2 (.vpnNotifyNetworkChange .notConnected),
       ({ now := 3, connectorStarted := some ⟨.error, "Failed to start connecting"⟩ },
        .pingerResult ⟨10, endpointAt 1, none, false, false⟩), atTime 4 .runTask]
      (fun v ↦ v.state == .waitingForNetwork && (execWhile step (fun v l ↦ endsWait v l = false) v
        [atTime 5 .runTask, atTime (10 ^ 12) .recoveryTask]).any fun v' ↦
          v'.state == .recovering &&
            (v'.calls.drop v.calls.length).any startsAttempt) (by decide)
  rw [Bool.and_eq_true] at hp
  obtain ⟨vpn', hr', hp'⟩ := exists_run_of_execWhile _ _ _ _ _ hp.2
  rw [Bool.and_eq_true, List.any_eq_true] at hp'
  obtain ⟨he, c, hm, hc⟩ := hp'
  refine ⟨start, vpn, vpn', _, hs, hr, eq_of_beq hp.1, hr', eq_of_beq he, ?_⟩
  rintro ⟨cs, hcs, hq⟩
  rw [hcs, List.drop_left] at hm
  rw [hq c hm] at hc
  cases hc

end TrustTunnel.Session.Waiting

import TrustTunnel.Session.Step

namespace TrustTunnel.Session.Progress

open Session.Types Client Manager Actions Table Step

variable {a : Activity} {d : Dispatch} {input : Input}

/-- What a session has in progress: a ping, a client connection, and the endpoint chosen for it. -/
structure Activity where
  pinger : Option LocationsPinger
  clientState : ClientConnectionState
  clientFsm : Client.State
  selectedEndpoint : Option SelectedEndpoint

def activity (vpn : Vpn) : Activity :=
  ⟨vpn.pinger, vpn.clientState, vpn.client.state, vpn.selectedEndpoint⟩

namespace Activity

def Idle (a : Activity) : Prop := a.pinger = none ∧ a.clientState = .disconnected

def Agrees (a : Activity) : Prop := a.clientState = .disconnected ↔ a.clientFsm = .disconnected

def stopClient (a : Activity) : Activity :=
  { a with
    clientState := .disconnected
    clientFsm := if a.clientState = .disconnected then a.clientFsm else .disconnected }

def stop (a : Activity) : Activity := { a.stopClient with pinger := none }

def ping (a : Activity) : Activity := { a with pinger := some {}, selectedEndpoint := none }

def connect (a : Activity) : Activity :=
  { a with clientState := .connecting, clientFsm := .connecting }

theorem stop_idle (a : Activity) : a.stop.Idle := ⟨rfl, rfl⟩

theorem Agrees.stopClient (h : a.Agrees) : a.stopClient.Agrees := by
  by_cases hc : a.clientState = .disconnected
  · simpa [Agrees, Activity.stopClient, hc] using h.1 hc
  · simp [Agrees, Activity.stopClient, hc]

theorem Agrees.stop (h : a.Agrees) : a.stop.Agrees := h.stopClient

theorem connect_agrees (a : Activity) : a.connect.Agrees := by simp [Agrees, connect]

theorem Agrees.move (h : a.Agrees) {fsm : Client.State} (hm : Move a.clientFsm fsm none) :
    ({ a with clientFsm := fsm } : Activity).Agrees := by
  obtain ⟨p, cs, clientFsm, s⟩ := a
  cases hm with
  | stay => exact h
  | closing =>
    simp only [Agrees] at h ⊢
    exact ⟨fun hc ↦ absurd (h.1 hc) (by decide), fun hc ↦ by cases hc⟩

end Activity

open Activity

variable (vpn : Vpn) (data : Data)

@[simp] theorem activity_raiseState : activity (raiseState vpn data) = activity vpn := by
  unfold raiseState
  split <;> rfl

@[simp] theorem raiseState_state : (raiseState vpn data).state = vpn.state := by
  unfold raiseState
  split <;> rfl

@[simp] theorem activity_enter (s : VpnSessionState) :
    activity (enter vpn s data) = activity vpn := by
  unfold enter
  rw [activity_raiseState]
  rfl

@[simp] theorem enter_state (state : VpnSessionState) : (enter vpn state data).state = state := by
  unfold enter
  rw [raiseState_state]

@[simp] theorem activity_stopPinging :
    activity (stopPinging vpn) = { activity vpn with pinger := none } := by
  unfold stopPinging
  split
  · rename_i h
    simp [activity, h]
  · rfl

@[simp] theorem stopPinging_state : (stopPinging vpn).state = vpn.state := by
  unfold stopPinging
  split <;> rfl

@[simp] theorem activity_disconnectClient :
    activity (disconnectClient vpn) = (activity vpn).stopClient := by
  unfold disconnectClient
  split
  · rename_i h
    simp [activity, stopClient, h]
  all_goals
    rename_i h
    simp [activity, stopClient, h, Vpn.call]

@[simp] theorem disconnectClient_state : (disconnectClient vpn).state = vpn.state := by
  unfold disconnectClient
  split <;> rfl

@[simp] theorem activity_disconnect : activity (disconnect vpn) = (activity vpn).stop := by
  unfold disconnect
  rw [activity_disconnectClient, activity_stopPinging]
  rfl

@[simp] theorem disconnect_state : (disconnect vpn).state = vpn.state := by
  unfold disconnect
  rw [disconnectClient_state, stopPinging_state]

@[simp] theorem activity_initiateRecovery (now : ℕ) :
    activity (initiateRecovery vpn now) = activity vpn := by
  unfold initiateRecovery
  split
  · rfl
  · simp only [activity]

theorem activity_runPing : activity (runPing vpn data) = (activity vpn).ping := by
  have h := activity_stopPinging vpn
  simp only [activity, Activity.mk.injEq] at h
  simp only [runPing, Vpn.call, activity, ping, h]

theorem runPing_state : (runPing vpn data).state = vpn.state := by
  simp only [runPing, Vpn.call, stopPinging_state]

theorem activity_retryConnect : activity (retryConnect vpn data) = (activity vpn).stop := by
  simp only [retryConnect]
  split <;> exact activity_disconnect _

theorem retryConnect_state : (retryConnect vpn data).state = vpn.state := by
  simp only [retryConnect]
  split <;> exact disconnect_state _

theorem activity_prepareForRecovery :
    activity (prepareForRecovery vpn data) = (activity vpn).stop := by
  simp only [prepareForRecovery, activity_initiateRecovery, activity_disconnect]
  rfl

theorem activity_doDisconnect : activity (doDisconnect vpn data) = (activity vpn).stop := by
  simp only [doDisconnect, activity_disconnect]
  rfl

theorem doDisconnect_state : (doDisconnect vpn data).state = vpn.state := disconnect_state _

theorem activity_onWrongConnectState :
    activity (onWrongConnectState vpn data) = (activity vpn).stop := by
  rw [← activity_disconnect]
  rfl

theorem activity_finalizeRecovery :
    activity (finalizeRecovery vpn data) = { activity vpn with pinger := none } :=
  activity_stopPinging { vpn with recovery := {} }

/-- Whether `complete_connect` disconnects: for an error of its own that nobody recorded before. -/
def recordsError : Bool :=
  vpn.pendingError.isNone && data.error.any fun error ↦ error.code != .noerror

theorem activity_recordConnectError : activity (recordConnectError vpn data) =
    if recordsError vpn data then (activity vpn).stop else activity vpn := by
  unfold recordConnectError recordsError
  cases hp : vpn.pendingError with
  | some e => rfl
  | none =>
    cases he : data.error with
    | none => rfl
    | some e =>
      by_cases hc : e.code = .noerror
      · simp [hc]
      · have hr : (Option.isNone (none : Option VpnError) &&
            (some e).any fun er ↦ er.code != .noerror) = true := by simp [hc]
        rw [if_pos hr, ← activity_disconnect]
        simp only [hc, beq_iff_eq, if_false]
        rfl

theorem activity_completeConnect : activity (completeConnect vpn data) =
    if recordsError vpn data then (activity vpn).stop else activity vpn := by
  rw [← activity_recordConnectError]
  simp only [completeConnect]
  split <;> split <;> rfl

theorem selectedEndpoint_of_config {c : EndpointConnectionConfig}
    (h : makeClientUpstreamConfig vpn = some c) : vpn.selectedEndpoint.isSome := by
  unfold makeClientUpstreamConfig at h
  cases hs : vpn.selectedEndpoint with
  | none => simp [hs] at h
  | some s => rfl

theorem activity_runClientConnect (env : Env) (t : Option ℕ) :
    activity (runClientConnect vpn env t) = activity vpn ∨
      activity (runClientConnect vpn env t) = (activity vpn).connect ∧
        vpn.selectedEndpoint.isSome := by
  unfold runClientConnect
  split
  · exact .inl rfl
  · rename_i c hg
    have hs := connect_spec vpn.client c env.connectorStarted env.bypassOpened
    dsimp only
    split
    · rename_i hc
      rcases hs with ⟨_, _, ht⟩ | ⟨hn, _⟩
      · refine .inr ⟨?_, selectedEndpoint_of_config vpn hg⟩
        simp only [activity, connect, Vpn.call, ht]
      · exact absurd hc hn
    · rename_i hc
      rcases hs with ⟨he, _⟩ | ⟨_, ht⟩
      · exact absurd he hc
      · left
        simp only [activity, Vpn.submit, Vpn.call, ht]

@[simp] theorem runClientConnect_state (env : Env) (t : Option ℕ) :
    (runClientConnect vpn env t).state = vpn.state := by
  unfold runClientConnect
  split
  · rfl
  · dsimp only
    split <;> rfl

/-- The transition gives the connect attempt up through `complete_connect`. -/
def givesUp (event : ConnectEvent) : Bool :=
  vpn.state == .connecting &&
    match event with
    | .pingFail | .clientDisconnected =>
      isFatalError vpn data || !fallIntoRecovery vpn data && noConnectAttempts vpn data
    | .abandonEndpoint => isFatalError vpn data
    | .networkChange => noConnectAttempts vpn data
    | _ => false

/-- The transition that gives the attempt up also ends what is in progress. -/
def disconnectsFirst (event : ConnectEvent) : Bool :=
  if event = .networkChange then vpn.pendingError.isNone else recordsError vpn data

inductive Ends : Vpn → Prop
  | recovery (d : Data) (hd : d.env = data.env) : Ends (prepareForRecovery vpn d)
  | disconnect : Ends (doDisconnect vpn data)
  | wrongState : Ends (onWrongConnectState vpn data)

inductive Settles : Vpn → Prop
  | complete : Settles (completeRequest vpn data)
  | postpone : Settles (postponeRequest vpn data)
  | reject : Settles (rejectRequest vpn data)
  | bypass : Settles (bypassUntilConnected vpn data)

/-- What the transition of an event does, by the action that the table gives it. -/
inductive Performs : ConnectEvent → Vpn → Prop
  | ignored {event} (h : event = .abandonEndpoint →
      vpn.state ≠ .connecting ∧ vpn.state ≠ .connected ∧ vpn.state ≠ .recovering) :
      Performs event vpn
  | ends {event vpn' state} (h : Ends vpn data vpn') (hs : state ≠ .connected) :
      Performs event (enter vpn' state data)
  | shutdown : Performs .shutdown (doDisconnect vpn data)
  | firstPing (h : vpn.state = .disconnected) :
      Performs .doConnect (enter (runPing vpn data) .connecting data)
  | nextPing (h : vpn.state = .connecting) : Performs .retryConnect (runPing vpn data)
  | recoveryPing {event} (h : vpn.state = .waitingRecovery)
      (he : event = .doRecovery ∧ needToPingOnRecovery vpn data = true ∨
        event = .networkChange ∧ networkLost vpn data = false) :
      Performs event (enter (runPing vpn data) .recovering data)
  | connect (h : vpn.state = .connecting) : Performs .pingReady (connectClient vpn data)
  | reconnect (h : vpn.state = .recovering) : Performs .pingReady (reconnectClient vpn data)
  | recoveryConnect (h : vpn.state = .waitingRecovery)
      (hp : needToPingOnRecovery vpn data = false) :
      Performs .doRecovery (enter (connectClient vpn data) .recovering data)
  | giveUp {event} (hn : event ≠ .networkChange) (h : vpn.state = .connecting)
      (hg : givesUp vpn data event = true) :
      Performs event (enter (completeConnect vpn data) .disconnected data)
  | giveUpOnNetworkChange (h : vpn.state = .connecting ∧ givesUp vpn data .networkChange = true ∨
        vpn.state = .waitingForNetwork) :
      Performs .networkChange (enter (failConnectWithNoAttempts vpn data) .disconnected data)
  | ready (h : vpn.state = .connecting) :
      Performs .clientReady (enter (completeConnect vpn data) .connected data)
  | recovered (h : vpn.state = .recovering) :
      Performs .clientReady (enter (finalizeRecovery vpn data) .connected data)
  | retry {event} (h : vpn.state = .connecting) (hf : isFatalError vpn data = false)
      (he : event = .abandonEndpoint ∨ (event = .pingFail ∨ event = .clientDisconnected) ∧
        fallIntoRecovery vpn data = false ∧ noConnectAttempts vpn data = false) :
      Performs event (retryConnect vpn data)
  | retryOnNetworkChange (h : vpn.state = .waitingForNetwork) (hl : networkLost vpn data = false)
      (hc : connectedOnce vpn data = false) (hn : noConnectAttempts vpn data = false) :
      Performs .networkChange (enter (retryConnect vpn data) .connecting data)
  | startListening : Performs .startListening (startListening vpn data)
  | request {vpn'} (h : Settles vpn data vpn') : Performs .completeRequest vpn'

section

variable {e : ConnectEvent}

theorem performs_ended :
    Performs vpn data e (if isFatalError vpn data then
      enter (doDisconnect vpn data) .disconnected data
      else enter (prepareForRecovery vpn data) .waitingRecovery data) := by
  split
  · exact .ends .disconnect (by decide)
  · exact .ends (.recovery data rfl) (by decide)

theorem performs_networkLost {v : Vpn} (h : networkLost vpn data = false → Performs vpn data e v) :
    Performs vpn data e (if networkLost vpn data then
      enter (doDisconnect vpn data) .waitingForNetwork data else v) := by
  split
  · exact .ends .disconnect (by decide)
  · rename_i hl
    exact h (by simpa using hl)

theorem performs_failed (he : event = .pingFail ∨ event = .clientDisconnected)
    (h : vpn.state = .connecting) :
    Performs vpn data event (if isFatalError vpn data then
        enter (completeConnect vpn data) .disconnected data
      else if fallIntoRecovery vpn data then
        enter (prepareForRecovery vpn data) .waitingRecovery data
      else if noConnectAttempts vpn data then enter (completeConnect vpn data) .disconnected data
      else retryConnect vpn data) := by
  have hn : event ≠ .networkChange := by rcases he with rfl | rfl <;> decide
  split
  · rename_i hf
    exact .giveUp hn h (by rcases he with rfl | rfl <;> simp [givesUp, h, hf])
  · rename_i hf
    split
    · exact .ends (.recovery data rfl) (by decide)
    · rename_i hr
      split
      · rename_i ha
        exact .giveUp hn h (by rcases he with rfl | rfl <;> simp [givesUp, h, hr, ha])
      · rename_i ha
        exact .retry h (by simpa using hf) (.inr ⟨he, by simpa using hr, by simpa using ha⟩)

end

theorem Settles.frame {v : Vpn} (h : Settles vpn data v) :
    v.state = vpn.state ∧ v.taskQueue = vpn.taskQueue := by
  cases h <;> exact ⟨rfl, rfl⟩

theorem settles_completeRequest :
    Settles vpn data (performTransition vpn .completeRequest data) := by
  rw [perform_completeRequest]
  split
  · exact .complete
  · split
    · exact .postpone
    · split
      · exact .reject
      · exact .bypass

theorem performs_transition (event : ConnectEvent) :
    Performs vpn data event (performTransition vpn event data) := by
  have hs : ∀ {event}, event ≠ .abandonEndpoint → Performs vpn data event vpn :=
    fun h ↦ .ignored fun he ↦ absurd he h
  cases event
  case doConnect =>
    rw [perform_doConnect]
    split
    · exact .firstPing ‹_›
    · exact .ends .wrongState (by decide)
  case retryConnect =>
    rw [perform_retryConnect]
    split
    · exact .nextPing ‹_›
    · exact hs (by decide)
  case pingReady =>
    rw [perform_pingReady]
    split
    · exact .connect ‹_›
    · exact .reconnect ‹_›
    · exact hs (by decide)
  case pingFail =>
    rw [perform_pingFail]
    split
    · exact performs_failed vpn data (.inl rfl) ‹_›
    · exact performs_ended vpn data
    · exact hs (by decide)
  case clientReady =>
    rw [perform_clientReady]
    split
    · exact .ready ‹_›
    · exact .recovered ‹_›
    · exact hs (by decide)
  case clientDisconnected =>
    rw [perform_clientDisconnected]
    split
    · exact hs (by decide)
    · exact performs_failed vpn data (.inr rfl) ‹_›
    · split
      · exact .ends .disconnect (by decide)
      · exact hs (by decide)
    · exact performs_ended vpn data
  case doRecovery =>
    rw [perform_doRecovery]
    split
    · split
      · exact .recoveryPing ‹_› (.inl ⟨rfl, ‹_›⟩)
      · rename_i hp
        exact .recoveryConnect ‹_› (by simpa using hp)
    · exact hs (by decide)
  case shutdown =>
    rw [perform_shutdown]
    split
    · exact .shutdown
    · exact .ends .disconnect (by decide)
  case networkChange =>
    rw [perform_networkChange]
    split
    · exact hs (by decide)
    · rename_i h
      split
      · rename_i hn
        exact .giveUpOnNetworkChange (.inl ⟨h, by simp [givesUp, h, hn]⟩)
      · exact performs_networkLost vpn data fun _ ↦ hs (by decide)
    · exact performs_networkLost vpn data fun _ ↦ .ends (.recovery _ rfl) (by decide)
    · rename_i h
      exact performs_networkLost vpn data fun hl ↦ .recoveryPing h (.inr ⟨rfl, hl⟩)
    · exact performs_networkLost vpn data fun _ ↦ hs (by decide)
    · rename_i h
      split
      · exact hs (by decide)
      · rename_i hl
        split
        · exact .ends (.recovery _ rfl) (by decide)
        · rename_i hc
          split
          · exact .giveUpOnNetworkChange (.inr h)
          · rename_i hn
            exact .retryOnNetworkChange h (by simpa using hl) (by simpa using hc)
              (by simpa using hn)
  case startListening =>
    rw [perform_startListening]
    split
    · exact hs (by decide)
    · exact .startListening
  case abandonEndpoint =>
    rw [perform_abandonEndpoint]
    split
    · rename_i h
      split
      · rename_i hf
        exact .giveUp (by decide) h (by simp [givesUp, h, hf])
      · rename_i hf
        exact .retry h (by simpa using hf) (.inl rfl)
    · exact performs_ended vpn data
    · exact performs_ended vpn data
    · rename_i h
      split
      · exact .ends .disconnect (by decide)
      · exact .ignored fun _ ↦ by simp [h]
    · rename_i h₁ h₂ h₃ _
      exact .ignored fun _ ↦ ⟨h₁, h₂, h₃⟩
  case completeRequest => exact .request (settles_completeRequest vpn data)

/-- How one transition changes the session state and what is in progress. -/
inductive Effect : ConnectEvent → VpnSessionState → VpnSessionState → Activity → Prop
  | keep {event s} (h : event ≠ .abandonEndpoint) : Effect event s s (activity vpn)
  | abandonIgnored {s} (h : s ≠ .connecting ∧ s ≠ .connected ∧ s ≠ .recovering) :
      Effect .abandonEndpoint s s (activity vpn)
  | connectFailed {event} : Effect event .waitingRecovery .recovering (activity vpn)
  | stop {event s} (t : VpnSessionState) : Effect event s t (activity vpn).stop
  | firstPing : Effect .doConnect .disconnected .connecting (activity vpn).ping
  | nextPing : Effect .retryConnect .connecting .connecting (activity vpn).ping
  | recoveryPing {event} : Effect event .waitingRecovery .recovering (activity vpn).ping
  | connect (h : vpn.selectedEndpoint.isSome) :
      Effect .pingReady .connecting .connecting (activity vpn).connect
  | recoveryConnect (h : vpn.selectedEndpoint.isSome) :
      Effect .doRecovery .waitingRecovery .recovering (activity vpn).connect
  | reconnect (h : vpn.selectedEndpoint.isSome) :
      Effect .pingReady .recovering .recovering (activity vpn).stopClient.connect
  | reconnectFailed : Effect .pingReady .recovering .recovering (activity vpn).stopClient
  | ready : Effect .clientReady .connecting .connected (activity vpn)
  | recovered : Effect .clientReady .recovering .connected { activity vpn with pinger := none }
  | listenFailed {s} (fsm : Client.State) (h : Move vpn.client.state fsm none) :
      Effect .startListening s s { activity vpn with clientFsm := fsm }
  /-- `complete_connect` reports the end of the attempt and leaves what was in progress running. -/
  | giveUp {event} (h : givesUp vpn data event = true)
      (hd : disconnectsFirst vpn data event = false) :
      Effect event .connecting .disconnected (activity vpn)
  | giveUpWaiting : Effect .networkChange .waitingForNetwork .disconnected (activity vpn)

theorem effect_enter {e : ConnectEvent} {s t : VpnSessionState} {v : Vpn}
    (h : Effect vpn data e s t (activity v)) :
    Effect vpn data e s (enter v t data).state (activity (enter v t data)) := by
  rw [enter_state, activity_enter]
  exact h

theorem activity_ends {v : Vpn} (h : Ends vpn data v) : activity v = (activity vpn).stop := by
  cases h with
  | recovery d => exact activity_prepareForRecovery vpn d
  | disconnect => exact activity_doDisconnect vpn data
  | wrongState => exact activity_onWrongConnectState vpn data

theorem activity_failConnectWithNoAttempts :
    activity (failConnectWithNoAttempts vpn data) =
      if disconnectsFirst vpn data .networkChange then (activity vpn).stop else activity vpn := by
  have hr : recordsError vpn { data with error := some attemptsExceeded } =
      disconnectsFirst vpn data .networkChange := by
    simp [recordsError, disconnectsFirst, attemptsExceeded]
  rw [failConnectWithNoAttempts, activity_completeConnect, hr]

theorem effect_reconnectClient (h : vpn.state = .recovering) :
    Effect vpn data .pingReady .recovering (reconnectClient vpn data).state
      (activity (reconnectClient vpn data)) := by
  simp only [reconnectClient, runClientConnect_state, disconnectClient_state, h]
  rcases activity_runClientConnect (disconnectClient vpn) data.env
    (some (min (disconnectClient vpn).recovery.time.betweenAttempts
      (disconnectClient vpn).upstreamConfig.timeoutMs)) with ha | ⟨ha, hsel⟩
  · rw [ha, activity_disconnectClient]
    exact .reconnectFailed
  · rw [ha, activity_disconnectClient]
    have hs : (disconnectClient vpn).selectedEndpoint = vpn.selectedEndpoint :=
      congrArg Activity.selectedEndpoint (activity_disconnectClient vpn)
    exact .reconnect (hs ▸ hsel)

theorem effect_startListening :
    Effect vpn data .startListening vpn.state (startListening vpn data).state
      (activity (startListening vpn data)) := by
  unfold startListening
  split
  · exact .keep (by decide)
  · have hm := move_submitDisconnect vpn.client none (.inr (.inl rfl))
    have hr : (vpn.client.performTransition .runPreparationFail).raised = none := by
      obtain ⟨_, _, _, _, _, _, _, _, _, _, _, ⟨s⟩⟩ := vpn
      cases s <;> rfl
    rw [hr] at hm
    exact .listenFailed _ hm

/-- What a transition does to the state and to what the session has running. -/
theorem perform_effect (e : ConnectEvent) :
    Effect vpn data e vpn.state (performTransition vpn e data).state
      (activity (performTransition vpn e data)) := by
  have hp := performs_transition vpn data e
  generalize performTransition vpn e data = after at hp ⊢
  cases hp with
  | ignored h =>
    by_cases he : e = .abandonEndpoint
    · subst he
      exact .abandonIgnored (h rfl)
    · exact .keep he
  | ends h _ => exact effect_enter vpn data (activity_ends vpn data h ▸ .stop _)
  | shutdown =>
    rw [doDisconnect_state, activity_doDisconnect]
    exact .stop _
  | firstPing h =>
    rw [h]
    exact effect_enter vpn data (activity_runPing vpn data ▸ .firstPing)
  | nextPing h =>
    rw [runPing_state, activity_runPing, h]
    exact .nextPing
  | recoveryPing h _ =>
    rw [h]
    exact effect_enter vpn data (activity_runPing vpn data ▸ .recoveryPing)
  | connect h =>
    rw [connectClient, runClientConnect_state, h]
    rcases activity_runClientConnect vpn data.env none with ha | ⟨ha, hs⟩
    · rw [ha]
      exact .keep (by decide)
    · rw [ha]
      exact .connect hs
  | reconnect h =>
    rw [h]
    exact effect_reconnectClient vpn data h
  | recoveryConnect h _ =>
    rw [h]
    refine effect_enter vpn data ?_
    rcases activity_runClientConnect vpn data.env none with ha | ⟨ha, hs⟩
    · rw [connectClient, ha]
      exact .connectFailed
    · rw [connectClient, ha]
      exact .recoveryConnect hs
  | giveUp hn h hg =>
    rw [h]
    refine effect_enter vpn data ?_
    rw [activity_completeConnect]
    split
    · exact .stop _
    · rename_i hr
      refine .giveUp hg ?_
      rw [disconnectsFirst, if_neg hn]
      simpa using hr
  | giveUpOnNetworkChange h =>
    refine effect_enter vpn data ?_
    rw [activity_failConnectWithNoAttempts]
    split
    · exact .stop _
    · rename_i hd
      rcases h with ⟨h, hg⟩ | h
      · rw [h]
        exact .giveUp hg (by simpa using hd)
      · rw [h]
        exact .giveUpWaiting
  | ready h =>
    rw [h]
    refine effect_enter vpn data ?_
    rw [activity_completeConnect]
    split
    · exact .stop _
    · exact .ready
  | recovered h =>
    rw [h]
    exact effect_enter vpn data (activity_finalizeRecovery vpn data ▸ .recovered)
  | retry h _ _ =>
    rw [activity_retryConnect, retryConnect_state, h]
    exact .stop _
  | retryOnNetworkChange => exact effect_enter vpn data (activity_retryConnect vpn data ▸ .stop _)
  | startListening => exact effect_startListening vpn data
  | request h => cases h <;> exact .keep (by decide)

/-- What an entry point does to the session before the transition it performs. -/
inductive Prelude : Dispatch → Prop
  | same {pre : Vpn} {t : Option (ConnectEvent × Data)} (hs : pre.state = vpn.state)
      (ha : activity pre = activity vpn)
      (ht : ∀ e d, t = some (e, d) → e ≠ .pingReady ∧ e ≠ .clientReady) : Prelude (pre, t)
  | pinged {pre : Vpn} {d : Data} (selected : SelectedEndpoint) (hp : vpn.pinger = some ⟨false⟩)
      (hs : pre.state = vpn.state)
      (ha : activity pre =
        { activity vpn with pinger := some ⟨true⟩, selectedEndpoint := some selected }) :
      Prelude (pre, some (.pingReady, d))
  | pingFailed {pre : Vpn} {d : Data} (hp : vpn.pinger = some ⟨false⟩)
      (hs : pre.state = vpn.state)
      (ha : activity pre = { activity vpn with pinger := some ⟨true⟩, selectedEndpoint := none }) :
      Prelude (pre, some (.pingFail, d))
  | abandoned {pre : Vpn} {d : Data} (hs : pre.state = vpn.state)
      (ha : activity pre = { activity vpn with selectedEndpoint := none }) :
      Prelude (pre, some (.abandonEndpoint, d))
  | clientMoved {pre : Vpn} (fsm : Client.State) (hm : Move vpn.client.state fsm none)
      (hs : pre.state = vpn.state) (ha : activity pre = { activity vpn with clientFsm := fsm }) :
      Prelude (pre, none)
  | clientReady {pre : Vpn} {d : Data} (hc : vpn.client.state = .connecting)
      (hs : pre.state = vpn.state)
      (ha : activity pre =
        { activity vpn with clientState := .connected, clientFsm := .connected }) :
      Prelude (pre, some (.clientReady, d))
  | clientGone {pre : Vpn} {d : Data} (hs : pre.state = vpn.state)
      (ha : activity pre =
        { activity vpn with clientState := .disconnected, clientFsm := .disconnected }) :
      Prelude (pre, some (.clientDisconnected, d))
  | stopped {pre : Vpn} (hs : pre.state = .disconnected)
      (ha : activity pre = ⟨none, .disconnected, .disconnected, none⟩) : Prelude (pre, none)

variable (env : Env)

def Reacts (before after : VpnClient) : Prop :=
  Move before.state after.state after.raised ∧ after.killSwitchOn = before.killSwitchOn

inductive Looped : Input → Dispatch → Prop
  | task {task : Task} {rest : List Task} (hq : vpn.taskQueue = task :: rest) :
      Looped .runTask (Task.dispatch { vpn with taskQueue := rest } env task)
  | recovery : Looped .recoveryTask
      ({ vpn with
          recovery :=
            { vpn.recovery with
              task := none
              time := { vpn.recovery.time with attemptStartTs := env.now } }
          lastRecoveryFireTs := env.now }, some (.doRecovery, { env }))
  | window : Looped .postponementWindowTimer (postponementWindowTimerCb vpn, none)
  | pinged (result : LocationsPingerResult) (hp : vpn.pinger = some ⟨false⟩) :
      Looped (.pingerResult result) (pingerHandler { vpn with pinger := some ⟨true⟩ } env result)
  | connector (result : Option VpnError) : Looped (.endpointConnectorResult result)
      ({ vpn with client := endpointConnectorHandler vpn.client result }, none)
  | client {input : Input} {client : VpnClient} (h : Reacts vpn.client client) :
      Looped input (clientHandler vpn env client)
  | failed : Looped .eventLoopFailure
      ({ vpn with
          pendingError := some ⟨.eventLoopFailure, "Event loop run error"⟩
          running := false }, some (.shutdown, { env }))

inductive Dispatched : Input → Dispatch → Prop
  | refused {input : Input} : Dispatched input (vpn, none)
  | connect {parameters : VpnConnectParameters} (hx : vpn.executorThread = false)
      (hs : vpn.stopping = false) : Dispatched (.vpnConnect parameters)
        ({ vpn with executorThread := true, running := true }.submit
          (.connect parameters.upstreamConfig (makeRetryInfo parameters.retryInfo)), none)
  | stop : Dispatched .vpnStop ({ vpn.submit .shutdown with stopping := true }, none)
  | exited (hs : vpn.stopping = true) : Dispatched .eventLoopExited (finishStop vpn, none)
  | submitted {input : Input} {task : Task} (h : apiTask input = some task) :
      Dispatched input (vpn.submit task, none)
  | loop {input : Input} {d : Dispatch} (hr : vpn.running = true) (h : Looped vpn env input d) :
      Dispatched input d

theorem looped_of_loopDispatch (h : loopDispatch vpn env input = some d) :
    Looped vpn env input d := by
  unfold loopDispatch at h
  split at h
  · split at h
    · cases h
    · rename_i hq
      cases h
      exact .task hq
  · split at h
    · cases h
    · split at h
      · cases h
        exact .recovery
      · cases h
  · split at h
    · cases h
    · split at h
      · cases h
        exact .window
      · cases h
  · split at h
    · rename_i hp
      cases h
      exact .pinged _ hp
    · cases h
  · split at h
    · cases h
      exact .connector _
    · cases h
  · split at h
    · cases h
    · rename_i t deferredTasks _
      cases h
      exact .client ⟨move_deferredTask t { vpn.client with deferredTasks },
        killSwitchOn_deferredTask t _⟩
  · cases h
    exact .client ⟨move_sessionClosed vpn.client none, killSwitchOn_performTransition _ _ _⟩
  · cases h
    exact .client ⟨move_submitDisconnect vpn.client _ (.inl rfl),
      killSwitchOn_performTransition _ _ _⟩
  · cases h
    exact .client ⟨move_submitDisconnect vpn.client _ (.inr (.inr rfl)),
      killSwitchOn_performTransition _ _ _⟩
  · cases h
    exact .failed
  · cases h

theorem dispatched_of_dispatch (h : dispatch vpn env input = some d) :
    Dispatched vpn env input d := by
  unfold dispatch at h
  split at h
  · split at h
    · cases h
    · rename_i hp
      split at h
      · cases h
        exact .refused
      · rename_i hc
        cases h
        unfold vpnConnect at hc
        split at hc
        · cases hc
        · split at hc
          · cases hc
          · rename_i hx
            cases hc
            exact .connect (by simpa using hx) (by simpa using hp)
  · cases h
    exact .stop
  · split at h
    · rename_i hs
      cases h
      exact .exited hs
    · cases h
  · split at h
    · rename_i ht
      cases h
      split
      · exact .submitted ht
      · exact .refused
    · split at h
      · rename_i hr
        exact .loop hr (looped_of_loopDispatch vpn env h)
      · cases h

/-- All that a task can change before the transition it asks for. -/
theorem dispatch_task (t : Task) : (Task.dispatch vpn env t).1 = { vpn with
      selectedEndpoint := (Task.dispatch vpn env t).1.selectedEndpoint
      upstreamConfig := (Task.dispatch vpn env t).1.upstreamConfig
      pendingError := (Task.dispatch vpn env t).1.pendingError
      connectRetryInfo := (Task.dispatch vpn env t).1.connectRetryInfo
      recovery := (Task.dispatch vpn env t).1.recovery
      networkChangedBeforeRecovery := (Task.dispatch vpn env t).1.networkChangedBeforeRecovery
      pingFailureInducesLocationUnavailable :=
        (Task.dispatch vpn env t).1.pingFailureInducesLocationUnavailable } := by
  cases t
  case abandonEndpoint endpoint =>
    simp only [Task.dispatch, abandonEndpoint]
    split
    · rfl
    · split <;> rfl
  case forceReconnect =>
    simp only [Task.dispatch, forceReconnect]
    split <;> rfl
  all_goals rfl

theorem prelude_abandonEndpoint (r : List Task) (e : VpnEndpoint) :
    Prelude vpn (abandonEndpoint { vpn with taskQueue := r } env e) := by
  simp only [abandonEndpoint]
  by_cases hsel : isSelectedEndpoint { vpn with taskQueue := r } e = true
  · simp only [hsel, if_true]
    split <;> exact .abandoned rfl rfl
  · simp only [hsel]
    split <;> exact .same rfl rfl (by simp)

theorem prelude_task (r : List Task) (t : Task) :
    Prelude vpn (Task.dispatch { vpn with taskQueue := r } env t) := by
  cases t
  case abandonEndpoint endpoint => exact prelude_abandonEndpoint vpn env r endpoint
  case forceReconnect =>
    simp only [Task.dispatch, forceReconnect]
    split <;> exact .same rfl rfl (by simp)
  all_goals exact .same rfl rfl (by simp)

theorem prelude_pingerHandler (hp : vpn.pinger = some ⟨false⟩) (r : LocationsPingerResult) :
    Prelude vpn (pingerHandler { vpn with pinger := some ⟨true⟩ } env r) := by
  simp only [pingerHandler]
  split
  · exact .pingFailed hp rfl rfl
  · split
    · exact .pingFailed hp rfl rfl
    · exact .pinged ⟨r.endpoint, r.relay⟩ hp rfl rfl

theorem prelude_clientHandler {c : VpnClient} (hm : Move vpn.client.state c.state c.raised) :
    Prelude vpn (clientHandler vpn env c) := by
  simp only [clientHandler]
  generalize hc : vpn.client.state = before at hm
  split
  · rename_i hr
    rw [hr] at hm
    exact .clientMoved c.state (hc ▸ hm) rfl rfl
  · rename_i hr
    rw [hr] at hm
    generalize haft : c.state = after at hm
    cases hm
    exact .clientReady hc rfl (by simp only [activity])
  · rename_i hr
    rw [hr] at hm
    generalize haft : c.state = after at hm
    cases hm
    exact .clientGone rfl (by simp only [activity])
  · rename_i hr
    rw [hr] at hm
    generalize haft : c.state = after at hm
    cases hm
    exact .clientGone rfl (by simp only [activity])

theorem activity_finishStop :
    activity (finishStop vpn) = ⟨none, .disconnected, .disconnected, none⟩ := by
  unfold finishStop
  rw [activity_stopPinging]
  rfl

theorem prelude_dispatch (h : dispatch vpn env input = some d) : Prelude vpn d := by
  cases dispatched_of_dispatch vpn env h with
  | exited => exact .stopped (stopPinging_state _) (activity_finishStop vpn)
  | loop _ h =>
    cases h with
    | task => exact prelude_task vpn env _ _
    | pinged r hp => exact prelude_pingerHandler vpn env hp r
    | client hc => exact prelude_clientHandler vpn env hc.1
    | _ => exact .same rfl rfl (by simp)
  | _ => exact .same rfl rfl (by simp)

/-- A step dispatches its input and performs the transition that this asks for. -/
theorem step_dispatch {vpn v : Vpn} {l : Env × Input} (h : step vpn l = some v) :
    vpn.terminated = false ∧
      ∃ d, dispatch vpn l.1 l.2 = some d ∧ Prelude vpn d ∧ v = d.perform := by
  unfold step at h
  split at h
  · cases h
  · rename_i ht
    obtain ⟨d, hd, rfl⟩ := Option.map_eq_some_iff.1 h
    exact ⟨by simpa using ht, d, hd, prelude_dispatch vpn l.1 hd, rfl⟩

theorem started_activity {ps : VpnConnectParameters} {kso : Bool} {vpn : Vpn}
    (h : Started ps kso vpn) :
    vpn.state = .disconnected ∧ activity vpn = ⟨none, .disconnected, .disconnected, none⟩ := by
  unfold Started vpnConnect at h
  split at h
  · cases h
  · cases h
    exact ⟨rfl, rfl⟩

end TrustTunnel.Session.Progress

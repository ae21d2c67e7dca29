import TrustTunnel.Session.Progress

namespace TrustTunnel.Session.Calls

open Session.Types Client Manager Actions Table Step Progress List

variable {event : ConnectEvent} {vpn' : Vpn}

def Extends (P : Call → Prop) (vpn vpn' : Vpn) : Prop :=
  ∃ cs, vpn'.calls = vpn.calls ++ cs ∧ ∀ c ∈ cs, P c

section

variable {P Q : Call → Prop} {v vpn' vpn'' : Vpn}

theorem extends_of_calls_eq (h : vpn'.calls = v.calls) : Extends P v vpn' :=
  ⟨[], by simpa using h, by simp⟩

theorem extends_one {c : Call} (h : vpn'.calls = v.calls ++ [c]) (hc : P c) :
    Extends P v vpn' :=
  ⟨[c], h, by simpa using hc⟩

theorem Extends.trans (h : Extends P v vpn') (h' : Extends P vpn' vpn'') :
    Extends P v vpn'' := by
  obtain ⟨cs, hs, hp⟩ := h
  obtain ⟨ds, hd, hq⟩ := h'
  refine ⟨cs ++ ds, by rw [hd, hs, append_assoc], ?_⟩
  intro c hc
  rcases mem_append.1 hc with hc | hc
  · exact hp c hc
  · exact hq c hc

theorem Extends.mono (h : Extends P v vpn') (hq : ∀ c, P c → Q c) : Extends Q v vpn' := by
  obtain ⟨cs, hs, hp⟩ := h
  exact ⟨cs, hs, fun c hc ↦ hq c (hp c hc)⟩

theorem Extends.filterMap_eq {β : Type} {f : Call → Option β} (h : Extends P v vpn')
    (hf : ∀ c, P c → f c = none) : vpn'.calls.filterMap f = v.calls.filterMap f := by
  obtain ⟨cs, hs, hp⟩ := h
  rw [hs, filterMap_append, filterMap_eq_nil_iff.2 fun c hc ↦ hf c (hp c hc), append_nil]

theorem Extends.forall (h : Extends P v vpn') (hv : ∀ c ∈ v.calls, P c) :
    ∀ c ∈ vpn'.calls, P c := by
  obtain ⟨cs, hs, hp⟩ := h
  intro c hc
  rw [hs] at hc
  rcases mem_append.1 hc with hc | hc
  · exact hv c hc
  · exact hp c hc

end

inductive Teardown : Call → Prop
  | stopPinger : Teardown .stopPinger
  | disconnectClient : Teardown .disconnectClient
  | healthCheck : Teardown .healthCheck

inductive RequestCall : Call → Prop
  | complete (site : Site) (id : ℕ) (action : Option VpnConnectAction) :
      RequestCall (.completeConnectRequest site id action)
  | reject (site : Site) (id : ℕ) : RequestCall (.rejectConnectRequest site id)
  | postpone (request : ConnectRequestResult) : RequestCall (.postponeRequest request)
  | reset (id : ℕ) : RequestCall (.resetConnection id)

variable (vpn : Vpn) (data : Data)

theorem extends_stopPinging : Extends Teardown vpn (stopPinging vpn) := by
  unfold stopPinging
  split
  · exact extends_of_calls_eq rfl
  · exact extends_one rfl .stopPinger

theorem extends_disconnectClient : Extends Teardown vpn (disconnectClient vpn) := by
  unfold disconnectClient
  split
  · exact extends_of_calls_eq rfl
  · exact extends_one rfl .disconnectClient
  · exact extends_one rfl .disconnectClient

theorem extends_disconnect : Extends Teardown vpn (disconnect vpn) :=
  (extends_stopPinging vpn).trans (extends_disconnectClient _)

theorem calls_initiateRecovery (n : ℕ) : (initiateRecovery vpn n).calls = vpn.calls := by
  unfold initiateRecovery
  split
  · rfl
  · simp only []

theorem extends_prepareForRecovery : Extends Teardown vpn (prepareForRecovery vpn data) := by
  obtain ⟨cs, hc, ht⟩ :=
    extends_disconnect { vpn with pendingError := keepFirstError vpn.pendingError data.error }
  exact ⟨cs, (calls_initiateRecovery _ _).trans hc, ht⟩

theorem extends_doDisconnect : Extends Teardown vpn (doDisconnect vpn data) :=
  extends_disconnect { vpn with recovery := {} }

theorem extends_onWrongConnectState : Extends Teardown vpn (onWrongConnectState vpn data) :=
  extends_disconnect vpn

theorem extends_recordConnectError : Extends Teardown vpn (recordConnectError vpn data) := by
  unfold recordConnectError
  split
  · split
    · exact extends_of_calls_eq rfl
    · exact extends_disconnect vpn
  · exact extends_of_calls_eq rfl

theorem extends_completeConnect : Extends Teardown vpn (completeConnect vpn data) := by
  refine (extends_recordConnectError vpn data).trans ?_
  simp only [completeConnect]
  split <;> split
  · exact extends_of_calls_eq rfl
  · exact extends_one rfl .healthCheck
  · exact extends_of_calls_eq rfl
  · exact extends_one rfl .healthCheck

theorem calls_retryConnect : ∃ cs, (retryConnect vpn data).calls =
    vpn.calls ++ .retryConnect vpn.connectRetryInfo :: cs ∧ ∀ c ∈ cs, Teardown c := by
  simp only [retryConnect]
  split
  all_goals
    obtain ⟨cs, hc, ht⟩ := extends_disconnect _
    refine ⟨cs, ?_, ht⟩
    rw [Vpn.submit, hc]
    simp [Vpn.call]

theorem calls_runPing : ∃ cs r, (runPing vpn data).calls =
    vpn.calls ++ (cs ++ [.startPinger vpn.state r]) ∧ ∀ c ∈ cs, Teardown c := by
  obtain ⟨cs, hc, ht⟩ := extends_stopPinging vpn
  have h : (runPing vpn data).calls = (stopPinging vpn).calls ++
      [.startPinger (stopPinging vpn).state
        (if (stopPinging vpn).recovery.time.startTs ≠ 0 then
          (stopPinging vpn).selectedEndpoint.bind (·.relay) else none)] := rfl
  exact ⟨cs, _, by rw [h, hc, stopPinging_state, append_assoc], ht⟩

theorem calls_runClientConnect (e : Env) (t : Option ℕ) :
    (runClientConnect vpn e t).calls =
      vpn.calls ++ [.connectClient (makeClientUpstreamConfig vpn) t] := by
  unfold runClientConnect
  split
  · rename_i h
    rw [h]
    rfl
  · rename_i c h
    rw [h]
    dsimp only
    split <;> rfl

def stateInfo : StateInfo :=
  match vpn.state with
  | .waitingRecovery =>
    .waitingRecovery (vpn.pendingError.getD {}) (vpn.recovery.time.toNext % 2 ^ 32)
  | .connected =>
    .connected (vpn.selectedEndpoint.map (·.endpoint)) (vpn.selectedEndpoint.bind (·.relay))
  | _ => .error (vpn.pendingError.getD {})

theorem calls_raiseState :
    (raiseState vpn data).calls = vpn.calls ++ [.stateChanged vpn.state (stateInfo vpn)] := by
  unfold raiseState stateInfo
  split <;> rename_i h <;> simp only [h, Vpn.call]

theorem calls_enter (state : VpnSessionState) : (enter vpn state data).calls =
    vpn.calls ++ [.stateChanged state (stateInfo { vpn with state := state })] :=
  calls_raiseState { vpn with state := state } data

def startsPing (event : ConnectEvent) : Bool :=
  match event, vpn.state with
  | .doConnect, .disconnected => true
  | .retryConnect, .connecting => true
  | .networkChange, .waitingRecovery => !networkLost vpn data
  | .doRecovery, .waitingRecovery => needToPingOnRecovery vpn data
  | _, _ => false

def connectsClient (event : ConnectEvent) : Bool :=
  match event, vpn.state with
  | .pingReady, .connecting | .pingReady, .recovering => true
  | .doRecovery, .waitingRecovery => !needToPingOnRecovery vpn data
  | _, _ => false

def retriesConnect (event : ConnectEvent) : Bool :=
  match event, vpn.state with
  | .pingFail, .connecting | .clientDisconnected, .connecting =>
    !isFatalError vpn data && !fallIntoRecovery vpn data && !noConnectAttempts vpn data
  | .abandonEndpoint, .connecting => !isFatalError vpn data
  | .networkChange, .waitingForNetwork =>
    !networkLost vpn data && !connectedOnce vpn data && !noConnectAttempts vpn data
  | _, _ => false

inductive MayCall (event : ConnectEvent) : Call → Prop
  | teardown {c : Call} (h : Teardown c) : MayCall event c
  | startPinger (relay : Option VpnRelay) (h : startsPing vpn data event = true) :
      MayCall event (.startPinger vpn.state relay)
  | connectClient {config : Option EndpointConnectionConfig} (timeout : Option ℕ)
      (h : connectsClient vpn data event = true)
      (hc : config.isSome = vpn.selectedEndpoint.isSome) :
      MayCall event (.connectClient config timeout)
  | retryConnect (h : retriesConnect vpn data event = true) :
      MayCall event (.retryConnect vpn.connectRetryInfo)
  | stateChanged (state : VpnSessionState) (hs : state ≠ .connected) {vpn' : Vpn}
      (hv : vpn'.state = state) : MayCall event (.stateChanged state (stateInfo vpn'))
  | reportConnected {info : StateInfo} (he : event = .clientReady)
      (hs : vpn.state = .connecting ∨ vpn.state = .recovering)
      (hi : info = .connected (vpn.selectedEndpoint.map (·.endpoint))
        (vpn.selectedEndpoint.bind (·.relay))) : MayCall event (.stateChanged .connected info)
  | request {c : Call} (h : RequestCall c) : MayCall event c

theorem mayCall_enter {s : VpnSessionState} (h : Extends (MayCall vpn data event) vpn vpn')
    (hs : s ≠ .connected) : Extends (MayCall vpn data event) vpn (enter vpn' s data) :=
  h.trans (extends_one (calls_enter vpn' data s) (.stateChanged s hs rfl))

theorem mayCall_teardown {s : VpnSessionState} (h : Extends Teardown vpn vpn')
    (hs : s ≠ .connected) : Extends (MayCall vpn data event) vpn (enter vpn' s data) :=
  mayCall_enter vpn data (h.mono fun _ ↦ .teardown) hs

theorem mayCall_runPing (h : startsPing vpn data event = true) :
    Extends (MayCall vpn data event) vpn (runPing vpn data) := by
  obtain ⟨cs, r, hs, ht⟩ := calls_runPing vpn data
  refine ⟨_, hs, ?_⟩
  intro c hc
  rcases mem_append.1 hc with hc | hc
  · exact .teardown (ht c hc)
  · rw [mem_singleton.1 hc]
    exact .startPinger r h

theorem mayCall_retryConnect (h : retriesConnect vpn data event = true) :
    Extends (MayCall vpn data event) vpn (retryConnect vpn data) := by
  obtain ⟨cs, hs, ht⟩ := calls_retryConnect vpn data
  refine ⟨_, hs, ?_⟩
  intro c hc
  rcases mem_cons.1 hc with rfl | hc
  · exact .retryConnect h
  · exact .teardown (ht c hc)

theorem isSome_makeClientUpstreamConfig :
    (makeClientUpstreamConfig vpn).isSome = vpn.selectedEndpoint.isSome := by
  simp [makeClientUpstreamConfig]

theorem mayCall_runClientConnect (env : Env) (t : Option ℕ)
    (h : connectsClient vpn data event = true) (hv : Extends Teardown vpn vpn')
    (hs : vpn'.selectedEndpoint = vpn.selectedEndpoint) :
    Extends (MayCall vpn data event) vpn (runClientConnect vpn' env t) :=
  (hv.mono fun _ ↦ .teardown).trans (extends_one (calls_runClientConnect vpn' env t)
    (.connectClient t h (hs ▸ isSome_makeClientUpstreamConfig vpn')))

theorem calls_finalizeRecovery : ∃ cs, (finalizeRecovery vpn data).calls = vpn.calls ++ (cs ++
      (vpn.postponedRequests.map fun r ↦
        .completeConnectRequest .completePostponedRequests r.id r.action) ++
      vpn.bypassedConnectionIds.map .resetConnection) ∧ ∀ c ∈ cs, Teardown c := by
  obtain ⟨cs, hc, ht⟩ := extends_stopPinging { vpn with recovery := {} }
  refine ⟨cs, ?_, ht⟩
  have hp : (stopPinging { vpn with recovery := {} }).postponedRequests =
    vpn.postponedRequests := by
    unfold stopPinging
    split <;> rfl
  have hb : (stopPinging { vpn with recovery := {} }).bypassedConnectionIds =
      vpn.bypassedConnectionIds := by
    unfold stopPinging
    split <;> rfl
  simp [finalizeRecovery, completePostponedRequests, resetBypassedConnections, hc, hp, hb]

theorem mayCall_finalizeRecovery :
    Extends (MayCall vpn data event) vpn (finalizeRecovery vpn data) := by
  obtain ⟨cs, hs, ht⟩ := calls_finalizeRecovery vpn data
  refine ⟨_, hs, ?_⟩
  intro c hc
  rcases mem_append.1 hc with hc | hc
  · rcases mem_append.1 hc with hc | hc
    · exact .teardown (ht c hc)
    · obtain ⟨r, _, rfl⟩ := mem_map.1 hc
      exact .request (.complete _ _ _)
  · obtain ⟨id, _, rfl⟩ := mem_map.1 hc
    exact .request (.reset id)

theorem mayCall_reportConnected (hv : vpn.state = .connecting ∨ vpn.state = .recovering)
    (h : Extends (MayCall vpn data .clientReady) vpn vpn')
    (hs : vpn'.selectedEndpoint = vpn.selectedEndpoint) :
    Extends (MayCall vpn data .clientReady) vpn (enter vpn' .connected data) := by
  refine h.trans (extends_one (calls_enter vpn' data .connected) (.reportConnected rfl hv ?_))
  simp only [stateInfo, hs]

theorem selectedEndpoint_completeConnect :
    (completeConnect vpn data).selectedEndpoint = vpn.selectedEndpoint := by
  have h := congrArg Activity.selectedEndpoint (activity_completeConnect vpn data)
  split at h <;> exact h

theorem extends_ends (h : Ends vpn data vpn') : Extends Teardown vpn vpn' := by
  cases h with
  | recovery d => exact extends_prepareForRecovery vpn d
  | disconnect => exact extends_doDisconnect vpn data
  | wrongState => exact extends_onWrongConnectState vpn data

theorem requestCall_settles (h : Settles vpn data vpn') :
    ∃ c, RequestCall c ∧ vpn'.calls = vpn.calls ++ [c] := by
  cases h with
  | complete => exact ⟨_, .complete _ _ _, rfl⟩
  | postpone => exact ⟨_, .postpone _, rfl⟩
  | reject => exact ⟨_, .reject _ _, rfl⟩
  | bypass => exact ⟨_, .complete _ _ _, rfl⟩

theorem retriesConnect_of_retry (h : vpn.state = .connecting) (hf : isFatalError vpn data = false)
    (he : event = .abandonEndpoint ∨ (event = .pingFail ∨ event = .clientDisconnected) ∧
      fallIntoRecovery vpn data = false ∧ noConnectAttempts vpn data = false) :
    retriesConnect vpn data event = true := by
  rcases he with rfl | ⟨rfl | rfl, hr, hn⟩
  · simp [retriesConnect, h, hf]
  · simp [retriesConnect, h, hf, hr, hn]
  · simp [retriesConnect, h, hf, hr, hn]

/-- Every call that a transition makes is one of those its event allows. -/
theorem perform_calls (e : ConnectEvent) :
    Extends (MayCall vpn data e) vpn (performTransition vpn e data) := by
  have hpf := performs_transition vpn data e
  generalize performTransition vpn e data = after at hpf ⊢
  cases hpf with
  | ignored => exact extends_of_calls_eq rfl
  | ends h hs => exact mayCall_teardown vpn data (extends_ends vpn data h) hs
  | shutdown => exact (extends_doDisconnect vpn data).mono fun _ ↦ .teardown
  | firstPing h =>
    exact mayCall_enter vpn data (mayCall_runPing vpn data (by simp [startsPing, h])) (by decide)
  | nextPing h => exact mayCall_runPing vpn data (by simp [startsPing, h])
  | recoveryPing h he =>
    refine mayCall_enter vpn data (mayCall_runPing vpn data ?_) (by decide)
    rcases he with ⟨rfl, hp⟩ | ⟨rfl, hl⟩
    · simp [startsPing, h, hp]
    · simp [startsPing, h, hl]
  | connect h =>
    exact mayCall_runClientConnect vpn data _ _ (by simp [connectsClient, h])
      (extends_of_calls_eq rfl) rfl
  | reconnect h =>
    exact mayCall_runClientConnect vpn data _ _ (by simp [connectsClient, h])
      (extends_disconnectClient vpn)
      (congrArg Activity.selectedEndpoint (activity_disconnectClient vpn))
  | recoveryConnect h hp =>
    exact mayCall_enter vpn data (mayCall_runClientConnect vpn data _ _
      (by simp [connectsClient, h, hp]) (extends_of_calls_eq rfl) rfl) (by decide)
  | giveUp => exact mayCall_teardown vpn data (extends_completeConnect vpn data) (by decide)
  | giveUpOnNetworkChange =>
    exact mayCall_teardown vpn data (extends_completeConnect vpn _) (by decide)
  | ready h =>
    exact mayCall_reportConnected vpn data (.inl h)
      ((extends_completeConnect vpn data).mono fun _ ↦ .teardown)
      (selectedEndpoint_completeConnect vpn data)
  | recovered h =>
    exact mayCall_reportConnected vpn data (.inr h) (mayCall_finalizeRecovery vpn data)
      (congrArg Activity.selectedEndpoint (activity_finalizeRecovery vpn data))
  | retry h hf he =>
    exact mayCall_retryConnect vpn data (retriesConnect_of_retry vpn data h hf he)
  | retryOnNetworkChange h hl hc hn =>
    exact mayCall_enter vpn data
      (mayCall_retryConnect vpn data (by simp [retriesConnect, h, hl, hc, hn])) (by decide)
  | startListening =>
    unfold startListening
    split <;> exact extends_of_calls_eq rfl
  | request h =>
    obtain ⟨c, hc, hcs⟩ := requestCall_settles vpn data h
    exact extends_one hcs (.request hc)

variable (e : Env)

theorem calls_task (t : Task) : (Task.dispatch vpn e t).1.calls = vpn.calls := by
  rw [dispatch_task]

theorem calls_pingerHandler (r : LocationsPingerResult) :
    (pingerHandler vpn e r).1.calls = vpn.calls := by
  simp only [pingerHandler]
  split
  · rfl
  · split <;> rfl

theorem calls_clientHandler (c : VpnClient) : (clientHandler vpn e c).1.calls = vpn.calls := by
  simp only [clientHandler]
  split <;> rfl

def Expired (c : Call) : Prop :=
  ∃ request ∈ vpn.postponedRequests, c = expiredRequestCall vpn.client.killSwitchOn request

theorem Expired.requestCall {c : Call} (h : Expired vpn c) : RequestCall c := by
  obtain ⟨r, _, rfl⟩ := h
  unfold expiredRequestCall
  split
  · exact .reject _ _
  · exact .complete _ _ _

theorem dispatch_expired {i : Input} {d : Dispatch} (h : dispatch vpn e i = some d) :
    Extends (fun c ↦ Teardown c ∨ Expired vpn c) vpn d.1 := by
  cases dispatched_of_dispatch vpn e h with
  | exited => exact (extends_stopPinging _).mono fun _ ↦ .inl
  | loop _ h =>
    cases h with
    | task => exact extends_of_calls_eq (calls_task _ e _)
    | window =>
      refine ⟨_, rfl, ?_⟩
      intro c hc
      obtain ⟨r, hm, rfl⟩ := mem_map.1 hc
      exact .inr ⟨r, hm, rfl⟩
    | pinged => exact extends_of_calls_eq (calls_pingerHandler _ e _)
    | client => exact extends_of_calls_eq (calls_clientHandler vpn e _)
    | _ => exact extends_of_calls_eq rfl
  | _ => exact extends_of_calls_eq rfl

theorem dispatch_calls {i : Input} {d : Dispatch} (h : dispatch vpn e i = some d) :
    Extends (fun c ↦ Teardown c ∨ RequestCall c) vpn d.1 :=
  (dispatch_expired vpn e h).mono fun _ ↦ Or.imp_right (Expired.requestCall vpn)

theorem started_calls {ps : VpnConnectParameters} {k : Bool} {v : Vpn}
    (h : Started ps k v) : v.calls = [] := by
  unfold Started vpnConnect at h
  split at h
  · cases h
  · cases h
    rfl

theorem step_calls {P : Call → Prop} {v : Vpn} {l : Env × Input}
    (h : step v l = some vpn') (ht : ∀ c, Teardown c → P c) (hr : ∀ c, RequestCall c → P c)
    (hp : ∀ pre e d, dispatch v l.1 l.2 = some (pre, some (e, d)) → ∀ c, MayCall pre d e c → P c) :
    Extends P v vpn' := by
  obtain ⟨_, ⟨pre, t⟩, hd, _, rfl⟩ := step_dispatch h
  have he : Extends P v pre := (dispatch_calls v l.1 hd).mono fun c hc ↦ hc.elim (ht c) (hr c)
  cases t with
  | none => exact he
  | some t => exact he.trans ((perform_calls pre t.2 t.1).mono (hp pre t.1 t.2 hd))

end TrustTunnel.Session.Calls

import TrustTunnel.Session.Calls

namespace TrustTunnel.Session.Attempts

open Session.Types Manager Actions Table Step Progress Calls List

variable {v : Vpn}

/-- A connect procedure ends when the session gets into one of these states. -/
def endsAttempts (state : VpnSessionState) : Bool :=
  state == .connected || state == .waitingRecovery || state == .disconnected

def countPing (n : ℕ) : Call → ℕ
  | .startPinger state _ => if state = .disconnected ∨ state = .connecting then n + 1 else n
  | .stateChanged state _ => if endsAttempts state then 0 else n
  | _ => n

def connectPings (calls : List Call) : ℕ := calls.foldl countPing 0

def isRetry : Task → Bool
  | .retryConnect => true
  | _ => false

def isConnect : Task → Bool
  | .connect _ _ => true
  | _ => false

structure Budget where
  info : ConnectRetryInfo
  retries : ℕ
  connects : ℕ
  pings : ℕ

def budget (vpn : Vpn) : Budget where
  info := vpn.connectRetryInfo
  retries := vpn.taskQueue.countP isRetry
  connects := vpn.taskQueue.countP isConnect
  pings := connectPings vpn.calls

def Budget.afterEntering (b : Budget) (state : VpnSessionState) : Budget :=
  { b with pings := if endsAttempts state then 0 else b.pings }

def Budget.ping (b : Budget) : Budget := { b with pings := b.pings + 1 }

def Budget.retry (b : Budget) : Budget :=
  { b with
    info := match b.info with
      | .severalAttempts attemptsLeft => .severalAttempts (sizePred attemptsLeft)
      | .fallIntoRecovery => .fallIntoRecovery
    retries := b.retries + 1 }

theorem foldl_countPing_eq {cs : List Call} (h : ∀ c ∈ cs, Teardown c ∨ RequestCall c) (n : ℕ) :
    cs.foldl countPing n = n := by
  induction cs generalizing n with
  | nil => rfl
  | cons c cs ih =>
    have hc : countPing n c = n := by
      rcases h c (by simp) with hc | hc <;> cases hc <;> rfl
    rw [foldl_cons, hc]
    exact ih (fun c hm ↦ h c (by simp [hm])) n

theorem connectPings_append (cs ds : List Call) :
    connectPings (cs ++ ds) = ds.foldl countPing (connectPings cs) := by
  simp [connectPings]

theorem connectPings_extends {P : Call → Prop} {vn : Vpn} (h : Extends P vn v)
    (hp : ∀ c, P c → Teardown c ∨ RequestCall c) :
    connectPings v.calls = connectPings vn.calls := by
  obtain ⟨cs, hs, hc⟩ := h
  rw [hs, connectPings_append]
  exact foldl_countPing_eq (fun c hm ↦ hp c (hc c hm)) _

theorem connectPings_teardown {vpn : Vpn} (h : Extends Teardown vpn v) :
    connectPings v.calls = connectPings vpn.calls :=
  connectPings_extends h fun _ ↦ .inl

variable (vpn : Vpn) (data : Data)

theorem disconnect_frame : (disconnect vpn).connectRetryInfo = vpn.connectRetryInfo ∧
    (disconnect vpn).taskQueue = vpn.taskQueue := by
  unfold disconnect disconnectClient stopPinging
  dsimp only
  split <;> split <;> exact ⟨rfl, rfl⟩

theorem budget_disconnect : budget (disconnect vpn) = budget vpn := by
  simp only [budget, disconnect_frame, connectPings_teardown (extends_disconnect vpn)]

theorem budget_enter (state : VpnSessionState) :
    budget (enter vpn state data) = (budget vpn).afterEntering state := by
  have hc : connectPings (enter vpn state data).calls =
      if endsAttempts state then 0 else connectPings vpn.calls := by
    rw [calls_enter, connectPings_append]
    rfl
  have hf : (enter vpn state data).connectRetryInfo = vpn.connectRetryInfo ∧
      (enter vpn state data).taskQueue = vpn.taskQueue := by
    unfold enter raiseState
    split <;> exact ⟨rfl, rfl⟩
  simp only [budget, hc, hf, Budget.afterEntering]

theorem budget_initiateRecovery (n : ℕ) : budget (initiateRecovery vpn n) = budget vpn := by
  unfold initiateRecovery
  split
  · simp [budget, Vpn.submit, isRetry, isConnect]
  · simp only [budget]

theorem budget_prepareForRecovery : budget (prepareForRecovery vpn data) = budget vpn := by
  simp only [prepareForRecovery, budget_initiateRecovery, budget_disconnect]
  rfl

theorem budget_doDisconnect : budget (doDisconnect vpn data) = budget vpn :=
  budget_disconnect { vpn with recovery := {} }

theorem budget_onWrongConnectState : budget (onWrongConnectState vpn data) = budget vpn :=
  budget_disconnect vpn

theorem budget_recordConnectError : budget (recordConnectError vpn data) = budget vpn := by
  unfold recordConnectError
  split
  · split
    · rfl
    · exact budget_disconnect vpn
  · rfl

theorem budget_completeConnect : budget (completeConnect vpn data) = budget vpn := by
  rw [← budget_recordConnectError vpn data]
  have hc : ∀ v : Vpn, budget (v.call .healthCheck) = budget v := by
    intro v
    simp [budget, Vpn.call, connectPings_append, countPing]
  simp only [completeConnect]
  split <;> split
  · rfl
  · exact hc _
  · rfl
  · exact hc _

theorem budget_runClientConnect (e : Env) (t : Option ℕ) :
    budget (runClientConnect vpn e t) = budget vpn := by
  unfold runClientConnect
  split
  · simp [budget, Vpn.call, connectPings_append, countPing]
  · dsimp only
    split
    · simp [budget, Vpn.call, connectPings_append, countPing]
    · simp [budget, Vpn.call, Vpn.submit, connectPings_append, countPing,
        isRetry, isConnect]

theorem budget_disconnectClient : budget (disconnectClient vpn) = budget vpn := by
  have hf : (disconnectClient vpn).connectRetryInfo = vpn.connectRetryInfo ∧
      (disconnectClient vpn).taskQueue = vpn.taskQueue := by
    unfold disconnectClient
    split <;> exact ⟨rfl, rfl⟩
  simp only [budget, hf, connectPings_teardown (extends_disconnectClient vpn)]

theorem stopPinging_frame : (stopPinging vpn).connectRetryInfo = vpn.connectRetryInfo ∧
    (stopPinging vpn).taskQueue = vpn.taskQueue := by
  unfold stopPinging
  split <;> exact ⟨rfl, rfl⟩

theorem budget_finalizeRecovery : budget (finalizeRecovery vpn data) = budget vpn := by
  have hp : connectPings (finalizeRecovery vpn data).calls = connectPings vpn.calls := by
    obtain ⟨cs, hs, ht⟩ := calls_finalizeRecovery vpn data
    rw [hs, connectPings_append]
    refine foldl_countPing_eq (fun c hc ↦ ?_) _
    rcases mem_append.1 hc with hc | hc
    · rcases mem_append.1 hc with hc | hc
      · exact .inl (ht c hc)
      · obtain ⟨r, _, rfl⟩ := mem_map.1 hc
        exact .inr (.complete _ _ _)
    · obtain ⟨id, _, rfl⟩ := mem_map.1 hc
      exact .inr (.reset id)
  have hf := stopPinging_frame { vpn with recovery := {} }
  have hi : (finalizeRecovery vpn data).connectRetryInfo = vpn.connectRetryInfo := hf.1
  have hq : (finalizeRecovery vpn data).taskQueue = vpn.taskQueue := hf.2
  simp only [budget, hp, hi, hq]

theorem budget_runPing : budget (runPing vpn data) =
    if vpn.state = .disconnected ∨ vpn.state = .connecting then (budget vpn).ping
    else budget vpn := by
  have hp : connectPings (runPing vpn data).calls =
      if vpn.state = .disconnected ∨ vpn.state = .connecting then connectPings vpn.calls + 1
      else connectPings vpn.calls := by
    obtain ⟨cs, r, hs, ht⟩ := calls_runPing vpn data
    rw [hs, connectPings_append, foldl_append, foldl_countPing_eq fun c hc ↦ .inl (ht c hc)]
    rfl
  have hf := stopPinging_frame vpn
  have hi : (runPing vpn data).connectRetryInfo = vpn.connectRetryInfo := hf.1
  have hq : (runPing vpn data).taskQueue = vpn.taskQueue := hf.2
  simp only [budget, hp, hi, hq, Budget.ping]
  split <;> rfl

theorem budget_retryConnect : budget (retryConnect vpn data) = (budget vpn).retry := by
  have hp : connectPings (retryConnect vpn data).calls = connectPings vpn.calls := by
    obtain ⟨cs, hs, ht⟩ := calls_retryConnect vpn data
    rw [hs, connectPings_append, foldl_cons]
    exact foldl_countPing_eq (fun c hc ↦ .inl (ht c hc)) _
  simp only [budget, hp, Budget.retry]
  simp only [retryConnect]
  split
  all_goals
    rename_i h
    simp only [Vpn.submit, disconnect_frame, Vpn.call] at h ⊢
    simp [h, isRetry, isConnect]

inductive Spend : ConnectEvent → VpnSessionState → VpnSessionState → Budget → Prop
  | keep {event s} : Spend event s s (budget vpn)
  | enter {event s} (t : VpnSessionState) : Spend event s t ((budget vpn).afterEntering t)
  | firstPing : Spend .doConnect .disconnected .connecting (budget vpn).ping
  | nextPing : Spend .retryConnect .connecting .connecting (budget vpn).ping
  | retry {event s} (h : retriesConnect vpn data event = true) :
      Spend event s .connecting (budget vpn).retry

theorem spend_enter {e : ConnectEvent} {s : VpnSessionState} (h : budget v = budget vpn)
    (t : VpnSessionState) :
    Spend vpn data e s (enter v t data).state (budget (enter v t data)) := by
  rw [enter_state, budget_enter, h]
  exact .enter t

theorem spend_keep {e : ConnectEvent} {s : VpnSessionState} (hs : v.state = s)
    (h : budget v = budget vpn) : Spend vpn data e s v.state (budget v) := by
  rw [hs, h]
  exact .keep

theorem budget_startListening : budget (startListening vpn data) = budget vpn := by
  unfold startListening
  split
  · rfl
  · simp [budget, Vpn.submit, isRetry, isConnect]

theorem budget_ends (h : Ends vpn data v) : budget v = budget vpn := by
  cases h with
  | recovery d => exact budget_prepareForRecovery vpn d
  | disconnect => exact budget_doDisconnect vpn data
  | wrongState => exact budget_onWrongConnectState vpn data

theorem budget_settles (h : Settles vpn data v) : budget v = budget vpn := by
  obtain ⟨c, hc, hs⟩ := requestCall_settles vpn data h
  have hp : connectPings v.calls = connectPings vpn.calls :=
    connectPings_extends (extends_one hs hc) fun _ ↦ .inr
  cases h <;> simp only [budget, hp] <;> rfl

/-- One lemma for all rows: what a transition does to the attempts that are left. -/
theorem perform_spend (e : ConnectEvent) :
    Spend vpn data e vpn.state (performTransition vpn e data).state
      (budget (performTransition vpn e data)) := by
  have hp := performs_transition vpn data e
  generalize performTransition vpn e data = after at hp ⊢
  cases hp with
  | ignored => exact .keep
  | ends h => exact spend_enter vpn data (budget_ends vpn data h) _
  | shutdown =>
    exact spend_keep vpn data (doDisconnect_state vpn data) (budget_doDisconnect vpn data)
  | firstPing h =>
    rw [enter_state, budget_enter, budget_runPing, if_pos (.inl h), h]
    exact .firstPing
  | nextPing h =>
    rw [runPing_state, budget_runPing, if_pos (.inr h), h]
    exact .nextPing
  | recoveryPing h =>
    refine spend_enter vpn data ?_ _
    rw [budget_runPing, if_neg (by simp [h])]
  | connect =>
    exact spend_keep vpn data (runClientConnect_state vpn _ _) (budget_runClientConnect vpn _ _)
  | reconnect =>
    refine spend_keep vpn data ?_ ?_
    · simp only [reconnectClient, runClientConnect_state, disconnectClient_state]
    · simp only [reconnectClient, budget_runClientConnect, budget_disconnectClient]
  | recoveryConnect => exact spend_enter vpn data (budget_runClientConnect vpn _ _) _
  | giveUp => exact spend_enter vpn data (budget_completeConnect vpn data) _
  | giveUpOnNetworkChange => exact spend_enter vpn data (budget_completeConnect vpn _) _
  | ready => exact spend_enter vpn data (budget_completeConnect vpn data) _
  | recovered => exact spend_enter vpn data (budget_finalizeRecovery vpn data) _
  | retry h hf he =>
    rw [retryConnect_state, budget_retryConnect, h]
    exact .retry (retriesConnect_of_retry vpn data h hf he)
  | retryOnNetworkChange h hl hc hn =>
    rw [enter_state, budget_enter, budget_retryConnect]
    exact .retry (by simp [retriesConnect, h, hl, hc, hn])
  | startListening =>
    refine spend_keep vpn data ?_ (budget_startListening vpn data)
    unfold startListening
    split <;> rfl
  | request h => exact spend_keep vpn data h.frame.1 (budget_settles vpn data h)

end TrustTunnel.Session.Attempts

import TrustTunnel.Session.Attempts
import TrustTunnel.Session.Frame

namespace TrustTunnel.Session.Retries

open Lib.Transition Session.Types Client Manager Actions Table Step Progress Calls Attempts
open Session.Frame List

variable {event : ConnectEvent} {info : ConnectRetryInfo} {data : Data} {d : Dispatch}
  {i : Input} {rest ts : List Task} {task : Task} {s : VpnSessionState} {n : ℕ}

def Plain (task : Task) : Prop := isRetry task = false ∧ isConnect task = false

inductive Origin (vpn : Vpn) (env : Env) : Dispatch → Prop
  | external {pre : Vpn} {t : Option (ConnectEvent × Data)} (ts : List Task)
      (hts : ∀ task ∈ ts, Plain task) (hq : pre.taskQueue = vpn.taskQueue ++ ts)
      (hi : pre.connectRetryInfo = vpn.connectRetryInfo) (hs : pre.state = vpn.state)
      (he : ∀ e d, t = some (e, d) → e ≠ .doConnect ∧ e ≠ .retryConnect) : Origin vpn env (pre, t)
  | task {task : Task} {rest : List Task} (hq : vpn.taskQueue = task :: rest) :
      Origin vpn env (Task.dispatch { vpn with taskQueue := rest } env task)
  | ended {pre : Vpn} {t : Option (ConnectEvent × Data)} (hr : pre.running = false)
      (ht : ∀ e d, t = some (e, d) → e = .shutdown) : Origin vpn env (pre, t)

variable (vpn : Vpn) (env : Env)

theorem origin_pingerHandler (r : LocationsPingerResult) :
    Origin vpn env (pingerHandler { vpn with pinger := some ⟨true⟩ } env r) := by
  simp only [pingerHandler]
  split
  · exact .external [] (by simp) (by simp) rfl rfl (by simp)
  · split <;> exact .external [] (by simp) (by simp) rfl rfl (by simp)

theorem origin_clientHandler (c : VpnClient) : Origin vpn env (clientHandler vpn env c) := by
  simp only [clientHandler]
  split <;> exact .external [] (by simp) (by simp) rfl rfl (by simp)

theorem plain_apiTask (h : apiTask i = some task) : Plain task := by
  cases i <;> simp only [apiTask] at h <;> cases h <;> exact ⟨rfl, rfl⟩

theorem origin_dispatch (hd : Held vpn) (h : dispatch vpn env i = some d) : Origin vpn env d := by
  cases dispatched_of_dispatch vpn env h with
  | refused => exact .external [] (by simp) (by simp) rfl rfl (by simp)
  -- the thread of the running session refuses a second `vpn_connect`
  | connect hx hs => exact absurd (hd hs) (by simp [hx])
  | stop => exact .external [.shutdown] (by simp [Plain, isRetry, isConnect]) rfl rfl rfl (by simp)
  | exited =>
    refine .ended ?_ (by simp)
    unfold finishStop stopPinging
    dsimp only
    split <;> rfl
  | @submitted _ task ht =>
    exact .external [task] (by simpa using plain_apiTask ht) rfl rfl rfl (by simp)
  | loop _ h =>
    cases h with
    | task hq => exact .task hq
    | pinged => exact origin_pingerHandler vpn env _
    | client => exact origin_clientHandler vpn env _
    | failed => exact .ended rfl (by simp)
    | _ => exact .external [] (by simp) (by simp [postponementWindowTimerCb]) rfl rfl (by simp)

theorem dispatch_not_running (hr : vpn.running = false) (h : dispatch vpn env i = some d) :
    d.2 = none := by
  cases dispatched_of_dispatch vpn env h with
  | loop hn => simp [hr] at hn
  | _ => rfl

theorem dispatch_plain (h : Plain task) :
    (Task.dispatch vpn env task).1.taskQueue = vpn.taskQueue ∧
      (Task.dispatch vpn env task).1.connectRetryInfo = vpn.connectRetryInfo ∧
      (Task.dispatch vpn env task).1.state = vpn.state ∧
      ∀ e d, (Task.dispatch vpn env task).2 = some (e, d) → e ≠ .retryConnect := by
  cases task
  case connect => exact absurd h.2 (by simp [isConnect])
  case retryConnect => exact absurd h.1 (by simp [isRetry])
  case abandonEndpoint endpoint =>
    simp only [Task.dispatch, abandonEndpoint]
    split
    · exact ⟨rfl, rfl, rfl, by simp⟩
    · split <;> exact ⟨rfl, rfl, rfl, by simp⟩
  case forceReconnect =>
    simp only [Task.dispatch, forceReconnect]
    split <;> exact ⟨rfl, rfl, rfl, by simp⟩
  all_goals exact ⟨rfl, rfl, rfl, by simp [Task.dispatch]⟩

theorem perform_disconnected (d : Data) (hs : vpn.state = .disconnected)
    (he : event ≠ .doConnect) : (performTransition vpn event d).state = .disconnected ∧
      (performTransition vpn event d).taskQueue = vpn.taskQueue ∧
      budget (performTransition vpn event d) = budget vpn := by
  cases event
  case doConnect => exact absurd rfl he
  case shutdown =>
    rw [perform_shutdown, if_pos hs]
    exact ⟨(doDisconnect_state vpn d).trans hs, (disconnect_frame _).2, budget_doDisconnect vpn d⟩
  case completeRequest =>
    have ht := settles_completeRequest vpn d
    exact ⟨ht.frame.1.trans hs, ht.frame.2, budget_settles vpn d ht⟩
  all_goals simp [perform_retryConnect, perform_pingReady, perform_pingFail, perform_clientReady,
    perform_clientDisconnected, perform_doRecovery, perform_networkChange, perform_startListening,
    perform_abandonEndpoint, hs]

/-- Where the session goes on with a connect procedure it still has an attempt left for it. -/
def attemptsRemain (vpn : Vpn) (event : ConnectEvent) (data : Data) : Bool :=
  match event, vpn.state with
  | .abandonEndpoint, .connecting =>
    isFatalError vpn data || !noConnectAttempts vpn data && !fallIntoRecovery vpn data
  | .networkChange, .waitingForNetwork =>
    networkLost vpn data || connectedOnce vpn data || !fallIntoRecovery vpn data
  | _, _ => true

theorem retryInfo_of_retriesConnect {vpn : Vpn} (h : retriesConnect vpn data event = true)
    (ho : attemptsRemain vpn event data = true) :
    ∃ a, vpn.connectRetryInfo = .severalAttempts (a + 1) := by
  have hi : noConnectAttempts vpn data = false ∧ fallIntoRecovery vpn data = false := by
    unfold retriesConnect at h
    unfold attemptsRemain at ho
    split at h <;> simp_all
  obtain ⟨hn, hf⟩ := hi
  simp only [noConnectAttempts, fallIntoRecovery, beq_eq_false_iff_ne] at hn hf
  cases hc : vpn.connectRetryInfo with
  | fallIntoRecovery => exact absurd hc hf
  | severalAttempts a =>
    cases a with
    | zero => exact absurd hc hn
    | succ a => exact ⟨a, rfl⟩

def slack : Option (ConnectEvent × Data) → ℕ
  | some (.retryConnect, _) => 1
  | _ => 0

/-- The pings that were and still can be started, with `slack` of them to spare, stay within
`n`. -/
def Within (n slack : ℕ) (b : Budget) (state : VpnSessionState) : Prop :=
  ∃ a, b.info = .severalAttempts a ∧ b.retries + a + 1 ≤ n ∧ b.pings + b.retries + a + slack ≤ n ∧
    (state = .disconnected → b.pings = 0)

def Granted (info : ConnectRetryInfo) (slack : ℕ) (b : Budget) (state : VpnSessionState) : Prop :=
  b.connects = 0 ∧
    match info with
    | .severalAttempts n => n < 2 ^ 64 ∧ Within n slack b state
    | .fallIntoRecovery => b.info = .fallIntoRecovery

theorem within_afterEntering {sk : ℕ} {b : Budget} (h : Within n sk b s)
    (t : VpnSessionState) : Within n 0 (b.afterEntering t) t := by
  obtain ⟨a, hi, hr, hp, _⟩ := h
  by_cases ht : endsAttempts t = true
  · exact ⟨a, hi, hr, by simp only [Budget.afterEntering, ht, if_true]; omega,
      by simp [Budget.afterEntering, ht]⟩
  · refine ⟨a, hi, hr, by simp only [Budget.afterEntering, ht]; simp; omega, ?_⟩
    rintro rfl
    simp [endsAttempts] at ht

/-- A retry takes one attempt and puts one task in the queue. -/
theorem within_retry {sk : ℕ} {b : Budget} {t : VpnSessionState} (h : Within n sk b s)
    (hn : n < 2 ^ 64) (ho : ∃ a, b.info = .severalAttempts (a + 1)) (ht : t ≠ .disconnected) :
    Within n 0 b.retry t := by
  obtain ⟨a, hi, hr, hp, _⟩ := h
  obtain ⟨a', hi'⟩ := ho
  obtain rfl : a = a' + 1 := by simpa [hi] using hi'
  have hpr : sizePred (a' + 1) = a' := sizePred_succ (by omega)
  refine ⟨a', ?_, ?_, ?_, fun hd ↦ absurd hd ht⟩
  · simp only [Budget.retry, hi, hpr]
  · simp only [Budget.retry]
    omega
  · simp only [Budget.retry]
    omega

/-- A transition stays within the budget. -/
theorem granted_perform {vpn : Vpn}
    (h : Granted info (slack (some (event, data))) (budget vpn) vpn.state)
    (ho : attemptsRemain vpn event data = true) :
    Granted info 0 (budget (performTransition vpn event data))
      (performTransition vpn event data).state := by
  have hs := perform_spend vpn data event
  generalize budget (performTransition vpn event data) = b at hs
  generalize (performTransition vpn event data).state = t at hs
  generalize vpn.state = s at h hs
  obtain ⟨hc, h⟩ := h
  cases info with
  | fallIntoRecovery =>
    cases hs with
    | keep => exact ⟨hc, h⟩
    | enter t => exact ⟨hc, h⟩
    | firstPing => exact ⟨hc, h⟩
    | nextPing => exact ⟨hc, h⟩
    | retry hr =>
      obtain ⟨a, ha⟩ := retryInfo_of_retriesConnect hr ho
      exact absurd (h.symm.trans ha) (by simp)
  | severalAttempts n =>
    obtain ⟨hn, hw⟩ := h
    cases hs with
    | keep =>
      obtain ⟨a, hi, hr, hp, hd⟩ := hw
      exact ⟨hc, hn, a, hi, hr, by omega, hd⟩
    | enter t => exact ⟨hc, hn, within_afterEntering hw t⟩
    | firstPing =>
      obtain ⟨a, hi, hr, hp, hd⟩ := hw
      have hz := hd rfl
      exact ⟨hc, hn, a, hi, hr, by simp only [Budget.ping]; omega, by simp⟩
    | nextPing =>
      obtain ⟨a, hi, hr, hp, hd⟩ := hw
      simp only [slack] at hp
      exact ⟨hc, hn, a, hi, hr, by simp only [Budget.ping]; omega, by simp⟩
    | retry hr =>
      exact ⟨hc, hn, within_retry hw hn (retryInfo_of_retriesConnect hr ho) (by decide)⟩

def PingsBounded (info : ConnectRetryInfo) (vpn : Vpn) : Prop :=
  ∀ n, info = .severalAttempts n → connectPings vpn.calls ≤ n

inductive Phase (info : ConnectRetryInfo) (vpn : Vpn) : Prop
  | starting {config : VpnUpstreamConfig} {rest : List Task}
      (hq : vpn.taskQueue = .connect config info :: rest) (hrest : ∀ task ∈ rest, Plain task)
      (hs : vpn.state = .disconnected) (hp : connectPings vpn.calls = 0)
      (hn : ∀ n, info = .severalAttempts n → 1 ≤ n ∧ n < 2 ^ 64)
  | going (h : Granted info 0 (budget vpn) vpn.state)
  | ended (hr : vpn.running = false) (hp : PingsBounded info vpn)

theorem Granted.pings_le {sk : ℕ} {vpn : Vpn} (h : Granted info sk (budget vpn) s) :
    PingsBounded info vpn := by
  rintro n rfl
  obtain ⟨_, _, a, _, _, hp, _⟩ := h
  simp only [budget] at hp
  omega

theorem Phase.pings_le {vpn : Vpn} (h : Phase info vpn) : PingsBounded info vpn := by
  cases h with
  | starting _ _ _ hp _ => exact fun n _ ↦ by omega
  | going h => exact h.pings_le
  | ended _ hp => exact hp

theorem countP_plain {p : Task → Bool} (h : ∀ t ∈ ts, p t = false) : ts.countP p = 0 := by
  rw [countP_eq_zero]
  intro t hm
  simp [h t hm]

theorem budget_external {vpn pre : Vpn} (ht : ∀ t ∈ ts, Plain t)
    (hq : pre.taskQueue = vpn.taskQueue ++ ts) (hi : pre.connectRetryInfo = vpn.connectRetryInfo)
    (hp : connectPings pre.calls = connectPings vpn.calls) : budget pre = budget vpn := by
  have hr := countP_plain (p := isRetry) fun t hm ↦ (ht t hm).1
  have hc := countP_plain (p := isConnect) fun t hm ↦ (ht t hm).2
  simp [budget, hq, hi, hp, hr, hc]

theorem connectPings_dispatch {vpn : Vpn} {env : Env} (h : dispatch vpn env i = some d) :
    connectPings d.1.calls = connectPings vpn.calls :=
  connectPings_extends (dispatch_calls vpn env h) fun _ ↦ id

inductive Ready (info : ConnectRetryInfo) (d : Dispatch) : Prop
  | starting {config : VpnUpstreamConfig} {rest : List Task}
      (hq : d.1.taskQueue = .connect config info :: rest) (hrest : ∀ task ∈ rest, Plain task)
      (hs : d.1.state = .disconnected) (hp : connectPings d.1.calls = 0)
      (hn : ∀ n, info = .severalAttempts n → 1 ≤ n ∧ n < 2 ^ 64)
      (he : ∀ e x, d.2 = some (e, x) → e ≠ .doConnect)
  | going (h : Granted info (slack d.2) (budget d.1) d.1.state)
  | ended (hr : d.1.running = false) (hp : PingsBounded info d.1)
      (he : ∀ e x, d.2 = some (e, x) → e = .shutdown)

theorem slack_eq_zero {t : Option (ConnectEvent × Data)}
    (h : ∀ e d, t = some (e, d) → e ≠ .retryConnect) : slack t = 0 := by
  unfold slack
  split
  · exact absurd rfl (h _ _ rfl)
  · rfl

theorem ready_external {vpn pre : Vpn} {t : Option (ConnectEvent × Data)} (h : Phase info vpn)
    (hu : vpn.running = true) (hts : ∀ task ∈ ts, Plain task)
    (hq : pre.taskQueue = vpn.taskQueue ++ ts) (hi : pre.connectRetryInfo = vpn.connectRetryInfo)
    (hs : pre.state = vpn.state) (hp : connectPings pre.calls = connectPings vpn.calls)
    (he : ∀ e d, t = some (e, d) → e ≠ .doConnect ∧ e ≠ .retryConnect) : Ready info (pre, t) := by
  cases h with
  | @starting c r hq₀ ht hs₀ hp₀ hn =>
    have hq' : pre.taskQueue = .connect c info :: (r ++ ts) := by simp [hq, hq₀]
    have hrest' : ∀ task ∈ r ++ ts, Plain task := by
      intro task hm
      rcases mem_append.1 hm with h | h
      · exact ht task h
      · exact hts task h
    exact .starting hq' hrest' (hs.trans hs₀) (hp.trans hp₀) hn fun e d h ↦ (he e d h).1
  | going hg =>
    refine .going ?_
    rwa [slack_eq_zero fun e d h ↦ (he e d h).2, budget_external hts hq hi hp, hs]
  | ended hr => exact absurd hu (by simp [hr])

theorem granted_connect {c : VpnUpstreamConfig} {vpn : Vpn} (env : Env) (h : ∀ t ∈ rest, Plain t)
    (hp : connectPings vpn.calls = 0) (hn : ∀ n, info = .severalAttempts n → 1 ≤ n ∧ n < 2 ^ 64) :
    Granted info 0
      (budget (Task.dispatch { vpn with taskQueue := rest } env (.connect c info)).1)
      (Task.dispatch { vpn with taskQueue := rest } env (.connect c info)).1.state := by
  have hr := countP_plain (p := isRetry) fun t hm ↦ (h t hm).1
  have hc := countP_plain (p := isConnect) fun t hm ↦ (h t hm).2
  cases info with
  | fallIntoRecovery => exact ⟨hc, rfl⟩
  | severalAttempts n =>
    obtain ⟨hs, hl⟩ := hn n rfl
    obtain ⟨m, rfl⟩ : ∃ m, n = m + 1 := ⟨n - 1, by omega⟩
    have hd : sizePred (m + 1) = m := sizePred_succ hl
    refine ⟨hc, hl, m, ?_, ?_, ?_, fun _ ↦ hp⟩
    · simp only [budget, Task.dispatch, hd]
    · simp only [budget, Task.dispatch, hr]
      omega
    · simp only [budget, Task.dispatch, hr, hp]
      omega

theorem granted_retry {vpn : Vpn} (hq : vpn.taskQueue = .retryConnect :: rest)
    (h : Granted info 0 (budget vpn) vpn.state) :
    Granted info 1 (budget { vpn with taskQueue := rest }) vpn.state := by
  obtain ⟨hc, h⟩ := h
  have hs : (budget vpn).retries = rest.countP isRetry + 1 := by
    simp [budget, hq, countP_cons, isRetry]
  have hc' : rest.countP isConnect = 0 := by
    simpa [budget, hq, isConnect] using hc
  refine ⟨hc', ?_⟩
  cases info with
  | fallIntoRecovery => exact h
  | severalAttempts n =>
    obtain ⟨hn, a, hi, hr, hp, hd⟩ := h
    rw [hs] at hr hp
    refine ⟨hn, a, hi, ?_, ?_, hd⟩
    · simp only [budget] at hr ⊢
      omega
    · simp only [budget] at hp ⊢
      omega

theorem budget_pop (h : Plain task) {vpn : Vpn} (hq : vpn.taskQueue = task :: rest) :
    budget { vpn with taskQueue := rest } = budget vpn := by
  simp [budget, hq, h.1, h.2]

theorem ready_task {vpn : Vpn} (env : Env) (h : Phase info vpn) (hu : vpn.running = true)
    (hq : vpn.taskQueue = task :: rest) :
    Ready info (Task.dispatch { vpn with taskQueue := rest } env task) := by
  cases h with
  | starting hq₀ ht _ hp hn =>
    obtain ⟨rfl, rfl⟩ := cons.inj (hq.symm.trans hq₀)
    exact .going (granted_connect env ht hp hn)
  | going hg =>
    by_cases hr : isRetry task = true
    · obtain rfl : task = .retryConnect := by cases task <;> simp_all [isRetry]
      exact .going (granted_retry hq hg)
    · by_cases hc : isConnect task = true
      · have hz := hg.1
        simp [budget, hq, hc] at hz
      · have hl : Plain task := ⟨by simpa using hr, by simpa using hc⟩
        obtain ⟨hqu, hi, hs, he⟩ := dispatch_plain { vpn with taskQueue := rest } env hl
        have hcs := calls_task { vpn with taskQueue := rest } env task
        have ho : ∀ task ∈ ([] : List Task), Plain task := by simp
        have hb := budget_external ho (hqu.trans (append_nil _).symm) hi
          (congrArg connectPings hcs)
        refine .going ?_
        rwa [slack_eq_zero he, hb, hs, budget_pop hl hq]
  | ended hr => exact absurd hu (by simp [hr])

theorem ready_dispatch {vpn : Vpn} {env : Env} (hh : Held vpn) (h : Phase info vpn)
    (hd : dispatch vpn env i = some d) : Ready info d := by
  have hp : connectPings d.1.calls = connectPings vpn.calls := connectPings_dispatch hd
  have hb : PingsBounded info d.1 := fun n hn ↦ hp ▸ h.pings_le n hn
  cases hrun : vpn.running with
  | false =>
    have hno := dispatch_not_running vpn env hrun hd
    have hr : (control vpn).running = false := hrun
    have hpr : (control d.1).running = false := by
      cases dispatch_operates vpn env hd with
      | same h => rw [h, hr]
      | connect hx hs => exact absurd (hh hs) (by simp [hx])
      | stop h => rw [h, hr]
      | failed h => rw [h]
      | exited _ h => rw [h]
    exact .ended hpr hb fun e x hx ↦ by simp [hx] at hno
  | true =>
    have ho := origin_dispatch vpn env hh hd
    clear hd
    cases ho with
    | external ts hts hq hi hs he => exact ready_external h hrun hts hq hi hs hp he
    | task hq => exact ready_task env h hrun hq
    | ended hr ht => exact .ended hr hb ht

theorem pings_shutdown_le (vpn : Vpn) (d : Data) :
    connectPings (performTransition vpn .shutdown d).calls ≤ connectPings vpn.calls := by
  have hs := perform_spend vpn d .shutdown
  have hb : (budget (performTransition vpn .shutdown d)).pings ≤ (budget vpn).pings := by
    generalize budget (performTransition vpn .shutdown d) = b at hs ⊢
    generalize (performTransition vpn .shutdown d).state = t at hs
    cases hs with
    | keep => exact le_rfl
    | enter t =>
      simp only [Budget.afterEntering]
      split <;> omega
    | retry h => simp [retriesConnect] at h
  exact hb

theorem phase_perform (h : Ready info d)
    (ho : ∀ e x, d.2 = some (e, x) → attemptsRemain d.1 e x = true) : Phase info d.perform := by
  obtain ⟨pre, t⟩ := d
  cases t with
  | none =>
    cases h with
    | starting hq ht hs hp hn => exact .starting hq ht hs hp hn
    | going h => exact .going h
    | ended hr hp => exact .ended hr hp
  | some t =>
    obtain ⟨et, da⟩ := t
    cases h with
    | starting hq ht hs hp hn he =>
      obtain ⟨hs', hu, hb⟩ := perform_disconnected pre da hs (he et da rfl)
      exact .starting (hu.trans hq) ht hs' ((congrArg Budget.pings hb).trans hp) hn
    | going h => exact .going (granted_perform h (ho et da rfl))
    | ended hr hp he =>
      obtain rfl := he et da rfl
      refine .ended ?_ fun n hn ↦ (pings_shutdown_le pre da).trans (hp n hn)
      exact (congrArg Control.running (control_performTransition pre da .shutdown)).trans hr

/-- A retry takes an attempt off a counter that is not zero, under the policy that has one. -/
def RetryAllowed (info : ConnectRetryInfo) : Call → Prop
  | .retryConnect current => info ≠ .fallIntoRecovery ∧ ∃ a, current = .severalAttempts (a + 1)
  | _ => True

theorem retryAllowed_of_mayCall {vpn : Vpn} (h : Ready info (vpn, some (event, data)))
    (ho : attemptsRemain vpn event data = true) {c : Call} (hc : MayCall vpn data event c) :
    RetryAllowed info c := by
  cases hc with
  | retryConnect hr =>
    have hi := retryInfo_of_retriesConnect hr ho
    refine ⟨?_, hi⟩
    rintro rfl
    cases h with
    | starting _ _ hs =>
      simp only [] at hs
      simp [retriesConnect, hs] at hr
    | going h =>
      obtain ⟨a, ha⟩ := hi
      exact absurd (h.2.symm.trans ha) (by simp)
    | ended _ _ he =>
      rw [he event data rfl] at hr
      simp [retriesConnect] at hr
  | teardown ht => cases ht <;> trivial
  | request hr => cases hr <;> trivial
  | startPinger => trivial
  | connectClient => trivial
  | stateChanged => trivial
  | reportConnected => trivial

structure Good (info : ConnectRetryInfo) (vpn : Vpn) : Prop where
  held : Held vpn
  phase : Phase info vpn
  calls : ∀ c ∈ vpn.calls, RetryAllowed info c

/-- The step lemma: the pings that were and can be started stay within the attempts. -/
theorem step_good {vpn vpn' : Vpn} {l : Env × Input} (hg : Good info vpn)
    (ho : performs attemptsRemain vpn l = true) (h : step vpn l = some vpn') : Good info vpn' := by
  have hok' : ∀ pre e x, dispatch vpn l.1 l.2 = some (pre, some (e, x)) →
      attemptsRemain pre e x = true := by
    intro pre e x hd
    simpa [performs, hd] using ho
  refine ⟨step_held hg.held h, ?_, Extends.forall (step_calls h ?_ ?_ ?_) hg.calls⟩
  · obtain ⟨_, d, hd, _, rfl⟩ := step_dispatch h
    refine phase_perform (ready_dispatch hg.held hg.phase hd) fun e x hx ↦ hok' d.1 e x ?_
    rw [hd, ← hx]
  · intro c hc
    cases hc <;> trivial
  · intro c hc
    cases hc <;> trivial
  · intro pre e x hd c hc
    exact retryAllowed_of_mayCall (ready_dispatch hg.held hg.phase hd) (hok' pre e x hd) hc

theorem started_good {ps : VpnConnectParameters} {kso : Bool} {vpn : Vpn} (h : Started ps kso vpn)
    (hn : ∀ n, makeRetryInfo ps.retryInfo = .severalAttempts n → 1 ≤ n ∧ n < 2 ^ 64) :
    Good (makeRetryInfo ps.retryInfo) vpn := by
  have hc := started_calls h
  refine ⟨fun _ ↦ congrArg Control.executorThread (started_control h), ?_, by simp [hc]⟩
  have hq : vpn.taskQueue =
      [.connect ps.upstreamConfig (makeRetryInfo ps.retryInfo)] := by
    unfold Started vpnConnect at h
    split at h
    · cases h
    · cases h
      rfl
  exact .starting hq (by simp) (started_activity h).1 (by rw [hc]; rfl) hn

theorem makeRetryInfo_severalAttempts {i : VpnConnectRetryInfo} (hp : i.policy = .severalAttempts)
    (hn : 1 ≤ n) (ha : i.attemptsNum.toInt = n) : makeRetryInfo i = .severalAttempts n := by
  have hs : ¬ i.attemptsNum ≤ 0 := by
    rw [Int32.le_iff_toInt_le, ha]
    simp
    omega
  have ht : i.attemptsNum.toNatClampNeg = n := by
    rw [Int32.toNatClampNeg, ha]
    simp
  simp [makeRetryInfo, hp, hs, ht]

/-- If the session has an attempt left wherever it goes on with a connect procedure, it takes none
off an empty counter, pings at most as often as asked for, and retries nothing with the other
policy. -/
theorem attempts_bounded {parameters : VpnConnectParameters} {killSwitchOn : Bool}
    {start vpn : Vpn} {labels : List (Env × Input)} (h : Started parameters killSwitchOn start)
    (hr : Run step (fun v l ↦ performs attemptsRemain v l = true) start labels vpn) :
    (∀ n : ℕ, parameters.retryInfo.policy = .severalAttempts → 1 ≤ n →
      parameters.retryInfo.attemptsNum.toInt = n →
        .retryConnect (.severalAttempts 0) ∉ vpn.calls ∧ connectPings vpn.calls ≤ n) ∧
      (parameters.retryInfo.policy = .fallIntoRecovery →
        ∀ info, .retryConnect info ∉ vpn.calls) := by
  refine ⟨fun n hp hn ha ↦ ?_, fun hp info he ↦ ?_⟩
  · have hi := makeRetryInfo_severalAttempts hp hn ha
    have hl : n < 2 ^ 64 := by
      have := Int32.toInt_lt parameters.retryInfo.attemptsNum
      omega
    have hg := hr.invariant
      (started_good h fun m hm ↦ by rw [hi] at hm; cases hm; exact ⟨hn, hl⟩)
      fun _ _ _ hg ho hs ↦ step_good hg ho hs
    refine ⟨fun he ↦ ?_, hg.phase.pings_le n hi⟩
    obtain ⟨_, a, ha⟩ := hg.calls _ he
    cases ha
  · have hi : makeRetryInfo parameters.retryInfo = .fallIntoRecovery := by
      simp [makeRetryInfo, hp]
    have hg := hr.invariant (started_good h fun m hm ↦ by rw [hi] at hm; cases hm)
      fun _ _ _ hg ho hs ↦ step_good hg ho hs
    exact (hg.calls _ he).1 hi

def twoAttemptsRun : List (Env × Input) :=
  [atTime 1 .runTask, atTime 2 (.pingerResult ⟨-1, endpointAt 1, none, false, false⟩),
   atTime 3 .runTask, atTime 4 (.pingerResult ⟨10, endpointAt 1, none, false, false⟩)]

/-- Both attempts are used. -/
theorem attempts_bounded_by_two :
    ∃ start vpn, Started (connectTo [endpointAt 1] ⟨.severalAttempts, 2⟩) true start ∧
      Run step (fun v l ↦ performs attemptsRemain v l = true) start twoAttemptsRun vpn ∧
      connectPings vpn.calls = 2 ∧ connectPings vpn.calls ≤ 2 ∧
      .retryConnect (.severalAttempts 0) ∉ vpn.calls := by
  refine exists_started_imp (P := fun v ↦ connectPings v.calls = 2) (by decide)
    fun start vpn hs hr hp ↦ ⟨hp, ?_⟩
  obtain ⟨hz, hl⟩ := (attempts_bounded hs hr).1 2 rfl (by decide) (by decide)
  exact ⟨hl, hz⟩

def isRetryWith (info : ConnectRetryInfo) : Call → Bool
  | .retryConnect current => current == info
  | _ => false

theorem mem_of_isRetryWith {calls : List Call} (h : calls.any (isRetryWith info) = true) :
    .retryConnect info ∈ calls := by
  obtain ⟨c, hm, hc⟩ := any_eq_true.1 h
  cases c <;> simp only [isRetryWith, Bool.false_eq_true] at hc
  obtain rfl := eq_of_beq hc
  exact hm

/-- The endpoint of the only attempt is abandoned: the session takes an attempt off an empty counter
and pings again. With the other policy, a network that is lost and comes back makes it retry. -/
theorem abandoned_endpoint_retries_without_attempts :
    (∃ start vpn labels,
      Started (connectTo [endpointAt 1, endpointAt 2] ⟨.severalAttempts, 1⟩) true start ∧
      Run step anyStep start labels vpn ∧ .retryConnect (.severalAttempts 0) ∈ vpn.calls ∧
      connectPings vpn.calls = 2) ∧
    ∃ start vpn labels, Started (connectTo [endpointAt 1] ⟨.fallIntoRecovery, 0⟩) true start ∧
      Run step anyStep start labels vpn ∧ .retryConnect .fallIntoRecovery ∈ vpn.calls := by
  constructor
  · obtain ⟨start, vpn, hs, hr, hp⟩ :=
      exists_run_of_runFrom anyStep
        (connectTo [endpointAt 1, endpointAt 2] ⟨.severalAttempts, 1⟩) true
        [atTime 1 .runTask, atTime 2 (.pingerResult ⟨10, endpointAt 1, none, false, false⟩),
         atTime 3 (.vpnAbandonEndpoint (endpointAt 1)), atTime 4 .runTask, atTime 5 .runTask]
        (fun v ↦ v.calls.any (isRetryWith (.severalAttempts 0)) && connectPings v.calls == 2)
        (by decide)
    rw [Bool.and_eq_true] at hp
    exact ⟨start, vpn, _, hs, hr, mem_of_isRetryWith hp.1, eq_of_beq hp.2⟩
  · obtain ⟨start, vpn, hs, hr, hp⟩ :=
      exists_run_of_runFrom anyStep (connectTo [endpointAt 1] ⟨.fallIntoRecovery, 0⟩) true
        [atTime 1 .runTask, atTime 2 (.vpnNotifyNetworkChange .notConnected), atTime 3 .runTask,
         atTime 4 (.vpnNotifyNetworkChange .connected), atTime 5 .runTask]
        (fun v ↦ v.calls.any (isRetryWith .fallIntoRecovery)) (by decide)
    exact ⟨start, vpn, _, hs, hr, mem_of_isRetryWith hp⟩

end TrustTunnel.Session.Retries

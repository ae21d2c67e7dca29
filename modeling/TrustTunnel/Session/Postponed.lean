import TrustTunnel.Lib.Deferral
import TrustTunnel.Session.Calls
import TrustTunnel.Session.Frame

namespace TrustTunnel.Session.Postponed

open Lib.Transition Lib.Deferral Session.Types Client Manager Actions Table Step Progress Calls
open Session.Frame List

variable {vpn vpn' : Vpn}

def postponedBy : Call → Option ConnectRequestResult
  | .postponeRequest request => some request
  | _ => none

def handsOver : Call → Option Call
  | .completeConnectRequest .completePostponedRequests id action =>
    some (.completeConnectRequest .completePostponedRequests id action)
  | .completeConnectRequest .postponementWindowTimerCb id action =>
    some (.completeConnectRequest .postponementWindowTimerCb id action)
  | .rejectConnectRequest .postponementWindowTimerCb id =>
    some (.rejectConnectRequest .postponementWindowTimerCb id)
  | _ => none

def books (vpn : Vpn) : Books ConnectRequestResult Call where
  asked := vpn.calls.filterMap postponedBy
  kept := vpn.postponedRequests
  answered := vpn.calls.filterMap handsOver

def completedAsDecided (request : ConnectRequestResult) : Call :=
  .completeConnectRequest .completePostponedRequests request.id request.action

/-- A request is completed with its own action, or answered as the end of the window demands. -/
def Answers (killSwitchOn : Bool) (request : ConnectRequestResult) (answer : Call) : Prop :=
  answer = completedAsDecided request ∨ answer = expiredRequestCall killSwitchOn request

structure Keeps (vpn vpn' : Vpn) : Prop where
  books : books vpn' = books vpn
  timer : vpn.postponementWindowTimer.isSome → vpn'.postponementWindowTimer.isSome

theorem Keeps.refl (vpn : Vpn) : Keeps vpn vpn := ⟨rfl, id⟩

theorem Keeps.trans (a b c : Vpn) (hab : Keeps a b) (hbc : Keeps b c) : Keeps a c :=
  ⟨hbc.books.trans hab.books, hbc.timer ∘ hab.timer⟩

theorem keeps_of_extends {P : Call → Prop} (h : Extends P vpn vpn')
    (hp : ∀ c, P c → postponedBy c = none ∧ handsOver c = none)
    (hk : vpn'.postponedRequests = vpn.postponedRequests)
    (ht : vpn.postponementWindowTimer.isSome → vpn'.postponementWindowTimer.isSome) :
    Keeps vpn vpn' := by
  refine ⟨?_, ht⟩
  simp only [books, hk, h.filterMap_eq fun c hc ↦ (hp c hc).1,
    h.filterMap_eq fun c hc ↦ (hp c hc).2]

theorem keeps_of_teardown (h : Extends Teardown vpn vpn')
    (hk : vpn'.postponedRequests = vpn.postponedRequests)
    (ht : vpn'.postponementWindowTimer = vpn.postponementWindowTimer) : Keeps vpn vpn' := by
  refine keeps_of_extends h ?_ hk (ht ▸ id)
  intro c hc
  cases hc <;> exact ⟨rfl, rfl⟩

theorem keeps_call {c : Call} (hcs : vpn'.calls = vpn.calls ++ [c])
    (hc : postponedBy c = none ∧ handsOver c = none)
    (hk : vpn'.postponedRequests = vpn.postponedRequests)
    (ht : vpn'.postponementWindowTimer = vpn.postponementWindowTimer) : Keeps vpn vpn' :=
  keeps_of_extends (P := (· = c)) (extends_one hcs rfl) (fun _ h ↦ h ▸ hc) hk (ht ▸ id)

variable (vpn : Vpn) (data : Data)

theorem keeps_submit (t : Task) : Keeps vpn (vpn.submit t) := ⟨rfl, id⟩

theorem keeps_stopPinging : Keeps vpn (stopPinging vpn) := by
  refine keeps_of_teardown (extends_stopPinging vpn) ?_ ?_ <;>
    · unfold stopPinging
      split <;> rfl

theorem keeps_disconnectClient : Keeps vpn (disconnectClient vpn) := by
  refine keeps_of_teardown (extends_disconnectClient vpn) ?_ ?_ <;>
    · unfold disconnectClient
      split <;> rfl

theorem keeps_disconnect : Keeps vpn (disconnect vpn) :=
  .trans _ _ _ (keeps_stopPinging vpn) (keeps_disconnectClient _)

theorem keeps_initiateRecovery (now : ℕ) : Keeps vpn (initiateRecovery vpn now) := by
  unfold initiateRecovery
  split
  · exact ⟨rfl, id⟩
  · refine ⟨by simp only [books], ?_⟩
    dsimp only
    split
    · exact id
    · exact fun _ ↦ rfl

theorem keeps_prepareForRecovery : Keeps vpn (prepareForRecovery vpn data) := by
  unfold prepareForRecovery
  refine .trans _ _ _ (.trans _ _ _ ?_ (keeps_disconnect _)) (keeps_initiateRecovery _ _)
  exact ⟨rfl, id⟩

theorem keeps_doDisconnect : Keeps vpn (doDisconnect vpn data) :=
  .trans _ { vpn with recovery := {} } _ ⟨rfl, id⟩ (keeps_disconnect _)

theorem keeps_onWrongConnectState : Keeps vpn (onWrongConnectState vpn data) :=
  .trans _ _ _ (keeps_disconnect vpn) ⟨rfl, id⟩

theorem keeps_recordConnectError : Keeps vpn (recordConnectError vpn data) := by
  unfold recordConnectError
  split
  · split
    · exact .refl vpn
    · exact .trans _ _ _ (keeps_disconnect vpn) ⟨rfl, id⟩
  · exact .refl vpn

theorem keeps_completeConnect : Keeps vpn (completeConnect vpn data) := by
  refine .trans _ _ _ (keeps_recordConnectError vpn data) ?_
  simp only [completeConnect]
  split <;> split
  · exact ⟨rfl, id⟩
  · exact keeps_call rfl ⟨rfl, rfl⟩ rfl rfl
  · exact ⟨rfl, id⟩
  · exact keeps_call rfl ⟨rfl, rfl⟩ rfl rfl

theorem keeps_retryConnect : Keeps vpn (retryConnect vpn data) := by
  have hc : Keeps vpn (vpn.call (.retryConnect vpn.connectRetryInfo)) :=
    keeps_call rfl ⟨rfl, rfl⟩ rfl rfl
  refine .trans _ _ _ hc ?_
  simp only [retryConnect]
  split
  · refine .trans _ _ _ (.trans _ _ _ ?_ (keeps_disconnect _)) (keeps_submit _ _)
    exact ⟨rfl, id⟩
  · exact .trans _ _ _ (keeps_disconnect _) (keeps_submit _ _)

theorem keeps_runClientConnect (env : Env) (t : Option ℕ) :
    Keeps vpn (runClientConnect vpn env t) := by
  refine keeps_call (calls_runClientConnect vpn env t) ⟨rfl, rfl⟩ ?_ ?_ <;>
    · unfold runClientConnect
      split
      · rfl
      · dsimp only
        split <;> rfl

theorem keeps_reconnectClient : Keeps vpn (reconnectClient vpn data) :=
  .trans _ _ _ (keeps_disconnectClient vpn) (keeps_runClientConnect _ _ _)

theorem keeps_runPing : Keeps vpn (runPing vpn data) :=
  .trans _ _ _ (keeps_stopPinging vpn) (keeps_call rfl ⟨rfl, rfl⟩ rfl rfl)

theorem keeps_startListening : Keeps vpn (startListening vpn data) := by
  unfold startListening
  split
  · exact .refl vpn
  · exact ⟨rfl, id⟩

theorem keeps_raiseState : Keeps vpn (raiseState vpn data) := by
  unfold raiseState
  split <;> exact keeps_call rfl ⟨rfl, rfl⟩ rfl rfl

theorem keeps_enter (state : VpnSessionState) : Keeps vpn (enter vpn state data) :=
  .trans _ { vpn with state } _ ⟨rfl, id⟩ (keeps_raiseState _ data)

theorem keeps_perform {e : ConnectEvent} (hq : e ≠ .completeRequest)
    (hr : e ≠ .clientReady) : Keeps vpn (performTransition vpn e data) := by
  have hl : ∀ v, Keeps v (onWrongListenState v data) := .refl
  refine Fsm.performTransition_relates .refl .trans Table.fsm (fun _ _ ↦ ⟨rfl, id⟩) e data
    ?_ ?_ vpn
  · simp [Table.fsm, Table.transitionTable, forall_mem_cons, -mem_cons, connectClient,
      failConnectWithNoAttempts, prepareForRecoveryNc, keeps_runPing, keeps_completeConnect,
      keeps_retryConnect, keeps_prepareForRecovery, keeps_startListening, keeps_doDisconnect,
      keeps_onWrongConnectState, keeps_runClientConnect, keeps_reconnectClient, hl, hq.symm,
      hr.symm]
  · intro e he _ a ha v
    rw [Table.afterTransition_eq e he a ha]
    exact keeps_raiseState v data

theorem filterMap_handsOver_map {f : ConnectRequestResult → Call} (rs : List ConnectRequestResult)
    (hf : ∀ r, handsOver (f r) = some (f r)) : (rs.map f).filterMap handsOver = rs.map f := by
  rw [filterMap_map, ← filterMap_eq_map]
  exact filterMap_congr fun r _ ↦ hf r

theorem filterMap_eq_nil {β : Type} {f : Call → Option β} {cs : List Call}
    (h : ∀ c ∈ cs, f c = none) : cs.filterMap f = [] :=
  filterMap_eq_nil_iff.2 h

theorem postponedBy_expired (kso : Bool) (r : ConnectRequestResult) :
    postponedBy (expiredRequestCall kso r) = none := by
  cases kso <;> rfl

theorem handsOver_expired (kso : Bool) (r : ConnectRequestResult) :
    handsOver (expiredRequestCall kso r) = some (expiredRequestCall kso r) := by
  cases kso <;> rfl

theorem books_postponementWindowTimerCb : books (postponementWindowTimerCb vpn) =
    (books vpn).answerAll (expiredRequestCall vpn.client.killSwitchOn) := by
  have hp : (vpn.postponedRequests.map (expiredRequestCall vpn.client.killSwitchOn)).filterMap
      postponedBy = [] := by
    refine filterMap_eq_nil fun c hc ↦ ?_
    obtain ⟨r, _, rfl⟩ := mem_map.1 hc
    exact postponedBy_expired _ r
  have ha := filterMap_handsOver_map vpn.postponedRequests
    (handsOver_expired vpn.client.killSwitchOn)
  simp [books, postponementWindowTimerCb, Books.answerAll, hp, ha]

theorem books_finalizeRecovery :
    books (finalizeRecovery vpn data) = (books vpn).answerAll completedAsDecided := by
  obtain ⟨cs, hcs, ht⟩ := calls_finalizeRecovery vpn data
  have hd : ∀ {β : Type} {f : Call → Option β}, (∀ c, Teardown c → f c = none) →
      cs.filterMap f = [] := fun hf ↦ filterMap_eq_nil fun c hc ↦ hf c (ht c hc)
  have hp : (vpn.postponedRequests.map completedAsDecided).filterMap postponedBy = [] := by
    refine filterMap_eq_nil fun c hc ↦ ?_
    obtain ⟨r, _, rfl⟩ := mem_map.1 hc
    rfl
  have hn := filterMap_handsOver_map (f := completedAsDecided) vpn.postponedRequests
    fun _ ↦ rfl
  have hr : ∀ {β : Type} {f : Call → Option β}, (∀ id, f (.resetConnection id) = none) →
      (vpn.bypassedConnectionIds.map Call.resetConnection).filterMap f = [] := by
    intro β f hf
    refine filterMap_eq_nil fun c hc ↦ ?_
    obtain ⟨id, _, rfl⟩ := mem_map.1 hc
    exact hf id
  have hs : (finalizeRecovery vpn data).calls = vpn.calls ++ (cs ++
      vpn.postponedRequests.map completedAsDecided ++
      vpn.bypassedConnectionIds.map .resetConnection) := hcs
  have hk : (finalizeRecovery vpn data).calls.filterMap postponedBy =
      vpn.calls.filterMap postponedBy := by
    rw [hs, filterMap_append, filterMap_append, filterMap_append, hp,
      hd (f := postponedBy) (by rintro c (_ | _ | _) <;> rfl),
      hr (f := postponedBy) fun _ ↦ rfl]
    simp
  have ha : (finalizeRecovery vpn data).calls.filterMap handsOver =
      vpn.calls.filterMap handsOver ++ vpn.postponedRequests.map completedAsDecided := by
    rw [hs, filterMap_append, filterMap_append, filterMap_append, hn,
      hd (f := handsOver) (by rintro c (_ | _ | _) <;> rfl),
      hr (f := handsOver) fun _ ↦ rfl]
    simp
  simp only [books, Books.answerAll, hk, ha]
  rfl

theorem books_postponeRequest :
    books (postponeRequest vpn data) = (books vpn).putOff data.request := by
  simp [books, postponeRequest, Vpn.call, Books.putOff, postponedBy, handsOver]

/-- The state invariant: what was postponed is kept, with the window open, or was answered. -/
structure Sound (vpn : Vpn) : Prop where
  armed : vpn.postponedRequests ≠ [] → vpn.postponementWindowTimer.isSome
  conserved : Conserved (Answers vpn.client.killSwitchOn) (books vpn)

variable {vpn data}

theorem Sound.keeps (h : Sound vpn) (hk : Keeps vpn vpn')
    (hs : vpn'.client.killSwitchOn = vpn.client.killSwitchOn) : Sound vpn' := by
  have ht : vpn'.postponedRequests = vpn.postponedRequests := congrArg Books.kept hk.books
  refine ⟨fun hn ↦ hk.timer (h.armed (ht ▸ hn)), ?_⟩
  rw [hk.books, hs]
  exact h.conserved

theorem killSwitchOn_perform (e : ConnectEvent) :
    (performTransition vpn e data).client.killSwitchOn = vpn.client.killSwitchOn :=
  congrArg Control.killSwitchOn (control_performTransition vpn data e)

theorem sound_perform (h : Sound vpn) (e : ConnectEvent) :
    Sound (performTransition vpn e data) := by
  have hl := @killSwitchOn_perform vpn data
  by_cases hq : e = .completeRequest
  · subst hq
    have hk := hl .completeRequest
    rw [perform_completeRequest] at hk ⊢
    split
    · exact h.keeps (keeps_call rfl ⟨rfl, rfl⟩ rfl rfl) rfl
    · split
      · rename_i hp
        exact ⟨fun _ ↦ hp, books_postponeRequest vpn data ▸ h.conserved.putOff data.request⟩
      · split <;> exact h.keeps (keeps_call rfl ⟨rfl, rfl⟩ rfl rfl) rfl
  · by_cases hr : e = .clientReady
    · subst hr
      have hk := hl .clientReady
      rw [perform_clientReady] at hk ⊢
      split
      · rename_i hs
        rw [hs] at hk
        exact h.keeps (.trans _ _ _ (keeps_completeConnect vpn data) (keeps_enter _ data _)) hk
      · rename_i hs
        rw [hs] at hk
        have hf : Sound (finalizeRecovery vpn data) := by
          refine ⟨fun hn ↦ absurd rfl hn, ?_⟩
          have he : (finalizeRecovery vpn data).client.killSwitchOn = vpn.client.killSwitchOn :=
            congrArg Control.killSwitchOn (control_finalizeRecovery vpn data)
          rw [books_finalizeRecovery, he]
          exact h.conserved.answerAll fun _ ↦ .inl rfl
        exact hf.keeps (keeps_enter _ data _) (hk.trans
          (congrArg Control.killSwitchOn (control_finalizeRecovery vpn data)).symm)
      · exact h
    · exact h.keeps (keeps_perform vpn data hq hr) (hl e)

section

variable (vpn) (env : Env)

theorem keeps_task (t : Task) : Keeps vpn (Task.dispatch vpn env t).1 := by
  rw [dispatch_task]
  exact ⟨rfl, id⟩

theorem keeps_pingerHandler (r : LocationsPingerResult) :
    Keeps vpn (pingerHandler { vpn with pinger := some ⟨true⟩ } env r).1 := by
  simp only [pingerHandler]
  split
  · exact ⟨rfl, id⟩
  · split <;> exact ⟨rfl, id⟩

theorem keeps_clientHandler (c : VpnClient) : Keeps vpn (clientHandler vpn env c).1 := by
  simp only [clientHandler]
  split <;> exact ⟨rfl, id⟩

def isCleanup : Input → Bool
  | .eventLoopExited => true
  | _ => false

theorem keeps_dispatch {i : Input} {d : Dispatch} (hc : isCleanup i = false)
    (h : dispatch vpn env i = some d) :
    Keeps vpn d.1 ∨ d = (postponementWindowTimerCb vpn, none) := by
  cases dispatched_of_dispatch vpn env h with
  | exited => cases hc
  | loop _ h =>
    cases h with
    | @task task r =>
      exact .inl (.trans _ { vpn with taskQueue := r } _ ⟨rfl, id⟩ (keeps_task _ env task))
    | window => exact .inr rfl
    | pinged => exact .inl (keeps_pingerHandler vpn env _)
    | client => exact .inl (keeps_clientHandler vpn env _)
    | _ => exact .inl ⟨rfl, id⟩
  | _ => exact .inl ⟨rfl, id⟩

end

theorem sound_dispatch (h : Sound vpn) {env : Env} {i : Input} {d : Dispatch}
    (hc : isCleanup i = false) (hd : dispatch vpn env i = some d)
    (hs : d.1.client.killSwitchOn = vpn.client.killSwitchOn) : Sound d.1 := by
  rcases keeps_dispatch vpn env hc hd with hk | rfl
  · exact h.keeps hk hs
  · refine ⟨fun hn ↦ absurd rfl hn, ?_⟩
    rw [books_postponementWindowTimerCb]
    exact h.conserved.answerAll fun _ ↦ .inr rfl

/-- The step lemma: postponed requests are kept or answered. -/
theorem step_sound {l : Env × Input} (hv : Sound vpn) (hc : isCleanup l.2 = false)
    (h : step vpn l = some vpn') : Sound vpn' := by
  have hk := step_killSwitchOn h
  obtain ⟨_, ⟨pre, t⟩, hd, _, rfl⟩ := step_dispatch h
  have hp : pre.client.killSwitchOn = vpn.client.killSwitchOn := by
    cases t with
    | none => exact hk
    | some t => exact (killSwitchOn_perform t.1).symm.trans hk
  have hs : Sound pre := sound_dispatch hv hc hd hp
  cases t with
  | none => exact hs
  | some t => exact sound_perform hs t.1

theorem started_sound {ps : VpnConnectParameters} {kso : Bool}
    (h : Started ps kso vpn) : Sound vpn := by
  unfold Started vpnConnect at h
  split at h
  · cases h
  · cases h
    exact ⟨fun hn ↦ absurd rfl hn, conserved_empty⟩

/-- When the window is over, all that was postponed is answered in order. -/
theorem window_closes {due : ℕ} {env : Env} (ht : vpn.postponementWindowTimer = some due)
    (he : due ≤ env.now) (hr : vpn.running = true) (h : vpn.terminated = false) :
    ∃ v, step vpn (env, .postponementWindowTimer) = some v ∧ v.postponedRequests = [] ∧
      v.calls = vpn.calls ++
        vpn.postponedRequests.map (expiredRequestCall vpn.client.killSwitchOn) := by
  refine ⟨postponementWindowTimerCb vpn, ?_, rfl, rfl⟩
  simp [step, h, dispatch, apiTask, hr, loopDispatch, ht, he, Dispatch.perform]

/-- Until the clean-up of `vpn_stop` no postponed request is kept without a timer, each is kept or
was handed over once, in order, with the answer it is due, and the timer hands over all. -/
theorem postponed_requests_conserved {parameters : VpnConnectParameters} {killSwitchOn : Bool}
    {start vpn : Vpn} {labels : List (Env × Input)} (h : Started parameters killSwitchOn start)
    (hr : Run step (fun _ l ↦ isCleanup l.2 = false) start labels vpn) :
    (vpn.postponedRequests ≠ [] → vpn.postponementWindowTimer.isSome) ∧
      (∃ handed : List (ConnectRequestResult × Call),
        vpn.calls.filterMap postponedBy = handed.map Prod.fst ++ vpn.postponedRequests ∧
        vpn.calls.filterMap handsOver = handed.map Prod.snd ∧
        ∀ p ∈ handed,
          p.2 = .completeConnectRequest .completePostponedRequests p.1.id p.1.action ∨
            p.2 = expiredRequestCall killSwitchOn p.1) ∧
      ∀ due env, vpn.postponementWindowTimer = some due → due ≤ env.now → vpn.running = true →
        vpn.terminated = false → ∃ vpn', step vpn (env, .postponementWindowTimer) = some vpn' ∧
          vpn'.postponedRequests = [] ∧ vpn'.calls = vpn.calls ++
            vpn.postponedRequests.map (expiredRequestCall killSwitchOn) := by
  have hk : vpn.client.killSwitchOn = killSwitchOn := by
    refine hr.invariant (P := fun v ↦ v.client.killSwitchOn = killSwitchOn)
      (congrArg Control.killSwitchOn (started_control h)) ?_
    intro s l t hs _ hp
    exact (step_killSwitchOn hp).trans hs
  have hd := hr.invariant (started_sound h) fun _ _ _ hs hc hp ↦ step_sound hs hc hp
  subst hk
  exact ⟨hd.armed, hd.conserved, fun due env ht he hn hl ↦ window_closes ht he hn hl⟩

def postponingRun : List (Env × Input) :=
  [atTime 1 .runTask, atTime 2 (.pingerResult ⟨10, endpointAt 1, none, false, false⟩),
   atTime 3 (.endpointConnectorResult none), atTime 4 .clientDeferredTask,
   atTime 5 (.vpnNotifyNetworkChange .connected), atTime 6 .runTask,
   atTime 7 (.vpnCompleteConnectRequest ⟨1, some .default, "app", 1⟩),
   ({ now := 8, finalizedAction := some .forceRedirect }, .runTask),
   atTime (10 ^ 12) .postponementWindowTimer]

/-- A request that is postponed and rejected when the window is over. -/
theorem postponed_request_rejected_once :
    ∃ start vpn, Started (connectTo [endpointAt 1] ⟨.severalAttempts, 1⟩) true start ∧
      Run step (fun _ l ↦ isCleanup l.2 = false) start postponingRun vpn ∧
      (vpn.calls.filterMap postponedBy).map (·.id) = [1] ∧ vpn.postponedRequests.length = 0 ∧
      ∃ handed : List (ConnectRequestResult × Call),
        vpn.calls.filterMap postponedBy = handed.map Prod.fst ++ vpn.postponedRequests ∧
        vpn.calls.filterMap handsOver = handed.map Prod.snd := by
  refine exists_started_imp (P := fun v ↦ (v.calls.filterMap postponedBy).map (·.id) = [1] ∧
    v.postponedRequests.length = 0) (by decide) fun start vpn hs hr hp ↦ ⟨hp.1, hp.2, ?_⟩
  obtain ⟨_, ⟨handed, hd, ha, _⟩, _⟩ := postponed_requests_conserved hs hr
  exact ⟨handed, hd, ha⟩

end TrustTunnel.Session.Postponed

import TrustTunnel.Session.Progress

namespace TrustTunnel.Session.Frame

open Session.Types Client Manager Actions Step

variable {l : Env × Input} {vpn' : Vpn}

/-- What the session's transitions never change: the run of its event loop and the kill switch. -/
structure Control where
  executorThread : Bool
  running : Bool
  stopping : Bool
  killSwitchOn : Bool

def control (vpn : Vpn) : Control :=
  ⟨vpn.executorThread, vpn.running, vpn.stopping, vpn.client.killSwitchOn⟩

variable (vpn : Vpn) (da : Data)

@[simp] theorem control_stopPinging : control (stopPinging vpn) = control vpn := by
  unfold stopPinging
  split <;> rfl

@[simp] theorem control_disconnectClient : control (disconnectClient vpn) = control vpn := by
  unfold disconnectClient
  split
  · rfl
  · simp [control, Vpn.call]
  · simp [control, Vpn.call]

@[simp] theorem control_disconnect : control (disconnect vpn) = control vpn := by
  simp [disconnect]

@[simp] theorem control_initiateRecovery (n : ℕ) :
    control (initiateRecovery vpn n) = control vpn := by
  unfold initiateRecovery
  split
  · rfl
  · simp only [control]

@[simp] theorem control_runClientConnect (e : Env) (t : Option ℕ) :
    control (runClientConnect vpn e t) = control vpn := by
  unfold runClientConnect
  split
  · rfl
  · dsimp only
    split <;> simp [control, Vpn.call, Vpn.submit]

@[simp] theorem control_runPing : control (runPing vpn da) = control vpn := control_stopPinging vpn

@[simp] theorem control_recordConnectError :
    control (recordConnectError vpn da) = control vpn := by
  unfold recordConnectError
  split
  · split
    · rfl
    · exact control_disconnect vpn
  · rfl

@[simp] theorem control_completeConnect : control (completeConnect vpn da) = control vpn := by
  rw [← control_recordConnectError vpn da]
  simp only [completeConnect]
  split <;> split <;> rfl

@[simp] theorem control_retryConnect : control (retryConnect vpn da) = control vpn := by
  simp only [retryConnect]
  split <;> exact control_disconnect _

@[simp] theorem control_prepareForRecovery :
    control (prepareForRecovery vpn da) = control vpn := by
  simp only [prepareForRecovery, control_initiateRecovery, control_disconnect]
  rfl

@[simp] theorem control_finalizeRecovery : control (finalizeRecovery vpn da) = control vpn :=
  control_stopPinging { vpn with recovery := {} }

@[simp] theorem control_startListening : control (startListening vpn da) = control vpn := by
  unfold startListening
  split
  · rfl
  · simp [control, Vpn.submit, killSwitchOn_performTransition]

@[simp] theorem control_raiseState : control (raiseState vpn da) = control vpn := by
  unfold raiseState
  split <;> rfl

@[simp] theorem control_doDisconnect : control (doDisconnect vpn da) = control vpn :=
  control_disconnect { vpn with recovery := {} }

@[simp] theorem control_onWrongConnectState :
    control (onWrongConnectState vpn da) = control vpn :=
  control_disconnect vpn

theorem control_performTransition (e : ConnectEvent) :
    control (Table.performTransition vpn e da) = control vpn := by
  refine Fsm.performTransition_frame control Table.fsm (fun _ _ ↦ rfl) ?_ ?_ e da vpn
  · have hr : ∀ v d, control (reconnectClient v d) = control v := by
      simp [reconnectClient]
    have ht : ∀ v d, control (completeRequest v d) = control v ∧
        control (postponeRequest v d) = control v ∧ control (rejectRequest v d) = control v ∧
        control (bypassUntilConnected v d) = control v := fun _ _ ↦ ⟨rfl, rfl, rfl, rfl⟩
    simp [Table.fsm, Table.transitionTable, List.forall_mem_cons, -List.mem_cons, connectClient,
      failConnectWithNoAttempts, prepareForRecoveryNc, onWrongListenState, hr, ht]
  · intro e he a ha v d
    rw [Table.afterTransition_eq e he a ha]
    exact control_raiseState v d

inductive Operates : Vpn → Prop
  | same {pre : Vpn} (h : control pre = control vpn) : Operates pre
  | connect {pre : Vpn} (hx : vpn.executorThread = false) (hs : vpn.stopping = false)
      (h : control pre = { control vpn with executorThread := true, running := true }) :
      Operates pre
  | stop {pre : Vpn} (h : control pre = { control vpn with stopping := true }) : Operates pre
  | failed {pre : Vpn} (h : control pre = { control vpn with running := false }) : Operates pre
  | exited {pre : Vpn} (hs : vpn.stopping = true)
      (h : control pre = { control vpn with executorThread := false, running := false }) :
      Operates pre

variable (e : Env)

theorem control_task (t : Task) : control (Task.dispatch vpn e t).1 = control vpn := by
  rw [Progress.dispatch_task]
  rfl

theorem control_pingerHandler (r : LocationsPingerResult) :
    control (pingerHandler vpn e r).1 = control vpn := by
  simp only [pingerHandler]
  split
  · rfl
  · split <;> rfl

theorem control_clientHandler {c : VpnClient} (h : c.killSwitchOn = vpn.client.killSwitchOn) :
    control (clientHandler vpn e c).1 = control vpn := by
  simp only [clientHandler]
  split <;> simp [control, h]

theorem dispatch_operates {i : Input} {d : Dispatch} (h : dispatch vpn e i = some d) :
    Operates vpn d.1 := by
  cases Progress.dispatched_of_dispatch vpn e h with
  | connect hx hs => exact .connect hx hs rfl
  | stop => exact .stop rfl
  | exited hs => exact .exited hs (control_stopPinging _)
  | loop _ h =>
    cases h with
    | task => exact .same (control_task _ e _)
    | pinged => exact .same (control_pingerHandler _ e _)
    | client hc => exact .same (control_clientHandler vpn e hc.2)
    | failed => exact .failed rfl
    | _ => exact .same rfl
  | _ => exact .same rfl

theorem step_operates {v : Vpn} (h : step v l = some vpn') : Operates v vpn' := by
  obtain ⟨_, ⟨pre, t⟩, hd, _, rfl⟩ := Progress.step_dispatch h
  have ho : Operates v pre := dispatch_operates v l.1 hd
  have hc : control (Dispatch.perform (pre, t)) = control pre := by
    cases t with
    | none => rfl
    | some t => exact control_performTransition pre t.2 t.1
  cases ho with
  | same h => exact .same (hc.trans h)
  | connect hx hs h => exact .connect hx hs (hc.trans h)
  | stop h => exact .stop (hc.trans h)
  | failed h => exact .failed (hc.trans h)
  | exited hs h => exact .exited hs (hc.trans h)

def Held (vpn : Vpn) : Prop := vpn.stopping = false → vpn.executorThread = true

theorem step_held {v : Vpn} (hv : Held v) (h : step v l = some vpn') : Held vpn' := by
  unfold Held at hv ⊢
  cases step_operates h with
  | same h =>
    injection h with hx _ hs
    rwa [hs, hx]
  | connect _ _ h =>
    injection h with hx
    exact fun _ ↦ hx
  | stop h =>
    injection h with _ _ hs
    rw [hs]
    nofun
  | failed h =>
    injection h with hx _ hs
    rwa [hs, hx]
  | exited ht h =>
    injection h with _ _ hs
    rw [hs]
    intro hf
    have : (control v).stopping = true := ht
    simp [this] at hf

theorem started_control {ps : VpnConnectParameters} {k : Bool} {v : Vpn}
    (h : Started ps k v) : control v = ⟨true, true, false, k⟩ := by
  unfold Started vpnConnect at h
  split at h
  · cases h
  · cases h
    rfl

/-- No step changes the kill switch. -/
theorem step_killSwitchOn {v : Vpn} (h : step v l = some vpn') :
    vpn'.client.killSwitchOn = v.client.killSwitchOn := by
  have hk : (control vpn').killSwitchOn = (control v).killSwitchOn := by
    cases step_operates h with
    | same h => rw [h]
    | connect _ _ h => rw [h]
    | stop h => rw [h]
    | failed h => rw [h]
    | exited _ h => rw [h]
  exact hk

end TrustTunnel.Session.Frame

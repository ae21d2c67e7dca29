import TrustTunnel.Session.Actions

namespace TrustTunnel.Session.Table

open Fsm Session.Types Client Manager Actions

/-- The rows of the source, in its order: the first one that applies is taken. -/
def transitionTable : List (TransitionEntry VpnSessionState ConnectEvent Vpn Data) :=
  [⟨some .disconnected, .doConnect, none, some runPing, some .connecting, some raiseState⟩,
   ⟨some .disconnected, .clientDisconnected, none, none, none, none⟩,
   ⟨some .disconnected, .shutdown, none, some doDisconnect, none, none⟩,
   ⟨some .disconnected, .startListening, none, some onWrongListenState, none, none⟩,
   ⟨some .disconnected, .networkChange, none, none, none, none⟩,

   ⟨some .connecting, .retryConnect, none, some runPing, none, none⟩,
   ⟨some .connecting, .pingReady, none, some connectClient, none, none⟩,
   ⟨some .connecting, .pingFail, some isFatalError, some completeConnect, some .disconnected,
    some raiseState⟩,
   ⟨some .connecting, .pingFail, some fallIntoRecovery, some prepareForRecovery,
    some .waitingRecovery, some raiseState⟩,
   ⟨some .connecting, .pingFail, some noConnectAttempts, some completeConnect, some .disconnected,
    some raiseState⟩,
   ⟨some .connecting, .pingFail, none, some retryConnect, none, none⟩,
   ⟨some .connecting, .clientReady, none, some completeConnect, some .connected, some raiseState⟩,
   ⟨some .connecting, .clientDisconnected, some isFatalError, some completeConnect,
    some .disconnected, some raiseState⟩,
   ⟨some .connecting, .clientDisconnected, some fallIntoRecovery, some prepareForRecovery,
    some .waitingRecovery, some raiseState⟩,
   ⟨some .connecting, .clientDisconnected, some noConnectAttempts, some completeConnect,
    some .disconnected, some raiseState⟩,
   ⟨some .connecting, .clientDisconnected, none, some retryConnect, none, none⟩,
   ⟨some .connecting, .abandonEndpoint, some isFatalError, some completeConnect,
    some .disconnected, some raiseState⟩,
   ⟨some .connecting, .abandonEndpoint, none, some retryConnect, none, none⟩,
   ⟨some .connecting, .networkChange, some noConnectAttempts, some failConnectWithNoAttempts,
    some .disconnected, some raiseState⟩,
   ⟨some .connecting, .networkChange, some networkLost, some doDisconnect,
    some .waitingForNetwork, some raiseState⟩,
   ⟨some .connecting, .networkChange, none, none, none, none⟩,

   ⟨some .connected, .networkChange, some networkLost, some doDisconnect,
    some .waitingForNetwork, some raiseState⟩,
   ⟨some .connected, .networkChange, none, some prepareForRecoveryNc, some .waitingRecovery,
    some raiseState⟩,
   ⟨some .connected, .abandonEndpoint, some isFatalError, some doDisconnect, some .disconnected,
    some raiseState⟩,
   ⟨some .connected, .abandonEndpoint, none, some prepareForRecovery, some .waitingRecovery,
    some raiseState⟩,

   ⟨some .waitingRecovery, .networkChange, some networkLost, some doDisconnect,
    some .waitingForNetwork, some raiseState⟩,
   ⟨some .waitingRecovery, .networkChange, none, some runPing, some .recovering, some raiseState⟩,
   ⟨some .waitingRecovery, .doRecovery, some needToPingOnRecovery, some runPing,
    some .recovering, some raiseState⟩,
   ⟨some .waitingRecovery, .doRecovery, none, some connectClient, some .recovering,
    some raiseState⟩,
   ⟨some .waitingRecovery, .clientDisconnected, some isFatalError, some doDisconnect,
    some .disconnected, some raiseState⟩,
   ⟨some .waitingRecovery, .clientDisconnected, none, none, none, none⟩,
   ⟨some .waitingRecovery, .abandonEndpoint, some isFatalError, some doDisconnect,
    some .disconnected, some raiseState⟩,

   ⟨some .recovering, .networkChange, some networkLost, some doDisconnect,
    some .waitingForNetwork, some raiseState⟩,
   ⟨some .recovering, .networkChange, none, none, none, none⟩,
   ⟨some .recovering, .pingReady, none, some reconnectClient, none, none⟩,
   ⟨some .recovering, .pingFail, some isFatalError, some doDisconnect, some .disconnected,
    some raiseState⟩,
   ⟨some .recovering, .pingFail, none, some prepareForRecovery, some .waitingRecovery,
    some raiseState⟩,
   ⟨some .recovering, .clientReady, none, some finalizeRecovery, some .connected, some raiseState⟩,
   ⟨some .recovering, .abandonEndpoint, some isFatalError, some doDisconnect, some .disconnected,
    some raiseState⟩,
   ⟨some .recovering, .abandonEndpoint, none, some prepareForRecovery, some .waitingRecovery,
    some raiseState⟩,

   ⟨some .waitingForNetwork, .networkChange, some networkLost, none, none, none⟩,
   ⟨some .waitingForNetwork, .networkChange, some connectedOnce, some prepareForRecoveryNc,
    some .waitingRecovery, some raiseState⟩,
   ⟨some .waitingForNetwork, .networkChange, some noConnectAttempts,
    some failConnectWithNoAttempts, some .disconnected, some raiseState⟩,
   ⟨some .waitingForNetwork, .networkChange, none, some retryConnect, some .connecting,
    some raiseState⟩,

   ⟨none, .clientDisconnected, some isFatalError, some doDisconnect, some .disconnected,
    some raiseState⟩,
   ⟨none, .clientDisconnected, none, some prepareForRecovery, some .waitingRecovery,
    some raiseState⟩,
   ⟨none, .shutdown, none, some doDisconnect, some .disconnected, some raiseState⟩,
   ⟨none, .doConnect, none, some onWrongConnectState, some .disconnected, some raiseState⟩,
   ⟨none, .startListening, none, some startListening, none, none⟩,

   ⟨none, .completeRequest, some canComplete, some completeRequest, none, none⟩,
   ⟨none, .completeRequest, some shouldPostpone, some postponeRequest, none, none⟩,
   ⟨none, .completeRequest, some isKillSwitchOn, some rejectRequest, none, none⟩,
   ⟨none, .completeRequest, none, some bypassUntilConnected, none, none⟩]

def fsm : FsmParameters VpnSessionState ConnectEvent Vpn Data where
  table := transitionTable
  getState := Vpn.state
  setState vpn s := { vpn with state := s }

/-- All that follows a transition is the report of the new state. -/
theorem afterTransition_eq : ∀ e ∈ fsm.table, ∀ a ∈ e.afterTransition, a = raiseState := by
  simp [fsm, transitionTable, List.forall_mem_cons, -List.mem_cons]

def performTransition (vpn : Vpn) (event : ConnectEvent) (data : Data) : Vpn :=
  Fsm.performTransition fsm event data vpn

def enter (vpn : Vpn) (state : VpnSessionState) (data : Data) : Vpn :=
  raiseState { vpn with state := state } data

variable (vpn : Vpn) (data : Data)

theorem perform_doConnect : performTransition vpn .doConnect data =
    if vpn.state = .disconnected then enter (runPing vpn data) .connecting data
    else enter (onWrongConnectState vpn data) .disconnected data := by
  obtain ⟨s⟩ := vpn
  cases s <;> rfl

theorem perform_retryConnect : performTransition vpn .retryConnect data =
    if vpn.state = .connecting then runPing vpn data else vpn := by
  obtain ⟨s⟩ := vpn
  cases s <;> rfl

theorem perform_pingReady : performTransition vpn .pingReady data =
    match vpn.state with
    | .connecting => connectClient vpn data
    | .recovering => reconnectClient vpn data | _ => vpn := by
  obtain ⟨s⟩ := vpn
  cases s <;> rfl

theorem perform_pingFail : performTransition vpn .pingFail data =
    match vpn.state with
    | .connecting =>
      if isFatalError vpn data then enter (completeConnect vpn data) .disconnected data
      else if fallIntoRecovery vpn data then
        enter (prepareForRecovery vpn data) .waitingRecovery data
      else if noConnectAttempts vpn data then enter (completeConnect vpn data) .disconnected data
      else retryConnect vpn data
    | .recovering =>
      if isFatalError vpn data then enter (doDisconnect vpn data) .disconnected data
      else enter (prepareForRecovery vpn data) .waitingRecovery data | _ => vpn := by
  obtain ⟨s⟩ := vpn
  cases s <;> rfl

theorem perform_clientReady : performTransition vpn .clientReady data =
    match vpn.state with
    | .connecting => enter (completeConnect vpn data) .connected data
    | .recovering => enter (finalizeRecovery vpn data) .connected data | _ => vpn := by
  obtain ⟨s⟩ := vpn
  cases s <;> rfl

theorem perform_clientDisconnected : performTransition vpn .clientDisconnected data =
    match vpn.state with
    | .disconnected => vpn
    | .connecting =>
      if isFatalError vpn data then enter (completeConnect vpn data) .disconnected data
      else if fallIntoRecovery vpn data then
        enter (prepareForRecovery vpn data) .waitingRecovery data
      else if noConnectAttempts vpn data then enter (completeConnect vpn data) .disconnected data
      else retryConnect vpn data
    | .waitingRecovery =>
      if isFatalError vpn data then enter (doDisconnect vpn data) .disconnected data else vpn
    | _ =>
      if isFatalError vpn data then enter (doDisconnect vpn data) .disconnected data
      else enter (prepareForRecovery vpn data) .waitingRecovery data := by
  obtain ⟨s⟩ := vpn
  cases s <;> rfl

theorem perform_doRecovery : performTransition vpn .doRecovery data =
    if vpn.state = .waitingRecovery then
      if needToPingOnRecovery vpn data then enter (runPing vpn data) .recovering data
      else enter (connectClient vpn data) .recovering data else vpn := by
  obtain ⟨s⟩ := vpn
  cases s <;> rfl

theorem perform_shutdown : performTransition vpn .shutdown data =
    if vpn.state = .disconnected then doDisconnect vpn data
    else enter (doDisconnect vpn data) .disconnected data := by
  obtain ⟨s⟩ := vpn
  cases s <;> rfl

theorem perform_networkChange : performTransition vpn .networkChange data =
    match vpn.state with
    | .disconnected => vpn
    | .connecting =>
      if noConnectAttempts vpn data then
        enter (failConnectWithNoAttempts vpn data) .disconnected data
      else if networkLost vpn data then enter (doDisconnect vpn data) .waitingForNetwork data
      else vpn
    | .connected =>
      if networkLost vpn data then enter (doDisconnect vpn data) .waitingForNetwork data
      else enter (prepareForRecoveryNc vpn data) .waitingRecovery data
    | .waitingRecovery =>
      if networkLost vpn data then enter (doDisconnect vpn data) .waitingForNetwork data
      else enter (runPing vpn data) .recovering data
    | .recovering =>
      if networkLost vpn data then enter (doDisconnect vpn data) .waitingForNetwork data else vpn
    | .waitingForNetwork =>
      if networkLost vpn data then vpn
      else if connectedOnce vpn data then
        enter (prepareForRecoveryNc vpn data) .waitingRecovery data
      else if noConnectAttempts vpn data then
        enter (failConnectWithNoAttempts vpn data) .disconnected data
      else enter (retryConnect vpn data) .connecting data := by
  obtain ⟨s⟩ := vpn
  cases s <;> rfl

theorem perform_startListening : performTransition vpn .startListening data =
    if vpn.state = .disconnected then vpn else startListening vpn data := by
  obtain ⟨s⟩ := vpn
  cases s <;> rfl

theorem perform_abandonEndpoint : performTransition vpn .abandonEndpoint data =
    match vpn.state with
    | .connecting =>
      if isFatalError vpn data then enter (completeConnect vpn data) .disconnected data
      else retryConnect vpn data
    | .connected | .recovering =>
      if isFatalError vpn data then enter (doDisconnect vpn data) .disconnected data
      else enter (prepareForRecovery vpn data) .waitingRecovery data
    | .waitingRecovery =>
      if isFatalError vpn data then enter (doDisconnect vpn data) .disconnected data else vpn
    | _ => vpn := by
  obtain ⟨s⟩ := vpn
  cases s <;> rfl

theorem perform_completeRequest : performTransition vpn .completeRequest data =
    if canComplete vpn data then completeRequest vpn data
    else if shouldPostpone vpn data then postponeRequest vpn data
    else if isKillSwitchOn vpn data then rejectRequest vpn data
    else bypassUntilConnected vpn data := by
  obtain ⟨s⟩ := vpn
  cases s <;> rfl

end TrustTunnel.Session.Table

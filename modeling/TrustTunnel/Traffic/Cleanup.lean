import TrustTunnel.Lib.Transition
import TrustTunnel.Traffic.Refine.Serving
import TrustTunnel.Upstream.Direct
import TrustTunnel.Upstream.Multiplexer

namespace TrustTunnel.Traffic.Cleanup

open Function Lib.Transition Traffic.Types Moves Close Serving Refine.Basic Refine.Close
open Refine.Serving List Option
open Upstream.Direct Upstream.Multiplexer

/-- The tunnel with the upstreams that a connection can migrate between. -/
structure System where
  tunnel : Tunnel
  direct : DirectUpstream
  mux : UpstreamMultiplexer
  session : ℕ

def serverInput (upstream : Types.Upstream) : ServerEvent → Input
  | .sessionOpened => .sessionOpened upstream
  | .sessionClosed => .sessionClosed upstream
  | .connectionOpened id => .serverOpened upstream id
  | .connectionClosed id => .serverClosed id
  | .error id code => .serverError upstream (some id) code
  | .sessionError _ => .serverError upstream none .other

def newCalls (t t' : Tunnel) : List Call := t'.calls.drop t.calls.length

namespace System

variable (env : Env) (σ : System)

/-- What a call of the tunnel does to the upstreams. A close that is not deferred is over at its
return. -/
def request : Call → System
  | .closeServer .bypass (some id) graceful async =>
    { σ with direct := if async then closeLater id graceful σ.direct else σ.direct.erase id }
  | .closeServer (.endpoint session) (some id) graceful async =>
    if session = σ.session then { σ with mux := σ.mux.closeConnection id graceful async } else σ
  | _ => σ

def handle (input : Input) : System :=
  let t := Serving.handle σ.tunnel env input
  (newCalls σ.tunnel t).foldl request { σ with tunnel := t }

def raiseDirect (event : ServerEvent) (s : DirectUpstream × System) : DirectUpstream × System :=
  let σ := handle env { s.2 with direct := s.1 } (serverInput .bypass event)
  (σ.direct, σ)

def onDirect (f : DirectUpstream × System → DirectUpstream × System) : System :=
  let s := f (σ.direct, σ)
  { s.2 with direct := s.1 }

def raiseMux (event : ServerEvent) (s : UpstreamMultiplexer × System) :
    UpstreamMultiplexer × System :=
  let σ := handle env { s.2 with mux := s.1 } (serverInput (.endpoint s.2.session) event)
  (σ.mux, σ)

def onMux (f : UpstreamMultiplexer × System → UpstreamMultiplexer × System) : System :=
  let s := f (σ.mux, σ)
  { s.2 with mux := s.1 }

def knows (upstream : Types.Upstream) (id : ℕ) : Bool :=
  match upstream with
  | .bypass => σ.direct.knows id
  | .endpoint session => session == σ.session && (σ.mux.getUpstreamByConn id).isSome
  | _ => false

def runClose (close : Types.Upstream × ℕ) : System :=
  match close with
  | (.bypass, id) => σ.onDirect (closeNow (raiseDirect env) id)
  | (.endpoint session, id) =>
    if session = σ.session ∧ (σ.mux.getUpstreamByConn id).isSome then
      σ.onMux (childConnectionEnded (raiseMux env) id none)
    else σ
  | _ => σ

end System

def deferredCloses (calls : List Call) : List (Types.Upstream × ℕ) :=
  calls.filterMap fun
    | .closeServer upstream (some id) _ true => some (upstream, id)
    | _ => none

/-- Runs the closes that were deferred since the tunnel was `t`, and those deferred by that. -/
def settle (env : Env) : ℕ → Tunnel → System → System
  | 0, _, σ => σ
  | rounds + 1, t, σ =>
    settle env rounds σ.tunnel
      ((deferredCloses (newCalls t σ.tunnel)).foldl (System.runClose env) σ)

inductive Failure
  | tcpError (code : ErrorCode)
  | udpTimeout
  | eof
  | closed
  | childEnded (code : Option ErrorCode)
  | refused
  | reset
deriving DecidableEq, Repr

namespace Failure

def upstream (session : ℕ) : Failure → Types.Upstream
  | .tcpError _ | .udpTimeout | .eof | .closed => .bypass
  | .childEnded _ | .refused | .reset => .endpoint session

def isClose : Failure → Bool
  | .eof | .closed | .childEnded none => true
  | _ => false

def event (id : ℕ) : Failure → ServerEvent
  | .tcpError code => .error id code
  | .udpTimeout => .error id .timedOut
  | .eof | .closed => .connectionClosed id
  | .childEnded code => code.elim (.connectionClosed id) (.error id)
  | .refused => .error id .connRefused
  | .reset => .error id .connReset

def possible (σ : System) (id : ℕ) : Failure → Bool
  | .tcpError _ | .eof => σ.direct.connections.lookup id == some .tcp
  | .udpTimeout => σ.direct.connections.lookup id == some .udp
  | .closed => σ.direct.knows id
  | .childEnded _ => (σ.mux.getUpstreamByConn id).isSome
  | .refused =>
    (σ.mux.pendingConnections.lookup id).isSome && (σ.mux.connections.lookup id).isNone
  | .reset => (σ.mux.connections.lookup id).isNone

def run (env : Env) (σ : System) (id : ℕ) : Failure → System
  | .tcpError code => σ.onDirect fun s ↦ socketHandler (System.raiseDirect env) s
      (.tcpError id code)
  | .udpTimeout => σ.onDirect fun s ↦ socketHandler (System.raiseDirect env) s (.udpTimeout id)
  | .eof => σ.onDirect fun s ↦ socketHandler (System.raiseDirect env) s (.eof id)
  | .closed => σ.onDirect (closeNow (System.raiseDirect env) id)
  | .childEnded code => σ.onMux (childConnectionEnded (System.raiseMux env) id code)
  | .refused => σ.onMux (refusePending (System.raiseMux env) id)
  | .reset => σ.onMux (resetPending (System.raiseMux env) [id])

end Failure

def Open (t : Tunnel) (k : ℕ) : Prop :=
  ∃ r c x, t.byClientId (some k) = some (r, c) ∧ t.byServerId c.serverId = some (r, x)

/-- The replacement `s` is gone, and the connection of `k` that it was made for has been closed. -/
def Cleaned (t : Tunnel) (k s : ℕ) : Prop := t.byServerId (some s) = none ∧ ¬ Open t k

section Requests

variable {env : Env} {σ : System} {t t' : Tunnel}

theorem newCalls_eq {calls : List Call} (h : t'.calls = t.calls ++ calls) :
    newCalls t t' = calls := by
  rw [newCalls, h, drop_left]

theorem newCalls_self : newCalls t t = [] := drop_length

def isDeferred : Call → Bool
  | .closeServer _ _ _ async => async
  | _ => true

theorem request_tunnel (c : Call) : (σ.request c).tunnel = σ.tunnel := by
  unfold System.request
  split
  · rfl
  · split <;> rfl
  · rfl

theorem request_knows {c : Call} (h : isDeferred c = true) (u : Types.Upstream) (id : ℕ) :
    (σ.request c).knows u id = σ.knows u id := by
  have hm : ∀ j g a, (σ.mux.closeConnection j g a).getUpstreamByConn id =
      σ.mux.getUpstreamByConn id := by
    intro j g a
    unfold UpstreamMultiplexer.closeConnection
    split <;> rfl
  unfold System.request
  split
  · obtain rfl : _ = true := h
    cases u <;> rfl
  · split
    · cases u with
      | endpoint s => simp only [System.knows, hm]
      | _ => rfl
    · rfl
  · rfl

theorem requests_tunnel (cs : List Call) (σ : System) :
    (cs.foldl System.request σ).tunnel = σ.tunnel := by
  induction cs generalizing σ with
  | nil => rfl
  | cons c cs ih => rw [foldl_cons, ih, request_tunnel]

theorem requests_knows {cs : List Call} (h : ∀ c ∈ cs, isDeferred c = true) (σ : System)
    (u : Types.Upstream) (id : ℕ) : (cs.foldl System.request σ).knows u id = σ.knows u id := by
  induction cs generalizing σ with
  | nil => rfl
  | cons c cs ih =>
    rw [foldl_cons, ih fun x hx ↦ h x (mem_cons_of_mem _ hx), request_knows (h c mem_cons_self)]

theorem handle_tunnel (input : Input) :
    (σ.handle env input).tunnel = Serving.handle σ.tunnel env input := requests_tunnel _ _

theorem handle_knows {i : Input}
    (h : ∀ c ∈ newCalls σ.tunnel (Serving.handle σ.tunnel env i), isDeferred c = true)
    (u : Types.Upstream) (id : ℕ) : (σ.handle env i).knows u id = σ.knows u id :=
  requests_knows h _ u id

theorem getUpstreamByConn_eraseConnection (m : UpstreamMultiplexer) (id j : ℕ) :
    (m.eraseConnection id).getUpstreamByConn j =
      if j = id then none else m.getUpstreamByConn j := by
  unfold UpstreamMultiplexer.getUpstreamByConn UpstreamMultiplexer.eraseConnection
  split
  · rename_i h
    subst h
    simp
  · rename_i h
    simp only [AList.lookup_erase_ne h]
    rfl

end Requests

namespace Failure

def input (f : Failure) (session id : ℕ) : Input := serverInput (f.upstream session) (f.event id)

def before (σ : System) (id : ℕ) : Failure → System
  | .closed => { σ with direct := (dropTasks id σ.direct).erase id }
  | .childEnded _ => { σ with mux := σ.mux.eraseConnection id }
  | _ => σ

def finish (σ : System) (id : ℕ) : Failure → System
  | .tcpError _ | .udpTimeout | .eof => { σ with direct := σ.direct.erase id }
  | .refused => { σ with mux := σ.mux.erasePending id }
  | _ => σ

variable {e : Env} {σ : System} {f : Failure} {s : ℕ}

theorem run_eq (h : f.possible σ s = true) :
    f.run e σ s = f.finish (System.handle e (f.before σ s) (f.input σ.session s)) s := by
  cases f with
  | eof =>
    simp only [possible, beq_iff_eq] at h
    simp only [run, System.onDirect, socketHandler, h, ↓reduceIte]
    rfl
  | closed =>
    simp only [possible] at h
    simp only [run, System.onDirect, closeNow, h, ↓reduceIte]
    rfl
  | _ => rfl

theorem before_tunnel : (f.before σ s).tunnel = σ.tunnel := by cases f <;> rfl

theorem run_tunnel (h : f.possible σ s = true) :
    (f.run e σ s).tunnel = Serving.handle σ.tunnel e (f.input σ.session s) := by
  have hf : ∀ σ' : System, (f.finish σ' s).tunnel = σ'.tunnel := fun σ' ↦ by cases f <;> rfl
  rw [run_eq h, hf, handle_tunnel, before_tunnel]

theorem run_knows (h : f.possible σ s = true) (hf : f.isClose = false)
    (hd : ∀ c ∈ newCalls σ.tunnel (Serving.handle σ.tunnel e (f.input σ.session s)),
      isDeferred c = true) {j : ℕ}
    (hj : j = s ∨ σ.knows (f.upstream σ.session) j = false) :
    (f.run e σ s).knows (f.upstream σ.session) j = false := by
  rw [run_eq h]
  have hd' : ∀ c ∈ newCalls (f.before σ s).tunnel
      (Serving.handle (f.before σ s).tunnel e (f.input σ.session s)),
      isDeferred c = true := by rwa [before_tunnel]
  have hk := handle_knows hd' (f.upstream σ.session) j
  have ht : ∀ σ' : System, σ'.direct.knows j = σ.direct.knows j →
      (j = s ∨ σ.direct.knows j = false) → (σ'.direct.erase s).knows j = false := by
    intro σ' he hj
    rw [knows_erase, he]
    rcases hj with rfl | hj
    · simp
    · simp [hj]
  have hm : (σ.mux.connections.lookup s).isNone →
    (j = s ∨ σ.knows (.endpoint σ.session) j = false) →
      σ.knows (.endpoint σ.session) j = false := by
    rintro hn (rfl | hj)
    · rw [isNone_iff_eq_none] at hn
      simp [System.knows, UpstreamMultiplexer.getUpstreamByConn, hn]
    · exact hj
  cases f with
  | tcpError ce => exact ht _ hk hj
  | udpTimeout => exact ht _ hk hj
  | eof => cases hf
  | closed => cases hf
  | childEnded ce =>
    refine hk.trans ?_
    simp only [upstream, System.knows, before, getUpstreamByConn_eraseConnection, beq_self_eq_true,
      Bool.true_and] at hj ⊢
    split
    · rfl
    · simpa [*] using hj
  | refused =>
    simp only [possible, Bool.and_eq_true] at h
    exact hk.trans (hm h.2 hj)
  | reset => exact hk.trans (hm h hj)

end Failure

section Settling

variable {env : Env} {σ : System} {t : Tunnel}

theorem runClose_of_unknown (e : Env) {c : Types.Upstream × ℕ} (h : σ.knows c.1 c.2 = false) :
    (σ.runClose e c).tunnel = σ.tunnel ∧ ∀ u j, (σ.runClose e c).knows u j = σ.knows u j := by
  obtain ⟨u, id⟩ := c
  cases u with
  | bypass =>
    have hk : σ.direct.knows id = false := h
    simp only [System.runClose, System.onDirect, closeNow, hk, Bool.false_eq_true, ↓reduceIte]
    refine ⟨trivial, fun u j ↦ ?_⟩
    cases u <;> rfl
  | endpoint s =>
    have hn : ¬ (s = σ.session ∧ (σ.mux.getUpstreamByConn id).isSome) := by
      rintro ⟨rfl, hs⟩
      simp [System.knows, hs] at h
    have he : σ.runClose e (.endpoint s, id) = σ := if_neg hn
    rw [he]
    exact ⟨rfl, fun _ _ ↦ rfl⟩
  | fake => exact ⟨rfl, fun _ _ ↦ rfl⟩
  | dnsHandler => exact ⟨rfl, fun _ _ ↦ rfl⟩

theorem runCloses_of_unknown (e : Env) {cs : List (Types.Upstream × ℕ)} {σ : System}
    (h : ∀ c ∈ cs, σ.knows c.1 c.2 = false) :
    (cs.foldl (System.runClose e) σ).tunnel = σ.tunnel := by
  induction cs generalizing σ with
  | nil => rfl
  | cons c cs ih =>
    obtain ⟨ht, hk⟩ := runClose_of_unknown e (h c mem_cons_self)
    rw [foldl_cons, ih, ht]
    intro x hx
    rw [hk]
    exact h x (mem_cons_of_mem _ hx)

theorem settle_of_unknown {rs : ℕ}
    (h : ∀ c ∈ deferredCloses (newCalls t σ.tunnel), σ.knows c.1 c.2 = false) :
    (settle env rs t σ).tunnel = σ.tunnel := by
  induction rs generalizing t σ with
  | zero => rfl
  | succ rs ih =>
    have hr := runCloses_of_unknown env h
    rw [settle, ih, hr]
    intro c hc
    rw [hr, newCalls_self] at hc
    cases hc

end Settling

section Replacement

variable {t : Tunnel} {env : Env} {u : Types.Upstream} {k s r : ℕ} {c : VpnConnection}

/-- A failed replacement asks for closes only, and the records stay. -/
theorem failMigration_calls :
    (failMigration t u c).connections = t.connections ∧
      ∃ cs, (failMigration t u c).calls = t.calls ++ cs ∧ ∀ cl ∈ cs,
        (∃ r₀ c₀, t.byClientId c.migratingClientId = some (r₀, c₀) ∧
          cl = .closeServer u c₀.serverId false true) ∨
        ∃ o, t.lockUpstream c = some o ∧ cl = .closeServer o c.serverId false true := by
  have ho : ∀ cl, (t.call cl).lockUpstream c = t.lockUpstream c := fun _ ↦ rfl
  unfold failMigration
  cases hk : t.byClientId c.migratingClientId with
  | none =>
    cases hl : t.lockUpstream c with
    | none =>
      simp only [hl]
      exact ⟨trivial, [], (append_nil _).symm, by simp⟩
    | some o =>
      simp only [hl]
      exact ⟨rfl, [_], rfl, fun cl hm ↦ .inr ⟨o, rfl, mem_singleton.1 hm⟩⟩
  | some rc =>
    obtain ⟨r₀, c₀⟩ := rc
    simp only [ho]
    cases hl : t.lockUpstream c with
    | none =>
      exact ⟨rfl, [_], rfl, fun cl hm ↦ .inl ⟨r₀, c₀, rfl, mem_singleton.1 hm⟩⟩
    | some o =>
      refine ⟨rfl, [.closeServer u c₀.serverId false true, .closeServer o c.serverId false true],
        by simp [Tunnel.call], fun cl hm ↦ ?_⟩
      rcases mem_cons.1 hm with rfl | hm
      · exact .inl ⟨r₀, c₀, rfl, rfl⟩
      · exact .inr ⟨o, rfl, mem_singleton.1 hm⟩

theorem serverError_replacement {ce : ErrorCode} (hs : t.byServerId (some s) = some (r, c))
    (ht : c.state = .waitingResponseMigrating) :
    Serving.handle t env (.serverError u (some s) ce) = failMigration t u c := by
  simp [Serving.handle, serverError, hs, ht]

theorem serverClosed_replacement (hb : Base (view t)) (hs : t.byServerId (some s) = some (r, c))
    (hi : c.serverId = some s) (ht : c.state = .waitingResponseMigrating) :
    Serving.handle t env (.serverClosed s) = destroyRecord t r c := by
  have hn : c.clientId = none := ((hb.each r c (byServerId_eq_some.1 hs).2).replacing ht).1
  have ho : t.byClientId none = none := rfl
  simp [Serving.handle, serverClosed, hs, hn, ho, destroyConnection, hi]

theorem reportDestroyed_calls (t : Tunnel) (c : VpnConnection) :
    ∃ cs, (reportDestroyed t c).calls = t.calls ++ cs ∧ deferredCloses cs = [] := by
  refine ⟨(if c.flags.monitorStats then [.unregisterConn c.clientId] else []) ++
    (if c.listener = .client then [.connectionClosed c.clientId] else []), ?_, ?_⟩
  · unfold reportDestroyed
    split <;> split <;> split <;> simp [Tunnel.call]
  · split <;> split <;> simp [deferredCloses]

theorem destroyRecord_calls (hs : c.state = .waitingResponseMigrating) :
    ∃ cs, (destroyRecord t r c).calls = t.calls ++ cs ∧ deferredCloses cs = [] := by
  have hr : ((t.removeClientId c.clientId).removeServerId c.serverId).calls = t.calls := by
    cases c.clientId <;> cases c.serverId <;> rfl
  obtain ⟨cs, he, hc⟩ :=
    reportDestroyed_calls ((t.removeClientId c.clientId).removeServerId c.serverId) c
  rw [hr] at he
  refine ⟨cs, ?_, hc⟩
  simp only [destroyRecord, hs, reduceCtorEq, ↓reduceIte]
  exact he

theorem open_iff : Open t k ↔ ∃ r c s, (view t).Client k r c ∧ c.serverId = some s ∧
    (view t).byServer s = some r := by
  constructor
  · rintro ⟨r, c, x, hk, hs⟩
    cases hi : c.serverId with
    | none =>
      rw [hi] at hs
      cases hs
    | some s =>
      rw [hi] at hs
      exact ⟨r, c, s, byClientId_eq_some.1 hk, hi, (byServerId_eq_some.1 hs).1⟩
  · rintro ⟨r, c, s, hk, hi, hs⟩
    exact ⟨r, c, c, byClientId_eq_some.2 hk, hi ▸ byServerId_eq_some.2 ⟨hs, hk.2⟩⟩

/-- The end of the replacement does not touch the connection it was made for. -/
theorem open_destroyRecord (hb : Base (view t)) (hs : t.byServerId (some s) = some (r, c))
    (hi : c.serverId = some s) (ht : c.state = .waitingResponseMigrating) :
    Open (destroyRecord t r c) k ↔ Open t k := by
  have hsv := byServerId_eq_some.1 hs
  have hn : c.clientId = none := ((hb.each r c hsv.2).replacing ht).1
  obtain ⟨cs, _, hv⟩ := view_destroyRecord (t := t) (r := r) (c := c)
  have hc : (view (destroyRecord t r c)).byClient = (view t).byClient := by
    rw [hv, hn]
    rfl
  have hr : (view (destroyRecord t r c)).byServer = eraseKey (view t).byServer (some s) := by
    rw [hv, hi]
  have hre : (view (destroyRecord t r c)).record = update (view t).record r none := by
    rw [hv]
  simp only [open_iff, View.Client, hc, hr, hre, eraseKey_eq_some]
  constructor
  · rintro ⟨r₀, c₀, s₀, ⟨hk, hg⟩, hi₀, hs₀, _⟩
    have hne : r₀ ≠ r := by
      rintro rfl
      simp at hg
    exact ⟨r₀, c₀, s₀, ⟨hk, (update_of_ne hne _ _).symm.trans hg⟩, hi₀, hs₀⟩
  · rintro ⟨r₀, c₀, s₀, hk, hi₀, hs₀⟩
    have hne : r₀ ≠ r := (hb.replacement_ne hsv.2 ht hk).symm
    refine ⟨r₀, c₀, s₀, ⟨hk.1, (update_of_ne hne _ _).trans hk.2⟩, hi₀, hs₀, fun he ↦ ?_⟩
    rw [← some.inj he, hsv.1] at hs₀
    exact hne (some.inj hs₀).symm

theorem byServerId_destroyRecord (hi : c.serverId = some s) :
    (destroyRecord t r c).byServerId (some s) = none := by
  obtain ⟨cs, _, hv⟩ := view_destroyRecord (t := t) (r := r) (c := c)
  rw [eq_none_iff_forall_ne_some]
  rintro ⟨r', c'⟩ hs
  have hr := (byServerId_eq_some.1 hs).1
  rw [hv, hi] at hr
  exact (eraseKey_eq_some.1 hr).2 rfl

end Replacement

/-- The replacement `s` waits on `u` for the client `k`, whose connection is on another upstream. -/
structure Replacing (σ : System) (u : Types.Upstream) (k s : ℕ) (c : VpnConnection) : Prop where
  found : ∃ r, σ.tunnel.byServerId (some s) = some (r, c)
  serverId : c.serverId = some s
  state : c.state = .waitingResponseMigrating
  original : c.migratingClientId = some k
  upstream : σ.tunnel.lockUpstream c = some u
  other : ∀ r₀ c₀ s₀, σ.tunnel.byClientId (some k) = some (r₀, c₀) → c₀.serverId = some s₀ →
    σ.knows u s₀ = false

theorem Failure.input_of_error {f : Failure} (h : f.isClose = false) (s id : ℕ) :
    ∃ code, f.input s id = .serverError (f.upstream s) (some id) code := by
  cases f with
  | childEnded code =>
    cases code with
    | none => cases h
    | some code => exact ⟨code, rfl⟩
  | eof => cases h
  | closed => cases h
  | _ => exact ⟨_, rfl⟩

theorem Failure.input_of_close {f : Failure} (h : f.isClose = true) (s id : ℕ) :
    f.input s id = .serverClosed id := by
  cases f with
  | childEnded c =>
    cases c with
    | none => rfl
    | some c => cases h
  | eof => rfl
  | closed => rfl
  | _ => cases h

variable {σ : System} {env : Env} {f : Failure} {rounds k s : ℕ} {c : VpnConnection}

/-- After an error the closes that it asks for find nothing to close. -/
theorem settle_error (h : Replacing σ (f.upstream σ.session) k s c) (hf : f.possible σ s = true)
    (hl : f.isClose = false) :
    (settle env rounds σ.tunnel (f.run env σ s)).tunnel =
      failMigration σ.tunnel (f.upstream σ.session) c := by
  obtain ⟨r, hs⟩ := h.found
  obtain ⟨code, hi⟩ := Failure.input_of_error hl σ.session s
  obtain ⟨-, calls, hcs, ha⟩ :=
    failMigration_calls (t := σ.tunnel) (u := f.upstream σ.session) (c := c)
  have hh : Serving.handle σ.tunnel env (f.input σ.session s) =
      failMigration σ.tunnel (f.upstream σ.session) c := by
    rw [hi, serverError_replacement hs h.state]
  have ht := (@Failure.run_tunnel env σ f s hf).trans hh
  have hn : newCalls σ.tunnel (failMigration σ.tunnel (f.upstream σ.session) c) = calls :=
    newCalls_eq hcs
  have hd : ∀ cl ∈ calls, isDeferred cl = true := by
    intro cl hm
    rcases ha cl hm with ⟨_, _, _, rfl⟩ | ⟨_, _, rfl⟩ <;> rfl
  rw [settle_of_unknown, ht]
  intro ce hm
  rw [ht, hn, deferredCloses, mem_filterMap] at hm
  obtain ⟨cl, hm, hc⟩ := hm
  have hkn : ∀ {j}, j = s ∨ σ.knows (f.upstream σ.session) j = false →
      (f.run env σ s).knows (f.upstream σ.session) j = false :=
    Failure.run_knows hf hl (by rwa [hh, hn])
  rcases ha cl hm with ⟨r₀, c₀, hk, rfl⟩ | ⟨o, ho, rfl⟩
  · cases hid : c₀.serverId with
    | none =>
      rw [hid] at hc
      cases hc
    | some s₀ =>
      rw [hid] at hc
      cases hc
      exact hkn (.inr (h.other r₀ c₀ s₀ (h.original ▸ hk) hid))
  · rw [h.serverId] at hc
    cases hc
    obtain rfl : o = f.upstream σ.session := some.inj (ho.symm.trans h.upstream)
    exact hkn (.inl rfl)

/-- After a close the replacement is destroyed, and no close is left. -/
theorem settle_close (hb : Base (view σ.tunnel)) (h : Replacing σ (f.upstream σ.session) k s c)
    (hf : f.possible σ s = true) (hl : f.isClose = true) {r : ℕ}
    (hs : σ.tunnel.byServerId (some s) = some (r, c)) :
    (settle env rounds σ.tunnel (f.run env σ s)).tunnel = destroyRecord σ.tunnel r c := by
  obtain ⟨cs, hc, hn⟩ := destroyRecord_calls (t := σ.tunnel) (r := r) h.state
  have ht : (f.run env σ s).tunnel = destroyRecord σ.tunnel r c := by
    rw [Failure.run_tunnel hf, Failure.input_of_close hl,
      serverClosed_replacement hb hs h.serverId h.state]
  rw [settle_of_unknown, ht]
  intro ce hm
  rw [ht, newCalls_eq hc, hn] at hm
  cases hm

def unrestricted : Assumptions := {}

theorem lenient_unrestricted : Lenient unrestricted := ⟨id, fun _ ↦ trivial⟩

theorem base_of_run {t₀ t : Tunnel} {ls : List (Env × Input)} (h₀ : Initial t₀)
    (h : Run step (fun _ _ ↦ True) t₀ ls t) : Base (view t) := by
  have he := h.invariant (P := fun t ↦ Good unrestricted (view t)) (initial_good h₀) ?_
  · exact he.base
  · intro t label t' hg _ hs
    have hm : Meets unrestricted t label := lenient_unrestricted.meets nofun nofun nofun nofun
      (lenient_unrestricted.mayMove fun _ _ _ ↦ trivial)
    exact (step_steps hm hs).good hg

/-- The failure of a replacement is cleaned up only if its upstream reports a close, not an error,
and the connection that it was made for is closed on a side already. -/
theorem cleaned_iff {t₀ : Tunnel} {labels : List (Env × Input)} (h₀ : Initial t₀)
    (hrun : Run step (fun _ _ ↦ True) t₀ labels σ.tunnel)
    (h : Replacing σ (f.upstream σ.session) k s c) (hf : f.possible σ s = true) :
    Cleaned (settle env rounds σ.tunnel (f.run env σ s)).tunnel k s ↔
      f.isClose = true ∧ ¬ Open σ.tunnel k := by
  obtain ⟨r, hs⟩ := h.found
  have hb := base_of_run h₀ hrun
  cases hclose : f.isClose with
  | false =>
    rw [settle_error h hf hclose]
    refine iff_of_false (fun hc ↦ ?_) (by simp)
    -- the replacement is where it was
    have hn := (failMigration_calls (t := σ.tunnel) (u := f.upstream σ.session) (c := c)).1
    have hg := hc.1
    rw [Tunnel.byServerId, hn] at hg
    rw [Tunnel.byServerId, hg] at hs
    cases hs
  | true =>
    rw [settle_close hb h hf hclose hs, Cleaned, open_destroyRecord hb hs h.serverId h.state]
    simp [byServerId_destroyRecord h.serverId]

def bothSides (t : Tunnel) : System where
  tunnel := t
  direct := ({} : DirectUpstream).openTcpConnection 1
  mux :=
    { connections := AList.insert 0 0 ∅
      upstreamsPool := AList.insert 0 .sessionOpened ∅ }
  session := 0

/-- The client has closed the original before its replacement ends. -/
theorem cleaned_after_client_closed :
    ∃ labels σ c, Run step (fun _ _ ↦ True) {} labels σ.tunnel ∧
      Replacing σ .bypass 1 1 c ∧ Failure.eof.possible σ 1 = true ∧
      Cleaned (settle {} 2 σ.tunnel (Failure.eof.run {} σ 1)).tunnel 1 1 := by
  obtain ⟨t, hr, hp⟩ := exists_run_of_execWhile step (fun _ _ ↦ True) {}
    (connectedRun ++ [(excludedHello, .clientRead 1 [22]), ({}, .clientClosed 1)])
    (fun t ↦ t.byClientId (some 1) == none && (t.byServerId (some 1)).any fun p ↦
      p.2.serverId == some 1 && p.2.state == .waitingResponseMigrating &&
        p.2.migratingClientId == some 1 && t.lockUpstream p.2 == some .bypass) (by decide)
  rw [Bool.and_eq_true, beq_iff_eq] at hp
  obtain ⟨hg, hp⟩ := hp
  obtain ⟨⟨r, c⟩, hs, hp⟩ := (any_eq_true _ _).1 hp
  simp only [Bool.and_eq_true, beq_iff_eq] at hp
  have he : Replacing (bothSides t) .bypass 1 1 c := by
    refine ⟨⟨r, hs⟩, hp.1.1.1, hp.1.1.2, hp.1.2, hp.2, fun r₀ c₀ s₀ hk ↦ ?_⟩
    have hk : t.byClientId (some 1) = some (r₀, c₀) := hk
    rw [hg] at hk
    cases hk
  refine ⟨_, bothSides t, c, hr, he, rfl, (cleaned_iff (f := .eof) ⟨rfl, rfl⟩ hr he rfl).2
    ⟨rfl, ?_⟩⟩
  rintro ⟨r₀, c₀, x, hk, -⟩
  have hk : t.byClientId (some 1) = some (r₀, c₀) := hk
  rw [hg] at hk
  cases hk

/-- The bypass refuses the replacement. The original still waits for it, with its reads off, and
both records stay. -/
theorem refused_replacement_stays :
    ∃ labels σ c, Run step (fun _ _ ↦ True) {} labels σ.tunnel ∧
      Replacing σ .bypass 1 1 c ∧ (Failure.tcpError .connRefused).possible σ 1 = true ∧
      ¬ Cleaned (settle {} 2 σ.tunnel ((Failure.tcpError .connRefused).run {} σ 1)).tunnel 1 1 := by
  obtain ⟨t, hr, hp⟩ := exists_run_of_execWhile step (fun _ _ ↦ True) {}
    (connectedRun ++ [(excludedHello, .clientRead 1 [22])])
    (fun t ↦ ((t.byServerId (some 1)).any fun p ↦
        p.2.serverId == some 1 && p.2.state == .waitingResponseMigrating &&
          p.2.migratingClientId == some 1 && t.lockUpstream p.2 == some .bypass) &&
      ((t.byClientId (some 1)).any fun p ↦ p.2.serverId == some 0) &&
      ((settle {} 2 t ((Failure.tcpError .connRefused).run {} (bothSides t) 1)).tunnel.byServerId
        (some 1)).isSome) (by decide)
  rw [Bool.and_eq_true, Bool.and_eq_true] at hp
  obtain ⟨⟨he, ho⟩, ht⟩ := hp
  obtain ⟨⟨r, c⟩, hs, hp⟩ := (any_eq_true _ _).1 he
  obtain ⟨⟨r₀, c₀⟩, hk₀, hid₀⟩ := (any_eq_true _ _).1 ho
  simp only [Bool.and_eq_true, beq_iff_eq] at hp
  refine ⟨_, bothSides t, c, hr, ⟨⟨r, hs⟩, hp.1.1.1, hp.1.1.2, hp.1.2, hp.2, ?_⟩, rfl, ?_⟩
  · intro r' c' s' hk hi
    have hk : t.byClientId (some 1) = some (r', c') := hk
    rw [hk₀] at hk
    cases hk
    rw [eq_of_beq hid₀] at hi
    cases hi
    rfl
  · rintro ⟨hg, -⟩
    have hg : (settle {} 2 t ((Failure.tcpError .connRefused).run {} (bothSides t)
      1)).tunnel.byServerId (some 1) = none := hg
    rw [hg] at ht
    cases ht

end TrustTunnel.Traffic.Cleanup

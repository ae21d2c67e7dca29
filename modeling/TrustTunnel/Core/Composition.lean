import TrustTunnel.Session.KillSwitch
import TrustTunnel.Traffic.Serving

namespace TrustTunnel.Core.Composition

open Session.Manager Session.Step Session.KillSwitch
open Traffic.Types (Tunnel)
open Traffic.Close Traffic.Routing Traffic.Serving

structure System where
  vpn : Vpn
  tunnel : Tunnel

/-- What happens to the session manager, with the answers to what it makes the tunnel do, or to the
tunnel. -/
inductive Label
  | session (env : Session.Manager.Env) (answers : List Traffic.Types.Env)
      (input : Session.Step.Input)
  | tunnel (env : Traffic.Types.Env) (input : Traffic.Serving.Input)

/-- What a call of the session manager does to the tunnel. A rejected request goes past it. -/
def applyCall (t : Tunnel) (env : Traffic.Types.Env) : Call → Tunnel
  | .completeConnectRequest _ id action => completeConnectRequest t env id action
  | .rejectConnectRequest _ id =>
    closedNow (t.call (.completeConnectRequest .client (some id) .reject)) env (some id)
  | .resetConnection id => resetConnection t env id
  | _ => t

def applyCalls (t : Tunnel) (answers : List Traffic.Types.Env) : List Call → Tunnel
  | [] => t
  | call :: calls => applyCalls (applyCall t (answers.headD {}) call) answers.tail calls

/-- The first half of `vpn_complete_connect_request_task`, and what it gives to the transition. -/
def consult (s : System) (env : Session.Manager.Env) (answer : Traffic.Types.Env)
    (input : Session.Step.Input) : Tunnel × Session.Manager.Env :=
  match nextRequest s.vpn input with
  | none => (s.tunnel, env)
  | some request =>
    let (tunnel, action) := finalizeConnectAction s.tunnel answer request
    (tunnel,
      { env with
        finalizedAction := action
        completesImmediately := shouldCompleteImmediately tunnel answer request.id })

def step (s : System) : Label → Option System
  | .session env answers input =>
    let (tunnel, env) := consult s env (answers.headD {}) input
    (Session.Step.step s.vpn (env, input)).map fun vpn ↦
      ⟨vpn, applyCalls tunnel answers.tail (vpn.calls.drop s.vpn.calls.length)⟩
  | .tunnel env input =>
    if bySession input then none
    else (Traffic.Serving.step s.tunnel (env, input)).map fun tunnel ↦ { s with tunnel }

def Label.general : Label → Bool
  | .session _ answers _ => answers.all fun answer ↦ answer.mode == .general
  | .tunnel env _ => env.mode == .general

end TrustTunnel.Core.Composition

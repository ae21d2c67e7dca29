import TrustTunnel.Traffic.Cleanup

namespace TrustTunnel.Traffic.Delivery

open Lib.Transition Traffic.Types Routing Reading Serving Moves Option
open Refine.Basic Refine.Routing Refine.Reading Refine.Serving Cleanup

/-- What the sends of `send_buffered_data` come to, if it gets to them. -/
def flushOutcome (t : Tunnel) (env : Env) (c : VpnConnection) : Option SendOutcome :=
  if (t.lockUpstream c).isSome && (t.lockListener c).isSome then
    some (sendPackets c.serverId env.sends c.bufferedPackets).outcome
  else none

def passesLookup (t : Tunnel) (env : Env) (r : ℕ) (c : VpnConnection) : Bool :=
  !c.flags.lookingupDomain ||
    match (passThroughDomainLookup t env r c .outgoing).2 with
    | .done | .pass => true
    | .wantMore => !decide (c.lookupAttemptsNum < maxLookupAttempts)
    | .drop | .shutdown | .block => false

def flushesFirst (t : Tunnel) (env : Env) (r : ℕ) (c : VpnConnection) : Bool :=
  passesLookup t env r c && !c.flags.fakeConnection && c.state == .connected &&
    !c.bufferedPackets.isEmpty

/-- The client whose buffered data is sent in a step, with the outcome. -/
def flush (t : Tunnel) : Env × Input → Option (ℕ × SendOutcome)
  | (env, .clientRead id _) => (t.byClientId (some id)).bind fun (r, c) ↦
    if flushesFirst t env r c then (flushOutcome t env c).map (id, ·) else none
  | (env, .sendTask (some id)) => (t.byClientId (some id)).bind fun (_, c) ↦
    (flushOutcome t env c).map (id, ·)
  | _ => none

/-- The client that the upstream reports to have sent data for. -/
def dataSent (t : Tunnel) : Input → Option ℕ
  | .serverDataSent upstream id => (t.byServerId (some id)).bind fun (r, c) ↦
    if t.lockUpstream c = some upstream ∧ (t.lockListener c).isSome then
      c.clientId.filter fun k ↦ (t.byClientId (some k)).any (·.1 == r)
    else none
  | _ => none

/-- The clients that are told of an error in a step, by the result of a read or by a close. -/
def told (t : Tunnel) (label : Env × Input) : List ℕ :=
  (match label.2 with
    | .clientRead id packet => if (clientRead t label.1 id packet).2.isNone then [id] else []
    | _ => []) ++
  ((handle t label.1 label.2).calls.drop t.calls.length).filterMap fun call ↦
    match call with
    | .closeClient _ id _ _ => id
    | _ => none

variable {t t' t₀ : Tunnel} {env : Env} {r k : ℕ} {c : VpnConnection} {um : Upstream}
  {p : Packet} {labels : List (Env × Input)}

structure Flushed (o : SendOutcome) (t : Tunnel) (env : Env) (k r : ℕ) (c : VpnConnection) :
    Prop where
  client : (view t).Client k r c
  clientId : c.clientId = some k
  state : c.state = .connected
  fake : c.flags.fakeConnection = false
  buffered : c.bufferedPackets ≠ []
  outcome : flushOutcome t env c = some o

variable {o : SendOutcome}

theorem Flushed.harmless (h : Flushed o t env k r c) (ht : Harmless t t') :
    ∃ c', Flushed o t' env k r c' := by
  obtain ⟨c', hc', he⟩ := ht.exists_client h.client
  have hc := copy_of_essentials he
  have hb : c'.bufferedPackets = c.bufferedPackets := congrArg (·.2.2.1) he
  refine ⟨c', hc', hc.clientId.trans h.clientId, hc.state.trans h.state,
    (congrArg (·.2.1.1) he).trans h.fake, by rw [hb]; exact h.buffered, ?_⟩
  have hu : t'.lockUpstream c' = t.lockUpstream c := by
    rw [ht.upstream]
    simp only [Tunnel.lockUpstream, hc.upstream]
  have hl : t'.lockListener c' = t.lockListener c := by
    rw [ht.listener]
    simp only [Tunnel.lockListener, hc.listener]
  rw [flushOutcome, hu, hl, hc.serverId, hb]
  exact h.outcome

end TrustTunnel.Traffic.Delivery

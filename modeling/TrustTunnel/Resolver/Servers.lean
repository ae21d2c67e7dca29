import TrustTunnel.Resolver.Timers

namespace TrustTunnel.Resolver.Servers

open Lib.Transition Net.Address Queries Timers

/-- The resolver of a tunnel, and the servers that the DNS manager holds. -/
structure Tunnel where
  dnsResolver : VpnDnsResolver
  systemServers : SystemDnsServers

inductive Event
  | resolver (input : Input)
  | setSystemServers (servers : SystemDnsServers)
  | beforeEndpointDisconnect (isEndpoint : Bool)
  | afterEndpointDisconnect (isEndpoint : Bool)

namespace Tunnel

def setSystemServers (w : Tunnel) (servers : SystemDnsServers) : Tunnel where
  dnsResolver :=
    if w.dnsResolver.dnsChangeSubscription then w.dnsResolver.onDnsUpdated servers
        else w.dnsResolver
  systemServers := servers

def onBeforeEndpointDisconnect (w : Tunnel) (isEndpoint : Bool) : Tunnel :=
  if isEndpoint then { w with dnsResolver := w.dnsResolver.stopResolving } else w

def onAfterEndpointDisconnect (w : Tunnel) (isEndpoint : Bool) : Tunnel :=
  if isEndpoint then { w with dnsResolver := w.dnsResolver.deinit } else w

end Tunnel

def ofResolver : Input → Bool
  | .dnsUpdated _ => false
  | .stopResolving => false
  | _ => true

def step (w : Tunnel) : Event → Option Tunnel
  | .resolver input =>
    if ofResolver input then
      (Queries.step w.dnsResolver input).map fun resolver ↦ { w with dnsResolver := resolver }
    else none
  | .setSystemServers servers => some (w.setSystemServers servers)
  | .beforeEndpointDisconnect isEndpoint => some (w.onBeforeEndpointDisconnect isEndpoint)
  | .afterEndpointDisconnect isEndpoint => some (w.onAfterEndpointDisconnect isEndpoint)

def initial (servers : SystemDnsServers) : Tunnel := ⟨start servers, servers⟩

def chosen (servers : SystemDnsServers) : SocketAddress := (start servers).resolverAddress

def Current (w : Tunnel) : Prop := w.dnsResolver.resolverAddress = chosen w.systemServers

/-- The servers change while the resolver is subscribed to their changes. -/
def notified (w : Tunnel) : Event → Bool
  | .setSystemServers _ => w.dnsResolver.dnsChangeSubscription
  | _ => true

variable {w w' : Tunnel} {event : Event}

theorem opens_step (h : step w event = some w') (hs : ∀ ss, event ≠ .setSystemServers ss) :
    w'.systemServers = w.systemServers ∧ Opens w.dnsResolver w'.dnsResolver := by
  have hl : Opens w.dnsResolver w.dnsResolver := (@Acts.refl 0 _).toOpens
  cases event with
  | resolver i =>
    simp only [step] at h
    split at h
    · rename_i ho
      obtain ⟨resolver, hr, rfl⟩ := Option.map_eq_some_iff.1 h
      rw [Queries.step, Option.ite_none_right_eq_some, Option.some.injEq] at hr
      obtain ⟨-, rfl⟩ := hr
      refine ⟨rfl, opens_handle _ i fun ss he ↦ ?_⟩
      rw [he] at ho
      cases ho
    · cases h
  | setSystemServers ss => exact absurd rfl (hs ss)
  | beforeEndpointDisconnect ie =>
    cases h
    cases ie with
    | false => exact ⟨rfl, hl⟩
    | true => exact ⟨rfl, (@acts_stopResolving w.dnsResolver 0).toOpens⟩
  | afterEndpointDisconnect ie =>
    cases h
    cases ie with
    | false => exact ⟨rfl, hl⟩
    | true => exact ⟨rfl, (@acts_deinit w.dnsResolver 0).toOpens⟩

/-- The step lemma: the resolver uses the servers that it was told of last. -/
theorem Current.step (h : Current w) (hk : notified w event = true)
    (hp : step w event = some w') : Current w' := by
  by_cases hsvs : ∃ ss, event = .setSystemServers ss
  · obtain ⟨ss, rfl⟩ := hsvs
    cases hp
    have hd : w.dnsResolver.dnsChangeSubscription = true := hk
    simp only [Current, Tunnel.setSystemServers, hd, if_true]
    rfl
  · obtain ⟨hs, ho⟩ := opens_step hp fun ss he ↦ hsvs ⟨ss, he⟩
    rw [Current, ho.resolverAddress, hs]
    exact h

/-- Every connection that a step requests goes to the address chosen from the latest servers. -/
theorem connections_follow_servers {servers : SystemDnsServers} {ls : List Event}
    (h : Run step (fun w event ↦ notified w event = true) (initial servers) ls w)
    (hstep : step w event = some w') :
    ∃ l, w'.dnsResolver.trace = w.dnsResolver.trace ++ l ∧
      ∀ connection src dst, .connectRequest connection src dst ∈ l →
        dst = chosen w.systemServers := by
  have hc : Current w := h.invariant rfl fun _ _ _ hs hk hstep ↦ hs.step hk hstep
  by_cases hservers : ∃ servers, event = .setSystemServers servers
  · obtain ⟨servers, rfl⟩ := hservers
    cases hstep
    refine ⟨[], ?_, fun _ _ _ hm ↦ (by cases hm)⟩
    simp only [Tunnel.setSystemServers, List.append_nil]
    split <;> rfl
  · obtain ⟨-, ho⟩ := opens_step hstep fun servers he ↦ hservers ⟨servers, he⟩
    obtain ⟨l, hl, hd, -⟩ := ho.trace
    exact ⟨l, hl, fun _ _ dst hm ↦ (hd _ hm dst rfl).trans hc⟩

def server (host : ℕ) : SystemDnsServers := ⟨[⟨.inet, host, 53⟩], []⟩

def asked : Event := .resolver (.resolve .background "example.org" {.a} true)

def connecting : Event :=
  .resolver (.deferredResolve ⟨0, 7, fun | .background => [0] | .foreground => [], []⟩)

/-- The servers change before the connection is opened. -/
theorem connections_follow_servers_of_change :
    ∃ w w', Run step (fun w event ↦ notified w event = true) (initial (server 1))
        [.setSystemServers (server 2), asked] w ∧ step w connecting = some w' ∧
      ∃ l, w'.dnsResolver.trace = w.dnsResolver.trace ++ l ∧
        ∀ connection src dst, .connectRequest connection src dst ∈ l →
          dst = chosen w.systemServers :=
  exists_run_some_imp (P := fun _ _ ↦ True) (by decide)
    fun _ _ h hstep _ ↦ connections_follow_servers h hstep

/-- The endpoint is disconnected, the servers change, and the next connection of the resolver goes
to the old one. -/
theorem stale_server_after_disconnect :
    ∃ w, Run step anyStep (initial (server 1))
        [.beforeEndpointDisconnect true, .setSystemServers (server 2), asked, connecting] w ∧
      chosen w.systemServers = ⟨.inet, 2, 53⟩ ∧
      .connectRequest 7 { customSrcIp with port := 1 } ⟨.inet, 1, 53⟩ ∈ w.dnsResolver.trace :=
  exists_run (by decide)

end TrustTunnel.Resolver.Servers

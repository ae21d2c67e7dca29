import TrustTunnel.Lib.Transition
import TrustTunnel.Traffic.Serving

namespace TrustTunnel.Traffic.Resolved

open Lib.Transition Net.Address Session.Types Traffic.Types Close Routing Serving List

variable {t : Tunnel} {env : Env} {c : VpnConnection}

def available (t : Tunnel) (env : Env) (action : VpnConnectAction) (family : AddressFamily) :
    Bool :=
  (selectUpstream t env action none).any fun upstream ↦ env.ipVersionAvailability upstream family

/-- The upstream to which the connection is routed with an address supports its family. -/
def reachable (t : Tunnel) (env : Env) (c : VpnConnection) (address : SocketAddress) : Bool :=
  available t env (resolvedAction env c address) address.family

/-- The address that is selected is reachable, and if there is none, no address is reachable. -/
def SelectsReachable (t : Tunnel) (env : Env) (c : VpnConnection)
    (addresses : List SocketAddress) : Prop :=
  (∀ address, selectResolvedDestinationAddress t env c addresses = some address →
    reachable t env c address = true) ∧
  (selectResolvedDestinationAddress t env c addresses = none → ∀ address ∈ addresses,
    reachable t env c { address with port := c.addr.dstport } = false)

def forcedAction (c : VpnConnection) : Option VpnConnectAction :=
  if c.flags.forciblyBypassed then some .forceBypass
  else if c.flags.forciblyRedirected then some .forceRedirect
  else none

/-- The first address that the default upstream has the family of is one for the upstream of the
forced action too, and if there is no such address, the forced upstream has no family of the
list. -/
def ForcedLikeDefault (t : Tunnel) (env : Env) (c : VpnConnection)
    (addresses : List SocketAddress) : Prop :=
  ∀ action, forcedAction c = some action →
    (∀ a, addresses.find? (fun a ↦ available t env .default a.family) = some a →
      available t env action a.family = true) ∧
    ((∀ a ∈ addresses, available t env .default a.family = false) →
      ∀ a ∈ addresses, available t env action a.family = false)

theorem suitableAddress_of_not_forced (h : forcedAction c = none) (a : SocketAddress) :
    suitableAddress t env c a = reachable t env c a := by
  simp only [forcedAction] at h
  split_ifs at h with hb hr
  simp [suitableAddress, reachable, available, resolvedAction, hb, hr]

theorem suitableAddress_of_forced {action : VpnConnectAction} (h : forcedAction c = some action)
    (a : SocketAddress) : suitableAddress t env c a = available t env .default a.family := by
  simp only [forcedAction] at h
  split_ifs at h with hb hr
  · simp [suitableAddress, available, hb]
  · simp [suitableAddress, available, hr]

theorem reachable_of_forced {action : VpnConnectAction} (h : forcedAction c = some action)
    (a : SocketAddress) : reachable t env c a = available t env action a.family := by
  simp only [forcedAction] at h
  split_ifs at h with hb hr
  · obtain rfl := Option.some.inj h
    simp [reachable, resolvedAction, hb]
  · obtain rfl := Option.some.inj h
    simp [reachable, resolvedAction, hb, hr]

theorem selectsReachable_of_not_forced (h : forcedAction c = none)
    (addresses : List SocketAddress) : SelectsReachable t env c addresses := by
  refine ⟨fun a ha ↦ ?_, fun hn a ha ↦ ?_⟩
  · rw [← suitableAddress_of_not_forced h]
    exact find?_some ha
  · rw [← suitableAddress_of_not_forced h]
    simpa using find?_eq_none.1 hn _ (mem_map_of_mem ha)

/-- With a forced action, the address chosen for the default one has to be available for it. -/
theorem selectsReachable_of_forced {action : VpnConnectAction} (h : forcedAction c = some action)
    (addresses : List SocketAddress) :
    SelectsReachable t env c addresses ↔
      (∀ a, addresses.find? (fun a ↦ available t env .default a.family) = some a →
        available t env action a.family = true) ∧
      ((∀ a ∈ addresses, available t env .default a.family = false) →
        ∀ a ∈ addresses, available t env action a.family = false) := by
  have hs : suitableAddress t env c = fun a ↦ available t env .default a.family :=
    funext (suitableAddress_of_forced h)
  simp only [SelectsReachable, selectResolvedDestinationAddress, hs, reachable_of_forced h,
    find?_map, Option.map_eq_some_iff, Option.map_eq_none_iff, find?_eq_none, Bool.not_eq_true,
    Function.comp_def]
  refine and_congr_left' ⟨fun hy a ha ↦ ?_, ?_⟩
  · exact hy { a with port := c.addr.dstport } ⟨a, ha, rfl⟩
  · rintro hy _ ⟨a, ha, rfl⟩
    exact hy a ha

/-- The connection goes to the selected address, or is closed. The selection from a list is right
exactly if the list is one for which the forced upstream of the connection is like the default. -/
theorem resolved_address_reachable_iff {resolveId id r : ℕ}
    (hwaiter : t.dnsResolveWaiters.lookup resolveId = some id)
    (hconn : t.byClientId (some id) = some (r, c)) (hstate : c.state = .waitingResolve)
    (addresses : List SocketAddress) :
    (onDestinationResolveResult t env resolveId (some addresses) =
      let t := { t with dnsResolveWaiters := t.dnsResolveWaiters.erase resolveId }.call
        (.cancelResolve resolveId)
      (selectResolvedDestinationAddress t env c addresses).elim
        (closeClientSideConnection t env r c .none false) (connectResolved t env r c)) ∧
    (SelectsReachable t env c addresses ↔ ForcedLikeDefault t env c addresses) := by
  constructor
  · have hd : { t with dnsResolveWaiters := t.dnsResolveWaiters.erase resolveId }.byClientId
        (some id) = some (r, c) := hconn
    simp only [onDestinationResolveResult, hwaiter, hd, hstate, ne_eq, not_true_eq_false, if_false]
    cases selectResolvedDestinationAddress _ env c addresses <;> rfl
  · cases hf : forcedAction c with
    | none =>
      refine iff_of_true (selectsReachable_of_not_forced hf addresses) fun action ha ↦ ?_
      rw [hf] at ha
      cases ha
    | some action =>
      rw [selectsReachable_of_forced hf]
      refine ⟨fun h b hb ↦ ?_, fun h ↦ h action hf⟩
      obtain rfl := Option.some.inj (hf.symm.trans hb)
      exact h

def host : SocketAddress := ⟨.inet6, 20, 443⟩

def bypassedRun : List (Env × Input) :=
  [({}, .endpointReplaced (some 0)), ({}, .sessionOpened (.endpoint 0)),
    ({}, .dnsProxyReplaced (some 0)), ({}, .connectRequest .client
      { id := 1, protocol := .tcp, addr := ⟨⟨.inet, 10, 5000⟩, .namePort ⟨"example.org", 443⟩⟩ }),
    ({ resolveId := some 7 }, .completeConnectRequest 1 (some .forceBypass))]

def waits (t : Tunnel) : Bool :=
  t.dnsResolveWaiters.lookup 7 == some 1 && t.endpointUpstream == some 0 &&
    (t.byClientId (some 1)).any fun p ↦
      p.2.state == .waitingResolve && p.2.flags.forciblyBypassed

def ipv4Bypass : Env where
  ipVersionAvailability upstream family := upstream != .bypass || family == .inet

theorem bypassed_address_reachable :
    ∃ t r c, Run step (fun _ _ ↦ True) {} bypassedRun t ∧ t.byClientId (some 1) = some (r, c) ∧
      SelectsReachable t ipv4Bypass c [{ host with family := .inet }] := by
  obtain ⟨t, hr, hp⟩ := exists_run_of_execWhile step (fun _ _ ↦ True) {} bypassedRun waits
    (by decide)
  simp only [waits, Bool.and_eq_true, beq_iff_eq] at hp
  obtain ⟨⟨hw, he⟩, hp⟩ := hp
  obtain ⟨⟨r, c⟩, hc, hs⟩ := (Option.any_eq_true _ _).1 hp
  rw [Bool.and_eq_true] at hs
  refine ⟨t, r, c, hr, hc, (resolved_address_reachable_iff hw hc (eq_of_beq hs.1) _).2.2 ?_⟩
  -- the bypass has the family, and so has the endpoint
  intro action ha
  rw [forcedAction, if_pos hs.2] at ha
  obtain rfl := Option.some.inj ha
  refine ⟨fun a hm ↦ ?_, fun hn ↦ ?_⟩
  · obtain rfl := mem_singleton.1 (mem_of_find?_eq_some hm)
    rfl
  · have hd := hn _ (mem_singleton_self _)
    simp [available, selectUpstream, forcedUpstream, vpnModeToAction, Tunnel.endpoint, he,
      ipv4Bypass] at hd

/-- The connection is opened on the bypass to an address that the bypass does not reach. -/
theorem bypassed_address_unreachable :
    ∃ t, Run step (fun _ _ ↦ True) {} bypassedRun t ∧
      (∃ r c, t.byClientId (some 1) = some (r, c) ∧ c.state = .waitingResolve) ∧
      .openConnection .bypass (some 1) ⟨⟨.inet, 10, 5000⟩, .socketAddress host⟩ (some 0) ∈
        (onDestinationResolveResult t ipv4Bypass 7 (some [host])).calls ∧
      ipv4Bypass.ipVersionAvailability .bypass host.family = false := by
  obtain ⟨t, hr, hp⟩ := exists_run_of_execWhile step (fun _ _ ↦ True) {} bypassedRun
    (fun t ↦ waits t && (onDestinationResolveResult t ipv4Bypass 7 (some [host])).calls.contains
      (.openConnection .bypass (some 1) ⟨⟨.inet, 10, 5000⟩, .socketAddress host⟩ (some 0)))
    (by decide)
  rw [Bool.and_eq_true, contains_iff_mem] at hp
  obtain ⟨hw, ho⟩ := hp
  simp only [waits, Bool.and_eq_true] at hw
  obtain ⟨⟨r, c⟩, hc, hs⟩ := (Option.any_eq_true _ _).1 hw.2
  rw [Bool.and_eq_true] at hs
  exact ⟨t, hr, ⟨r, c, hc, eq_of_beq hs.1⟩, ho, rfl⟩

end TrustTunnel.Traffic.Resolved

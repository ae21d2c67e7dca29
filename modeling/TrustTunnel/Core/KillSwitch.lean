import TrustTunnel.Core.Composition
import TrustTunnel.Traffic.Bypass

namespace TrustTunnel.Core.KillSwitch

open Lib.Transition Session.Types Session.Manager Session.Frame List
open Session.KillSwitch Traffic.Close Traffic.Routing Traffic.Moves Traffic.Refine.Basic
open Traffic.Refine.Close Traffic.Refine.Routing Traffic.Refine.Serving Traffic.Bypass
open Core.Composition
open Session.Step (Started)
open Traffic.Types (Tunnel)

variable {t : Tunnel} {s s' : System}

theorem watched_applyCall {e : Traffic.Types.Env} {c : Session.Manager.Call} (h : Watched t)
    (he : e.mode = .general) (hx : ∀ id, bypasses c = some id → Excused t.calls id) :
    Watched (applyCall t e c) ∧ t.calls ⊆ (applyCall t e c).calls := by
  have hs : Steps generalOnly t (applyCall t e c) := by
    cases c with
    | completeConnectRequest s id a =>
      refine steps_completeConnectRequest nofun (fun _ ↦ he) (fun _ ha ↦ .inl ?_) nofun
        fun _ ↦ trivial
      exact hx id (by rw [ha]; rfl)
    | rejectConnectRequest s id => exact .trans (steps_call rfl) (steps_closedNow _)
    | resetConnection id => exact steps_closeEach (fun _ ↦ rfl) _
    | _ => exact .refl
  exact ⟨h.steps hs, subset_of_moves (hs h.good)⟩

theorem headD_general {a : List Traffic.Types.Env}
    (h : ∀ ar ∈ a, ar.mode = .general) : (a.headD {}).mode = .general := by
  cases a with
  | nil => rfl
  | cons ar a => exact h ar mem_cons_self

theorem watched_applyCalls {a : List Traffic.Types.Env} {cs : List Session.Manager.Call}
    (h : Watched t) (he : ∀ ar ∈ a, ar.mode = .general)
    (hx : ∀ cl ∈ cs, ∀ id, bypasses cl = some id → Excused t.calls id) :
    Watched (applyCalls t a cs) := by
  induction cs generalizing t a with
  | nil => exact h
  | cons cl cs ih =>
    obtain ⟨hw, hs⟩ := watched_applyCall h (headD_general he) (hx cl mem_cons_self)
    apply ih hw
    · intro ar hm
      exact he ar (mem_of_mem_tail hm)
    · intro c hc id hi
      exact (hx c (mem_cons_of_mem _ hc) id hi).mono hs

structure Secure (s : System) : Prop where
  watched : Watched s.tunnel
  killSwitchOn : s.vpn.client.killSwitchOn = true
  undecided : Undecided s.vpn

theorem consult_spec {e : Session.Manager.Env} {a : Traffic.Types.Env}
    {i : Session.Step.Input} (h : Watched s.tunnel) :
    Watched (consult s e a i).1 ∧
      ∀ r, nextRequest s.vpn i = some r →
        (consult s e a i).2.finalizedAction = some .forceBypass →
        Excused (consult s e a i).1.calls r.id := by
  simp only [consult]
  split
  · rename_i he
    refine ⟨h, fun r hs ↦ ?_⟩
    rw [he] at hs
    cases hs
  · rename_i r ht
    refine ⟨h.steps steps_finalizeConnectAction, fun request' hn ha ↦ ?_⟩
    obtain rfl : r = request' := Option.some.inj (ht.symm.trans hn)
    exact excused_finalizeConnectAction h.good.base ha

/-- The step lemma of the composed system. -/
theorem step_secure {l : Label} (h : Secure s) (he : l.general = true)
    (hs : step s l = some s') : Secure s' := by
  cases l with
  | session e an i =>
    have hl : ∀ a ∈ an, a.mode = .general := by
      simpa [Label.general] using he
    obtain ⟨hw, hx⟩ := @consult_spec s e (an.headD {}) i h.watched
    simp only [step] at hs
    obtain ⟨vpn, hv, rfl⟩ := Option.map_eq_some_iff.1 hs
    obtain ⟨hu, cs, hc, ho⟩ := step_obeys h.killSwitchOn h.undecided hv
    refine ⟨?_, (step_killSwitchOn hv).trans h.killSwitchOn, hu⟩
    rw [hc, drop_left]
    apply watched_applyCalls hw
    · intro a hm
      exact hl a (mem_of_mem_tail hm)
    · intro c hm id hi
      obtain ⟨r, hn, rfl, ha⟩ := ho c hm id hi
      exact hx r hn ha
  | tunnel e i =>
    simp only [step] at hs
    split at hs
    · cases hs
    · rename_i hh
      obtain ⟨tunnel, ht, rfl⟩ := Option.map_eq_some_iff.1 hs
      exact ⟨watched_step h.watched (by simpa [Label.general] using he) (by simpa using hh) ht,
        h.killSwitchOn, h.undecided⟩

/-- A reason of its own for the connection of the client `k` to go past the tunnel. -/
def isOwnReason (k : ℕ) : Traffic.Types.Call → Bool
  | .finalized id own status => id == k && (own == some .forceBypass || status == some .exclusion)
  | .requested _ id addr =>
    id == k &&
      (Traffic.Types.TunnelAddressPair.socketAddress? addr).any Net.Address.SocketAddress.isLoopback
  | .resolvedMatch id _ status => id == some k && status == .exclusion
  | .lookedUp id source _ status => id == some k && source == .outgoing && status == .exclusion
  | _ => false

/-- A bypass that is excused has a reason of its own or that of an earlier connection. -/
theorem own_or_remembered {calls : List Traffic.Types.Call} {k : ℕ} (h : Excused calls k) :
    (∃ c ∈ calls, isOwnReason k c = true) ∨
      ∃ n, .lookedUp (some k) .cache n .exclusion ∈ calls := by
  cases h with
  | demanded ss hm => exact .inl ⟨_, hm, by simp [isOwnReason]⟩
  | loopback hm hd hl => exact .inl ⟨_, hm, by simp [isOwnReason, hd, hl]⟩
  | destination own hm => exact .inl ⟨_, hm, by simp [isOwnReason]⟩
  | resolved a hm => exact .inl ⟨_, hm, by simp [isOwnReason]⟩
  | domain n hs hm =>
    rcases hs with rfl | rfl
    · exact .inl ⟨_, hm, by simp [isOwnReason]⟩
    · exact .inr ⟨n, hm⟩

/-- With the kill switch on and in the general mode, a connection of a client goes past the tunnel
only after a reason of its own, or if the domain remembered for its addresses was an exclusion. -/
theorem bypassed_only_for_reason {parameters : VpnConnectParameters} {start : Vpn} {t₀ : Tunnel}
    {labels : List Label} {s : System} (hstart : Started parameters true start) (h₀ : Initial t₀)
    (hrun : Run step (fun _ label ↦ label.general = true) ⟨start, t₀⟩ labels s) {k : ℕ}
    {addr addr' : Net.Address.TunnelAddressPair} {id : Option ℕ}
    {before after : List Traffic.Types.Call}
    (hclient : .requested .client k addr ∈ s.tunnel.calls)
    (hopen : s.tunnel.calls = before ++ .openConnection .bypass (some k) addr' id :: after) :
    (∃ call ∈ before, isOwnReason k call = true) ∨
      ∃ name, .lookedUp (some k) .cache name .exclusion ∈ before := by
  have he : Secure s := by
    refine hrun.invariant (P := Secure) ⟨watched_of_initial h₀, ?_, started_undecided hstart⟩ ?_
    · exact congrArg Control.killSwitchOn (started_control hstart)
    · intro a label b ha hm hs
      exact step_secure ha hm hs
  exact own_or_remembered (he.watched.excused hclient hopen)

def runFrom (parameters : VpnConnectParameters) (labels : List Label) : Option System :=
  match Session.Step.vpnConnect (Session.Step.vpnOpen true) parameters with
  | .error _ => none
  | .ok start => execWhile step (fun _ label ↦ label.general = true) ⟨start, {}⟩ labels

theorem exists_run_of_runFrom (ps : VpnConnectParameters) (ls : List Label)
    (p : System → Bool) (h : (runFrom ps ls).any p = true) :
    ∃ st s, Started ps true st ∧
      Run step (fun _ l ↦ l.general = true) ⟨st, {}⟩ ls s ∧ p s = true := by
  simp only [runFrom] at h
  split at h
  · simp at h
  · rename_i st hs
    obtain ⟨s, hr, hp⟩ := exists_run_of_execWhile _ _ _ _ _ h
    exact ⟨st, s, hs, hr, hp⟩

theorem split_of_head? {α : Type*} {l : List α} {n : ℕ} {a : α} (h : (l.drop n).head? = some a) :
    ∃ after, l = l.take n ++ a :: after := by
  obtain ⟨after, hd⟩ := head?_eq_some_iff.1 h
  exact ⟨after, by rw [← hd, take_append_drop]⟩

def oneEndpoint : VpnConnectParameters :=
  Session.Step.connectTo [Session.Step.endpointAt 1] ⟨.severalAttempts, 1⟩

def demandedRun : List Label :=
  [.tunnel {} (.connectRequest .client
      { id := 1, protocol := .tcp, addr := Traffic.Serving.webServer }),
   .session { now := 1 } [] (.vpnCompleteConnectRequest ⟨1, some .forceBypass, "app", 1⟩),
   .session { now := 2 } [] .runTask, .session { now := 3 } [] .runTask]

/-- The application asks for the bypass. -/
theorem bypassed_only_for_reason_of_application :
    ∃ start s before after, Started oneEndpoint true start ∧
      Run step (fun _ label ↦ label.general = true) ⟨start, {}⟩ demandedRun s ∧
      .requested .client 1 Traffic.Serving.webServer ∈ s.tunnel.calls ∧
      s.tunnel.calls = before ++
        .openConnection .bypass (some 1) Traffic.Serving.webServer (some 0) :: after ∧
      ((∃ call ∈ before, isOwnReason 1 call = true) ∨
        ∃ name, .lookedUp (some 1) .cache name .exclusion ∈ before) := by
  obtain ⟨start, s, hs, hr, hp⟩ := exists_run_of_runFrom oneEndpoint demandedRun
    (fun s ↦ s.tunnel.calls.contains (.requested .client 1 Traffic.Serving.webServer) &&
      (s.tunnel.calls.drop 4).head? ==
        some (.openConnection .bypass (some 1) Traffic.Serving.webServer (some 0))) (by decide)
  rw [Bool.and_eq_true] at hp
  have hc : .requested .client 1 Traffic.Serving.webServer ∈ s.tunnel.calls := by
    simpa using hp.1
  obtain ⟨after, ho⟩ := split_of_head? (eq_of_beq hp.2)
  exact ⟨start, s, _, after, hs, hr, hc, ho, bypassed_only_for_reason hs ⟨rfl, rfl⟩ hr hc ho⟩

def defaultRequest (id : ℕ) : List Label :=
  [.tunnel {} (.connectRequest .client
      { id, protocol := .udp, addr := Traffic.Serving.webServer }),
   .session { now := 2 } [] (.vpnCompleteConnectRequest ⟨id, some .default, "app", 1⟩),
   .session { now := 2 } [] .runTask]

/-- Two connections between the same addresses, of which the first one names an excluded domain. -/
def rememberedRun : List Label :=
  [.tunnel {} (.endpointReplaced (some 0)), .tunnel {} (.sessionOpened (.endpoint 0)),
   .session { now := 1 } [] .runTask] ++ defaultRequest 1 ++
  [.tunnel { acceptsNow := true } (.serverOpened (.endpoint 0) 0),
   .tunnel { Traffic.Serving.excludedHello with quicHeader := .initial true } (.clientRead 1 [192]),
   .tunnel {} (.clientClosed 1), .tunnel {} (.serverClosed 0)] ++ defaultRequest 2 ++
  [.tunnel { acceptsNow := true } (.serverOpened (.endpoint 0) 2),
   .tunnel { matchDomain := fun _ ↦ .exclusion, quicHeader := .other } (.clientRead 2 [64])]

/-- The reason of an earlier connection to the same domain. -/
theorem bypassed_for_remembered_domain :
    ∃ start s before after, Started oneEndpoint true start ∧
      Run step (fun _ label ↦ label.general = true) ⟨start, {}⟩ rememberedRun s ∧
      .requested .client 2 Traffic.Serving.webServer ∈ s.tunnel.calls ∧
      s.tunnel.calls = before ++
        .openConnection .bypass (some 2) Traffic.Serving.webServer (some 3) :: after ∧
      ∀ call ∈ before, isOwnReason 2 call = false := by
  obtain ⟨start, s, hs, hr, hp⟩ := exists_run_of_runFrom oneEndpoint rememberedRun
    (fun s ↦ s.tunnel.calls.contains (.requested .client 2 Traffic.Serving.webServer) &&
      ((s.tunnel.calls.drop 25).head? ==
        some (.openConnection .bypass (some 2) Traffic.Serving.webServer (some 3)) &&
      (s.tunnel.calls.take 25).all fun call ↦ !isOwnReason 2 call)) (by decide)
  simp only [Bool.and_eq_true, contains_iff_mem, all_eq_true, Bool.not_eq_true'] at hp
  obtain ⟨after, ho⟩ := split_of_head? (eq_of_beq hp.2.1)
  exact ⟨start, s, _, after, hs, hr, hp.1, ho, hp.2.2⟩

end TrustTunnel.Core.KillSwitch

import TrustTunnel.Dns.Handler
import TrustTunnel.Lib.Transition

namespace TrustTunnel.Dns.Containment

open Lib.Transition Messages Handler DnsHandler Option
open ClientListener (ListenerBase ConnectionInfo)

/-- The system proxies and the bypass upstream are outside of the tunnel. -/
def leavesTunnel : Destination → Bool
  | .client .user => false
  | .client .system | .client .systemIpv6 => true
  | .listener _ bypass => bypass

/-- Requests leave the tunnel only for excluded names, and no message has two destinations. -/
structure Contained (h : DnsHandler) : Prop where
  excluded : ∀ ρ ∈ h.routings, ρ.name.isSome → leavesTunnel ρ.destination = true → ρ.excluded = true
  single : (h.routings.map Routing.seq).Nodup

/-- The flag that `on_dns_request` asks for if it sends the message as a listener. -/
def asListener (h : DnsHandler) (env : Env) (message : Message) : Option Bool :=
  match env.decode message with
  | .error => none
  | .other => some false
  | .request name =>
    if treatedAsExcluded env name then if h.altExclusionsRoute then some true else none
    else if env.endpointUpstreamConnected && !h.clients .user then some false
    else none

/-- The flag that the listener connection for an upstream connection was requested with. -/
def flag (l : ListenerBase) (u : ℕ) : Option Bool :=
  (l.connIdByUpstreamConnId.lookup u).map (requestedBypass l.trace)

def isRequest (env : Env) (message : Message) : Bool :=
  match env.decode message with
  | .request _ => true
  | _ => false

def strays (h : DnsHandler) (env : Env) (u : ℕ) (message : Message) : Bool :=
  asListener h env message == some false && isRequest env message && flag h.listener u == some true

/-- No request of an included name is sent on a connection that was requested with the bypass
flag. -/
def keepsApart (h : DnsHandler) (label : Env × Input) : Bool :=
  match label.2, h.sendings with
  | .goOn, ⟨u, _, message :: _, _⟩ :: _ => !strays h label.1 u message
  | _, _ => true

section Listener

variable {l : ListenerBase} {id : ℕ}

theorem requestedBypass_concat {e : ClientListener.Event} {trace : List ClientListener.Event}
    (he : bypassFor id e = none) :
    requestedBypass (trace ++ [e]) id = requestedBypass trace id := by
  simp [requestedBypass, he]

theorem raiseRead_flags (a : Bool) (u : ℕ) : flag (l.raiseRead id a) u = flag l u := by
  have he : ∀ f data, flag ((l.emit (.read id data)).push f) u = flag l u := fun _ _ ↦
    congrArg (Option.map · _) (funext fun _ ↦ requestedBypass_concat rfl)
  unfold ListenerBase.raiseRead
  split
  · rfl
  split
  · rfl
  split
  · unfold ListenerBase.raiseUdp
    split
    · rfl
    · exact he _ _
  split
  · rfl
  · exact he _ _

theorem sendOn_flags (message : Message) (u : ℕ) : flag (l.sendOn id message) u = flag l u := by
  unfold ListenerBase.sendOn
  split
  · rfl
  split
  · split
    · exact congrArg (Option.map · _) (funext fun _ ↦ requestedBypass_concat rfl)
    · rfl
  · exact raiseRead_flags true u

/-- The flag that is asked for counts only if there is no connection yet. -/
theorem sendAsListener_flag (skipped : ℕ) (info : ConnectionInfo) (message : Message) (b : Bool) :
    flag (l.sendAsListener skipped info message b) info.upstreamConnId =
      some ((flag l info.upstreamConnId).getD b) := by
  unfold ListenerBase.sendAsListener
  split
  · next hn =>
    simp [flag, hn, ListenerBase.requestConnection, ListenerBase.emit, ListenerBase.push,
      requestedBypass, bypassFor]
  · next id hi =>
    rw [sendOn_flags, flag, hi]
    rfl

end Listener

variable {h h' : DnsHandler} {env : Env} {u : ℕ} {info : ServerUpstream.Connection}
  {message : Message} {name : String}

/-- A message is handed over at most once, and around the tunnel only for an excluded name or if it
strays. -/
structure Handled (h : DnsHandler) (env : Env) (u : ℕ) (message : Message) (h' : DnsHandler) :
    Prop where
  received : h'.received = h.received + 1
  routings : h'.routings = h.routings ∨ ∃ ρ, h'.routings = h.routings ++ [ρ] ∧
    ρ.seq = h.received ∧ (ρ.name.isSome → leavesTunnel ρ.destination = true →
      ρ.excluded = true ∨ strays h env u message = true)

theorem handled_asListener {b : Bool} {n : Option String} (hh : h'.received = h.received + 1)
    (hr : h'.routings = h.routings) (hl : h'.listener = h.listener)
    (hb : asListener h env message = some b) (he : n.isSome → isRequest env message = true)
    (hx : n.isSome → b = true → n.any (treatedAsExcluded env) = true) :
    Handled h env u message (h'.sendRequestAsListener env u info message n b) := by
  refine ⟨hh, .inr ⟨_, congrArg (· ++ _) hr, by simp [hh], fun hn ht ↦ ?_⟩⟩
  cases b with
  | true => exact .inl (hx hn rfl)
  | false =>
    have hf : flag
      (h'.listener.sendAsListener env.skipped ⟨u, info.proto, info.addrs⟩ message false)
        u = some ((flag h'.listener u).getD false) := sendAsListener_flag _ _ _ _
    obtain ⟨id, hi, hq⟩ := map_eq_some_iff.1 hf
    simp only [leavesTunnel] at ht
    rw [hi, any_some, hq, hl] at ht
    cases hg : flag h.listener u with
    | none => simp [hg] at ht
    | some c =>
      obtain rfl : c = true := by simpa [hg] using ht
      exact .inr (by simp [strays, hb, he hn, hg])

theorem handled_client {sp ipv6 : Bool} (hh : h'.received = h.received + 1)
    (hr : h'.routings = h.routings) (hx : sp = true → treatedAsExcluded env name = true) :
    Handled h env u message (h'.sendRequest env sp ipv6 name) := by
  unfold sendRequest
  simp only
  split
  · exact ⟨hh, .inl hr⟩
  · refine ⟨hh, .inr ⟨_, congrArg (· ++ _) hr, by simp [hh], fun _ hl ↦ .inl (hx ?_)⟩⟩
    cases sp with
    | true => rfl
    | false => simp [clientFor, leavesTunnel] at hl

theorem handled_directly (hm : env.decode message = .request name)
    (he : treatedAsExcluded env name = true) :
    Handled h env u message
      ({ h with received := h.received + 1 }.sendDirectly env u info message name) := by
  unfold sendDirectly
  split
  · next ha =>
    have ha : h.altExclusionsRoute = true := ha
    exact handled_asListener rfl rfl rfl (by simp [asListener, hm, he, ha])
      (fun _ ↦ by simp [isRequest, hm]) fun _ _ ↦ he
  · exact handled_client rfl rfl fun _ ↦ he

theorem handled_byInclusion {included : Bool} (hm : env.decode message = .request name)
    (hc : env.endpointUpstreamConnected = true) (hi : treatedAsExcluded env name = !included) :
    Handled h env u message
      ({ h with received := h.received + 1 }.sendByInclusion env u info message name included) := by
  have hr : isRequest env message = true := by simp [isRequest, hm]
  unfold sendByInclusion
  cases included with
  | true =>
    cases hu : h.clients .user with
    | true =>
      rw [if_pos (by simp)]
      exact handled_client rfl rfl nofun
    | false =>
      rw [if_neg (by simp), if_neg (by simp)]
      exact handled_asListener rfl rfl rfl (by simp [asListener, hm, hi, hc, hu]) (fun _ ↦ hr) nofun
  | false =>
    cases ha : h.altExclusionsRoute with
    | true =>
      rw [if_neg (by simp), if_neg (by simp)]
      exact handled_asListener rfl rfl rfl (by simp [asListener, hm, hi, ha]) (fun _ ↦ hr)
        fun _ _ ↦ hi
    | false =>
      rw [if_neg (by simp), if_pos (by simp)]
      exact handled_client rfl rfl fun _ ↦ hi

theorem onDnsRequest_spec : Handled h env u message (h.onDnsRequest env u info message) := by
  unfold onDnsRequest
  cases hm : env.decode message with
  | error => exact ⟨rfl, .inl rfl⟩
  | other => exact handled_asListener rfl rfl rfl (by simp [asListener, hm]) nofun nofun
  | request name =>
    cases hc : env.endpointUpstreamConnected with
    | true =>
      refine handled_byInclusion hm hc ?_
      cases he : env.exclusionsMode <;> simp [treatedAsExcluded, isExcludedName, hc, he]
    | false =>
      simp only [Bool.not_false, if_true]
      split
      · exact handled_directly hm (by simp_all [treatedAsExcluded])
      · split
        · exact handled_directly hm (by simp_all [treatedAsExcluded])
        · exact ⟨rfl, .inl rfl⟩

structure Good (h : DnsHandler) : Prop extends Contained h where
  numbered : ∀ ρ ∈ h.routings, ρ.seq < h.received

theorem Good.congr (hg : Good h) (hr : h'.routings = h.routings) (hn : h'.received = h.received) :
    Good h' where
  excluded := hr ▸ hg.excluded
  single := hr ▸ hg.single
  numbered := by
    rw [hr, hn]
    exact hg.numbered

theorem Handled.good (hd : Handled h env u message h') (hg : Good h)
    (ht : strays h env u message = false) : Good h' := by
  have hlt : ∀ ρ ∈ h.routings, ρ.seq < h'.received := by
    intro ρ hρ
    have := hg.numbered ρ hρ
    have := hd.received
    omega
  rcases hd.routings with hr | ⟨ρ₀, hr, hq, hs⟩
  · exact ⟨⟨hr ▸ hg.excluded, hr ▸ hg.single⟩, hr ▸ hlt⟩
  · refine ⟨⟨?_, ?_⟩, ?_⟩
    · intro ρ hρ hn hl
      rw [hr, List.mem_append, List.mem_singleton] at hρ
      rcases hρ with hρ | rfl
      · exact hg.excluded ρ hρ hn hl
      · exact (hs hn hl).resolve_right (by simp [ht])
    · rw [hr, List.map_append, List.nodup_append]
      refine ⟨hg.single, List.nodup_singleton _, ?_⟩
      intro a ha b hb
      obtain ⟨ρ, hρ, rfl⟩ := List.mem_map.mp ha
      rw [List.map_singleton, List.mem_singleton] at hb
      have := hg.numbered ρ hρ
      omega
    · intro ρ hρ
      rw [hr, List.mem_append, List.mem_singleton] at hρ
      rcases hρ with hρ | rfl
      · exact hlt ρ hρ
      · have := hd.received
        omega

theorem goOn_good (hg : Good h) (ho : keepsApart h (env, .goOn) = true)
    (hs : h.goOn env = some h') : Good h' := by
  unfold goOn at hs
  split at hs
  · cases hs
  · cases hs
    exact hg.congr rfl rfl
  · next he =>
    split at hs
    · cases hs
      simp only [keepsApart, he, Bool.not_eq_true'] at ho
      exact onDnsRequest_spec.good (hg.congr rfl rfl) ho
    · cases hs

theorem send_good (hg : Good h) (d : List UInt8) : Good (h.send u d) := by
  unfold send
  split
  · exact hg
  · exact hg.congr rfl rfl

theorem upstreamStep_good {i : ServerUpstream.Input} (hg : Good h)
    (hs : h.upstreamStep i = some h') : Good h' := by
  obtain ⟨_, -, rfl⟩ := map_eq_some_iff.1 hs
  exact hg.congr rfl rfl

/-- The step lemma of the handler. -/
theorem step_good {l : Env × Input} (hg : Good h) (ho : keepsApart h l = true)
    (hs : step h l = some h') : Good h' := by
  obtain ⟨env, i⟩ := l
  unfold step at hs
  split at hs
  · cases hs
    exact send_good hg _
  · next he =>
    obtain rfl : i = .goOn := he
    exact goOn_good hg ho hs
  · cases hs
  · exact upstreamStep_good hg hs
  · cases hs
  · cases hs
  · obtain ⟨_, -, rfl⟩ := map_eq_some_iff.1 hs
    exact hg.congr rfl rfl
  · cases hs
    exact hg.congr rfl rfl
  · cases hs
    exact hg.congr rfl rfl

/-- As long as requests of included names are kept apart from the connections with the bypass flag,
no request leaves the tunnel unless its name is excluded. -/
theorem requests_contained {altExclusionsRoute : Bool} {clients : DnsClient → Bool}
    {labels : List (Env × Input)}
    (hrun : Run step (fun h label ↦ keepsApart h label = true) { altExclusionsRoute, clients }
      labels h) : Contained h := by
  have ht : Good { altExclusionsRoute, clients } := ⟨⟨nofun, .nil⟩, nofun⟩
  exact (hrun.invariant (P := Good) ht fun _ _ _ hg ho hs ↦ step_good hg ho hs).toContained

def splitNames : Env where
  decode message := .request (if message = [1] then "excluded.org" else "included.org")
  matchesDomain name := name == "excluded.org"

def resolver : Net.Address.TunnelAddressPair := ⟨⟨.inet, 10, 5000⟩, .socketAddress ⟨.inet, 20, 53⟩⟩

/-- A name is asked for, and the listener takes the request. -/
def ask (u : ℕ) (message : Message) : List (Env × Input) :=
  [.send u message, .goOn, .goOn, .listener (.resume 0)].map (splitNames, ·)

def opening (appName : String) : Env × Input :=
  (splitNames, .upstream (.openConnection 0 resolver .udp appName))

/-- Requests that go to both kinds of sockets. -/
theorem requests_contained_on_two_sockets :
    ∃ h, Run step (fun h label ↦ keepsApart h label = true) { altExclusionsRoute := true }
      (opening "browser" :: opening "mail" :: (ask 0 [1] ++ ask 1 [2])) h ∧
      h.routings.length = 2 ∧ Contained h :=
  exists_run_imp (P := fun h ↦ h.routings.length = 2) (by decide)
    fun _ hr hp ↦ ⟨hp, requests_contained hr⟩

/-- The two names are asked for from one socket: the included one follows the excluded one. -/
theorem included_request_leaves_tunnel :
    ∃ labels h, Run step anyStep { altExclusionsRoute := true } labels h ∧ ¬Contained h := by
  refine ⟨opening "browser" :: (ask 0 [1] ++ [.send 0 [2], .goOn].map (splitNames, ·)),
    exists_run_imp (P := fun h ↦ ∃ ρ ∈ h.routings, ρ.name.isSome = true ∧
      leavesTunnel ρ.destination = true ∧ ρ.excluded = false) (by decide) ?_⟩
  rintro h - ⟨ρ, hρ, hn, hl, he⟩ hc
  exact absurd (hc.excluded ρ hρ hn hl) (by simp [he])

end TrustTunnel.Dns.Containment

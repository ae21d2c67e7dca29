import TrustTunnel.Traffic.Reading

namespace TrustTunnel.Traffic.Fake.Reading

open Session.Types Traffic.Types Routing Traffic.Reading

variable {t : Tunnel} {env : Env} {r : ℕ} {c : VpnConnection}

def isReal : Types.Upstream → Bool
  | .endpoint _ | .bypass => true
  | .fake | .dnsHandler => false

def opensReal : Call → Bool
  | .openConnection u _ _ _ => isReal u
  | _ => true

def OpensReal (t t' : Tunnel) : Prop :=
  ∃ calls, t'.calls = t.calls ++ calls ∧ ∀ call ∈ calls, opensReal call = true

theorem forcedUpstream_real {a : VpnConnectAction} {u : Types.Upstream}
    (h : forcedUpstream t a = some u) : isReal u = true := by
  cases a with
  | forceBypass =>
    cases h
    rfl
  | forceRedirect =>
    obtain ⟨s, -, rfl⟩ := Option.map_eq_some_iff.1 h
    rfl
  | default => cases h
  | reject => cases h

theorem selectUpstream_real {u : Types.Upstream} (hs : needsFake env c = false)
    (hn : c.flags.plainDnsConnection = false)
    (h : selectUpstream t env .default (some c) = some u) : isReal u = true := by
  simp only [selectUpstream, hs, hn, Bool.false_eq_true, if_false] at h
  split at h <;> exact forcedUpstream_real h

def cleared (c : VpnConnection) : VpnConnection :=
  { c with flags := { c.flags with fakeConnection := false, suspectExclusion := false } }

def verdict (t : Tunnel) (env : Env) (c : VpnConnection) : Option DomainExtractorStatus :=
  if c.proto = .udp then
    match domainLookupProcessUdp t env c .outgoing with
    | .inl _ => none
    | .inr (_, result) => some result.status
  else some env.extracted.status

/-- The data of a connection is to be forwarded though its lookup did not end. -/
def unfinished (t : Tunnel) (env : Env) (c : VpnConnection) : Bool :=
  verdict t env c == some .pass ||
    (verdict t env c == some .wantMore && maxLookupAttempts ≤ c.lookupAttemptsNum)

theorem passThroughDomainLookup_verdict :
    ((passThroughDomainLookup t env r c .outgoing).2 = .pass → verdict t env c = some .pass) ∧
      ((passThroughDomainLookup t env r c .outgoing).2 = .wantMore →
        verdict t env c = some .wantMore) := by
  have hu : ∀ a, domainLookupProcessUdp t env c .outgoing = .inl a →
      a ≠ .pass ∧ a ≠ .wantMore := by
    intro a h
    unfold domainLookupProcessUdp at h
    split at h
    · cases h
      exact ⟨nofun, nofun⟩
    · cases h
      exact ⟨nofun, nofun⟩
    · cases h
    all_goals
      split at h
      · cases h
      · cases h
        exact ⟨nofun, nofun⟩
  unfold passThroughDomainLookup verdict
  by_cases hp : c.proto = .udp
  · simp only [hp, if_true]
    cases hl : domainLookupProcessUdp t env c .outgoing with
    | inl a =>
      obtain ⟨ha, hm⟩ := hu a hl
      exact ⟨fun h ↦ absurd h ha, fun h ↦ absurd h hm⟩
    | inr f =>
      obtain ⟨s, rt⟩ := f
      cases hs : rt.status <;> simp [hs]
      all_goals split <;> simp
  · simp only [hp, if_false]
    cases env.extracted.status <;> simp
    all_goals split <;> simp

def readsIdle (t : Tunnel) (env : Env) (id : ℕ) : Bool :=
  (t.byClientId (some id)).all fun (_, c) ↦
    !(c.flags.fakeConnection && c.flags.lookingupDomain && needsFake env (cleared c) &&
        unfinished t env c) &&
      !(c.upstream == some .fake && t.calls.contains (.turnRead (some id) false))

end TrustTunnel.Traffic.Fake.Reading

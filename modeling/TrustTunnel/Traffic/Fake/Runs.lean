import TrustTunnel.Lib.Transition
import TrustTunnel.Traffic.Fake.Basic
import TrustTunnel.Traffic.Refine.Serving

namespace TrustTunnel.Traffic.Fake.Runs

open Relation Lib.Transition Lib.TwoKeyStore Traffic.Types Routing Traffic.Reading Serving List
open Moves Refine.Basic Refine.Routing Refine.Reading Refine.Serving Fake.Basic Fake.Reading

variable {A : Assumptions} {t t' : Tunnel} {v v' : View} {label : Env × Input}

theorem opensReal_of_isNeutral {c : Call} (h : isNeutral c = true) : opensReal c = true := by
  cases c <;> simp_all [isNeutral, opensReal]

theorem Move.opensReal (hA : ∀ u, A.opens u → isReal u = true) (h : Move A v v') :
    ∃ cs, v'.calls = v.calls ++ cs ∧ ∀ c ∈ cs, opensReal c = true := by
  cases h with
  | emit c hn => exact ⟨_, rfl, by simpa using opensReal_of_isNeutral hn⟩
  | openFailed _ _ hu => exact ⟨_, rfl, by simpa [Reading.opensReal] using hA _ hu⟩
  | attach _ _ _ _ _ _ _ hu => exact ⟨_, rfl, by simpa [Reading.opensReal] using hA _ hu⟩
  | migrate _ _ _ _ _ _ _ _ hu => exact ⟨_, rfl, by simpa [Reading.opensReal] using hA _ hu⟩
  | destroy cs _ _ hn => exact ⟨_, rfl, fun c hm ↦ opensReal_of_isNeutral (hn c hm)⟩
  | create | complete | flush | take | forward | discard =>
    exact ⟨_, rfl, by simp [Reading.opensReal]⟩
  | edit | relink | switch | forgetClient | forgetServer =>
    exact ⟨[], (append_nil _).symm, by simp⟩

theorem opensReal_of_moves (hA : ∀ u, A.opens u → isReal u = true)
    (h : ReflTransGen (Move A) v v') :
    ∃ cs, v'.calls = v.calls ++ cs ∧ ∀ cl ∈ cs, opensReal cl = true := by
  induction h with
  | refl => exact ⟨[], (append_nil _).symm, by simp⟩
  | tail _ hm ih =>
    obtain ⟨cs, hs, hl⟩ := ih
    obtain ⟨c, h', ha⟩ := Move.opensReal hA hm
    refine ⟨cs ++ c, ?_, fun cl hc ↦ ?_⟩
    · rw [h', hs, append_assoc]
    · exact (mem_append.1 hc).elim (hl cl) (ha cl)

/-- Connect requests are completed once, the fake upstream never reports that data was sent, and
every read leaves it alone. -/
def keepsFakeIdle (t : Tunnel) (label : Env × Input) : Bool :=
  completesOnce t label &&
    match label.2 with
    | .clientRead id _ => readsIdle t label.1 id
    | .serverDataSent upstream _ => upstream != .fake
    | _ => true

def idling (opens : Upstream → Prop) : Assumptions := { once := True, fake := True, opens := opens }

theorem mayMove_of_readsIdle {os : Upstream → Prop} {e : Env} {r k : ℕ} {c : VpnConnection}
    (hg : Base (view t)) (h : Idle (view t)) (hk : t.byClientId (some k) = some (r, c))
    (hok : readsIdle t e k = true) (hs : ∀ u, isReal u = true → os u) :
    MayMove (idling os) t e k r c := by
  have ho : MayOpen (idling os) := fun u hu ↦ hs u (hu trivial)
  have hc := byClientId_eq_some.1 hk
  simp only [readsIdle, hk, Option.all_some, Bool.and_eq_true, Bool.not_eq_true',
    Bool.and_eq_false_iff, beq_eq_false_iff_ne, contains_eq_mem, decide_eq_false_iff_not]
    at hok
  refine ⟨fun _ _ ↦ ⟨ho, fun _ _ _ ↦ trivial⟩, fun _ _ ↦ ⟨ho, fun _ ↦ trivial⟩,
    fun _ hu ↦ ?_, fun _ hf ↦ ⟨h.named r c hc.2 hf, fun hl hn ↦ ?_⟩⟩
  · rcases h.marked r c hc.2 k (hg.clientId_eq hc) hu with hm | hm | hm
    · exact .inl hm
    · exact .inr hm
    · exact absurd hm (hok.2.resolve_left fun he ↦ he hu)
  · simpa [hf, hl, hn] using hok.1

theorem meets_of_keepsFakeIdle (os : Upstream → Prop) (hg : Base (view t)) (h : Idle (view t))
    (hp : possible t label.2 = true) (ho : keepsFakeIdle t label = true)
    (hs : ∀ u, isReal u = true → os u) (hl : (∀ id p, label.2 ≠ .clientRead id p) → ∀ u, os u) :
    Meets (idling os) t label := by
  obtain ⟨env, input⟩ := label
  simp only [keepsFakeIdle, Bool.and_eq_true] at ho
  have hi : LeavesFake t input := by
    refine ⟨fun k hn a x hx ht ↦ hn (h.scheduled a x hx k ht), h.replaced,
      fun um id he ↦ ?_, fun id he r c hk hu ↦ ?_⟩
    · cases he
      simpa using ho.2
    · cases he
      obtain ⟨⟨a, x⟩, hm, ha⟩ := any_eq_true.1 hp
      have hx : t.connections.get a = some x := AList.mem_lookup_iff.2 hm
      cases id with
      | none => simp at hk
      | some k =>
        have hc := byClientId_eq_some.1 hk
        exact h.untasked r c k hc.2 (hg.clientId_eq hc) hu a x hx (by simpa using ha)
  refine ⟨nofun, fun _ ↦ ho.1, nofun, nofun, fun id p he r c hk ↦ ?_, nofun,
    fun _ ↦ ⟨trivial, hi⟩, hl⟩
  cases he
  exact mayMove_of_readsIdle hg h hk ho.2 hs

theorem idle_initial (h : Initial t) : Idle (view t) := by
  have hn : ∀ {r c}, (view t).record r ≠ some c := by
    intro r c
    simp [view, h.1, Store.get]
  refine ⟨fun r c hr ↦ absurd hr hn, fun r c hr ↦ absurd hr hn,
    fun r c hr ↦ absurd hr hn, fun r c hr ↦ absurd hr hn, fun r c k hr ↦ absurd hr hn,
    ?_⟩
  simp [view, h.2]

/-- The run lemma: the fake upstream is idle throughout. -/
theorem idle_of_run {t₀ : Tunnel} {ls : List (Env × Input)} (h : Initial t₀)
    (hn : Run step (fun t l ↦ keepsFakeIdle t l = true) t₀ ls t) :
    Good (idling fun _ ↦ True) (view t) ∧ Idle (view t) := by
  refine hn.invariant (P := fun t ↦ Good (idling fun _ ↦ True) (view t) ∧ Idle (view t))
    ⟨initial_good h, idle_initial h⟩ ?_
  rintro s l t ⟨hg, hi⟩ ho hs
  have hm := meets_of_keepsFakeIdle (fun _ ↦ True) hg.base hi (possible_of_step hs)
    ho (fun _ _ ↦ trivial) fun _ _ ↦ trivial
  have ht := step_steps hm hs
  exact ⟨ht.good hg, idle_of_moves trivial trivial hg hi (ht hg)⟩

/-- Nothing is sent on the fake upstream, and what the reads open is not opened there. -/
theorem fake_upstream_carries_nothing {t₀ : Tunnel} {ls : List (Env × Input)} (h : Initial t₀)
    (hrun : Run step (fun t l ↦ keepsFakeIdle t l = true) t₀ ls t) :
    (∀ call ∈ t.calls, sendsOnFake call = false) ∧
      ∀ env id packet t', keepsFakeIdle t (env, .clientRead id packet) = true →
        step t (env, .clientRead id packet) = some t' → OpensReal t t' := by
  obtain ⟨hg, hi⟩ := idle_of_run h hrun
  refine ⟨hi.sent, fun env id packet t' ho hs ↦ ?_⟩
  have hm := meets_of_keepsFakeIdle (fun u ↦ isReal u = true) hg.base hi
    (possible_of_step hs) ho (fun _ hu ↦ hu) fun hn ↦ absurd rfl (hn id packet)
  exact opensReal_of_moves (fun _ hu ↦ hu) (step_steps hm hs ⟨hg.base, hg.served⟩)

def scanned (status : DomainExtractorStatus) : Env :=
  { exclusionsTcpEarlyAckEnabled := true, exclusionsScannablePorts := (· == 443)
    extracted := ⟨status, "example.org"⟩, acceptsNow := true, sends := [some 1] }

def earlyAckRun : List (Env × Input) :=
  [({}, .endpointReplaced (some 0)), ({}, .sessionOpened (.endpoint 0)),
    (scanned .found, .connectRequest .client { id := 1, protocol := .tcp, addr := webServer }),
    (scanned .found, .completeConnectRequest 1 none), (scanned .found, .serverOpened .fake 0)]

/-- The client leaves the fake upstream with its first packet. -/
theorem fake_upstream_carries_nothing_of_hello :
    ∃ labels t, Run step (fun t l ↦ keepsFakeIdle t l = true) {} labels t ∧
      .openConnection .fake (some 1) webServer (some 0) ∈ t.calls ∧
      .send (.endpoint 0) (some 1) [22] ∈ t.calls ∧
      (∀ call ∈ t.calls, sendsOnFake call = false) ∧
      ∀ env id packet t', keepsFakeIdle t (env, .clientRead id packet) = true →
        step t (env, .clientRead id packet) = some t' → OpensReal t t' :=
  ⟨earlyAckRun ++ [(scanned .found, .clientRead 1 [22]),
      (scanned .found, .serverOpened (.endpoint 0) 1), (scanned .found, .clientRead 1 [22])],
    exists_run_imp (P := fun t ↦ .openConnection .fake (some 1) webServer (some 0) ∈ t.calls ∧
        .send (.endpoint 0) (some 1) [22] ∈ t.calls) (by decide)
      fun _ hr hp ↦ ⟨hp.1, hp.2, fake_upstream_carries_nothing ⟨rfl, rfl⟩ hr⟩⟩

/-- The name is not complete after three packets: the fourth one starts a migration from the fake
upstream to the fake upstream, and the packets are sent there. -/
theorem unfinished_lookup_returns_to_fake_upstream :
    ∃ labels t₀ t, Run step (fun t l ↦ completesOnce t l = true) {} labels t₀ ∧
      step t₀ (scanned .wantMore, .clientRead 1 [4]) = some t ∧ ¬ OpensReal t₀ t ∧
      ∃ labels' t', Run step (fun t l ↦ completesOnce t l = true) t labels' t' ∧
        .send .fake (some 1) [1] ∈ t'.calls := by
  obtain ⟨t₀, hr, hp⟩ := exists_run_of_execWhile step (fun t l ↦ completesOnce t l = true) {}
    (earlyAckRun ++ [(scanned .wantMore, .clientRead 1 [1]),
      (scanned .wantMore, .clientRead 1 [2]), (scanned .wantMore, .clientRead 1 [3])])
    (fun t₀ ↦ (step t₀ (scanned .wantMore, .clientRead 1 [4])).any fun t ↦
      (t.calls.drop t₀.calls.length).any (fun c ↦ !opensReal c) &&
      (execWhile step (fun t l ↦ completesOnce t l = true) t
        [(scanned .found, .serverOpened .fake 1), (scanned .found, .sendTask (some 1))]).any
            fun t' ↦
          t'.calls.contains (.send .fake (some 1) [1])) (by decide)
  obtain ⟨t, hs, hp⟩ := (Option.any_eq_true _ _).1 hp
  rw [Bool.and_eq_true] at hp
  obtain ⟨t', hr', hd⟩ := exists_run_of_execWhile step _ t _ _ hp.2
  refine ⟨_, t₀, t, hr, hs, ?_, _, t', hr', by simpa using hd⟩
  rintro ⟨cs, hc, ha⟩
  obtain ⟨c, hm, hn⟩ := any_eq_true.1 hp.1
  rw [hc, drop_left] at hm
  rw [ha c hm] at hn
  cases hn

end TrustTunnel.Traffic.Fake.Runs

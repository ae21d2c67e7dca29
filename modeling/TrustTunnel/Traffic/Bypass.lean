import TrustTunnel.Lib.Trace
import TrustTunnel.Traffic.Refine.Serving

namespace TrustTunnel.Traffic.Bypass

open Relation Lib.Trace Net.Address Session.Types Traffic.Types Serving Moves Refine.Basic List
open Refine.Reading Refine.Serving

variable {A : Assumptions} {v v' : View} {t t' : Tunnel} {env : Env} {k : ℕ} {cs : List Call}

/-- When connections are opened past the tunnel, announced, and completed with the action to
bypass. -/
def Allowed (before : List Call) : Call → Prop
  | .openConnection .bypass (some k) _ _ => Justified before k
  | .requested _ k _ => ¬ Announced before k
  | .completed k (some .forceBypass) => Excused before k ∨ Foreign before k
  | _ => True

theorem allowed_of_isNeutral {call : Call} (h : isNeutral call = true) (b : List Call) :
    Allowed b call := by
  cases call <;> simp_all [isNeutral, Allowed]

theorem allowed_openConnection {u : Types.Upstream} {c : Option ℕ} {a : TunnelAddressPair}
    {id : Option ℕ} (h : u = .bypass → ∀ k, c = some k → Justified cs k) :
    Allowed cs (.openConnection u c a id) := by
  cases c with
  | none => cases u <;> trivial
  | some k =>
    cases u with
    | bypass => exact h rfl k rfl
    | _ => trivial

theorem allowed_completed {a : Option VpnConnectAction}
    (h : a = some .forceBypass → Excused cs k ∨ Foreign cs k) : Allowed cs (.completed k a) := by
  cases a with
  | none => trivial
  | some a =>
    cases a with
    | forceBypass => exact h rfl
    | _ => trivial

theorem Move.allowed (hA : A.general) (h : Guarded Allowed v.calls) (hm : Move A v v') :
    Guarded Allowed v'.calls := by
  cases hm with
  | emit c hn => exact h.concat (allowed_of_isNeutral hn _)
  | create _ _ hw _ _ => exact h.concat hw
  | complete _ _ _ he => exact h.concat (allowed_completed (he hA))
  | openFailed _ hj _ => exact h.concat (allowed_openConnection (hj hA))
  | attach _ _ _ hj =>
    exact h.concat (allowed_openConnection fun hu k hk ↦ Option.some.inj hk ▸ hj hA hu)
  | migrate _ _ _ hj =>
    exact h.concat (allowed_openConnection fun hu k hk ↦ Option.some.inj hk ▸ hj hA hu)
  | destroy _ _ _ hn => exact h.append_of_forall fun c hm ↦ allowed_of_isNeutral (hn c hm)
  | flush | take | forward | discard => exact h.append_of_forall (by simp [Allowed])
  | edit | relink | switch | forgetClient | forgetServer => exact h

theorem allowed_of_moves (hA : A.general) (h : Guarded Allowed v.calls)
    (hm : ReflTransGen (Move A) v v') : Guarded Allowed v'.calls := by
  induction hm with
  | refl => exact h
  | tail _ hm ih => exact Move.allowed hA ih hm

theorem listener_unique (h : Guarded Allowed cs) {l l' : Listener} {ar a : TunnelAddressPair}
    (hl : .requested l k ar ∈ cs) (hl' : .requested l' k a ∈ cs) : l = l' := by
  obtain ⟨b, af, rfl, hn⟩ := h.exists_before hl
  rcases mem_append.1 hl' with hm | hm
  · exact absurd ⟨l', a, hm⟩ hn
  · rcases mem_cons.1 hm with he | hm
    · exact (Call.requested.inj he).1.symm
    · obtain ⟨m, r, rfl⟩ := append_of_mem hm
      have hs : ¬ Announced (b ++ .requested l k ar :: m) k := h _ (.requested l' k a) r (by simp)
      exact absurd ⟨l, ar, by simp⟩ hs

def generalOnly : Assumptions := { general := True }

theorem lenient_generalOnly : Lenient generalOnly := ⟨id, fun _ ↦ trivial⟩

structure Watched (t : Tunnel) : Prop where
  good : Good generalOnly (view t)
  allowed : Guarded Allowed t.calls

theorem watched_of_initial (h : Initial t) : Watched t := ⟨initial_good h, h.2 ▸ guarded_nil⟩

theorem Watched.steps (h : Watched t) (hs : Steps generalOnly t t') : Watched t' :=
  ⟨hs.good h.good, allowed_of_moves (v := view t) trivial h.allowed (hs h.good)⟩

theorem watched_step {label : Env × Input} (h : Watched t) (hm : label.1.mode = .general)
    (hh : bySession label.2 = false) (hs : step t label = some t') : Watched t' := by
  have hme : Meets generalOnly t label := by
    refine lenient_generalOnly.meets (fun _ ↦ ⟨hm, fun id he ↦ ?_⟩) nofun nofun nofun
      (lenient_generalOnly.mayMove fun _ _ _ ↦ trivial)
    simp [he, bySession] at hh
  exact h.steps (step_steps hme hs)

/-- The bypass of a client was excused by what came before it. -/
theorem Watched.excused (h : Watched t) {b a : List Call} {ar a' : TunnelAddressPair}
    {id : Option ℕ} (hi : .requested .client k ar ∈ t.calls)
    (hn : t.calls = b ++ .openConnection .bypass (some k) a' id :: a) : Excused b k := by
  have hj : Justified b k := h.allowed _ _ _ hn
  rcases hj with hm | ⟨ad, hm⟩ | hex
  · obtain ⟨s, rest, rfl⟩ := append_of_mem hm
    rw [append_assoc, cons_append] at hn
    have ha : Excused s k ∨ Foreign s k := h.allowed _ _ _ hn
    have hs : s ⊆ s ++ .completed k (some .forceBypass) :: rest := subset_append_left _ _
    rcases ha with hex | ⟨l, d, he, hr⟩
    · exact hex.mono hs
    · have hreq' : .requested l k d ∈ t.calls := by
        rw [hn]
        exact mem_append_left _ hr
      exact absurd (listener_unique h.allowed hreq' hi) he
  · exact .resolved ad hm
  · exact excused_of_excluded hex

end TrustTunnel.Traffic.Bypass

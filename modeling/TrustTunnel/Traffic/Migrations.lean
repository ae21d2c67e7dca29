import TrustTunnel.Traffic.Streams

namespace TrustTunnel.Traffic.Migrations

open Function Relation Lib.TwoKeyStore Lib.Transition Traffic.Types Routing Reading Moves Option
open Serving Refine.Basic Refine.Routing Refine.Reading Refine.Serving Streams

variable {A : Assumptions} {v v' : View} {F : Upstream → Prop} {G : Prop} {k r : ℕ}
  {c c' : VpnConnection}

def On (F : Upstream → Prop) (c : VpnConnection) : Prop :=
  c.serverId ≠ none ∧ ∃ u, c.upstream = some u ∧ F u

theorem On.congr (h : On F c) (hs : c'.serverId = c.serverId) (hu : c'.upstream = c.upstream) :
    On F c' := by
  rw [On, hs, hu]
  exact h

/-- The client `k` migrates to one connection at a time, on an upstream of `F`, where it is after
`G`. -/
structure Migrating (F : Upstream → Prop) (G : Prop) (k : ℕ) (v : View) : Prop where
  sole : ∀ r c r' c', v.record r = some c → Replaces k c → v.record r' = some c' →
    Replaces k c' → r = r'
  waiting : ∀ r c r₀ c₀, v.record r = some c → Replaces k c → v.Client k r₀ c₀ →
    c₀.state = .connectedMigrating
  replaced : ∀ r c, v.record r = some c → Replaces k c → On F c
  own : G → ∀ r c, v.Client k r c → c.state ≠ .connectedMigrating → On F c
  known : G → Announced v.calls k ∧ Excluded v.calls k

theorem excluded_mono {cs c : List Call} (h : Excluded cs k) (hc : cs ⊆ c) : Excluded c k := by
  obtain ⟨s, d, hs, hm⟩ := h
  exact ⟨s, d, hs, hc hm⟩

namespace Migrating

theorem change (h : Migrating F G k v)
    (hre : ∀ a x, v'.record a = some x → Replaces k x →
      ∃ y, v.record a = some y ∧ Replaces k y ∧ (On F y → On F x))
    (hl : ∀ a x, v'.Client k a x → ∃ y, v.Client k a y ∧
      (x.state = .connectedMigrating ↔ y.state = .connectedMigrating) ∧ (On F y → On F x))
    (hcs : v.calls ⊆ v'.calls) : Migrating F G k v' where
  sole r c r' c' hr hc hr' hc' := by
    obtain ⟨y, hy, hky, -⟩ := hre r c hr hc
    obtain ⟨y', hy', h', -⟩ := hre r' c' hr' hc'
    exact h.sole r y r' y' hy hky hy' h'
  waiting r c r₀ c₀ hr hc hk := by
    obtain ⟨y, hy, hky, -⟩ := hre r c hr hc
    obtain ⟨y₀, hy₀, hs, -⟩ := hl r₀ c₀ hk
    exact hs.2 (h.waiting r y r₀ y₀ hy hky hy₀)
  replaced r c hr hc := by
    obtain ⟨y, hy, hky, ho⟩ := hre r c hr hc
    exact ho (h.replaced r y hy hky)
  own hG r c hk hs := by
    obtain ⟨y, hy, hst, ho⟩ := hl r c hk
    exact ho (h.own hG r y hy fun he ↦ hs (hst.2 he))
  known hG := ⟨(h.known hG).1.mono hcs, excluded_mono (h.known hG).2 hcs⟩

end Migrating

structure Alike (F : Upstream → Prop) (c c' : VpnConnection) : Prop where
  replaces : ∀ k, Replaces k c' → Replaces k c
  state : c'.state = .connectedMigrating ↔ c.state = .connectedMigrating
  served : On F c → On F c'

theorem Alike.refl : Alike F c c := ⟨fun _ ↦ id, Iff.rfl, id⟩

theorem alike_of_kept (ho : A.once) (h : Kept A v c c') : Alike F c c' where
  replaces _ hk := ⟨h.replacing.1 hk.1, h.migratingClientId ▸ hk.2⟩
  state := h.migrating ho
  served hc := hc.congr (h.serverId ho) (h.upstream ho hc.1)

theorem alike_put (hc : v.record r = some c) (h : Alike F c c') (a : ℕ) (x : VpnConnection)
    (hx : update v.record r (some c') a = some x) : ∃ y, v.record a = some y ∧ Alike F y x := by
  by_cases ha : a = r
  · subst ha
    rw [update_self] at hx
    exact ⟨c, hc, some.inj hx ▸ h⟩
  · rw [update_of_ne ha] at hx
    exact ⟨x, hx, .refl⟩

namespace Migrating

theorem alike (h : Migrating F G k v)
    (hc : ∀ a x, v'.record a = some x → ∃ y, v.record a = some y ∧ Alike F y x)
    (hl : ∀ a, v'.byClient k = some a → v.byClient k = some a) (hs : v.calls ⊆ v'.calls) :
    Migrating F G k v' := by
  refine h.change (fun a x hx hk ↦ ?_) (fun a x hx ↦ ?_) hs
  · obtain ⟨y, hy, ha⟩ := hc a x hx
    exact ⟨y, hy, ha.replaces k hk, ha.served⟩
  · obtain ⟨y, hy, ha⟩ := hc a x hx.2
    exact ⟨y, ⟨hl a hx.1, hy⟩, ha.state, ha.served⟩

theorem emit (h : Migrating F G k v) (cs : List Call) : Migrating F G k (v.emit cs) :=
  h.alike (fun _ x hx ↦ ⟨x, hx, .refl⟩) (fun _ ↦ id) (subset_emit cs)

theorem of_none (hno : ∀ r c, v.record r = some c → ¬ Replaces k c)
    (h : G → ∀ r c, v.Client k r c → On F c)
    (hkn : G → Announced v.calls k ∧ Excluded v.calls k) : Migrating F G k v where
  sole r c _ _ hr hc _ _ := absurd hc (hno r c hr)
  waiting r c _ _ hr hc _ := absurd hc (hno r c hr)
  replaced r c hr hc := absurd hc (hno r c hr)
  own hG r c hk _ := h hG r c hk
  known := hkn

theorem turn (h : Migrating F G k v) {j n : ℕ} {c₁ e : VpnConnection}
    (ht : Turned j n c₁ e v v') (hj : k ≠ j) (he : ¬ Replaces k e)
    (hs : v.calls ⊆ v'.calls) : Migrating F G k v' := by
  refine h.change (fun a x hx hk ↦ ⟨x, ?_, hk, id⟩)
    (fun a x hx ↦ ⟨x, ht.others k a x hj hx, Iff.rfl, id⟩) hs
  exact ((ht.replaces k a x hx hk).resolve_left fun hn ↦ he (hn.2 ▸ hk)).2

theorem move (h : Migrating F G k v) (ho : A.once)
    (hA : ∀ s u, A.migrates k s u → s ≠ .connectedMigrating ∧ F u) (hb : Base v) (hv : Served v)
    (hm : Move A v v') : Migrating F G k v' := by
  cases hm with
  | emit call _ => exact h.emit _
  | edit hc hq =>
    exact h.alike (alike_put hc (alike_of_kept ho hq.toKept)) (fun _ ↦ id) (List.Subset.refl _)
  | @create j c l ar hn hf =>
    have ht := turned_create (k := j) (c := c) hb (v.calls ++ [.requested l j ar])
    have hc : ∀ i, ¬ Replaces i c := by simp [Replaces, hf.state]
    by_cases hj : k = j
    · subst hj
      -- nothing was known of the client before
      have hk : ¬ G := fun hG ↦ hn (h.known hG).1
      refine of_none (fun a x hx hr ↦ ?_) (absurd · hk) (absurd · hk)
      rcases ht.replaces k a x hx hr with ⟨_, rfl⟩ | ⟨_, hx⟩
      · exact hc k hr
      · exact hn ((hb.each a x hx).announced k (.inr hr.2))
    · exact h.turn ht hj (hc k) (List.subset_append_left _ _)
  | complete _ _ _ => exact h.emit _
  | openFailed _ _ => exact h.emit _
  | @attach j r c c' u ar hj hno _ ht =>
    obtain ⟨-, hn, -, hs⟩ := hno ho
    refine h.alike (alike_put hj.2 ⟨fun i hi ↦ ?_, ?_, fun hc ↦ absurd hn hc.1⟩) (fun _ ↦ id)
      (List.subset_append_left _ _)
    · rw [Replaces, ht.state] at hi
      cases hi.1
    · simp [ht.state, hs]
  | relink hno _ _ => exact absurd ho hno
  | @migrate j r c c' sw u ar hj _ _ _ hy hg =>
    let call := Call.openConnection u (some j) ar (some v.nextServerId)
    have ht := turned_migrate hb hv hj hg (v.calls ++ [call])
    have hs : v.calls ⊆ v.calls ++ [call] := List.subset_append_left _ _
    by_cases hjk : k = j
    · subst hjk
      obtain ⟨hst, hF⟩ := hA _ _ hy
      -- the client did not wait, so that this is its only replacement
      have hn := fun a x hx hk ↦ (ht.replaces k a x hx hk).resolve_right fun hx ↦
        hst (h.waiting a x r c hx.2 hk hj)
      exact
        { sole := fun a x b y hx hk hy hk' ↦ (hn a x hx hk).1.trans (hn b y hy hk').1.symm
          waiting := fun _ _ a x _ _ hx ↦ ht.client a x hx ▸ hg.state
          replaced := fun a x hx hk ↦ by
            rw [(hn a x hx hk).2]
            exact ⟨by simp [hg.sw_serverId], u, hg.sw_upstream, hF⟩
          own := fun _ a x hx hs ↦ absurd (ht.client a x hx ▸ hg.state) hs
          known := fun hG ↦ ⟨(h.known hG).1.mono hs, excluded_mono (h.known hG).2 hs⟩ }
    · exact h.turn ht hjk
        (fun hk ↦ hjk (some.inj (hk.2.symm.trans hg.sw_migratingClientId))) hs
  | @switch j s r r₀ c c' c₀ c₀' hr hs hmk hj _ hsw =>
    have ht := turned_switch hb hv hr ⟨hs, hmk⟩ hj hsw
    have hc : ∀ i, ¬ Replaces i c' := by simp [Replaces, hsw.state]
    by_cases hjk : k = j
    · subst hjk
      refine of_none (fun a x hx hk ↦ ?_) (fun _ a x hx ↦ ?_) h.known
      · obtain ⟨ha, hx⟩ := (ht.replaces k a x hx hk).resolve_left fun he ↦ hc k (he.2 ▸ hk)
        exact ha (h.sole a x r c hx hk hr.2 ⟨hs, hmk⟩)
      · rw [ht.client a x hx]
        exact (h.replaced r c hr.2 ⟨hs, hmk⟩).congr hsw.serverId hsw.upstream
    · exact h.turn ht hjk (hc k) (List.Subset.refl _)
  | @forgetClient j r c hj _ =>
    refine h.alike (fun _ x hx ↦ ⟨x, hx, .refl⟩) (fun a ha ↦ ?_) (List.Subset.refl _)
    by_cases hjk : k = j
    · simp [hjk] at ha
    · simpa [hjk] using ha
  | forgetServer _ _ =>
    exact h.alike (fun _ x hx ↦ ⟨x, hx, .refl⟩) (fun _ ↦ id) (List.Subset.refl _)
  | @destroy r c cs hc _ _ =>
    refine h.alike (fun a x hx ↦ ⟨x, ?_, .refl⟩) (fun _ ha ↦ (eraseKey_eq_some.1 ha).1)
      (List.subset_append_left _ _)
    have hne : a ≠ r := by
      rintro rfl
      simp at hx
    exact (update_of_ne hne _ _).symm.trans hx
  | flush u sent hj hk _ _ _ =>
    exact h.alike (alike_put hj.2 (alike_of_kept ho hk)) (fun _ ↦ id) (List.subset_append_left _ _)
  | take d hj hk _ _ _ =>
    exact h.alike (alike_put hj.2 (alike_of_kept ho hk)) (fun _ ↦ id) (List.subset_append_left _ _)
  | forward _ _ _ _ _ _ => exact h.emit _
  | discard _ _ _ => exact h.emit _

theorem moves (h : Migrating F G k v) (ho : A.once)
    (hA : ∀ s u, A.migrates k s u → s ≠ .connectedMigrating ∧ F u) (hg : Good A v)
    (hm : ReflTransGen (Move A) v v') : Migrating F G k v' := by
  induction hm with
  | refl => exact h
  | tail hs hm ih =>
    have hg' := good_of_moves hg hs
    exact ih.move ho hA hg'.base (hg'.served ho) hm

end Migrating

def isExcluded (calls : List Call) (k : ℕ) : Bool :=
  calls.any fun
    | .lookedUp id source _ status => id == some k && source != .incoming && status == .exclusion
    | _ => false

theorem isExcluded_of_excluded {cs : List Call} (h : Excluded cs k) : isExcluded cs k = true := by
  obtain ⟨s, d, hs, hm⟩ := h
  exact List.any_eq_true.2 ⟨_, hm, by simpa using hs⟩

/-- A client whose domain is looked up, or whose connection is fake, is read only while it does not
migrate, and only if no exclusion was found in what it sent before. -/
def migratesOnce (t : Tunnel) (label : Env × Input) : Bool :=
  match label.2 with
  | .clientRead id _ =>
    (t.byClientId (some id)).all fun (_, c) ↦
      !(c.flags.lookingupDomain || c.flags.fakeConnection) ||
        (c.state != .connectedMigrating && !isExcluded t.calls id)
  | _ => true

def excludedFrom : VpnMode → Upstream → Bool
  | .general, .endpoint _ => true
  | .selective, .bypass => true
  | _, _ => false

def findsExcluded (t : Tunnel) (env : Env) (k : ℕ) : Bool :=
  (t.byClientId (some k)).any fun (r, c) ↦
    c.flags.lookingupDomain && (passThroughDomainLookup t env r c .outgoing).2 == .shutdown

def waits (t : Tunnel) (k : ℕ) : Bool :=
  (t.byClientId (some k)).any fun (_, c) ↦ c.state == .connectedMigrating

def SoleReplacements (t : Tunnel) : Prop :=
  ∀ k r c r' c', t.connections.get r = some c → Replaces k c → t.connections.get r' = some c' →
    Replaces k c' → r = r'

/-- The client `k` does not migrate to upstreams other than those of `F`. -/
def watching (F : Upstream → Prop) (k : ℕ) : Assumptions :=
  { once := True, migrates := fun j state u ↦ state ≠ .connectedMigrating ∧ (j = k → F u) }

theorem lenient_watching : Lenient (watching F k) := ⟨id, fun _ ↦ trivial⟩

section Runs

variable {t t' t₀ t₁ : Tunnel} {env : Env} {label : Env × Input}

theorem excludedFrom_exclusionAction {u : Upstream}
    (h : forcedUpstream t (exclusionAction env) = some u) : excludedFrom env.mode u = false := by
  unfold exclusionAction at h
  cases hm : env.mode <;> simp only [hm, vpnModeToAction, invertAction, forcedUpstream] at h
  · cases h
    rfl
  · obtain ⟨s, -, rfl⟩ := map_eq_some_iff.1 h
    rfl

/-- A packet that can still move the connection finds it not moved. -/
theorem unsettled_of_migratesOnce {p : Packet} (h : migratesOnce t (env, .clientRead k p) = true)
    (hk : t.byClientId (some k) = some (r, c))
    (hf : c.flags.lookingupDomain = true ∨ c.flags.fakeConnection = true) :
    c.state ≠ .connectedMigrating ∧ ¬ Excluded t.calls k := by
  have hn : isExcluded t.calls k = false ∧ c.state ≠ .connectedMigrating := by
    rcases hf with hf | hf <;> simpa [migratesOnce, hk, hf, and_comm] using h
  exact ⟨hn.2, fun he ↦ by simp [isExcluded_of_excluded he] at hn⟩

theorem meets_watching (he : completesOnce t label = true) (h : migratesOnce t label = true)
    (hF : ∀ packet r c, label.2 = .clientRead k packet → t.byClientId (some k) = some (r, c) →
      (c.flags.lookingupDomain = true →
        (passThroughDomainLookup t label.1 r c .outgoing).2 = .shutdown →
          ∀ t₁ u, forcedUpstream t₁ (exclusionAction label.1) = some u → F u) ∧
      ((c.flags.lookingupDomain = true →
          (passThroughDomainLookup t label.1 r c .outgoing).2 ≠ .shutdown) →
        c.flags.fakeConnection = true → ∀ u, F u)) :
    Meets (watching F k) t label := by
  refine lenient_watching.meets nofun (fun _ ↦ he) nofun nofun fun id packet hl r c hk ↦ ?_
  obtain ⟨env, input⟩ := label
  cases hl
  refine ⟨fun ho hs ↦ ⟨lenient_watching.mayOpen, fun t₁ u hu ↦
    ⟨(unsettled_of_migratesOnce h hk (.inl ho)).1, ?_⟩⟩, fun hs hf ↦
    ⟨lenient_watching.mayOpen, fun u ↦ ⟨(unsettled_of_migratesOnce h hk (.inr hf)).1, ?_⟩⟩,
    nofun, nofun⟩
  · rintro rfl
    exact (hF packet r c rfl hk).1 ho hs t₁ u hu
  · rintro rfl
    exact (hF packet r c rfl hk).2 hs hf u

/-- The step lemma for one client `k`. -/
theorem migrating_step (hg : Good (watching F k) (view t)) (h : Migrating F G k (view t))
    (hm : Meets (watching F k) t label) (hs : step t label = some t') :
    Good (watching F k) (view t') ∧ Migrating F G k (view t') := by
  have ht := step_steps hm hs
  have hy : ∀ s u, (watching F k).migrates k s u → s ≠ .connectedMigrating ∧ F u :=
    fun _ _ hy ↦ ⟨hy.1, hy.2 rfl⟩
  exact ⟨ht.good hg, h.moves trivial hy hg (ht hg)⟩

theorem migrating_of_run {ls : List (Env × Input)} (h₀ : Initial t₀) (k : ℕ)
    (h : Run step (fun t l ↦ completesOnce t l = true ∧ migratesOnce t l = true) t₀ ls t) :
    Good (watching (fun _ ↦ True) k) (view t) ∧ Migrating (fun _ ↦ True) False k (view t) := by
  refine h.invariant (P := fun t ↦ Good (watching (fun _ ↦ True) k) (view t) ∧
    Migrating (fun _ ↦ True) False k (view t))
    ⟨initial_good h₀, .of_none (fun r c hr ↦ ?_) nofun nofun⟩ ?_
  · simp [view, h₀.1, Store.get] at hr
  · rintro t l t' ⟨hg, hm⟩ ⟨ho, hk⟩ hs
    exact migrating_step hg hm (meets_watching ho hk fun _ _ _ _ _ ↦
      ⟨fun _ _ _ _ _ ↦ trivial, fun _ _ _ ↦ trivial⟩) hs

theorem excluded_clientRead {p : Packet} (hg : Good (watching F k) (view t))
    (hl : (t.lockListener c).isSome) (hk : t.byClientId (some k) = some (r, c))
    (h : c.flags.lookingupDomain = true)
    (ht : (passThroughDomainLookup t env r c .outgoing).2 = .shutdown)
    (hm : MayMove (watching F k) t env k r c) :
    (clientRead t env k p).1 = t ∨ Excluded (clientRead t env k p).1.calls k := by
  have hc := byClientId_eq_some.1 hk
  have hex := passThroughDomainLookup_shutdown (by simp) ht
  rw [hg.base.clientId_eq hc] at hex
  have hn := @notes_passThroughDomainLookup t env r c .outgoing
  have hto := hn.steps (A := watching F k)
  have hh := hn.harmless
  have ho := hm.excluded h ht
  unfold clientRead
  simp only [hk, h, ↓reduceIte]
  split
  · exact .inl rfl
  · rename_i upstream hu
    have hr : Readable (watching F k) t k r c upstream :=
      ⟨hc, lockUpstream_eq hu, hl, nofun, nofun, nofun⟩
    unfold lookupRead
    generalize passThroughDomainLookup t env r c .outgoing = res at hex hn hto hh ht ⊢
    obtain ⟨t₁, a⟩ := res
    obtain rfl : a = .shutdown := ht
    obtain ⟨x, hx, he⟩ := hr.harmless hh
    have hge : t₁.connections.get r = some x := hx.client.2
    have hst := (copy_of_essentials he).state
    simp only [hge, getD_some]
    have hs : Steps (watching F k) t₁ (rerouteRead t₁ env r x upstream p).1 :=
      steps_rerouteRead hx hex (lenient_watching.mayOpen) (hst ▸ ho.2) nofun
    exact .inr (excluded_mono hex (subset_of_moves (hs (hto.good hg))))

/-- If no client is read with its lookup open while it migrates or after an exclusion was found, no
client has two replacements, and one that migrates because of an excluded domain stays away from the
upstream that it is excluded from. -/
theorem excluded_clients_migrate_once {labels : List (Env × Input)} (h₀ : Initial t₀)
    (h : Run step (fun t label ↦ completesOnce t label = true ∧ migratesOnce t label = true)
      t₀ labels t) :
    SoleReplacements t ∧ ∀ env k packet t₁ labels' t₂, findsExcluded t env k = true →
      migratesOnce t (env, .clientRead k packet) = true →
      step t (env, .clientRead k packet) = some t₁ → waits t₁ k = true →
      Run step (fun t label ↦ completesOnce t label = true ∧ migratesOnce t label = true)
        t₁ labels' t₂ →
      ∀ r c, t₂.byClientId (some k) = some (r, c) → c.state ≠ .connectedMigrating →
        ∃ u, c.upstream = some u ∧ excludedFrom env.mode u = false := by
  refine ⟨fun k ↦ (migrating_of_run h₀ k h).2.sole, ?_⟩
  intro env k packet t₁ labels' t₂ hfi hok hs hwa hr
  obtain ⟨⟨r, c⟩, hk, hc⟩ := (any_eq_true _ _).1 hfi
  obtain ⟨hlo, hshut⟩ : c.flags.lookingupDomain = true ∧
      (passThroughDomainLookup t env r c .outgoing).2 = .shutdown := by simpa using hc
  obtain ⟨⟨r₁, c₁⟩, hk₁, hc₁⟩ := (any_eq_true _ _).1 hwa
  have hw : c₁.state = .connectedMigrating := by simpa using hc₁
  obtain ⟨hd, hi⟩ := migrating_of_run h₀ k h
  let F : Upstream → Prop := fun u ↦ excludedFrom env.mode u = false
  have hg : Good (watching F k) (view t) := ⟨hd.base, hd.served⟩
  have hcl := byClientId_eq_some.1 hk
  have ha := (unsettled_of_migratesOnce hok hk (.inl hlo)).1
  have hme : Meets (watching F k) t (env, .clientRead k packet) := by
    refine meets_watching rfl hok fun _ a x _ hx ↦
      ⟨fun _ _ _ _ hu ↦ excludedFrom_exclusionAction hu, fun hno ↦ ?_⟩
    cases hk.symm.trans hx
    exact absurd hshut (hno hlo)
  -- nothing replaces the client yet
  have hn : Migrating F False k (view t) :=
    .of_none (fun a x hx hre ↦ ha (hi.waiting a x r c hx hre hcl)) nofun nofun
  obtain ⟨hg₁, hmig₁⟩ := migrating_step hg hn hme hs
  have hex : Excluded t₁.calls k := by
    unfold step at hs
    split at hs
    · rename_i hp
      cases hs
      have hl : (t.lockListener c).isSome := by simpa [possible, Tunnel.listening, hk] using hp
      refine (excluded_clientRead hg hl hk hlo hshut
        (hme.migrates k packet rfl r c hk)).resolve_left fun he ↦ ha ?_
      rw [show handle t env (.clientRead k packet) = _ from he, hk] at hk₁
      cases hk₁
      exact hw
    · cases hs
  have han : Announced t₁.calls k := by
    have hcl₁ := byClientId_eq_some.1 hk₁
    exact (hg₁.base.each _ _ hcl₁.2).announced k (.inl (hg₁.base.clientId_eq hcl₁))
  have ht : Migrating F True k (view t₁) :=
    { hmig₁ with
      own := fun _ a x hx hne ↦ by
        cases (byClientId_eq_some.2 hx).symm.trans hk₁
        exact absurd hw hne
      known := fun _ ↦ ⟨han, hex⟩ }
  have hen := hr.invariant
    (P := fun t ↦ Good (watching F k) (view t) ∧ Migrating F True k (view t)) ⟨hg₁, ht⟩ ?_
  · intro a x hx hne
    exact (hen.2.own trivial a x (byClientId_eq_some.1 hx) hne).2
  · rintro t label t' ⟨hg, hm⟩ ⟨ho, hok⟩ hs
    refine migrating_step hg hm (meets_watching ho hok fun packet a x hl hx ↦ ?_) hs
    obtain ⟨env, input⟩ := label
    cases hl
    -- the lookup of the client has ended
    have hse := fun hf ↦ (unsettled_of_migratesOnce hok hx hf).2 (hm.known trivial).2
    exact ⟨fun hlo ↦ absurd (.inl hlo) hse, fun _ hf ↦ absurd (.inr hf) hse⟩

/-- The client migrates around the tunnel with its first packet. -/
theorem excluded_clients_migrate_once_of_hello :
    ∃ labels t t₁ labels' t₂, Run step (fun t label ↦ completesOnce t label = true ∧
        migratesOnce t label = true) {} labels t ∧ SoleReplacements t ∧
      step t (excludedHello, .clientRead 1 [22]) = some t₁ ∧
      Run step (fun t label ↦ completesOnce t label = true ∧ migratesOnce t label = true)
        t₁ labels' t₂ ∧
      ∃ r c u, t₂.byClientId (some 1) = some (r, c) ∧ c.upstream = some u ∧
        excludedFrom excludedHello.mode u = false := by
  obtain ⟨t, hr, hp⟩ := exists_run_of_execWhile step
    (fun t label ↦ completesOnce t label = true ∧ migratesOnce t label = true) {} connectedRun
    (fun t ↦ findsExcluded t excludedHello 1 &&
      migratesOnce t (excludedHello, .clientRead 1 [22]) &&
      (step t (excludedHello, .clientRead 1 [22])).any fun t₁ ↦ waits t₁ 1 &&
        (execWhile step (fun t label ↦ completesOnce t label = true ∧
            migratesOnce t label = true) t₁
          [({}, .serverOpened .bypass 1)]).any fun t₂ ↦
            (t₂.byClientId (some 1)).any fun x ↦ x.2.state != .connectedMigrating) (by decide)
  simp only [Bool.and_eq_true, any_eq_true] at hp
  obtain ⟨⟨hf, ho⟩, t₁, hs, hw, t₂, ht₂, ⟨r, c⟩, hk, hn⟩ := hp
  have hr' := run_of_execWhile ht₂
  obtain ⟨he, hm⟩ := excluded_clients_migrate_once ⟨rfl, rfl⟩ hr
  obtain ⟨u, hu, hx⟩ := hm excludedHello 1 [22] t₁ _ t₂ hf ho hs hw hr' r c hk
    (by simpa using hn)
  exact ⟨_, t, t₁, _, t₂, hr, he, hs, hr', r, c, u, hk, hu, hx⟩

def scannedQuic (status : DomainExtractorStatus) : Env :=
  { exclusionsScannablePorts := (· == 443), matchTag := fun _ _ ↦ (.suspectExclusion, none)
    quicHeader := .initial true, extracted := ⟨status, "example.org"⟩
    matchDomain := fun _ ↦ .exclusion, acceptsNow := true }

def unfinishedQuic : List Input :=
  [.endpointReplaced (some 0), .sessionOpened (.endpoint 0),
    .connectRequest .client { id := 1, protocol := .udp, addr := webServer },
    .finalizeConnectAction { id := 1, action := none }, .completeConnectRequest 1 none,
    .serverOpened .fake 0, .clientRead 1 [1], .clientRead 1 [2], .clientRead 1 [3],
    .clientRead 1 [4]]

/-- The name is complete with the fifth packet only, after the client began to migrate into the
tunnel: it migrates a second time, around it, and ends up in the tunnel. -/
theorem excluded_client_migrates_twice :
    ∃ labels t t₁ labels' t₂, Run step (fun t label ↦ completesOnce t label = true) {} labels t ∧
      findsExcluded t (scannedQuic .found) 1 = true ∧
      step t (scannedQuic .found, .clientRead 1 [5]) = some t₁ ∧ waits t₁ 1 = true ∧
      ¬ SoleReplacements t₁ ∧
      Run step (fun t label ↦ completesOnce t label = true) t₁ labels' t₂ ∧
      ∃ r c, t₂.byClientId (some 1) = some (r, c) ∧ c.state ≠ .connectedMigrating ∧
        c.upstream = some (.endpoint 0) ∧ excludedFrom .general (.endpoint 0) = true := by
  obtain ⟨t, hr, hp⟩ := exists_run_of_execWhile step (fun t label ↦ completesOnce t label = true) {}
    (unfinishedQuic.map (scannedQuic .wantMore, ·))
    (fun t ↦ findsExcluded t (scannedQuic .found) 1 &&
      (step t (scannedQuic .found, .clientRead 1 [5])).any fun t₁ ↦ waits t₁ 1 &&
        ([1, 2].all fun r ↦ (t₁.connections.get r).any fun c ↦
          c.state == .waitingResponseMigrating && c.migratingClientId == some 1) &&
        (execWhile step (fun t label ↦ completesOnce t label = true) t₁
          [({}, .serverOpened .bypass 2), ({}, .serverOpened (.endpoint 0) 1)]).any fun t₂ ↦
            (t₂.byClientId (some 1)).any fun x ↦
              x.2.state != .connectedMigrating && x.2.upstream == some (.endpoint 0))
    (by decide +kernel)
  simp only [Bool.and_eq_true, any_eq_true, List.all_cons, List.all_nil, and_true,
    beq_iff_eq, bne_iff_ne] at hp
  obtain ⟨hf, t₁, hs, ⟨hw, ⟨c₁, hc₁, hr₁⟩, c₂, hc₂, hr₂⟩, t₂, ht₂, ⟨r, c⟩, hk, hc⟩ := hp
  refine ⟨_, t, t₁, _, t₂, hr, hf, hs, hw, fun he ↦ ?_, run_of_execWhile ht₂,
    r, c, hk, hc.1, hc.2, rfl⟩
  exact absurd (he 1 1 c₁ 2 c₂ hc₁ hr₁ hc₂ hr₂) (by decide)

end Runs

end TrustTunnel.Traffic.Migrations

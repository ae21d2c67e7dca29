import TrustTunnel.Connector.Moves

namespace TrustTunnel.Connector.LiveSessions

open Connector.Composition Handover Lib.Trace Lib.Transition Moves Session.Types List
open Session.Client (DeferredTask Event)
open Single hiding State Event

variable {m : Limits} {v w : View} {g id : ℕ} {r : Record} {u : ServerUpstream}

def connectOf : Record → ℕ
  | .connectReturned g _ _ _ => g
  | .disconnectCalled g => g
  | .sessionEnded g _ => g
  | .errorArose g _ => g
  | .raised g _ _ => g

def announces (g : ℕ) : Record → Bool
  | .raised g' .connected _ => g' == g
  | _ => false

def concludes (g : ℕ) : Record → Bool
  | .raised g' .disconnected _ => g' == g
  | .raised g' (.error _) _ => g' == g
  | _ => false

def Over (upstream : Option ServerUpstream) : Prop :=
  ∀ u, upstream = some u → u.session = .ended ∨ u.session = .closed

def Opened (upstream : Option ServerUpstream) : Prop := ∃ u, upstream = some u ∧ u.session = .opened

/-- The end of the session has yet to be reported. -/
def Unreported (v : View) : Prop :=
  v.state = .disconnecting ∧ ∃ u, v.upstream = some u ∧ u.session = .ended

def Allowed (before : List Record) : Record → Prop
  | .raised g event upstream => .disconnectCalled g ∉ before ∧
      (event = .connected → Opened upstream ∧ ∃ started bypassOpened returned,
        .connectReturned g started bypassOpened returned ∈ before ∧ returned.code = .noerror)
  | .sessionEnded g _ => before.countP (concludes g) = 0
  | _ => True

structure Sessions (v : View) : Prop where
  placed : Placed v
  disconnected : v.state = .disconnected → Over v.upstream
  connecting : v.state = .connecting → .connectorFinalizer ∉ v.tasks →
    Over v.upstream ∧ ∀ c, v.connector = some c → HandsOpen c
  handed : v.state = .connecting → .connectorFinalizer ∈ v.tasks → v.pending = none →
    Opened v.upstream
  failed : v.state = .connecting → .connectorFinalizer ∈ v.tasks → v.pending ≠ none →
    Over v.upstream
  connected : v.state = .connected → Opened v.upstream
  disconnecting : v.state = .disconnecting → .deferredDisconnect ∈ v.tasks ∧
    ∃ u, v.upstream = some u ∧ (u.session = .opened ∨ u.session = .ended)

structure Told (v : View) : Prop where
  connects : ∀ r ∈ v.trace, connectOf r ≤ v.connects
  announced : ∀ g, v.trace.countP (announces g) ≤ 1
  concluded : ∀ g, v.trace.countP (concludes g) ≤ 1
  unannounced : v.state = .connecting → v.trace.countP (announces v.connects) = 0
  unconcluded : v.state ≠ .disconnected → v.trace.countP (concludes v.connects) = 0 ∧
    .disconnectCalled v.connects ∉ v.trace ∧ ∃ started bypassOpened returned,
      .connectReturned v.connects started bypassOpened returned ∈ v.trace ∧
        returned.code = .noerror
  ended : ∀ g id, .sessionEnded g id ∈ v.trace → v.trace.countP (concludes g) = 1 ∨
    g = v.connects ∧ Unreported v
  allowed : Guarded Allowed v.trace

theorem over_closed (um : Option ServerUpstream) : Over (closed um) := by
  intro u hu
  obtain ⟨u', -, rfl⟩ := Option.map_eq_some_iff.1 hu
  exact .inr rfl

theorem ended_of_raise {u' : ServerUpstream} {e : ServerEvent}
    (hs : endsSession e = true) (h : u.raise e = some u') : u'.session = .ended := by
  obtain ⟨id, s⟩ := u
  cases e <;> cases hs <;> cases s <;> cases h <;> rfl

theorem Over.raise {um : Option ServerUpstream} (h : Over um) (hu : um = some u)
    (e : ServerEvent) : u.raise e = none := by
  obtain ⟨id, session⟩ := u
  rcases h _ hu with hs | hs <;> cases hs <;> cases e <;> rfl

theorem Sessions.over_or_live (h : Sessions v) : Over v.upstream ∨
    ∃ u, v.upstream = some u ∧ (u.session = .opened ∨ u.session = .ended) := by
  have hop : Opened v.upstream →
      ∃ u, v.upstream = some u ∧ (u.session = .opened ∨ u.session = .ended) :=
    fun ⟨u, hu, hs⟩ ↦ ⟨u, hu, .inl hs⟩
  cases hst : v.state with
  | disconnected => exact .inl (h.disconnected hst)
  | connecting =>
    by_cases htask : .connectorFinalizer ∈ v.tasks
    · by_cases hpend : v.pending = none
      · exact .inr (hop (h.handed hst htask hpend))
      · exact .inl (h.failed hst htask hpend)
    · exact .inl (h.connecting hst htask).1
  | connected => exact .inr (hop (h.connected hst))
  | disconnecting => exact .inr (h.disconnecting hst).2

theorem Sessions.not_reopened (h : Sessions v) (hu : v.upstream = some u) :
    u.raise .sessionOpened = none := by
  rcases h.over_or_live with ho | ⟨u', hu', hs⟩
  · exact ho.raise hu _
  · obtain rfl : u = u' := Option.some.inj (hu.symm.trans hu')
    obtain ⟨id, s⟩ := u
    rcases hs with hs | hs
    · cases hs
      rfl
    · cases hs
      rfl

theorem Sessions.state_of_end (h : Sessions v) (hn : v.connector = none)
    {u' : ServerUpstream} {e : ServerEvent} (hu : v.upstream = some u)
    (hr : u.raise e = some u') : v.state = .connected ∨ v.state = .disconnecting := by
  cases hst : v.state with
  | disconnected =>
    rw [(h.disconnected hst).raise hu] at hr
    cases hr
  | connecting => exact absurd hst (h.placed.ne_connecting hn)
  | connected => exact .inl rfl
  | disconnecting => exact .inr rfl

theorem Sessions.congr (h : Sessions v) (hpl : Placed w) (hs : w.state = v.state)
    (hn : w.connector = v.connector) (ht : ∀ t, t ∈ w.tasks ↔ t ∈ v.tasks)
    (hd : w.pending = v.pending) (hu : w.upstream = v.upstream) : Sessions w where
  placed := hpl
  disconnected := by
    rw [hs, hu]
    exact h.disconnected
  connecting := by
    rw [hs, hu, hn, ht]
    exact h.connecting
  handed := by
    rw [hs, hu, hd, ht]
    exact h.handed
  failed := by
    rw [hs, hu, hd, ht]
    exact h.failed
  connected := by
    rw [hs, hu]
    exact h.connected
  disconnecting := by
    rw [hs, hu, ht]
    exact h.disconnecting

theorem sessions_of_disconnected (hp : Placed w) (ht : w.state = .disconnected)
    (h : Over w.upstream) : Sessions w := by
  refine ⟨hp, fun _ ↦ h, ?_, ?_, ?_, ?_, ?_⟩
  all_goals
    intro hs
    rw [ht] at hs
    cases hs

theorem sessions_of_disconnecting (hp : Placed w) (ht : w.state = .disconnecting)
    (h : .deferredDisconnect ∈ w.tasks)
    (hu : ∃ u, w.upstream = some u ∧ (u.session = .opened ∨ u.session = .ended)) : Sessions w := by
  refine ⟨hp, ?_, ?_, ?_, ?_, ?_, fun _ ↦ ⟨h, hu⟩⟩
  all_goals
    intro hs
    rw [ht] at hs
    cases hs

theorem sessions_of_connecting (hp : Placed w) (hst : w.state = .connecting)
    (h : .connectorFinalizer ∉ w.tasks → Over w.upstream ∧ ∀ c, w.connector = some c → HandsOpen c)
    (ha : .connectorFinalizer ∈ w.tasks →
      (w.pending = none → Opened w.upstream) ∧ (w.pending ≠ none → Over w.upstream)) :
    Sessions w := by
  refine ⟨hp, ?_, fun _ ↦ h, fun _ ht ↦ (ha ht).1, fun _ ht ↦ (ha ht).2, ?_, ?_⟩
  all_goals
    intro hs
    rw [hst] at hs
    cases hs

theorem Sessions.move (ha : m.dnsFailure = false) (h : Sessions v) (he : Move m v w) :
    Sessions w := by
  have hl := h.placed.move he
  cases he with
  | connect c s bo r hst hc hre =>
    refine sessions_of_connecting hl rfl (fun _ ↦ ⟨h.disconnected hst, fun c' hc' ↦ ?_⟩) fun ht ↦ ?_
    · cases hc'
      exact hc
    · have hs := h.placed.state_of_task ht
      rw [hst] at hs
      cases hs
  | connectFailed s bo r hst hrs =>
    exact sessions_of_disconnected hl hst (over_closed _)
  | disconnectIdle hst => exact h.congr hl rfl rfl (fun _ ↦ Iff.rfl) rfl rfl
  | disconnect hst hpe => exact sessions_of_disconnected hl rfl (over_closed _)
  | @silent c c' hc hsp =>
    have hst := h.placed.state_of_connector hc
    refine sessions_of_connecting hl hst (fun ht ↦ ?_) fun ht ↦ ?_
    · obtain ⟨hr, ho⟩ := h.connecting hst ht
      refine ⟨hr, fun c₁ hc₁ ↦ ?_⟩
      cases hc₁
      obtain ⟨i, hi, hh⟩ := hsp
      exact (handsOpen_step (ho c hc) hh hi).1
    · exact ⟨h.handed hst ht, h.failed hst ht⟩
  | @outcomeError c c' e hc hsp =>
    have hst := h.placed.state_of_connector hc
    obtain ⟨hno, -⟩ := h.placed.raised hc hsp
    refine sessions_of_connecting hl hst (fun ht ↦ ?_) fun _ ↦ ⟨fun hp ↦ ?_, fun _ ↦ ?_⟩
    · exact absurd mem_concat_self ht
    · cases hp
    · exact (h.connecting hst hno).1
  | @outcome c c' u hc hsp =>
    have hst := h.placed.state_of_connector hc
    obtain ⟨hno, -⟩ := h.placed.raised hc hsp
    refine sessions_of_connecting hl hst (fun ht ↦ ?_)
      fun _ ↦ ⟨fun _ ↦ ⟨u, rfl, ?_⟩, fun hp ↦ absurd rfl hp⟩
    · exact absurd mem_concat_self ht
    · obtain ⟨i, hi, hh⟩ := hsp
      exact (handsOpen_step ((h.connecting hst hno).2 c hc) hh hi).2 u rfl
  | outcomeDns e hd hc hsp =>
    rw [ha] at hd
    cases hd
  | errorIgnored e => exact h.congr hl rfl rfl (fun _ ↦ Iff.rfl) rfl rfl
  | fail hst hda =>
    obtain ⟨u, hu, hs⟩ := h.connected hst
    exact sessions_of_disconnecting hl rfl
      mem_concat_self ⟨u, hu, .inl hs⟩
  | @sessionError u u' e hn hu hra hst =>
    have hg := (h.state_of_end hn hu hra).resolve_left hst
    exact sessions_of_disconnecting hl hg (h.disconnecting hg).1
      ⟨u', rfl, .inr (ended_of_raise rfl hra)⟩
  | @sessionErrorConnected u u' e hu hra hst =>
    exact sessions_of_disconnecting hl rfl
      mem_concat_self
      ⟨u', rfl, .inr (ended_of_raise rfl hra)⟩
  | @sessionClosed u u' hn hu hra =>
    refine sessions_of_disconnected hl rfl fun u₁ hu₁ ↦ .inl ?_
    cases hu₁
    exact ended_of_raise rfl hra
  | sessionOpened hu hra =>
    rw [h.not_reopened hu] at hra
    cases hra
  | finalizeError ht hpe =>
    refine sessions_of_disconnected hl rfl
      (h.failed (h.placed.state_of_task ht) ht fun hp ↦ ?_)
    rw [hpe] at hp
    cases hp
  | finalize ht hpe hst =>
    have hop := h.handed hst ht hpe
    exact ⟨hl, fun hs ↦ (by cases hs), fun hs ↦ (by cases hs), fun hs ↦ (by cases hs),
      fun hs ↦ (by cases hs), fun _ ↦ hop, fun hs ↦ (by cases hs)⟩
  | finalizeLate hst =>
    refine ⟨hl, h.disconnected, fun hs ↦ absurd hs hst, fun hs ↦ absurd hs hst,
      fun hs ↦ absurd hs hst, h.connected, fun hs ↦ ?_⟩
    exact ⟨(mem_erase_of_ne (by decide)).2 (h.disconnecting hs).1, (h.disconnecting hs).2⟩
  | deferred hst => exact sessions_of_disconnected hl rfl (over_closed _)
  | deferredLate hst =>
    have hme : .connectorFinalizer ∈ v.tasks.erase .deferredDisconnect ↔
        .connectorFinalizer ∈ v.tasks := mem_erase_of_ne (by decide)
    exact ⟨hl, h.disconnected, fun hs ht ↦ h.connecting hs (fun hm ↦ ht (hme.2 hm)),
      fun hs ht ↦ h.handed hs (hme.1 ht), fun hs ht ↦ h.failed hs (hme.1 ht),
      h.connected, fun hs ↦ absurd hs hst⟩

section Told

theorem not_unreported (h : v.state ≠ .disconnecting) : ¬Unreported v := fun hu ↦ h hu.1

structure Neutral (r : Record) : Prop where
  announces : ∀ g, announces g r = false
  concludes : ∀ g, concludes g r = false
  sessionEnded : ∀ g id, r ≠ .sessionEnded g id
  disconnectCalled : ∀ g, r ≠ .disconnectCalled g
  allowed : ∀ before, Allowed before r

theorem neutral_errorArose (g : ℕ) (e : VpnError) : Neutral (.errorArose g e) :=
  ⟨fun _ ↦ rfl, fun _ ↦ rfl, fun _ _ h ↦ (by cases h), fun _ h ↦ (by cases h), fun _ ↦ trivial⟩

theorem connectOf_of_announces (h : announces g r = true) : connectOf r = g := by
  cases r with
  | raised g' e u =>
    cases e with
    | connected => exact beq_iff_eq.1 h
    | _ => cases h
  | _ => cases h

theorem connectOf_of_concludes (h : concludes g r = true) : connectOf r = g := by
  cases r with
  | raised g' et u =>
    cases et with
    | connected => cases h
    | disconnected => exact beq_iff_eq.1 h
    | error e => exact beq_iff_eq.1 h
  | _ => cases h

section Concat

variable {r : Record} (htrace : w.trace = v.trace ++ [r])

include htrace

theorem countP_concat (p : Record → Bool) :
    w.trace.countP p = v.trace.countP p + if p r = true then 1 else 0 := by
  rw [htrace, countP_append, countP_singleton]

theorem countP_concat_of_not {p : Record → Bool} (hp : p r = false) :
    w.trace.countP p = v.trace.countP p := by
  rw [countP_concat htrace, hp, if_neg Bool.false_ne_true, Nat.add_zero]

theorem countP_concat_le {p : Record → Bool} (hl : v.trace.countP p ≤ 1)
    (hp : p r = true → v.trace.countP p = 0) : w.trace.countP p ≤ 1 := by
  rw [countP_concat htrace]
  split
  · next hr => rw [hp hr]
  · exact hl

theorem mem_concat {r' : Record} : r' ∈ w.trace ↔ r' ∈ v.trace ∨ r' = r := by
  rw [htrace, mem_append, mem_singleton]

theorem Told.connects_concat (h : Told v) (hl : v.connects ≤ w.connects)
    (hr : connectOf r ≤ w.connects) : ∀ r' ∈ w.trace, connectOf r' ≤ w.connects := by
  intro r' hr'
  rcases (mem_concat htrace).1 hr' with hr' | rfl
  · exact (h.connects r' hr').trans hl
  · exact hr

end Concat

theorem Told.record (h : Told v) (ht : w.trace = v.trace ++ [r])
    (hc : w.connects = v.connects) (hr : connectOf r ≤ v.connects)
    (ha : Allowed v.trace r) (hn : ∀ g, announces g r = true →
      g = v.connects ∧ v.state = .connecting ∧ w.state ≠ .connecting)
    (hcn : ∀ g, concludes g r = true →
      g = v.connects ∧ v.state ≠ .disconnected ∧ w.state = .disconnected)
    (hco : w.state = .connecting → v.state = .connecting)
    (hy : w.state ≠ .disconnected → v.state ≠ .disconnected ∧ r ≠ .disconnectCalled v.connects)
    (hen : ∀ g id, r = .sessionEnded g id → g = v.connects ∧ Unreported w)
    (hle : Unreported v → Unreported w ∨ concludes v.connects r = true) : Told w := by
  have hm {r'} : r' ∈ w.trace ↔ r' ∈ v.trace ∨ r' = r := mem_concat ht
  have hann₀ : ∀ g, announces g r = true → v.trace.countP (announces g) = 0 := by
    intro g hg
    obtain ⟨rfl, hs, -⟩ := hn g hg
    exact h.unannounced hs
  have hcon₀ : ∀ g, concludes g r = true → v.trace.countP (concludes g) = 0 := by
    intro g hg
    obtain ⟨rfl, hs, -⟩ := hcn g hg
    exact (h.unconcluded hs).1
  refine ⟨h.connects_concat ht hc.ge (hc.symm ▸ hr),
    fun g ↦ countP_concat_le ht (h.announced g) (hann₀ g),
    fun g ↦ countP_concat_le ht (h.concluded g) (hcon₀ g), fun hs ↦ ?_, fun hs ↦ ?_,
    fun g id hid ↦ ?_, ?_⟩
  · rw [hc, countP_concat_of_not ht]
    · exact h.unannounced (hco hs)
    · exact Bool.eq_false_iff.2 fun hg ↦ (hn _ hg).2.2 hs
  · obtain ⟨hv, hne⟩ := hy hs
    obtain ⟨hz, hno, s, bo, rd, hre, hce⟩ := h.unconcluded hv
    rw [hc, countP_concat_of_not ht]
    · refine ⟨hz, fun hd ↦ ?_, s, bo, rd, hm.2 (.inl hre), hce⟩
      exact (hm.1 hd).elim hno fun he ↦ hne he.symm
    · exact Bool.eq_false_iff.2 fun hg ↦ hs (hcn _ hg).2.2
  · rcases hm.1 hid with hid | hid
    · rcases h.ended g id hid with ho | ⟨rfl, hs⟩
      · left
        rw [countP_concat_of_not ht, ho]
        refine Bool.eq_false_iff.2 fun hg ↦ ?_
        rw [hcon₀ g hg] at ho
        cases ho
      · rcases hle hs with hw | hg
        · exact .inr ⟨hc.symm, hw⟩
        · exact .inl (by rw [countP_concat ht, if_pos hg, hcon₀ _ hg])
    · obtain ⟨rfl, hw⟩ := hen g id hid.symm
      exact .inr ⟨hc.symm, hw⟩
  · rw [ht]
    exact h.allowed.concat ha

theorem Told.neutral (h : Told v) (hr : Neutral r) (ht : connectOf r ≤ v.connects)
    (hs : w.state = v.state) (hn : w.connects = v.connects)
    (hu : Unreported v → Unreported w) (he : w.trace = v.trace ++ [r]) : Told w := by
  refine h.record he hn ht (hr.allowed _) ?_ ?_ ?_ ?_ ?_ fun hv ↦ .inl (hu hv)
  all_goals simp [hr.announces, hr.concludes, hr.sessionEnded, hr.disconnectCalled, hs]

theorem Told.congr (h : Told v) (hst : w.state = v.state) (hs : w.connects = v.connects)
    (hw : Unreported v → Unreported w) (ht : w.trace = v.trace) : Told w := by
  obtain ⟨hc, ha, hn, hun, hu, he, hg⟩ := h
  rw [← ht] at hc ha hn hun hu he hg
  rw [← hs] at hc hun hu he
  rw [← hst] at hun hu
  exact ⟨hc, ha, hn, hun, hu, fun g id hi ↦ (he g id hi).imp_right (.imp_right hw), hg⟩

theorem Told.startDisconnecting (h : Told v) (ht : v.state = .connected)
    (h' : w.state = .disconnecting) (hn : w.connects = v.connects)
    (he : w.trace = v.trace) : Told w := by
  have hd : v.state ≠ .disconnected := by
    rw [ht]
    decide
  refine ⟨?_, ?_, ?_, fun hs ↦ ?_, fun _ ↦ ?_, fun g id hi ↦ ?_, ?_⟩
  · rw [he, hn]
    exact h.connects
  · rw [he]
    exact h.announced
  · rw [he]
    exact h.concluded
  · rw [h'] at hs
    cases hs
  · rw [he, hn]
    exact h.unconcluded hd
  · rw [he] at hi ⊢
    refine (h.ended g id hi).imp_right fun hs ↦ absurd hs.2 (not_unreported ?_)
    rw [ht]
    decide
  · rw [he]
    exact h.allowed

theorem Told.endSession (h : Told v) (id : ℕ) (hs : v.state ≠ .disconnected)
    (h' : Unreported w) (hn : w.connects = v.connects)
    (he : w.trace = v.trace ++ [.sessionEnded v.connects id]) : Told w := by
  refine h.record he hn le_rfl (h.unconcluded hs).1 ?_ ?_ ?_ ?_ ?_ fun _ ↦ .inl h'
  all_goals simp [announces, concludes, hs, h', h'.1]

theorem Told.conclude (h : Told v) {e : Event} (hv : e ≠ .connected) (u : Option ServerUpstream)
    (hst : v.state ≠ .disconnected) (h' : w.state = .disconnected) (hs : w.connects = v.connects)
    (ht : w.trace = v.trace ++ [.raised v.connects e u]) : Told w := by
  have ha : ∀ g, announces g (.raised v.connects e u) = false := by
    intro g
    cases e with
    | connected => exact absurd rfl hv
    | _ => rfl
  have hc : concludes v.connects (.raised v.connects e u) = true := by
    cases e with
    | connected => exact absurd rfl hv
    | _ => exact beq_self_eq_true _
  refine h.record ht hs le_rfl ⟨(h.unconcluded hst).2.1, fun he ↦ absurd he hv⟩ ?_
    (fun g hg ↦ ⟨(connectOf_of_concludes hg).symm, hst, h'⟩) ?_ ?_ ?_ fun _ ↦ .inr hc
  all_goals simp [ha, h']

theorem Told.announce (h : Told v) (hop : Opened v.upstream) (hs : v.state = .connecting)
    (h' : w.state = .connected) (hn : w.connects = v.connects)
    (he : w.trace = v.trace ++ [.raised v.connects .connected v.upstream]) : Told w := by
  obtain ⟨-, ht, hr⟩ := h.unconcluded (by simp [hs])
  refine h.record he hn le_rfl ⟨ht, fun _ ↦ ⟨hop, hr⟩⟩
    (fun g hg ↦ ⟨(connectOf_of_announces hg).symm, hs, by simp [h']⟩) ?_ ?_ ?_ ?_ ?_
  all_goals simp [concludes, Unreported, hs, h']

theorem Told.disconnect (h : Told v) (hu : ¬Unreported v) (h' : w.state = .disconnected)
    (hn : w.connects = v.connects) (he : w.trace = v.trace ++ [.disconnectCalled v.connects]) :
    Told w := by
  refine h.record he hn le_rfl trivial ?_ ?_ ?_ ?_ ?_ fun hv ↦ absurd hv hu
  all_goals simp [announces, concludes, h']

theorem Told.connect (h : Told v) (s : Option VpnError) (bo : Bool) (returned : VpnError)
    (hst : v.state = .disconnected)
    (h' : w.state = .disconnected ∨ w.state = .connecting ∧ returned.code = .noerror)
    (hc : w.connects = v.connects + 1)
    (ht : w.trace = v.trace ++ [.connectReturned (v.connects + 1) s bo returned]) : Told w := by
  have hf : ∀ r, connectOf r = v.connects + 1 → r ∉ v.trace := by
    intro r hr hm
    have hl := h.connects r hm
    omega
  have hz : ∀ p : Record → Bool, (∀ r, p r = true → connectOf r = v.connects + 1) →
      v.trace.countP p = 0 :=
    fun p hp ↦ countP_eq_zero.2 fun r hr hpr ↦ hf r (hp r hpr) hr
  have ha := fun g ↦ countP_concat_of_not ht (p := announces g) rfl
  have hn := fun g ↦ countP_concat_of_not ht (p := concludes g) rfl
  have hm {r} : r ∈ w.trace ↔ r ∈ v.trace ∨
      r = .connectReturned (v.connects + 1) s bo returned := mem_concat ht
  refine ⟨h.connects_concat ht (hc ▸ Nat.le_succ _) hc.ge,
    fun g ↦ ha g ▸ h.announced g, fun g ↦ hn g ▸ h.concluded g,
    fun _ ↦ ?_, fun hs ↦ ⟨?_, fun hd ↦ ?_, ?_⟩, fun g id hi ↦ ?_, ?_⟩
  · rw [ha, hc]
    exact hz _ fun r ↦ connectOf_of_announces
  · rw [hn, hc]
    exact hz _ fun r ↦ connectOf_of_concludes
  · rw [hc] at hd
    exact hf _ rfl ((hm.1 hd).resolve_right fun he ↦ (by cases he))
  · refine ⟨s, bo, returned, hm.2 (.inr ?_), (h'.resolve_left hs).2⟩
    rw [hc]
  · rw [hn]
    have hi := (hm.1 hi).resolve_right fun he ↦ (by cases he)
    refine (h.ended g id hi).imp_right fun hs ↦ absurd hs.2 (not_unreported ?_)
    rw [hst]
    decide
  · rw [ht]
    exact h.allowed.concat trivial

theorem finalEvent_ne_connected (p : Option VpnError) : finalEvent p ≠ .connected := by
  cases p <;> exact fun h ↦ (by cases h)

theorem Told.move (ho : ∀ v, m.disconnects v → ¬Unreported v) (hs : Sessions v) (h : Told v)
    (hm : Move m v w) : Told w := by
  have hcn {c} (hc : v.connector = some c) : ¬Unreported v := by
    refine not_unreported ?_
    rw [hs.placed.state_of_connector hc]
    decide
  cases hm with
  | connect c s bo r hst hc hr =>
    exact h.connect s bo r hst (.inr ⟨rfl, hr⟩) rfl rfl
  | connectFailed s bo r hst hrs =>
    exact h.connect s bo r hst (.inl hst) rfl rfl
  | disconnectIdle hst =>
    exact h.disconnect (not_unreported fun he ↦ by rw [hst] at he; cases he) hst rfl rfl
  | disconnect hst hp => exact h.disconnect (ho v hp) rfl rfl rfl
  | silent hc hsp => exact h.congr rfl rfl id rfl
  | outcomeError hc hsp => exact h.neutral (neutral_errorArose _ _) le_rfl rfl rfl id rfl
  | outcome hc hsp => exact h.congr rfl rfl (fun hv ↦ absurd hv (hcn hc)) rfl
  | outcomeDns e ha hc hsp =>
    exact h.neutral (neutral_errorArose _ _) le_rfl rfl rfl (fun hv ↦ absurd hv (hcn hc)) rfl
  | errorIgnored e => exact h.neutral (neutral_errorArose _ _) le_rfl rfl rfl id rfl
  | fail hst hda => exact h.startDisconnecting hst rfl rfl rfl
  | @sessionError u u' e hn hu hra hst =>
    have hst' := (hs.state_of_end hn hu hra).resolve_left hst
    have hd : Told { v with
        upstream := some u', trace := v.trace ++ [.sessionEnded v.connects u'.id] } :=
      h.endSession u'.id (fun he ↦ by rw [hst'] at he; cases he)
        ⟨hst', u', rfl, ended_of_raise rfl hra⟩ rfl rfl
    exact hd.neutral (neutral_errorArose v.connects e) le_rfl rfl rfl id (append_cons ..)
  | @sessionErrorConnected u u' e hu hra hst =>
    have hd : Told { v with
        upstream := some u'
        state := .disconnecting, trace := v.trace ++ [.sessionEnded v.connects u'.id] } :=
      h.endSession u'.id (fun he ↦ by rw [hst] at he; cases he)
        ⟨rfl, u', rfl, ended_of_raise rfl hra⟩ rfl rfl
    exact hd.neutral (neutral_errorArose v.connects e) le_rfl rfl rfl id (append_cons ..)
  | @sessionClosed u u' hn hu hra =>
    have hst : v.state ≠ .disconnected := by
      intro he
      rw [(hs.disconnected he).raise hu] at hra
      cases hra
    have hd : Told { v with
        upstream := some u'
        state := .disconnecting, trace := v.trace ++ [.sessionEnded v.connects u'.id] } :=
      h.endSession u'.id hst ⟨rfl, u', rfl, ended_of_raise rfl hra⟩ rfl rfl
    exact hd.conclude (finalEvent_ne_connected v.pending) (some u') (fun he ↦ (by cases he)) rfl
      rfl (append_cons ..)
  | finalizeError ht hp =>
    have hst := hs.placed.state_of_task ht
    exact h.conclude (fun he ↦ (by cases he)) v.upstream (fun he ↦ by rw [hst] at he; cases he) rfl
      rfl rfl
  | finalize ht hp hst => exact h.announce (hs.handed hst ht hp) hst rfl rfl rfl
  | sessionOpened hu hra =>
    rw [hs.not_reopened hu] at hra
    cases hra
  | finalizeLate hst => exact h.congr rfl rfl id rfl
  | deferred hst =>
    exact h.conclude (finalEvent_ne_connected v.pending) (closed v.upstream)
      (fun he ↦ by rw [hst] at he; cases he) rfl rfl rfl
  | deferredLate hst => exact h.congr rfl rfl id rfl

/-- `disconnect` does not come between the end of a session and the task that reports it. -/
def reportsFirst (s : System) : Input → Bool
  | .disconnect => s.client.state != .disconnecting || !s.upstream.any (·.session == .ended)
  | _ => true

theorem not_unreported_of_reportsFirst {s : System} (h : reportsFirst s .disconnect = true) :
    ¬Unreported (view s) := by
  rintro ⟨hs, u, hu, he⟩
  change s.client.state = _ at hs
  change s.upstream = _ at hu
  simp [reportsFirst, hs, hu, he] at h

/-- The run lemma: each session is announced and concluded at most once. -/
theorem told_run {k : Bool} {s : System} {ls : List Input}
    (h : Run step (fun s i ↦ undisturbed ⟨false, true⟩ s i = true ∧ reportsFirst s i = true)
      (start k) ls s) : Sessions (view s) ∧ Told (view s) := by
  refine invariant_of_moves (P := fun v ↦ Sessions v ∧ Told v) (p := fun v ↦ ¬Unreported v)
    (fun v w hv hm ↦ ⟨hv.1.move rfl hm, hv.2.move (fun _ hu ↦ hu) hv.1 hm⟩)
    (fun s i hi ↦ ⟨hi.1, ?_⟩) h ⟨?_, ?_⟩
  · rintro rfl
    exact not_unreported_of_reportsFirst hi.2
  · refine sessions_of_disconnected ?_ rfl fun u hu ↦ (by cases hu)
    exact placed_of_idle (fun hs ↦ (by cases hs)) rfl not_mem_nil
  · exact ⟨fun r hr ↦ (by cases hr), fun _ ↦ Nat.zero_le 1, fun _ ↦ Nat.zero_le 1,
      fun _ ↦ rfl, fun hs ↦ absurd rfl hs, fun _ _ hr ↦ (by cases hr),
      guarded_nil⟩

end Told

/-- If no open session ends while there is a connector, the DNS listener starts, and `disconnect`
waits for the report of a session that has ended, `EVENT_CONNECTED` is raised once at most and with
an open session, the end of a session is reported once, and nothing after `disconnect`. -/
theorem live_sessions_reported {killSwitchOn : Bool} {s : System} {ls : List Input}
    (h : Run step (fun s input ↦ undisturbed ⟨false, true⟩ s input = true ∧
      reportsFirst s input = true) (start killSwitchOn) ls s) :
    (∀ g, s.trace.countP (announces g) ≤ 1) ∧
    (∀ before g u after, s.trace = before ++ .raised g .connected u :: after → Opened u ∧
      ∃ started bypassOpened returned,
        .connectReturned g started bypassOpened returned ∈ before ∧ returned.code = .noerror) ∧
    (∀ g, s.trace.countP (concludes g) ≤ 1) ∧
    (∀ g id, .sessionEnded g id ∈ s.trace → s.trace.countP (concludes g) = 1 ∨
      g = s.connects ∧ s.client.state = .disconnecting ∧
        .deferredDisconnect ∈ s.client.deferredTasks) ∧
    (∀ before g id after, s.trace = before ++ .sessionEnded g id :: after →
      before.countP (concludes g) = 0) ∧
    ∀ before g event u after, s.trace = before ++ .raised g event u :: after →
      .disconnectCalled g ∉ before := by
  obtain ⟨hs, ht⟩ := told_run h
  refine ⟨ht.announced, fun before g u after he ↦ ?_, ht.concluded, fun g id hi ↦ ?_,
    fun before g id after he ↦ ht.allowed before _ after he,
    fun before g event u after he ↦ (ht.allowed before _ after he).1⟩
  · exact (ht.allowed before _ after he).2 rfl
  · refine (ht.ended g id hi).imp_right fun hg ↦ ⟨hg.1, hg.2.1, ?_⟩
    exact (hs.disconnecting hg.2.1).1

/-- A session that fails after it was reported as connected. -/
theorem live_sessions_reported_of_failure :
    ∃ s, Run step (fun s input ↦ undisturbed ⟨false, true⟩ s input = true ∧
          reportsFirst s input = true) (start false)
        [.connect config false true true true, .connector (.childEvent .main .sessionOpened) none,
          .task .connectorFinalizer, .endpoint (.error ⟨.authRequired, "auth"⟩),
          .task .deferredDisconnect] s ∧
      s.trace.countP (announces 1) = 1 ∧ s.trace.countP (concludes 1) = 1 ∧
      ∀ g, s.trace.countP (concludes g) ≤ 1 :=
  exists_run_imp (P := fun s ↦ s.trace.countP (announces 1) = 1 ∧ s.trace.countP (concludes 1) = 1)
    (by decide) fun _ hr hp ↦ ⟨hp.1, hp.2, (live_sessions_reported hr).2.2.1⟩

def failingEarly : List Input :=
  [.connect config false true true true, .connector (.childEvent .main .sessionOpened) none,
    .endpoint (.error ⟨.authRequired, "auth"⟩), .task .connectorFinalizer]

/-- The client has no row for the error of a session while it is connecting: it announces the dead
session, and no task is left that would report its end. -/
theorem dead_session_announced :
    ∃ s, Run step anyStep (start false) failingEarly s ∧
      s.trace = [.connectReturned 1 none true ⟨.noerror, ""⟩, .sessionEnded 1 0,
        .errorArose 1 ⟨.authRequired, "auth"⟩, .raised 1 .connected (some ⟨0, .ended, .client⟩)] ∧
      s.client.state = .connected ∧ s.client.deferredTasks = [] :=
  exists_run (by decide)

end TrustTunnel.Connector.LiveSessions

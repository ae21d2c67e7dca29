import TrustTunnel.Traffic.Moves

namespace TrustTunnel.Traffic.Fake.Basic

open Function Relation Lib.TwoKeyStore Traffic.Types Moves List

def sendsOnFake : Call → Bool
  | .send .fake _ _ => true
  | _ => false

/-- Nothing is sent on the fake upstream, and nothing is scheduled that would do so. -/
structure Idle (v : View) : Prop where
  marked : ∀ r c, v.record r = some c → Marked v.calls c
  replaced : ∀ r c, v.record r = some c → c.state = .waitingResponseMigrating →
    c.upstream ≠ some .fake
  named : ∀ r c, v.record r = some c → c.flags.fakeConnection = true →
    c.flags.plainDnsConnection = false
  scheduled : ∀ r c, v.record r = some c → ∀ k, c.sendBufferedTask = some (some k) →
    Completed v.calls k
  untasked : ∀ r c k, v.record r = some c → c.clientId = some k → c.upstream = some .fake →
    v.Untasked k
  sent : ∀ call ∈ v.calls, sendsOnFake call = false

variable {A : Assumptions} {v v' : View} {r : ℕ} {c c' : VpnConnection}

theorem marked_mono {cs c' : List Call} (h : Marked cs c) (hc : cs ⊆ c') : Marked c' c := by
  intro k hk hu
  rcases h k hk hu with h | h | h
  · exact .inl h
  · exact .inr (.inl h)
  · exact .inr (.inr (hc h))

/-- What `Idle` asks of a record that is changed. -/
structure Edited (v : View) (r : ℕ) (c c' : VpnConnection) : Prop where
  marked : Marked v.calls c'
  replaced : c'.state = .waitingResponseMigrating → c'.upstream ≠ some .fake
  named : c'.flags.fakeConnection = true → c'.flags.plainDnsConnection = false
  scheduled : ∀ k, c'.sendBufferedTask = some (some k) → Completed v.calls k
  fake : ∀ k, c'.clientId = some k → c'.upstream = some .fake → v.Untasked k
  task : ∀ k, c'.sendBufferedTask = some (some k) → c.sendBufferedTask = some (some k) ∨
    c'.upstream ≠ some .fake ∧ ∀ a x, v.record a = some x → a ≠ r → x.clientId ≠ some k

namespace Idle

theorem restrict (h : Idle v) {cs : List Call}
    (he : ∀ a x, v'.record a = some x → v.record a = some x) (hc : v'.calls = v.calls ++ cs)
    (hs : ∀ cl ∈ cs, sendsOnFake cl = false) : Idle v' where
  marked r c hr := marked_mono (h.marked r c (he r c hr)) (hc ▸ subset_append_left _ _)
  replaced r c hr := h.replaced r c (he r c hr)
  named r c hr := h.named r c (he r c hr)
  scheduled r c hr k ht := (h.scheduled r c (he r c hr) k ht).mono (hc ▸ subset_append_left _ _)
  untasked r c k hr hk hu a x hx := h.untasked r c k (he r c hr) hk hu a x (he a x hx)
  sent cl hm := by
    rw [hc, mem_append] at hm
    exact hm.elim (h.sent cl) (hs cl)

theorem emit (h : Idle v) {cs : List Call}
    (hcs : ∀ c ∈ cs, sendsOnFake c = false) : Idle (v.emit cs) :=
  h.restrict (fun _ _ hx ↦ hx) rfl hcs

theorem put (h : Idle v) (hc : v.record r = some c) (he : Edited v r c c') :
    Idle (v.put r c') where
  marked := forall_update h.marked he.marked
  replaced := forall_update h.replaced he.replaced
  named := forall_update h.named he.named
  scheduled := forall_update h.scheduled he.scheduled
  untasked a x k hx hk hu b y hy ht := by
    -- the task of the record is new, or it has none for a client on the fake upstream
    have ho : v.Untasked k → c'.sendBufferedTask = some (some k) → c'.upstream ≠ some .fake ∧
        ∀ a x, v.record a = some x → a ≠ r → x.clientId ≠ some k := by
      intro hn ht
      exact (he.task k ht).resolve_left (hn r c hc)
    rcases update_eq_some.1 hx with ⟨rfl, rfl⟩ | ⟨ha, hx'⟩
    · have hn := he.fake k hk hu
      rcases update_eq_some.1 hy with ⟨rfl, rfl⟩ | ⟨-, hy⟩
      · exact (ho hn ht).1 hu
      · exact hn b y hy ht
    · have hn := h.untasked a x k hx' hk hu
      rcases update_eq_some.1 hy with ⟨rfl, rfl⟩ | ⟨-, hy⟩
      · exact (ho hn ht).2 a x hx' ha hk
      · exact hn b y hy ht
  sent := h.sent

theorem add (h : Idle v) (n : ℕ) (hu : c.upstream = some .fake → c.clientId = none)
    (hs : c.state = .waitingResponseMigrating → c.upstream ≠ some .fake)
    (hf : c.flags.fakeConnection = false) (ht : c.sendBufferedTask = none) :
    Idle { v with record := update v.record n (some c) } where
  marked := forall_update h.marked fun k hk he ↦ by
    rw [hu he] at hk
    cases hk
  replaced := forall_update h.replaced hs
  named := forall_update h.named fun he ↦ by
    rw [hf] at he
    cases he
  scheduled := forall_update h.scheduled fun k hk ↦ by
    rw [ht] at hk
    cases hk
  untasked a x k hx hk he b y hy hy' := by
    rcases update_eq_some.1 hy with ⟨-, rfl⟩ | ⟨-, hy⟩
    · rw [ht] at hy'
      cases hy'
    · rcases update_eq_some.1 hx with ⟨-, rfl⟩ | ⟨-, hx⟩
      · rw [hu he] at hk
        cases hk
      · exact h.untasked a x k hx hk he b y hy hy'
  sent := h.sent

end Idle

section Edited

variable (h : Idle v) (hb : Base v) (hc : v.record r = some c)

include h hb hc

theorem edited_of_idles (hid : c'.clientId = c.clientId)
    (hs : c'.state = .waitingResponseMigrating → c.state = .waitingResponseMigrating)
    (hi : Idles v c c') : Edited v r c c' where
  marked := hi.marked (h.marked r c hc)
  replaced hst hu := by
    rcases hi.upstream hu with hu | ⟨k, hk, -⟩
    · exact h.replaced r c hc (hs hst) hu
    · rw [((hb.each r c hc).replacing (hs hst)).1] at hk
      cases hk
  named hf := by
    by_contra hp
    obtain ⟨hf, hp⟩ := hi.named hf (by simpa using hp)
    rw [h.named r c hc hf] at hp
    cases hp
  scheduled k hk := by
    rcases hi.task k hk with hk | ⟨-, -, hd⟩
    · exact h.scheduled r c hc k hk
    · exact hd
  fake k hk hu := by
    rw [hid] at hk
    rcases hi.upstream hu with hu | ⟨j, hj, ht⟩
    · exact h.untasked r c k hc hk hu
    · exact Option.some.inj (hj.symm.trans hk) ▸ ht
  task k hk := by
    refine (hi.task k hk).imp id fun ⟨hk, hu, _⟩ ↦ ⟨hu, fun a x hx ha hxk ↦ ?_⟩
    exact ha (hb.left.unique a r x c k hx hc hxk hk)

theorem edited_of_kept (ho : A.once) (hf : A.fake) (hk : Kept A v c c') : Edited v r c c' :=
  edited_of_idles h hb hc hk.clientId hk.replacing.1 (hk.idle ho hf)

end Edited

theorem edited_of_marks (h : Idle v) (hc : v.record r = some c) (hm : marks c' = marks c)
    (hu : ∀ k, c'.clientId = some k → c'.upstream ≠ some .fake)
    (hs : c'.state = .waitingResponseMigrating → c'.upstream ≠ some .fake) : Edited v r c c' := by
  have hp : c'.flags.plainDnsConnection = c.flags.plainDnsConnection :=
    congrArg Marks.plainDns hm
  have ht : c'.sendBufferedTask = c.sendBufferedTask := congrArg Marks.task hm
  exact
    { marked := fun k hk he ↦ absurd he (hu k hk)
      replaced := hs
      named := fun he ↦ hp.trans (h.named r c hc ((congrArg Marks.fake hm).symm.trans he))
      scheduled := fun k hk ↦ h.scheduled r c hc k (ht ▸ hk)
      fake := fun k hk he ↦ absurd he (hu k hk)
      task := fun k hk ↦ .inl (ht ▸ hk) }

theorem sendsOnFake_of_isNeutral {c : Call} (h : isNeutral c = true) : sendsOnFake c = false := by
  cases c <;> simp_all [isNeutral, sendsOnFake]

theorem sendsOnFake_send {u : Upstream} (hu : u ≠ .fake) (s : Option ℕ) (d : Packet) :
    sendsOnFake (.send u s d) = false := by
  cases u <;> simp_all [sendsOnFake]

/-- The step lemma: one case for each move. -/
theorem Move.idle (ho : A.once) (hf : A.fake) (hb : Base v) (h : Idle v) (hm : Move A v v') :
    Idle v' := by
  cases hm with
  | emit cl hn => exact h.emit (by simpa using sendsOnFake_of_isNeutral hn)
  | edit hc hq => exact h.put hc (edited_of_kept h hb hc ho hf hq.toKept)
  | @create k c l a _ hfr _ =>
    have had := h.add v.next (by simp [hfr.upstream]) (by simp [hfr.upstream]) hfr.fake
      hfr.task
    exact had.restrict (fun _ _ hx ↦ hx) rfl (by simp [sendsOnFake])
  | complete _ _ _ _ => exact h.emit (by simp [sendsOnFake])
  | openFailed _ _ _ => exact h.emit (by simp [sendsOnFake])
  | @attach k r c c' u a hk _ _ ha hup hfa _ =>
    have hmk : c'.flags.fakeConnection = c.flags.fakeConnection :=
      congrArg Marks.fake ha.marks
    have hta : c'.sendBufferedTask = c.sendBufferedTask := congrArg Marks.task ha.marks
    have hpl : c'.flags.plainDnsConnection = c.flags.plainDnsConnection :=
      congrArg Marks.plainDns ha.marks
    have hi : Idles v c c' := by
      refine ⟨fun _ j _ hu ↦ .inl ?_, fun hf hp ↦ ⟨hmk ▸ hf, hpl ▸ hp⟩, fun hu ↦ .inr ?_,
        fun j hj ↦ .inl (hta ▸ hj)⟩
      · rw [hmk]
        exact (hfa hf (Option.some.inj (hup.symm.trans hu))).2
      · exact ⟨k, hb.clientId_eq hk, (hfa hf (Option.some.inj (hup.symm.trans hu))).1⟩
    have hpu := h.put hk.2 (edited_of_idles h hb hk.2 ha.clientId (by simp [ha.state]) hi)
    exact hpu.restrict (fun _ _ hx ↦ hx) rfl (by simp [sendsOnFake])
  | relink hno _ _ => exact absurd ho hno
  | @migrate k r c c' sw u a hk _ _ _ _ hg hu _ =>
    obtain ⟨_, hw⟩ := hg.sw_marks
    obtain ⟨fake, hfa, hma⟩ := hg.marks
    have hne : r ≠ v.next := (hb.counted.bounded r c hk.2).ne
    have had := h.add v.next (fun _ ↦ hg.sw_clientId)
      (fun _ hs ↦ hu hf (Option.some.inj (hg.sw_upstream.symm.trans hs)))
      (congrArg Marks.fake hw) (congrArg Marks.task hw)
    have hge : update v.record v.next (some sw) r = some c := (update_of_ne hne _ _).trans hk.2
    have hta : c'.sendBufferedTask = c.sendBufferedTask := congrArg Marks.task hma
    have hpl : c'.flags.plainDnsConnection = c.flags.plainDnsConnection :=
      congrArg Marks.plainDns hma
    have hd : Edited { v with record := update v.record v.next (some sw) } r c c' :=
      { marked := fun _ _ _ ↦ .inr (.inl hg.state)
        replaced := by simp [hg.state]
        named := fun he ↦
          hpl.trans (h.named r c hk.2 (hfa ((congrArg Marks.fake hma).symm.trans he)))
        scheduled := fun j hj ↦ h.scheduled r c hk.2 j (hta ▸ hj)
        fake := fun j hj he ↦ had.untasked r c j hge (hg.clientId ▸ hj) (hg.upstream ▸ he)
        task := fun j hj ↦ .inl (hta ▸ hj) }
    exact (had.put hge hd).restrict (fun _ _ hx ↦ hx) rfl (by simp [sendsOnFake])
  | @switch k s r r₀ c c' c₀ c₀' hr hst _ hk _ hw =>
    have hne := hb.replacement_ne hr.2 hst hk
    have hol : Edited v r₀ c₀ c₀' :=
      edited_of_marks h hk.2 hw.old_marks (fun j hj ↦ by simp [hw.old_clientId] at hj)
        fun he ↦ absurd (hw.old_state ▸ he) (hb.notReplacing hk)
    have hl : c'.upstream ≠ some .fake := hw.upstream ▸ h.replaced r c hr.2 hst
    have hge : (v.put r₀ c₀').record r = some c := (update_of_ne hne _ _).trans hr.2
    have hnw : Edited (v.put r₀ c₀') r c c' :=
      edited_of_marks (h.put hk.2 hol) hge hw.marks (fun _ _ he ↦ absurd he hl) fun _ ↦ hl
    exact ((h.put hk.2 hol).put hge hnw).restrict (fun _ _ hx ↦ hx) (append_nil _).symm (by simp)
  | forgetClient _ _ => exact h.restrict (fun _ _ hx ↦ hx) (append_nil _).symm (by simp)
  | forgetServer _ _ => exact h.restrict (fun _ _ hx ↦ hx) (append_nil _).symm (by simp)
  | @destroy r c cs _ _ hn =>
    exact h.restrict (fun _ _ hx ↦ (update_none_eq_some.1 hx).2) rfl
      fun cl hm ↦ sendsOnFake_of_isNeutral (hn cl hm)
  | flush u sent hk ht _ _ _ hu =>
    have hpu := h.put hk.2 (edited_of_kept h hb hk.2 ho hf ht)
    refine hpu.restrict (fun _ _ hx ↦ hx) rfl fun cl hm ↦ ?_
    obtain ⟨d, -, rfl⟩ := mem_map.1 hm
    exact sendsOnFake_send (hu hf) _ _
  | take d hk ht _ _ _ =>
    have hpu := h.put hk.2 (edited_of_kept h hb hk.2 ho hf ht)
    exact hpu.restrict (fun _ _ hx ↦ hx) rfl (by simp [sendsOnFake])
  | forward u d _ _ _ _ hu =>
    exact h.emit (by simpa [sendsOnFake] using sendsOnFake_send (hu hf) _ _)
  | discard _ _ _ => exact h.emit (by simp [sendsOnFake])

theorem idle_of_moves (ho : A.once) (hf : A.fake) (hg : Good A v) (h : Idle v)
    (hm : ReflTransGen (Move A) v v') : Idle v' := by
  induction hm with
  | refl => exact h
  | tail hs hm ih => exact Move.idle ho hf (good_of_moves hg hs).base ih hm

end TrustTunnel.Traffic.Fake.Basic

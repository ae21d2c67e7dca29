import TrustTunnel.Lib.Transition
import TrustTunnel.Traffic.Refine.Serving

namespace TrustTunnel.Traffic.Streams

open Function Relation Lib.TwoKeyStore Lib.Transition Traffic.Types Moves Serving Refine.Basic List
open Option
open Refine.Serving

variable {calls : List Call} {c c' c₀ : VpnConnection} {k r : ℕ}

section Bytes

variable {cs ca : List Call}

theorem acceptedFrom_append (cs c : List Call) (k : ℕ) :
    acceptedFrom (cs ++ c) k = acceptedFrom cs k ++ acceptedFrom c k :=
  flatMap_append

@[simp] theorem sentOn_none (cs : List Call) : sentOn cs none = [] := by
  rw [sentOn, flatMap_eq_nil_iff]
  intro c _
  cases c with
  | send u id d => cases id <;> simp
  | _ => rfl

def isSilent : Call → Bool
  | .send .. | .accepted .. => false
  | _ => true

theorem isSilent_of_isNeutral {c : Call} (h : isNeutral c = true) : isSilent c = true := by
  cases c <;> simp_all [isNeutral, isSilent]

theorem sentOn_append_silent (h : ∀ c ∈ ca, isSilent c = true) (id : Option ℕ) :
    sentOn (cs ++ ca) id = sentOn cs id := by
  rw [sentOn_append, append_right_eq_self, sentOn, flatMap_eq_nil_iff]
  intro c hm
  have hn := h c hm
  cases c <;> simp_all [isSilent]

theorem acceptedFrom_append_silent (h : ∀ c ∈ ca, isSilent c = true) (k : ℕ) :
    acceptedFrom (cs ++ ca) k = acceptedFrom cs k := by
  rw [acceptedFrom_append, append_right_eq_self, acceptedFrom, flatMap_eq_nil_iff]
  intro c hm
  have hn := h c hm
  cases c <;> simp_all [isSilent]

theorem sentOn_sends (u : Upstream) (s : ℕ) (st : List Packet) :
    sentOn (st.map (.send u (some s))) (some s) = st.flatten := by
  induction st with
  | nil => rfl
  | cons p rest ih =>
    rw [flatten_cons, ← ih]
    simp [sentOn]

theorem sentOn_sends_ne (u : Upstream) {id id' : Option ℕ} (h : id ≠ id') (s : List Packet) :
    sentOn (s.map (.send u id)) id' = [] := by
  rw [sentOn, flatMap_eq_nil_iff]
  intro c hm
  obtain ⟨p, _, rfl⟩ := mem_map.1 hm
  simp [h]

theorem acceptedFrom_sends (u : Upstream) (id : Option ℕ) (s : List Packet) (k : ℕ) :
    acceptedFrom (s.map (.send u id)) k = [] := by
  rw [acceptedFrom, flatMap_eq_nil_iff]
  intro c hm
  obtain ⟨p, _, rfl⟩ := mem_map.1 hm
  rfl

end Bytes

def Replaces (k : ℕ) (c : VpnConnection) : Prop :=
  c.state = .waitingResponseMigrating ∧ c.migratingClientId = some k

structure Known (v : View) : Prop where
  sent : ∀ u s data, .send u (some s) data ∈ v.calls → s < v.nextServerId
  accepted : ∀ k data, .accepted (some k) data ∈ v.calls → Announced v.calls k

/-- The bytes of the client `k` with the connection `c₀`, if it is a TCP client. While the
connection migrates, its replacement holds them. -/
structure Whole (v : View) (k : ℕ) (c₀ : VpnConnection) : Prop where
  agree : ∀ r c, v.record r = some c → Replaces k c → c.proto = c₀.proto
  own : c₀.proto = .tcp → c₀.state ≠ .connectedMigrating →
    sentOn v.calls c₀.serverId ++ c₀.bufferedPackets.flatten = acceptedFrom v.calls k ∧
      ∀ r c, v.record r = some c → ¬ Replaces k c
  moved : c₀.proto = .tcp → c₀.state = .connectedMigrating →
    ∃ s r c, v.Server s r c ∧ Replaces k c ∧ sentOn v.calls c.serverId = [] ∧
      c.bufferedPackets.flatten = acceptedFrom v.calls k ∧
      ∀ r' c', v.record r' = some c' → Replaces k c' → r' = r

def AllWhole (v : View) : Prop := ∀ k r c, v.Client k r c → Whole v k c

variable {A : Assumptions} {v v' : View}

theorem Known.unsent (h : Known v) {s : ℕ} (hs : v.nextServerId ≤ s) :
    sentOn v.calls (some s) = [] := by
  rw [sentOn, flatMap_eq_nil_iff]
  intro c hm
  cases c with
  | send u id d =>
    have hn : id ≠ some s := by
      rintro rfl
      exact absurd (h.sent u s d hm) (not_lt.2 hs)
    simp [hn]
  | _ => rfl

theorem Known.unaccepted (h : Known v) (hk : ¬ Announced v.calls k) :
    acceptedFrom v.calls k = [] := by
  rw [acceptedFrom, flatMap_eq_nil_iff]
  intro c hm
  cases c with
  | accepted id d =>
    have hn : id ≠ some k := by
      rintro rfl
      exact hk (h.accepted k d hm)
    simp [hn]
  | _ => rfl

theorem Known.append (h : Known v) (hc : v'.calls = v.calls ++ calls)
    (hn : v.nextServerId ≤ v'.nextServerId)
    (hs : ∀ u s d, .send u (some s) d ∈ calls → s < v.nextServerId)
    (ha : ∀ k d, .accepted (some k) d ∈ calls → Announced v.calls k) : Known v'  where
  sent u s d hm := by
    rw [hc, mem_append] at hm
    rcases hm with hm | hm
    · exact (h.sent u s d hm).trans_le hn
    · exact (hs u s d hm).trans_le hn
  accepted k d hm := by
    have hb : v.calls ⊆ v'.calls := hc ▸ subset_append_left _ _
    rw [hc, mem_append] at hm
    rcases hm with hm | hm
    · exact (h.accepted k d hm).mono hb
    · exact (ha k d hm).mono hb

theorem Known.silent (h : Known v) (hc : v'.calls = v.calls ++ calls)
    (hn : v.nextServerId ≤ v'.nextServerId) (hs : ∀ c ∈ calls, isSilent c = true) : Known v' := by
  refine h.append hc hn (fun u s d hm ↦ ?_) fun k d hm ↦ ?_
  · exact absurd (hs _ hm) (by simp [isSilent])
  · exact absurd (hs _ hm) (by simp [isSilent])

theorem Move.known (ho : A.once) (hb : Base v) (hs : Served v) (h : Known v)
    (hm : Move A v v') : Known v' := by
  have ha : ∀ {k r c}, v.Client k r c → Announced v.calls k := fun hk ↦
    (hb.each _ _ hk.2).announced _ (.inl (hb.clientId_eq hk))
  have hu : ∀ {r c s}, v.record r = some c → c.serverId = some s → s < v.nextServerId :=
    fun hc hi ↦ (hs.each _ _ hc).fresh _ hi
  cases hm with
  | emit cl hn =>
    exact h.silent rfl le_rfl (by simpa using isSilent_of_isNeutral hn)
  | edit _ _ => exact ⟨h.sent, h.accepted⟩
  | create _ _ _ _ => exact h.silent rfl le_rfl (by simp [isSilent])
  | complete _ _ _ => exact h.silent rfl le_rfl (by simp [isSilent])
  | openFailed _ _ => exact h.silent rfl le_rfl (by simp [isSilent])
  | attach _ _ _ _ _ => exact h.silent rfl (Nat.le_succ _) (by simp [isSilent])
  | relink hno _ _ => exact absurd ho hno
  | migrate _ _ _ _ _ _ _ => exact h.silent rfl (Nat.le_succ _) (by simp [isSilent])
  | switch _ _ _ _ _ _ => exact ⟨h.sent, h.accepted⟩
  | forgetClient _ _ => exact ⟨h.sent, h.accepted⟩
  | forgetServer _ _ => exact ⟨h.sent, h.accepted⟩
  | destroy cs _ _ hn =>
    exact h.silent rfl le_rfl fun cl hm ↦ isSilent_of_isNeutral (hn cl hm)
  | flush u sent hk _ _ _ _ =>
    refine h.append rfl le_rfl (fun u' s d hm ↦ ?_) (by simp)
    obtain ⟨p, _, he⟩ := mem_map.1 hm
    rw [Call.send.injEq] at he
    exact hu hk.2 he.2.1
  | take d hk _ _ _ _ => exact h.append rfl le_rfl (by simp) (by simpa using ha hk)
  | forward u d hk hi _ _ =>
    refine h.append rfl le_rfl (fun u' s d hm ↦ ?_) fun k d hm ↦ ?_
    · simp only [mem_cons, Call.send.injEq, some.injEq, reduceCtorEq,
        not_mem_nil, or_false] at hm
      rw [hm.2.1]
      exact hu hk.2 hi
    · simp only [mem_cons, reduceCtorEq, Call.accepted.injEq, some.injEq,
        not_mem_nil, or_false, false_or] at hm
      rw [hm.1]
      exact ha hk
  | discard d hk _ => exact h.append rfl le_rfl (by simp) (by simpa using ha hk)

structure SameRole (c c' : VpnConnection) : Prop where
  proto : c'.proto = c.proto
  migrating : c'.state = .connectedMigrating ↔ c.state = .connectedMigrating
  replaces : ∀ k, Replaces k c' ↔ Replaces k c

theorem Kept.sameRole (ho : A.once) (h : Kept A v c c') : SameRole c c'  where
  proto := h.proto
  migrating := h.migrating ho
  replaces k := by rw [Replaces, Replaces, h.replacing, h.migratingClientId]

theorem SameRole.refl (c : VpnConnection) : SameRole c c := ⟨rfl, .rfl, fun _ ↦ .rfl⟩

/-- The client `k` gets the connection `c₁`, and the record `n` becomes `e`. -/
structure Turned (k n : ℕ) (c₁ e : VpnConnection) (v v' : View) : Prop where
  client : ∀ a x, v'.Client k a x → x = c₁
  others : ∀ j a x, j ≠ k → v'.Client j a x → v.Client j a x
  replaces : ∀ j a x, v'.record a = some x → Replaces j x →
    a = n ∧ x = e ∨ a ≠ n ∧ v.record a = some x
  server : ∀ j s a x, j ≠ k → v.Server s a x → Replaces j x → v'.Server s a x

theorem turned_create (hb : Base v) (cs : List Call) :
    Turned k v.next c c v
      { v.put v.next c with
        byClient := update v.byClient k (some v.next)
        next := v.next + 1
        calls := cs } where
  client a x hx := by
    obtain ⟨ha, hx⟩ := hx
    simp only [update_self, some.injEq] at ha
    simp only [View.put, ← ha, update_self, some.injEq] at hx
    exact hx.symm
  others j a x hj hx := by
    obtain ⟨ha, hx⟩ := hx
    simp only [update_of_ne hj] at ha
    obtain ⟨y, hy, -⟩ := hb.left.sound j a ha
    exact ⟨ha, (update_of_ne (hb.counted.bounded a y hy).ne _ _).symm.trans hx⟩
  replaces j a x hx _ := by
    by_cases ha : a = v.next
    · simp only [View.put, ha, update_self, some.injEq] at hx
      exact .inl ⟨ha, hx.symm⟩
    · exact .inr ⟨ha, (update_of_ne ha _ _).symm.trans hx⟩
  server j s a x _ hv _ := ⟨hv.1, (update_of_ne (hb.counted.bounded a x hv.2).ne _ _).trans hv.2⟩

theorem turned_migrate (hb : Base v) (hs : Served v) {sw : VpnConnection} {u : Upstream}
    (hk : v.Client k r c) (hm : Migrates k v.nextServerId u c c' sw) (cs : List Call) :
    Turned k v.next c' sw v
      { v with
        record := update (update v.record v.next (some sw)) r (some c')
        byServer := update v.byServer v.nextServerId (some v.next)
        next := v.next + 1
        nextServerId := v.nextServerId + 1
        calls := cs } where
  client a x hx := by
    obtain ⟨ha, hx⟩ := hx
    obtain rfl := some.inj (ha.symm.trans hk.1)
    simp only [update_self, some.injEq] at hx
    exact hx.symm
  others j a x hj hx := by
    obtain ⟨ha, hx⟩ := hx
    obtain ⟨y, hy, hid⟩ := hb.left.sound j a ha
    have hr : a ≠ r := by
      rintro rfl
      obtain rfl := some.inj (hk.2.symm.trans hy)
      exact hj (some.inj (hid.symm.trans (hb.clientId_eq hk)))
    have hn : a ≠ v.next := (hb.counted.bounded a y hy).ne
    exact ⟨ha, ((update_of_ne hr _ _).trans (update_of_ne hn _ _)).symm.trans hx⟩
  replaces j a x hx hj := by
    by_cases hr : a = r
    · simp only [hr, update_self, some.injEq] at hx
      rw [Replaces, ← hx, hm.state] at hj
      cases hj.1
    · simp only [update_of_ne hr] at hx
      by_cases hn : a = v.next
      · rw [hn, update_self, some.injEq] at hx
        exact .inl ⟨hn, hx.symm⟩
      · exact .inr ⟨hn, (update_of_ne hn _ _).symm.trans hx⟩
  server j s a x _ hv hj := by
    have hns : s ≠ v.nextServerId := by
      rintro rfl
      exact hs.unused a x hv.2 (hs.serverId_eq hv)
    have hr : a ≠ r := hb.replacement_ne hv.2 hj.1 hk
    have hn : a ≠ v.next := (hb.counted.bounded a x hv.2).ne
    exact ⟨(update_of_ne hns _ _).trans hv.1,
      ((update_of_ne hr _ _).trans (update_of_ne hn _ _)).trans hv.2⟩

theorem turned_switch (hb : Base v) (hs : Served v) {s r₀ : ℕ} {c₀' : VpnConnection}
    (hr : v.Server s r c) (hrp : Replaces k c) (hk : v.Client k r₀ c₀)
    (hw : Switches k c c' c₀ c₀') :
    Turned k r c' c' v
      { v with
        record := update (update v.record r₀ (some c₀')) r (some c')
        byClient := update v.byClient k (some r)
        byServer := c.serverId.elim v.byServer fun s ↦ update v.byServer s (some r) } where
  client a x hx := by
    obtain ⟨ha, hx⟩ := hx
    simp only [update_self, some.injEq] at ha
    simp only [← ha, update_self, some.injEq] at hx
    exact hx.symm
  others j a x hj hx := by
    obtain ⟨ha, hx⟩ := hx
    simp only [update_of_ne hj] at ha
    obtain ⟨y, hy, hi⟩ := hb.left.sound j a ha
    have hne : a ≠ r := by
      rintro rfl
      obtain rfl : y = c := some.inj (hy.symm.trans hr.2)
      rw [((hb.each a y hy).replacing hrp.1).1] at hi
      cases hi
    have hne₀ : a ≠ r₀ := by
      rintro rfl
      obtain rfl : y = c₀ := some.inj (hy.symm.trans hk.2)
      exact hj (some.inj (hi.symm.trans (hb.clientId_eq hk)))
    exact ⟨ha, ((update_of_ne hne _ _).trans (update_of_ne hne₀ _ _)).symm.trans hx⟩
  replaces j a x hx hj := by
    by_cases ha : a = r
    · simp only [ha, update_self, some.injEq] at hx
      exact .inl ⟨ha, hx.symm⟩
    · simp only [update_of_ne ha] at hx
      by_cases ha₀ : a = r₀
      · rw [ha₀, update_self, some.injEq] at hx
        rw [Replaces, ← hx, hw.old_state] at hj
        exact absurd hj.1 (hb.notReplacing hk)
      · exact .inr ⟨ha, (update_of_ne ha₀ _ _).symm.trans hx⟩
  server j s' a x hj hv hx := by
    have hne : a ≠ r := by
      rintro rfl
      obtain rfl : x = c := some.inj (hv.2.symm.trans hr.2)
      exact hj (some.inj (hx.2.symm.trans hrp.2))
    have hne₀ : a ≠ r₀ := hb.replacement_ne hv.2 hx.1 hk
    refine ⟨?_, ((update_of_ne hne _ _).trans (update_of_ne hne₀ _ _)).trans hv.2⟩
    simp only [hs.serverId_eq hr, elim_some]
    rw [← hr.1, update_eq_self]
    exact hv.1

theorem Whole.apart (h : Whole v k c₀) (hc : v'.calls = v.calls ++ calls)
    (hl : ∀ cl ∈ calls, isSilent cl = true)
    (hre : ∀ r c, v'.record r = some c → Replaces k c → v.record r = some c)
    (hs : ∀ s r c, v.Server s r c → Replaces k c → v'.Server s r c) : Whole v' k c₀ := by
  refine ⟨fun r c hr he ↦ h.agree r c (hre r c hr he) he, fun hp hst ↦ ?_, fun hp hst ↦ ?_⟩
  · rw [hc, sentOn_append_silent hl, acceptedFrom_append_silent hl]
    exact (h.own hp hst).imp_right fun hn r c hr he ↦ hn r c (hre r c hr he) he
  · obtain ⟨s, r, c, hv, he, hn, hf, hu⟩ := h.moved hp hst
    rw [hc, acceptedFrom_append_silent hl]
    exact ⟨s, r, c, hs s r c hv he, he, (sentOn_append_silent hl _).trans hn, hf,
      fun r' c' hr he ↦ hu r' c' (hre r' c' hr he) he⟩

theorem AllWhole.emit (h : AllWhole v) (hl : ∀ cl ∈ calls, isSilent cl = true) :
    AllWhole (v.emit calls) := fun k r c hk ↦
  (h k r c hk).apart rfl hl (fun _ _ hr _ ↦ hr) fun _ _ _ hv _ ↦ hv

theorem AllWhole.change (h : AllWhole v) (hb : Base v) (hg : v.record r = some c)
    (hro : SameRole c c') (hc : v'.record = update v.record r (some c'))
    (hi : v'.byClient = v.byClient)
    (hse : ∀ s a, v.byServer s = some a → v'.byServer s = some a)
    (ht : ∀ a x, a ≠ r → v.record a = some x →
      sentOn v'.calls x.serverId = sentOn v.calls x.serverId)
    (hac : ∀ k, c.clientId ≠ some k ∨ c.proto = .tcp ∧ c.state = .connectedMigrating →
      acceptedFrom v'.calls k = acceptedFrom v.calls k)
    (ho : ∀ k, c.clientId = some k → c.proto = .tcp → c.state ≠ .connectedMigrating →
      sentOn v.calls c.serverId ++ c.bufferedPackets.flatten = acceptedFrom v.calls k →
      sentOn v'.calls c'.serverId ++ c'.bufferedPackets.flatten = acceptedFrom v'.calls k)
    (hrp : ∀ k, Replaces k c → c.proto = .tcp →
      sentOn v'.calls c'.serverId = sentOn v.calls c.serverId ∧
        c'.bufferedPackets.flatten = c.bufferedPackets.flatten) :
    AllWhole v' := by
  -- every record of `v'` comes from one of `v` in the same role
  have hl : ∀ a x', v'.record a = some x' → ∃ x, v.record a = some x ∧ SameRole x x' ∧
      (a = r ∧ x = c ∧ x' = c' ∨ a ≠ r ∧ x' = x) := by
    intro a x' hx
    rw [hc] at hx
    by_cases ha : a = r
    · subst ha
      rw [update_self] at hx
      exact ⟨c, hg, some.inj hx ▸ hro, .inl ⟨rfl, rfl, (some.inj hx).symm⟩⟩
    · rw [update_of_ne ha] at hx
      exact ⟨x', hx, .refl x', .inr ⟨ha, rfl⟩⟩
  intro k a y' hk
  obtain ⟨y, hy, hry, hyy⟩ := hl a y' hk.2
  have hky : v.Client k a y := ⟨hi ▸ hk.1, hy⟩
  have hw := h k a y hky
  have hn : a ≠ r → c.clientId ≠ some k := fun ha hid ↦
    ha (hb.left.unique a r y c k hy hg (hb.clientId_eq hky) hid)
  refine ⟨fun b x' hx' hrx ↦ ?_, fun hp hst ↦ ?_, fun hp hst ↦ ?_⟩
  · obtain ⟨x, hx, hr, _⟩ := hl b x' hx'
    rw [hr.proto, hry.proto]
    exact hw.agree b x hx ((hr.replaces k).1 hrx)
  · rw [hry.proto] at hp
    have hst' : y.state ≠ .connectedMigrating := fun he ↦ hst (hry.migrating.2 he)
    obtain ⟨he, hno⟩ := hw.own hp hst'
    refine ⟨?_, fun b x' hx' hrx ↦ ?_⟩
    · rcases hyy with ⟨rfl, rfl, rfl⟩ | ⟨ha, rfl⟩
      · exact ho k (hb.clientId_eq hky) hp hst' he
      · rw [ht a y' ha hy, hac k (.inl (hn ha))]
        exact he
    · obtain ⟨x, hx, hr, _⟩ := hl b x' hx'
      exact hno b x hx ((hr.replaces k).1 hrx)
  · rw [hry.proto] at hp
    have hst' := hry.migrating.1 hst
    obtain ⟨s, b, x, hv, hrx, hs, hf, hu⟩ := hw.moved hp hst'
    have hd : acceptedFrom v'.calls k = acceptedFrom v.calls k := by
      rcases hyy with ⟨_, rfl, _⟩ | ⟨hne, _⟩
      · exact hac k (.inr ⟨hp, hst'⟩)
      · exact hac k (.inl (hn hne))
    have hu' : ∀ e z', v'.record e = some z' → Replaces k z' → e = b := by
      intro e z' hz' hrz
      obtain ⟨z, hz, hr, _⟩ := hl e z' hz'
      exact hu e z hz ((hr.replaces k).1 hrz)
    rw [hd]
    by_cases hbr : b = r
    · subst hbr
      obtain rfl : x = c := some.inj (hv.2.symm.trans hg)
      obtain ⟨hs', hf'⟩ := hrp k hrx ((hw.agree b x hg hrx).trans hp)
      exact ⟨s, b, c', ⟨hse s b hv.1, by rw [hc, update_self]⟩, (hro.replaces k).2 hrx,
        hs'.trans hs, hf'.trans hf, hu'⟩
    · exact ⟨s, b, x, ⟨hse s b hv.1, by rw [hc, update_of_ne hbr, hv.2]⟩, hrx,
        (ht b x hbr hv.2).trans hs, hf, hu'⟩

/-- The calls and the buffer of the connection of one client change together. -/
theorem AllWhole.serve (h : AllWhole v) (hb : Base v) (hs : Served v) (hk : v.Client k r c)
    (hro : SameRole c c') (hid : c'.serverId = c.serverId)
    (hn : ∀ id, c.serverId ≠ id → sentOn calls id = [])
    (ha : ∀ j, k ≠ j ∨ c.proto = .tcp ∧ c.state = .connectedMigrating →
      acceptedFrom calls j = [])
    (he : c.proto = .tcp → sentOn calls c.serverId ++ c'.bufferedPackets.flatten =
      c.bufferedPackets.flatten ++ acceptedFrom calls k) :
    AllWhole { v.put r c' with calls := v.calls ++ calls } := by
  refine h.change hb hk.2 hro rfl rfl (fun _ _ hr ↦ hr) (fun a x hne hx ↦ ?_) (fun j hj ↦ ?_)
    (fun j hj hp _ hw ↦ ?_) fun j hj ↦ absurd hj.1 (hb.notReplacing hk)
  · rw [sentOn_append, append_right_eq_self]
    -- no two connections have the same server id
    cases hx' : x.serverId with
    | none => exact sentOn_none _
    | some s => exact hn _ fun he ↦ hne (hs.right.unique a r x c s hx hk.2 hx' he)
  · rw [hb.clientId_eq hk, ne_eq, some.injEq] at hj
    rw [acceptedFrom_append, ha j hj, append_nil]
  · rw [hb.clientId_eq hk, some.injEq] at hj
    rw [hid, sentOn_append, append_assoc, he hp, ← append_assoc, hw, ← hj, acceptedFrom_append]

theorem AllWhole.turn {n : ℕ} {c₁ e : VpnConnection} (h : AllWhole v)
    (ht : Turned k n c₁ e v v') (hc : v'.calls = v.calls ++ calls)
    (hl : ∀ cl ∈ calls, isSilent cl = true) (he : ∀ j, Replaces j e → j = k)
    (hw : Whole v' k c₁) : AllWhole v' := by
  intro j a x hx
  by_cases hj : j = k
  · subst hj
    rw [ht.client a x hx]
    exact hw
  · refine (h j a x (ht.others j a x hj hx)).apart hc hl (fun b y hy hr ↦ ?_)
      fun s b y ↦ ht.server j s b y hj
    refine ((ht.replaces j b y hy hr).resolve_left fun hb ↦ hj (he j ?_)).2
    exact hb.2 ▸ hr

/-- A client that migrates has its bytes in the connection that is to replace its own. -/
theorem AllWhole.migrate {sw : VpnConnection} {u : Upstream} (h : AllWhole v) (hkn : Known v)
    (hk : v.Client k r c) (hm : Migrates k v.nextServerId u c c' sw)
    (hemp : c.proto = .tcp → c.state ≠ .connectedMigrating ∧ sentOn v.calls c.serverId = [])
    (ht : Turned k v.next c' sw v v') (hc : v'.calls = v.calls ++ calls)
    (hl : ∀ cl ∈ calls, isSilent cl = true) (hv : v'.Server v.nextServerId v.next sw) :
    AllWhole v' := by
  have hw := h k r c hk
  refine h.turn ht hc hl (fun j hr ↦ some.inj (hr.2.symm.trans hm.sw_migratingClientId))
    ⟨fun a x hx hr ↦ ?_, fun _ hs ↦ absurd hm.state hs, fun hp _ ↦ ?_⟩
  · rw [hm.proto]
    rcases ht.replaces k a x hx hr with ⟨_, rfl⟩ | ⟨_, hx⟩
    · exact hm.sw_proto
    · exact hw.agree a x hx hr
  · rw [hm.proto] at hp
    obtain ⟨hst, hn⟩ := hemp hp
    obtain ⟨he, hno⟩ := hw.own hp hst
    rw [hc, acceptedFrom_append_silent hl]
    refine ⟨v.nextServerId, v.next, sw, hv, ⟨hm.sw_state, hm.sw_migratingClientId⟩, ?_, ?_,
      fun a x hx hr ↦ ?_⟩
    · rw [sentOn_append_silent hl, hm.sw_serverId, hkn.unsent le_rfl]
    · rw [hm.sw_buffered hp, ← he, hn, nil_append]
    · rcases ht.replaces k a x hx hr with ⟨hx, _⟩ | ⟨_, hx⟩
      · exact hx
      · exact absurd hr (hno a x hx)

/-- The replacement becomes the connection of the client, whose bytes it has. -/
theorem AllWhole.switch {s r₀ : ℕ} {c₀' : VpnConnection} (h : AllWhole v) (hr : v.Server s r c)
    (hrp : Replaces k c) (hk : v.Client k r₀ c₀) (hsw : Switches k c c' c₀ c₀')
    (ht : Turned k r c' c' v v') (hcs : v'.calls = v.calls) : AllWhole v' := by
  have hw := h k r₀ c₀ hk
  have hpr : c'.proto = c₀.proto := hsw.proto.trans (hw.agree r c hr.2 hrp)
  have hc : ∀ j, ¬ Replaces j c' := by simp [Replaces, hsw.state]
  have hre : ∀ {j a x}, v'.record a = some x → Replaces j x → a ≠ r ∧ v.record a = some x :=
    fun hx hj ↦ (ht.replaces _ _ _ hx hj).resolve_left fun he ↦ hc _ (he.2 ▸ hj)
  refine h.turn ht (hcs.trans (append_nil _).symm) (by simp) (fun j hr ↦ absurd hr (hc j))
    ⟨fun a x hx hj ↦ ?_, fun hp _ ↦ ?_, fun _ hs ↦ ?_⟩
  · rw [hpr]
    exact hw.agree a x (hre hx hj).2 hj
  · have hst₀ : c₀.state = .connectedMigrating :=
      of_not_not fun hs ↦ (hw.own (hpr ▸ hp) hs).2 r c hr.2 hrp
    obtain ⟨_, b, y, hv, _, hn, hf, hu⟩ := hw.moved (hpr ▸ hp) hst₀
    obtain rfl := hu r c hr.2 hrp
    obtain rfl : y = c := some.inj (hv.2.symm.trans hr.2)
    rw [hcs, hsw.serverId, hsw.buffered (hsw.proto ▸ hp), hf]
    exact ⟨by simp [hn], fun a x hx hj ↦ (hre hx hj).1 (hu a x (hre hx hj).2 hj)⟩
  · rw [hsw.state] at hs
    cases hs

/-- A record may go unless it replaces the connection of a client that is still there. -/
theorem AllWhole.destroy (h : AllWhole v) (hs : Served v) (hc : v.record r = some c)
    (hg : ∀ j b y, Replaces j c → ¬ v.Client j b y) (hl : ∀ cl ∈ calls, isSilent cl = true) :
    AllWhole { v with
      record := update v.record r none
      byClient := eraseKey v.byClient c.clientId
      byServer := eraseKey v.byServer c.serverId
      dropped := v.dropped ++ [r]
      calls := v.calls ++ calls } := by
  have hrec : ∀ {a x}, update v.record r none a = some x → v.record a = some x := by
    intro a x hx
    have hne : a ≠ r := by
      rintro rfl
      simp at hx
    exact (update_of_ne hne _ _).symm.trans hx
  intro j b y hk
  have hkv : v.Client j b y := ⟨(eraseKey_eq_some.1 hk.1).1, hrec hk.2⟩
  refine (h j b y hkv).apart rfl hl (fun _ _ hx _ ↦ hrec hx) fun s a x hv hj ↦ ?_
  have hne : a ≠ r := by
    rintro rfl
    obtain rfl : x = c := some.inj (hv.2.symm.trans hc)
    exact hg j b y hj hkv
  refine ⟨eraseKey_eq_some.2 ⟨hv.1, fun he ↦ ?_⟩, (update_of_ne hne _ _).trans hv.2⟩
  exact hne (hs.right.unique a r x c s hv.2 hc (hs.serverId_eq hv) he)

theorem Move.whole (ho : A.once) (ha : A.streams) (hb : Base v) (hs : Served v) (hkn : Known v)
    (h : AllWhole v) (hm : Move A v v') : AllWhole v' := by
  cases hm with
  | emit cl hn => exact h.emit (by simpa using isSilent_of_isNeutral hn)
  | @edit r c c' hc hq =>
    refine h.change hb hc (Kept.sameRole ho hq.toKept) rfl rfl (fun _ _ hr ↦ hr)
      (fun _ _ _ _ ↦ rfl) (fun _ _ ↦ rfl) (fun k hk hp hst he ↦ ?_) fun k hk hp ↦ ?_
    · rw [hq.serverId ho, hq.buffered hp]
      exact he
    · rw [hq.serverId ho, hq.buffered hp]
      exact ⟨rfl, rfl⟩
  | @create k c l ar hw hf =>
    have hl : ∀ cl ∈ [Call.requested l k ar], isSilent cl = true := by simp [isSilent]
    have ht := turned_create (k := k) (c := c) hb (v.calls ++ [.requested l k ar])
    have hc : ∀ j, ¬ Replaces j c := by simp [Replaces, hf.state]
    -- the client is new, so that nothing replaces its connection
    have hn : ∀ a x, update v.record v.next (some c) a = some x → ¬ Replaces k x := by
      intro a x hx hr
      rcases ht.replaces k a x hx hr with ⟨_, rfl⟩ | ⟨_, hx⟩
      · exact hc k hr
      · exact hw ((hb.each a x hx).announced k (.inr hr.2))
    refine h.turn ht rfl hl (fun j hr ↦ absurd hr (hc j)) ⟨fun a x hx hr ↦ absurd hr (hn a x hx),
      fun _ _ ↦ ⟨?_, hn⟩, fun _ hs ↦ ?_⟩
    · rw [hf.serverId, hf.buffered]
      simp [acceptedFrom_append_silent hl, hkn.unaccepted hw]
    · rw [hf.state] at hs
      cases hs
  | complete _ _ _ => exact h.emit (by simp [isSilent])
  | openFailed _ _ => exact h.emit (by simp [isSilent])
  | @attach k r c c' u ar hk hno _ hatt =>
    obtain ⟨_, hnone, -, hst⟩ := hno ho
    have hsil : ∀ cl ∈ [Call.openConnection u (some k) ar (some v.nextServerId)],
        isSilent cl = true := by simp [isSilent]
    have hl : SameRole c c' := by
      refine ⟨hatt.proto, by simp [hatt.state, hst], fun j ↦ ?_⟩
      simp [Replaces, hatt.state, hb.notReplacing hk]
    refine h.change hb hk.2 hl rfl rfl (fun s a hr ↦ ?_) (fun _ _ _ _ ↦ ?_) (fun _ _ ↦ ?_)
      (fun j hj hp hst he ↦ ?_) fun j hj ↦ absurd hj.1 (hb.notReplacing hk)
    · obtain ⟨x, hx, hid⟩ := hs.right.sound s a hr
      have hne : s ≠ v.nextServerId := fun he ↦ hs.unused a x hx (he ▸ hid)
      exact (update_of_ne hne _ _).trans hr
    · exact sentOn_append_silent hsil _
    · exact acceptedFrom_append_silent hsil _
    · simp only [sentOn_append_silent hsil, acceptedFrom_append_silent hsil]
      rw [hatt.serverId, hatt.buffered, hkn.unsent le_rfl, ← he, hnone, sentOn_none]
  | relink hno _ _ => exact absurd ho hno
  | @migrate k r c c' sw u ar hk _ _ hemp _ hm =>
    have hne : v.next ≠ r := (hb.counted.bounded r c hk.2).ne'
    exact h.migrate hkn hk hm (hemp ha) (turned_migrate hb hs hk hm _) rfl (by simp [isSilent])
      ⟨update_self .., (update_of_ne hne _ _).trans (update_self ..)⟩
  | @switch k s r r₀ c c' c₀ c₀' hr hst hmk hk _ hsw =>
    exact h.switch hr ⟨hst, hmk⟩ hk hsw (turned_switch hb hs hr ⟨hst, hmk⟩ hk hsw) rfl
  | @forgetClient k r c hk _ =>
    intro j a x hjx
    obtain ⟨hj, hx⟩ := hjx
    have hjk : j ≠ k := by
      rintro rfl
      simp at hj
    simp only [update_of_ne hjk] at hj
    exact (h j a x ⟨hj, hx⟩).apart (append_nil _).symm (by simp) (fun _ _ hc _ ↦ hc)
      fun _ _ _ hv _ ↦ hv
  | @forgetServer s r c hv hex =>
    obtain ⟨k, r', c', hid, hk⟩ := hex
    intro j b y hk
    refine (h j b y hk).apart (append_nil _).symm (by simp) (fun _ _ hc _ ↦ hc)
      fun s' a x hv' hj ↦ ⟨eraseKey_eq_some.2 ⟨hv'.1, fun he ↦ ?_⟩, hv'.2⟩
    obtain rfl := hs.right.unique a r x c s' hv'.2 hv.2 (hs.serverId_eq hv') he
    obtain rfl : x = c := some.inj (hv'.2.symm.trans hv.2)
    rw [((hb.each a x hv.2).replacing hj.1).1] at hid
    cases hid
  | @destroy r c cs hc hg hn =>
    refine h.destroy hs hc (fun j b y hj hk ↦ ?_) fun cl hm ↦ isSilent_of_isNeutral (hn cl hm)
    rcases hg with ⟨i, hi⟩ | hgone
    · exact hb.notReplacing hi hj.1
    · exact hgone ho ha hj.1 j b y hj.2 hk
  | @flush k r c c' u sent hk ht hid hnone hbs =>
    refine h.serve hb hs hk (Kept.sameRole ho ht) hid (fun id hne ↦ sentOn_sends_ne u hne _)
      (fun j _ ↦ acceptedFrom_sends ..) fun _ ↦ ?_
    rw [acceptedFrom_sends, append_nil, ← hbs]
    cases hs' : c.serverId with
    | none => simp [hnone hs']
    | some s => rw [sentOn_sends]
  | @take k r c c' d hk ht hid hst hbs =>
    refine h.serve hb hs hk (Kept.sameRole ho ht) hid (fun _ _ ↦ rfl) (fun j hj ↦ ?_) fun _ ↦ ?_
    · rcases hj with hj | ⟨hp, hmig⟩
      · simp [acceptedFrom, hj]
      · exact absurd hmig (hst ha hp)
    · rw [hbs]
      simp [sentOn, acceptedFrom]
  | @forward k r s c u d hk hid hemp hst =>
    have hsa : v = v.put r c := by
      rw [View.put, ← hk.2, update_eq_self]
    rw [hsa]
    refine h.serve hb hs hk (.refl c) rfl (fun id hne ↦ ?_) (fun j hj ↦ ?_) fun hp ↦ ?_
    · rw [hid] at hne
      simp [sentOn, hne]
    · rcases hj with hj | ⟨_, hmig⟩
      · simp [acceptedFrom, hj]
      · exact absurd hmig hst
    · simp [sentOn, acceptedFrom, hid, hemp hp]
  | @discard k r c d hk hu =>
    have hsa : v = v.put r c := by
      rw [View.put, ← hk.2, update_eq_self]
    have hp : c.proto ≠ .tcp := by simp [hu]
    rw [hsa]
    refine h.serve hb hs hk (.refl c) rfl (fun _ _ ↦ rfl) (fun j hj ↦ ?_) fun hp' ↦ absurd hp' hp
    rcases hj with hj | ⟨hp', _⟩
    · simp [acceptedFrom, hj]
    · exact absurd hp' hp

/-- The run lemma over the moves. -/
theorem whole_of_moves (ho : A.once) (ha : A.streams) (hg : Good A v) (hk : Known v)
    (h : AllWhole v) (hm : ReflTransGen (Move A) v v') : Known v' ∧ AllWhole v' := by
  induction hm with
  | refl => exact ⟨hk, h⟩
  | tail hs hm ih =>
    have hg' := good_of_moves hg hs
    have hs' := hg'.served ho
    exact ⟨Move.known ho hg'.base hs' ih.1 hm, Move.whole ho ha hg'.base hs' ih.1 ih.2 hm⟩

/-- The connection with the bytes of the client: its own, or the replacement while it migrates. -/
inductive Carrier (t : Tunnel) (k : ℕ) : VpnConnection → Prop
  | own {r : ℕ} {c : VpnConnection} : t.byClientId (some k) = some (r, c) →
      c.state ≠ .connectedMigrating → Carrier t k c
  | replacement {r₀ s r : ℕ} {c₀ c : VpnConnection} : t.byClientId (some k) = some (r₀, c₀) →
      c₀.state = .connectedMigrating → t.byServerId (some s) = some (r, c) → Replaces k c →
      Carrier t k c

/-- What was sent for a TCP client, followed by what is buffered, is what was accepted from it. -/
def StreamsWhole (t : Tunnel) : Prop :=
  ∀ k r c, t.byClientId (some k) = some (r, c) → c.proto = .tcp →
    (∃ x, Carrier t k x) ∧ ∀ x, Carrier t k x →
      sentOn t.calls x.serverId ++ x.bufferedPackets.flatten = acceptedFrom t.calls k

theorem streamsWhole_of_whole {t : Tunnel} (h : AllWhole (view t)) : StreamsWhole t := by
  intro k r c hk hp
  have hw := h k r c (byClientId_eq_some.1 hk)
  by_cases hst : c.state = .connectedMigrating
  · obtain ⟨s, a, x, hv, he, hn, hf, hu⟩ := hw.moved hp hst
    refine ⟨⟨x, .replacement hk hst (byServerId_eq_some.2 hv) he⟩, fun y hy ↦ ?_⟩
    cases hy with
    | own hk' hne =>
      rw [hk] at hk'
      cases hk'
      exact absurd hst hne
    | replacement hk' _ hs' hr =>
      have hy := (byServerId_eq_some.1 hs').2
      obtain rfl := hu _ y hy hr
      obtain rfl : x = y := some.inj (hv.2.symm.trans hy)
      have hn : sentOn t.calls x.serverId = [] := hn
      rw [hn, nil_append]
      exact hf
  · refine ⟨⟨c, .own hk hst⟩, fun y hy ↦ ?_⟩
    cases hy with
    | own hk' _ =>
      rw [hk] at hk'
      cases hk'
      exact (hw.own hp hst).1
    | replacement hk' hs _ _ =>
      rw [hk] at hk'
      cases hk'
      exact absurd hs hst

def onceWhole : Assumptions := { once := True, streams := True }

theorem lenient_onceWhole : Lenient onceWhole := ⟨id, fun _ ↦ trivial⟩

theorem whole_of_initial {t : Tunnel} (h : Initial t) : Known (view t) ∧ AllWhole (view t) := by
  obtain ⟨hc, hs⟩ := h
  refine ⟨⟨fun u s d hm ↦ ?_, fun k d hm ↦ ?_⟩, fun k r c hk ↦ ?_⟩
  · simp [view, hs] at hm
  · simp [view, hs] at hm
  · have hr := hk.2
    simp [view, hc, Store.get] at hr

/-- No byte of a TCP client is lost, doubled or reordered if a read migrates a connection only
before anything was sent for it, no connection is read while it migrates, and no replacement is
closed while it is waited for. -/
theorem streams_whole {t₀ t : Tunnel} {labels : List (Env × Input)} (h₀ : Initial t₀)
    (h : Run step (fun t label ↦ completesOnce t label = true ∧ staysWhole t label = true)
      t₀ labels t) : StreamsWhole t := by
  have ht : Good onceWhole (view t₀) ∧ Known (view t₀) ∧ AllWhole (view t₀) :=
    ⟨initial_good h₀, whole_of_initial h₀⟩
  have hd := h.invariant
    (P := fun t ↦ Good onceWhole (view t) ∧ Known (view t) ∧ AllWhole (view t)) ht ?_
  · exact streamsWhole_of_whole hd.2.2
  · rintro t label t' ⟨hg, hk, hw⟩ ⟨ho, he⟩ hs
    have hme := lenient_onceWhole.meets nofun (fun _ ↦ ho) nofun (fun _ ↦ he)
      (lenient_onceWhole.mayMove fun _ _ _ ↦ trivial)
    have hm := step_steps hme hs
    exact ⟨hm.good hg, whole_of_moves trivial trivial hg hk hw (hm hg)⟩

def unfinishedHello : Env := { extracted := ⟨.wantMore, ""⟩ }

/-- The first bytes wait for the rest of the name, and go to the new upstream. -/
theorem streams_whole_after_migration :
    ∃ labels t r c, Run step (fun t label ↦ completesOnce t label = true ∧
        staysWhole t label = true) {} labels t ∧
      t.byClientId (some 1) = some (r, c) ∧ c.proto = .tcp ∧ c.serverId = some 1 ∧
      sentOn t.calls (some 1) = [22, 3] ∧ StreamsWhole t := by
  obtain ⟨labels, t, p, hr, hk, hp⟩ : ∃ labels t p, Run step (fun t label ↦
      completesOnce t label = true ∧ staysWhole t label = true) {} labels t ∧
      t.byClientId (some 1) = some p ∧ p.2.proto = .tcp ∧ p.2.serverId = some 1 ∧
      sentOn t.calls (some 1) = [22, 3] :=
    ⟨connectedRun ++ [(unfinishedHello, .clientRead 1 [22]), (excludedHello, .clientRead 1 [3]),
      ({}, .serverOpened .bypass 1), ({}, .clientRead 1 [3])], exists_run_some (by decide)⟩
  exact ⟨labels, t, p.1, p.2, hr, hk, hp.1, hp.2.1, hp.2.2, streams_whole ⟨rfl, rfl⟩ hr⟩

/-- The endpoint reports that it can take more data, and is sent the bytes that wait for the rest
of the name. The bypass, which the connection then moves to, does not get them. -/
theorem flush_loses_first_bytes :
    ∃ labels t, Run step (fun t label ↦ completesOnce t label = true) {} labels t ∧
      ¬ StreamsWhole t := by
  obtain ⟨t, hr, hp⟩ := exists_run_of_execWhile step
    (fun t label ↦ completesOnce t label = true) {}
    (connectedRun ++ [(unfinishedHello, .clientRead 1 [22]),
      ({}, .serverDataSent (.endpoint 0) 0), ({}, .sendTask (some 1)),
      (excludedHello, .clientRead 1 [3]), ({}, .serverOpened .bypass 1), ({}, .clientRead 1 [3])])
    (fun t ↦ (t.byClientId (some 1)).any fun p ↦ p.2.proto == .tcp && p.2.state == .connected &&
      sentOn t.calls p.2.serverId ++ p.2.bufferedPackets.flatten == [3] &&
      acceptedFrom t.calls 1 == [22, 3]) (by decide)
  refine ⟨_, t, hr, fun hw ↦ ?_⟩
  obtain ⟨⟨r, c⟩, hk, hp⟩ := (any_eq_true _ _).1 hp
  simp only [Bool.and_eq_true, beq_iff_eq] at hp
  obtain ⟨⟨⟨ht, hst⟩, hs⟩, hc⟩ := hp
  have ha := (hw 1 r c hk ht).2 c (.own hk (by simp [hst]))
  rw [hs, hc] at ha
  cases ha

end TrustTunnel.Traffic.Streams

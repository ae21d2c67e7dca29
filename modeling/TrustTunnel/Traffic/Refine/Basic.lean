import TrustTunnel.Traffic.Moves

namespace TrustTunnel.Traffic.Refine.Basic

open Function Relation Traffic.Types Moves Option

variable {A : Assumptions} {t t' t'' : Tunnel} {env : Env} {r r' k : ℕ} {c c' x : VpnConnection}
  {f : VpnConnection → VpnConnection}

def Steps (A : Assumptions) (t t' : Tunnel) : Prop :=
  Good A (view t) → ReflTransGen (Move A) (view t) (view t')

namespace Steps

theorem refl : Steps A t t := fun _ ↦ .refl

theorem trans (h : Steps A t t') (h' : Steps A t' t'') : Steps A t t'' :=
  fun hg ↦ (h hg).trans (h' (good_of_moves hg (h hg)))

theorem of_view (h : view t' = view t) : Steps A t t' := fun _ ↦ h ▸ .refl

theorem move (h : Good A (view t) → Move A (view t) (view t')) : Steps A t t' :=
  fun hg ↦ .single (h hg)

theorem assume (h : Good A (view t) → Steps A t t') : Steps A t t' := fun hg ↦ h hg hg

theorem good (h : Steps A t t') (hg : Good A (view t)) : Good A (view t') := good_of_moves hg (h hg)

end Steps

@[simp] theorem view_call (c : Call) : view (t.call c) = (view t).emit [c] := rfl

/-- A lookup in the tunnel is a lookup in its view. -/
theorem byClientId_eq_some : t.byClientId (some k) = some (r, c) ↔ (view t).Client k r c := by
  simp only [Tunnel.byClientId, View.Client, view, bind_some, bind_eq_some_iff,
    map_eq_some_iff, Prod.mk.injEq]
  constructor
  · rintro ⟨a, ha, b, hb, rfl, rfl⟩
    exact ⟨ha, hb⟩
  · rintro ⟨ha, hb⟩
    exact ⟨r, ha, c, hb, rfl, rfl⟩

theorem byServerId_eq_some : t.byServerId (some k) = some (r, c) ↔ (view t).Server k r c := by
  simp only [Tunnel.byServerId, View.Server, view, bind_some, bind_eq_some_iff,
    map_eq_some_iff, Prod.mk.injEq]
  constructor
  · rintro ⟨a, ha, b, hb, rfl, rfl⟩
    exact ⟨ha, hb⟩
  · rintro ⟨ha, hb⟩
    exact ⟨r, ha, c, hb, rfl, rfl⟩

@[simp] theorem byClientId_none : t.byClientId none = none := rfl

@[simp] theorem byServerId_none : t.byServerId none = none := rfl

@[simp] theorem byClientId_call (c : Call) (id : Option ℕ) :
    (t.call c).byClientId id = t.byClientId id := rfl

@[simp] theorem byServerId_call (c : Call) (id : Option ℕ) :
    (t.call c).byServerId id = t.byServerId id := rfl

@[simp] theorem lockUpstream_call (cl : Call) : (t.call cl).lockUpstream c = t.lockUpstream c := rfl

section Modify

variable {f : VpnConnection → VpnConnection}

theorem modify_eq (h : t.connections.get r = some c) :
    t.modify r f = { t with connections := t.connections.set r (f c) } := by
  simp only [Tunnel.modify, h]

theorem view_modify (h : t.connections.get r = some c) :
    view (t.modify r f) = (view t).put r (f c) := by
  rw [modify_eq h]
  simp [view, View.put]

theorem modify_none (h : t.connections.get r = none) : t.modify r f = t := by
  simp only [Tunnel.modify, h]

@[simp] theorem calls_modify : (t.modify r f).calls = t.calls := by
  unfold Tunnel.modify
  split <;> rfl

@[simp] theorem lockUpstream_modify : (t.modify r f).lockUpstream c = t.lockUpstream c := by
  unfold Tunnel.modify
  split <;> rfl

@[simp] theorem lockListener_modify : (t.modify r f).lockListener c = t.lockListener c := by
  unfold Tunnel.modify
  split <;> rfl

theorem get_modify (h : t.connections.get r = some c) :
    (t.modify r f).connections.get r = some (f c) := by
  rw [modify_eq h]
  simp

theorem get_modify_isSome (a : ℕ) :
    ((t.modify r f).connections.get a).isSome = (t.connections.get a).isSome := by
  unfold Tunnel.modify
  split
  · rfl
  · rename_i c hc
    by_cases ha : a = r
    · subst ha
      simp [hc]
    · simp [ha]

theorem leftRef_modify : (t.modify r f).connections.leftRef = t.connections.leftRef := by
  unfold Tunnel.modify
  split <;> rfl

theorem modify_call (cl : Call) : (t.modify r f).call cl = (t.call cl).modify r f := by
  cases h : t.connections.get r with
  | none => rw [modify_none h, modify_none (t := t.call cl) h]
  | some c =>
    rw [modify_eq h, modify_eq (t := t.call cl) h]
    rfl

theorem steps_modify (h : ∀ c, t.connections.get r = some c → Quiet A (view t) c (f c)) :
    Steps A t (t.modify r f) := by
  cases hc : t.connections.get r with
  | none => rw [modify_none hc]; exact .refl
  | some c =>
    refine .move fun _ ↦ ?_
    rw [view_modify hc]
    exact .edit hc (h c hc)

end Modify

def place (c : VpnConnection) :=
  (c.clientId, c.serverId, c.state, c.proto, c.upstream, c.listener, c.migratingClientId,
    c.flags.forciblyBypassed)

def face (c : VpnConnection) :=
  (c.flags.fakeConnection, c.flags.plainDnsConnection, c.sendBufferedTask)

def core (c : VpnConnection) := (place c, face c, c.action, c.bufferedPackets)

theorem place_of_core (h : core c' = core c) : place c' = place c := congrArg Prod.fst h

/-- How a copy `c` that was read before agrees with the record `x` now. -/
structure Copy (c x : VpnConnection) : Prop where
  clientId : x.clientId = c.clientId
  serverId : x.serverId = c.serverId
  state : x.state = c.state
  proto : x.proto = c.proto
  upstream : x.upstream = c.upstream
  listener : x.listener = c.listener

theorem Copy.refl : Copy c c := ⟨rfl, rfl, rfl, rfl, rfl, rfl⟩

theorem copy_of_place (h : place x = place c) : Copy c x := by
  simp only [place, Prod.mk.injEq] at h
  obtain ⟨h1, h2, h3, h4, h5, h6, -⟩ := h
  exact ⟨h1, h2, h3, h4, h5, h6⟩

variable {v : View}

theorem idles_of_face (hc : Copy c c') (hf : face c' = face c) : Idles v c c' := by
  simp only [face, Prod.mk.injEq] at hf
  obtain ⟨h1, h2, h3⟩ := hf
  refine ⟨fun hm k hk hu ↦ ?_, fun hf hp ↦ ⟨h1 ▸ hf, h2 ▸ hp⟩, fun hu ↦ .inl (hc.upstream ▸ hu),
    fun k hk ↦ .inl (h3 ▸ hk)⟩
  rw [h1, hc.state]
  exact hm k (hc.clientId ▸ hk) (hc.upstream ▸ hu)

theorem kept_of_place (h : place c' = place c)
    (ha : c'.action = some .forceBypass → c.action = some .forceBypass ∨
      ∃ k, c.clientId = some k ∧ Excused v.calls k)
    (hi : A.once → A.fake → Idles v c c') : Kept A v c c' := by
  have hc := copy_of_place h
  simp only [place, Prod.mk.injEq] at h
  obtain ⟨-, -, -, -, -, -, h7, h8⟩ := h
  exact
    { clientId := hc.clientId
      serverId := fun _ ↦ hc.serverId
      proto := hc.proto
      listener := hc.listener
      migratingClientId := h7
      replacing := by rw [hc.state]
      migrating := fun _ ↦ by rw [hc.state]
      resolving := fun hs ↦ .inl (hc.state ▸ hs)
      routed := fun _ hr ↦ .inl (by simpa only [Routed, hc.state, hc.upstream] using hr)
      settled := fun _ ↦ .inl hc.upstream
      forced := fun hf ↦ .inl (h8 ▸ hf)
      action := ha
      idle := hi }

theorem kept_of_buffered {ps : List Packet}
    (h : core c' = core { c with bufferedPackets := ps }) : Kept A v c c' := by
  simp only [core, Prod.mk.injEq] at h
  have hp : place c' = place c := h.1
  exact kept_of_place hp (fun ha ↦ .inl (h.2.2.1 ▸ ha)) fun _ _ ↦
    idles_of_face (copy_of_place hp) h.2.1

theorem quiet_of_core (h : core c' = core c) : Quiet A v c c' := by
  refine ⟨@kept_of_buffered _ c c' v c.bufferedPackets h, fun _ ↦ ?_⟩
  simp only [core, Prod.mk.injEq] at h
  exact h.2.2.2

theorem quiet_state {state : VpnConnectionState} (hr : c.state ≠ .waitingResponseMigrating)
    (hm : A.once → c.state ≠ .connectedMigrating)
    (hs : state ∉ [.waitingResponseMigrating, .connectedMigrating])
    (he : state = .waitingResolve → A.once → c.serverId = none)
    (hd : A.once → state ≠ .rejected → Routed c ∨ ∃ k, c.clientId = some k ∧ Completed v.calls k) :
    Quiet A v c { c with state := state } := by
  simp only [List.mem_cons, List.not_mem_nil, or_false, not_or] at hs
  exact
    { clientId := rfl
      serverId := fun _ ↦ rfl
      proto := rfl
      listener := rfl
      migratingClientId := rfl
      replacing := by simp [hs, hr]
      migrating := fun ho ↦ by simp [hs, hm ho]
      resolving := fun h ↦ .inr (he h)
      routed := fun ho h ↦ h.elim (fun h ↦ .inl (.inl h)) fun h ↦ hd ho h.2
      settled := fun _ ↦ .inl rfl
      forced := .inl
      action := .inl
      idle := fun ho _ ↦
        { marked := fun h k hk hu ↦
            (h k hk hu).imp id fun h ↦ .inr (h.resolve_left (hm ho))
          named := fun hf hp ↦ ⟨hf, hp⟩
          upstream := .inl
          task := fun _ ↦ .inl }
      buffered := fun _ ↦ rfl }

theorem steps_of_core (h : ∀ c, core (f c) = core c) : Steps A t (t.modify r f) :=
  steps_modify fun c _ ↦ quiet_of_core (h c)

theorem steps_call {c : Call} (h : isNeutral c = true) : Steps A t (t.call c) :=
  .move fun _ ↦ .emit c h

theorem Steps.call {c : Call} (h : Steps A t t') (hn : isNeutral c = true) :
    Steps A t (t'.call c) := h.trans (steps_call hn)

theorem Steps.modify (h : Steps A t t') (hf : ∀ c, core (f c) = core c) :
    Steps A t (t'.modify r f) :=
  h.trans (steps_of_core hf)

def essentials (c : VpnConnection) := (place c, face c, c.bufferedPackets, c.flags.firstPacket)

theorem copy_of_essentials (h : essentials x = essentials c) : Copy c x :=
  copy_of_place (congrArg Prod.fst h)

/-- Only inessential fields, neutral calls and the resolver's books differ. -/
structure Harmless (t t' : Tunnel) : Prop where
  left : t'.connections.leftRef = t.connections.leftRef
  get : ∀ a, (t'.connections.get a).map essentials = (t.connections.get a).map essentials
  calls : t.calls ⊆ t'.calls
  sent : ∀ id, sentOn t'.calls id = sentOn t.calls id
  upstream : ∀ c, t'.lockUpstream c = t.lockUpstream c
  listener : ∀ c, t'.lockListener c = t.lockListener c

namespace Harmless

theorem refl : Harmless t t :=
  ⟨rfl, fun _ ↦ rfl, List.Subset.refl _, fun _ ↦ rfl, fun _ ↦ rfl, fun _ ↦ rfl⟩

theorem trans (h : Harmless t t') (h' : Harmless t' t'') : Harmless t t'' where
  left := h'.left.trans h.left
  get a := (h'.get a).trans (h.get a)
  calls := List.Subset.trans h.calls h'.calls
  sent id := (h'.sent id).trans (h.sent id)
  upstream c := (h'.upstream c).trans (h.upstream c)
  listener c := (h'.listener c).trans (h.listener c)

theorem of_call {c : Call} (h : isNeutral c = true) : Harmless t (t.call c) where
  left := rfl
  get _ := rfl
  calls := List.subset_append_left _ _
  sent id := by
    have hn : sentOn [c] id = [] := sentOn_neutral (by simpa using h) id
    simp [Tunnel.call, sentOn_append, hn]
  upstream _ := rfl
  listener _ := rfl

theorem of_modify (h : ∀ c, essentials (f c) = essentials c) : Harmless t (t.modify r f)  where
  left := leftRef_modify
  get a := by
    unfold Tunnel.modify
    split
    · rfl
    · rename_i c hc
      by_cases ha : a = r
      · subst ha
        simp [hc, h]
      · simp [ha]
  calls := by simp
  sent _ := by simp
  upstream _ := lockUpstream_modify
  listener _ := lockListener_modify

theorem call {call : Call} (h : Harmless t t') (hn : isNeutral call = true) :
    Harmless t (t'.call call) := h.trans (.of_call hn)

theorem modify (h : Harmless t t') (hf : ∀ c, essentials (f c) = essentials c) :
    Harmless t (t'.modify r f) :=
  h.trans (.of_modify hf)

theorem exists_get (h : Harmless t t') (hx : t.connections.get r = some x) :
    ∃ x', t'.connections.get r = some x' ∧ essentials x' = essentials x := by
  have hr := h.get r
  rw [hx, map_some, map_eq_some_iff] at hr
  exact hr

theorem exists_client (h : Harmless t t') (hx : (view t).Client k r x) :
    ∃ x', (view t').Client k r x' ∧ essentials x' = essentials x := by
  obtain ⟨x', hx', he⟩ := h.exists_get hx.2
  exact ⟨x', ⟨(congrFun h.left k).trans hx.1, hx'⟩, he⟩

end Harmless

/-- The tunnel took notes: inessential fields of records changed and neutral calls were made. -/
inductive Notes (t : Tunnel) : Tunnel → Prop
  | refl : Notes t t
  | modify {t' : Tunnel} {r : ℕ} {f : VpnConnection → VpnConnection} : Notes t t' →
      (∀ c, core (f c) = core c) → (∀ c, essentials (f c) = essentials c) → Notes t (t'.modify r f)
  | call {t' : Tunnel} {c : Call} : Notes t t' → isNeutral c = true → Notes t (t'.call c)

theorem Notes.harmless (h : Notes t t') : Harmless t t' := by
  induction h with
  | refl => exact .refl
  | modify _ _ hf ih => exact ih.modify hf
  | call _ hn ih => exact ih.call hn

theorem Notes.steps (h : Notes t t') : Steps A t t' := by
  induction h with
  | refl => exact .refl
  | modify _ hf _ ih => exact ih.modify hf
  | call _ hn ih => exact ih.call hn

end TrustTunnel.Traffic.Refine.Basic

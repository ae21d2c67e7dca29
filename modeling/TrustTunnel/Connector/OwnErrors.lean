import TrustTunnel.Connector.Moves

namespace TrustTunnel.Connector.OwnErrors

open Connector.Composition Lib.Trace Lib.Transition Moves Session.Types Single List
open Session.Client (DeferredTask connectFailure keepFirstError)

variable {m : Limits} {v w : View}

/-- An error is raised after the `connect` that it arose after, and `connect` fails for its own
calls. -/
def Owned (before : List Record) : Record → Prop
  | .raised g (.error e) _ => .errorArose g e ∈ before
  | .connectReturned _ started bypassOpened returned => returned.code ≠ .noerror →
      (∃ e, started = some e ∧ e.code ≠ .noerror ∧ returned = connectFailure e) ∨
        bypassOpened = false
  | _ => True

structure Own (v : View) : Prop where
  placed : Placed v
  pending : ∀ e, v.pending = some e → .errorArose v.connects e ∈ v.trace ∧
    (v.state = .disconnecting ∨ .connectorFinalizer ∈ v.tasks)
  owned : Guarded Owned v.trace

theorem Own.pending_of_disconnected (h : Own v) (ht : v.state = .disconnected) :
    v.pending = none := by
  cases hpend : v.pending with
  | none => rfl
  | some e =>
    rcases (h.pending e hpend).2 with hs | htask
    · rw [ht] at hs
      cases hs
    · have hs := h.placed.state_of_task htask
      rw [ht] at hs
      cases hs

theorem keepFirstError_some {p d : Option VpnError} {e : VpnError}
    (h : keepFirstError p d = some e) : p = some e ∨ d = some e := by
  cases p with
  | some e' => exact .inl h
  | none =>
    cases d with
    | none => cases h
    | some e' =>
      simp only [keepFirstError] at h
      split at h
      · cases h
      · exact .inr h

theorem Own.owned_finalEvent (h : Own v) (u : Option ServerUpstream) {b : List Record}
    (hf : v.trace ⊆ b) : Owned b (.raised v.connects (finalEvent v.pending) u) := by
  cases hpend : v.pending with
  | none => trivial
  | some e => exact hf (h.pending e hpend).1

theorem owned_sessionError (g id : ℕ) (e : VpnError) (b : List Record) :
    ∀ r ∈ [Record.sessionEnded g id, .errorArose g e], Owned b r := by
  intro r hr
  rcases mem_cons.1 hr with rfl | hr
  · trivial
  · rw [mem_singleton.1 hr]
    trivial

theorem Own.move (ha : ∀ v, m.disconnects v → v.pending = none) (h : Own v)
    (hm : Move m v w) : Own w := by
  have hl := h.placed.move hm
  cases hm with
  | connect c s bo rd hst hc hre =>
    exact ⟨hl, fun e he ↦ (by cases he), h.owned.concat fun ho ↦ absurd hre ho⟩
  | connectFailed s bo rd hst hrs =>
    exact ⟨hl, fun e he ↦ (by cases he), h.owned.concat fun _ ↦ hrs (h.pending_of_disconnected hst)⟩
  | disconnectIdle hst =>
    refine ⟨hl, fun e he ↦ ?_, h.owned.concat trivial⟩
    rw [show _ = none from h.pending_of_disconnected hst] at he
    cases he
  | disconnect hst hp =>
    refine ⟨hl, fun e he ↦ ?_, h.owned.concat trivial⟩
    rw [show _ = none from ha v hp] at he
    cases he
  | silent hc hs => exact ⟨hl, h.pending, h.owned⟩
  | outcomeError hc hs =>
    refine ⟨hl, fun e he ↦ ?_, h.owned.concat trivial⟩
    cases he
    exact ⟨mem_concat_self, .inr mem_concat_self⟩
  | outcome hc hs => exact ⟨hl, fun e he ↦ (by cases he), h.owned⟩
  | outcomeDns e ha hc hs =>
    refine ⟨hl, fun e he ↦ ?_, h.owned.concat trivial⟩
    cases he
    exact ⟨mem_concat_self, .inr mem_concat_self⟩
  | errorIgnored e =>
    refine ⟨hl, fun e he ↦ ?_, h.owned.concat trivial⟩
    exact (h.pending e he).imp_left (mem_append_left _)
  | fail hst hd =>
    refine ⟨hl, fun e he ↦ ⟨?_, .inl rfl⟩, h.owned⟩
    rcases keepFirstError_some he with he | he
    · exact (h.pending e he).1
    · exact hd e he
  | sessionError hn hu hra hst =>
    refine ⟨hl, fun e he ↦ ?_, ?_⟩
    · exact (h.pending e he).imp_left (mem_append_left _)
    · exact h.owned.append_of_forall fun r hr b ↦ owned_sessionError _ _ _ b r hr
  | sessionErrorConnected hu hra hst =>
    refine ⟨hl, fun e he ↦ ⟨?_, .inl rfl⟩, ?_⟩
    · rcases keepFirstError_some he with he | he
      · exact mem_append_left _ (h.pending e he).1
      · cases he
        exact mem_append_right _ (mem_cons_of_mem _ (mem_singleton_self _))
    · exact h.owned.append_of_forall fun r hr b ↦ owned_sessionError _ _ _ b r hr
  | sessionClosed hn hu hra =>
    refine ⟨hl, fun e he ↦ (by cases he), ?_⟩
    rw [append_cons]
    refine Guarded.concat (h.owned.concat trivial) (h.owned_finalEvent _ ?_)
    exact subset_append_left _ _
  | sessionOpened hu hra => exact ⟨hl, h.pending, h.owned⟩
  | finalizeError ht hp =>
    refine ⟨hl, fun e he ↦ (by cases he), h.owned.concat ?_⟩
    exact (h.pending _ hp).1
  | finalize ht hp hst =>
    refine ⟨hl, fun e he ↦ ?_, h.owned.concat trivial⟩
    rw [show _ = none from hp] at he
    cases he
  | finalizeLate hst =>
    refine ⟨hl, fun e he ↦ ⟨(h.pending e he).1, .inl ?_⟩, h.owned⟩
    exact (h.pending e he).2.resolve_right fun ht ↦ hst (h.placed.state_of_task ht)
  | deferred hst =>
    exact ⟨hl, fun e he ↦ (by cases he), h.owned.concat (h.owned_finalEvent _ (List.Subset.refl _))⟩
  | deferredLate hst =>
    refine ⟨hl, fun e he ↦ (h.pending e he).imp_right (.imp_right ?_), h.owned⟩
    exact (mem_erase_of_ne (by decide)).2

/-- The run lemma: a pending error is one of the current session. -/
theorem own_run {k : Bool} {s : System} {ls : List Input}
    (h : Run step (fun s i ↦ undisturbed ⟨true, false⟩ s i = true) (start k) ls s) :
    Own (view s) := by
  refine invariant_of_moves (a := ⟨true, false⟩) (p := fun v ↦ v.pending = none)
    (fun v w hv hm ↦ hv.move (fun _ hp ↦ hp) hm) (fun s i hi ↦ ⟨hi, ?_⟩) h
    ⟨?_, fun e he ↦ ?_, guarded_nil⟩
  · rintro rfl
    exact Option.isNone_iff_eq_none.1 hi
  · exact placed_of_idle (fun hs ↦ (by cases hs)) rfl not_mem_nil
  · cases he

/-- If `disconnect` is not called while an error is pending and no open session ends while there is
a connector, a disconnected client has no error pending, and an error that `connect` returns or that
is raised after it is its own. -/
theorem connect_judged_on_its_own {killSwitchOn : Bool} {s : System} {ls : List Input}
    (h : Run step (fun s input ↦ undisturbed ⟨true, false⟩ s input = true)
        (start killSwitchOn) ls s) :
    (s.client.state = .disconnected → s.client.pendingError = none) ∧
    (∀ g started bypassOpened returned,
      .connectReturned g started bypassOpened returned ∈ s.trace → returned.code ≠ .noerror →
      (∃ e, started = some e ∧ e.code ≠ .noerror ∧ returned = connectFailure e) ∨
        bypassOpened = false) ∧
    ∀ before g e u after, s.trace = before ++ .raised g (.error e) u :: after →
      .errorArose g e ∈ before := by
  have hn := own_run h
  refine ⟨hn.pending_of_disconnected, fun g started bypassOpened returned hm ↦ ?_,
    fun before g e u after he ↦ hn.owned before _ after he⟩
  obtain ⟨before, after, -, ho⟩ := hn.owned.exists_before hm
  exact ho

def failingSession : List Input :=
  [.connect config false true true true, .connector (.childEvent .main .sessionOpened) none,
    .task .connectorFinalizer, .endpoint (.error ⟨.authRequired, "auth"⟩)]

/-- A `connect` after a session that failed. -/
theorem connect_judged_on_its_own_after_error :
    ∃ s, Run step (fun s input ↦ undisturbed ⟨true, false⟩ s input = true) (start false)
        (failingSession ++ [.task .deferredDisconnect, .connect config false true true true]) s ∧
      ∀ g started bypassOpened returned,
        .connectReturned g started bypassOpened returned ∈ s.trace → returned.code ≠ .noerror →
        (∃ e, started = some e ∧ e.code ≠ .noerror ∧ returned = connectFailure e) ∨
          bypassOpened = false :=
  exists_run_imp (P := fun _ ↦ True) (by decide) fun _ h _ ↦ (connect_judged_on_its_own h).2.1

/-- `disconnect` is called before the error of the session is raised, and the next `connect` returns
it although its connector was started. -/
theorem connect_returns_old_error :
    ∃ s, Run step anyStep (start false)
        (failingSession ++ [.disconnect, .connect config false true true true]) s ∧
      .connectReturned 2 none true ⟨.authRequired, "auth"⟩ ∈ s.trace :=
  exists_run (by decide)

end TrustTunnel.Connector.OwnErrors

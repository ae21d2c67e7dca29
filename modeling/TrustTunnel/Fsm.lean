import Mathlib.Data.List.Basic

namespace TrustTunnel.Fsm

variable {S E C D : Type}

/-- A row of a transition table; `none` is `ANY_SOURCE_STATE`, `ANYWAY` or `OTHERWISE`, `DO_NOTHING`
and `SAME_TARGET_STATE`. -/
structure TransitionEntry (S E C D : Type) where
  srcState : Option S
  event : E
  condition : Option (C → D → Bool)
  beforeTransition : Option (C → D → C)
  targetState : Option S
  afterTransition : Option (C → D → C)

structure FsmParameters (S E C D : Type) where
  table : List (TransitionEntry S E C D)
  getState : C → S
  setState : C → S → C

variable [DecidableEq S] [DecidableEq E]

def TransitionEntry.isMatched (entry : TransitionEntry S E C D) (state : S) (event : E)
    (ctx : C) (data : D) : Bool :=
  (entry.srcState == none || entry.srcState == some state) && entry.event == event &&
    match entry.condition with
    | none => true
    | some condition => condition ctx data

def TransitionEntry.fire (entry : TransitionEntry S E C D) (setState : C → S → C)
    (ctx : C) (data : D) : C :=
  let ctx := match entry.beforeTransition with
    | none => ctx
    | some action => action ctx data
  let ctx := match entry.targetState with
    | none => ctx
    | some target => setState ctx target
  match entry.afterTransition with
  | none => ctx
  | some action => action ctx data

/-- The loop of `Fsm::perform_transition`: the first matching row fires, and no other. -/
def fireFirst (params : FsmParameters S E C D) (event : E) (data : D) (ctx : C) :
    List (TransitionEntry S E C D) → C
  | [] => ctx
  | entry :: table =>
    if entry.isMatched (params.getState ctx) event ctx data then
      entry.fire params.setState ctx data
    else fireFirst params event data ctx table

def performTransition (params : FsmParameters S E C D) (event : E) (data : D) (ctx : C) : C :=
  fireFirst params event data ctx params.table

theorem performTransition_cases (ps : FsmParameters S E C D) (et : E) (data : D) (c : C) :
    performTransition ps et data c = c ∨ ∃ ey ∈ ps.table,
      ey.isMatched (ps.getState c) et c data = true ∧
        performTransition ps et data c = ey.fire ps.setState c data := by
  unfold performTransition
  induction ps.table with
  | nil => exact .inl rfl
  | cons ey t ih =>
    simp only [fireFirst]
    split
    · rename_i hm
      exact .inr ⟨ey, by simp, hm, rfl⟩
    · rcases ih with h | ⟨e, he, hm, h⟩
      · exact .inl h
      · exact .inr ⟨e, by simp [he], hm, h⟩

theorem performTransition_relates {R : C → C → Prop} (hl : ∀ cx, R cx cx)
    (hs : ∀ a b c, R a b → R b c → R a c) (ps : FsmParameters S E C D)
    (hse : ∀ cx s, R cx (ps.setState cx s)) (event : E) (d : D)
    (hf : ∀ e ∈ ps.table, e.event = event → ∀ an ∈ e.beforeTransition, ∀ cx, R cx (an cx d))
    (haf : ∀ e ∈ ps.table, e.event = event → ∀ an ∈ e.afterTransition, ∀ cx, R cx (an cx d))
    (cx : C) : R cx (performTransition ps event d cx) := by
  rcases performTransition_cases ps event d cx with h | ⟨e, he, hm, h⟩
  · rw [h]
    exact hl cx
  · have hv : e.event = event := by
      simp only [TransitionEntry.isMatched, Bool.and_eq_true, beq_iff_eq] at hm
      exact hm.1.2
    have hb : ∀ cx, R cx (match e.beforeTransition with
        | none => cx
        | some an => an cx d) := by
      intro cx
      split
      · exact hl cx
      · rename_i an ha
        exact hf e he hv an ha cx
    have ht : ∀ cx, R cx (match e.targetState with
        | none => cx
        | some t => ps.setState cx t) := by
      intro cx
      split
      · exact hl cx
      · exact hse cx _
    have ha : ∀ cx, R cx (match e.afterTransition with
        | none => cx
        | some an => an cx d) := by
      intro cx
      split
      · exact hl cx
      · rename_i an ha
        exact haf e he hv an ha cx
    rw [h]
    exact hs _ _ _ (hb cx) (hs _ _ _ (ht _) (ha _))

theorem performTransition_frame {α : Type} (f : C → α) (ps : FsmParameters S E C D)
    (h : ∀ ctx s, f (ps.setState ctx s) = f ctx)
    (hf : ∀ ey ∈ ps.table, ∀ an ∈ ey.beforeTransition, ∀ ctx d, f (an ctx d) = f ctx)
    (ht : ∀ ey ∈ ps.table, ∀ an ∈ ey.afterTransition, ∀ ctx d, f (an ctx d) = f ctx)
    (e : E) (d : D) (ctx : C) : f (performTransition ps e d ctx) = f ctx :=
  performTransition_relates (R := fun a b ↦ f b = f a) (fun _ ↦ rfl)
    (fun _ _ _ hab hbc ↦ hbc.trans hab) ps h e d
    (fun ey he _ an ha ctx ↦ hf ey he an ha ctx d)
    (fun ey he _ an ha ctx ↦ ht ey he an ha ctx d) ctx

end TrustTunnel.Fsm

import TrustTunnel.Fsm

namespace TrustTunnel.FsmValidation

open Fsm Function List

/-- An entry as it stands in the table. Of a condition it is known which function it is. -/
structure FsmTransitionEntry where
  srcState : UInt32
  event : Int
  condition : Option ℕ
  targetState : UInt32

def anySourceState : UInt32 := 0xffffffff

def sameTargetState : UInt32 := 0xfffffffe

/-- The loop of `Fsm::validate_transition_table`; `closed` is its validation table. -/
def validateEntries (closed : UInt32 × Int → Bool) : List FsmTransitionEntry → Bool
  | [] => true
  | entry :: table =>
    if entry.srcState = sameTargetState then false
    else if entry.targetState = anySourceState then false
    else if closed (entry.srcState, entry.event) then false
    else validateEntries (update closed (entry.srcState, entry.event) entry.condition.isNone) table

def validateTransitionTable (table : List FsmTransitionEntry) : Bool :=
  validateEntries (fun _ ↦ false) table

/-- A state, what the conditions answer, and the entry that was taken. -/
structure Ctx where
  state : UInt32
  outcome : ℕ → Bool
  fired : Option ℕ := none

namespace FsmTransitionEntry

/-- The entry for the interpreter, with an action that notes its number. -/
def row (entry : FsmTransitionEntry) (i : ℕ) : TransitionEntry UInt32 Int Ctx Unit where
  srcState := if entry.srcState = anySourceState then none else some entry.srcState
  event := entry.event
  condition := entry.condition.map fun c ctx _ ↦ ctx.outcome c
  beforeTransition := some fun ctx _ ↦ { ctx with fired := some i }
  targetState := if entry.targetState = sameTargetState then none else some entry.targetState
  afterTransition := none

def AppliesTo (entry : FsmTransitionEntry) (state : UInt32) : Prop :=
  entry.srcState = anySourceState ∨ entry.srcState = state

/-- The entry keeps a later one from being taken in a state, and the validator lets it. -/
def Shadows (a e : FsmTransitionEntry) (state : UInt32) : Prop :=
  a.event = e.event ∧ a.AppliesTo state ∧
    if a.condition = none then a.srcState ≠ e.srcState else a.condition = e.condition

end FsmTransitionEntry

open FsmTransitionEntry

def rows : ℕ → List FsmTransitionEntry → List (TransitionEntry UInt32 Int Ctx Unit)
  | _, [] => []
  | i, entry :: table => entry.row i :: rows (i + 1) table

def fsm (table : List FsmTransitionEntry) : FsmParameters UInt32 Int Ctx Unit :=
  ⟨rows 0 table, Ctx.state, fun ctx state ↦ { ctx with state }⟩

/-- In some state and for some answers of the conditions the event of entry `i` takes it. -/
def CanFire (table : List FsmTransitionEntry) (i : ℕ) (event : Int) : Prop :=
  ∃ state outcome,
    (performTransition (fsm table) event () { state, outcome }).fired = some i

variable {table pre post : List FsmTransitionEntry} {e : FsmTransitionEntry} {event : Int}

/-- What the checker rules out, pair by pair. -/
theorem pairwise_of_validate {closed : UInt32 × Int → Bool}
    (h : validateEntries closed table = true) :
    (∀ e ∈ table, closed (e.srcState, e.event) = false) ∧ table.Pairwise fun a e ↦
      a.srcState = e.srcState → a.event = e.event → a.condition ≠ none := by
  induction table generalizing closed with
  | nil => simp
  | cons a table ih =>
    simp only [validateEntries, Bool.if_false_left, Bool.and_eq_true] at h
    obtain ⟨hc, hp⟩ := ih h.2.2.2
    have hcl : closed (a.srcState, a.event) = false := by simpa using h.2.2.1
    refine ⟨forall_mem_cons.2 ⟨hcl, fun e he ↦ ?_⟩, pairwise_cons.2 ⟨fun e he hs hv hn ↦ ?_, hp⟩⟩
    · by_cases hk : (e.srcState, e.event) = (a.srcState, a.event)
      · rw [hk, hcl]
      · rw [← hc e he, update_of_ne hk]
    · have := hc e he
      rw [← hs, ← hv, update_self, hn] at this
      cases this

def taken (e : FsmTransitionEntry) (event : Int) (ctx : Ctx) : Bool :=
  (e.row 0).isMatched ctx.state event ctx ()

theorem taken_iff {ctx : Ctx} : taken e event ctx = true ↔
    e.AppliesTo ctx.state ∧ e.event = event ∧ ∀ c ∈ e.condition, ctx.outcome c = true := by
  rw [taken, TransitionEntry.isMatched, Bool.and_eq_true, Bool.and_eq_true, and_assoc]
  refine and_congr ?_ (and_congr beq_iff_eq ?_)
  · simp only [row, AppliesTo]
    split <;> simp [*]
  · cases hc : e.condition <;> simp [row, hc]

theorem fired_cons {k : ℕ} {ctx : Ctx} :
    (fireFirst (fsm table) event () ctx (rows k (e :: post))).fired =
      if taken e event ctx then some k
      else (fireFirst (fsm table) event () ctx (rows (k + 1) post)).fired := by
  rw [rows, fireFirst]
  change Ctx.fired (if taken e event ctx then _ else _) = _
  split
  · simp only [TransitionEntry.fire, row]
    split <;> rfl
  · rfl

theorem le_of_fired {k i : ℕ} {ctx : Ctx} (hn : ctx.fired = none)
    (h : (fireFirst (fsm table) event () ctx (rows k post)).fired = some i) : k ≤ i := by
  induction post generalizing k with
  | nil =>
    rw [rows, fireFirst, hn] at h
    cases h
  | cons e post ih =>
    rw [fired_cons] at h
    split at h
    · exact Nat.le_of_eq (Option.some.inj h)
    · exact Nat.le_of_succ_le (ih h)

/-- An entry fires exactly if it is the first that takes the event. -/
theorem fired_iff {k : ℕ} {ctx : Ctx} (hn : ctx.fired = none) :
    (fireFirst (fsm table) event () ctx (rows k (pre ++ e :: post))).fired =
      some (k + pre.length) ↔
        taken e event ctx = true ∧ ∀ a ∈ pre, ¬taken a event ctx = true := by
  induction pre generalizing k with
  | nil =>
    rw [nil_append, fired_cons]
    split
    · next ht => simp [ht]
    · next ht =>
      refine iff_of_false (fun h ↦ ?_) fun h ↦ ht h.1
      exact Nat.not_succ_le_self k (le_of_fired hn h)
  | cons a pre ih =>
    rw [cons_append, length_cons, fired_cons]
    split
    · next ht =>
      refine iff_of_false (fun h ↦ ?_) fun h ↦ h.2 a mem_cons_self ht
      have := Option.some.inj h
      omega
    · next ht => rw [Nat.add_comm pre.length, ← Nat.add_assoc, ih, forall_mem_cons,
        and_iff_right ht]

/-- Every entry of an accepted table can fire exactly if each has a state in which no entry before
it shadows it. -/
theorem entries_fire_iff (h : validateTransitionTable table = true) :
    (∀ pre e post, table = pre ++ e :: post → CanFire table pre.length e.event) ↔
      ∀ pre e post, table = pre ++ e :: post →
        ∃ state, e.AppliesTo state ∧ ∀ a ∈ pre, ¬a.Shadows e state := by
  refine forall_congr' fun pre ↦ forall_congr' fun e ↦ forall_congr' fun post ↦
    imp_congr_right fun ht ↦ exists_congr fun state ↦ ?_
  have hv : ∀ a ∈ pre, a.srcState = e.srcState → a.event = e.event → a.condition ≠ none := by
    have hp := (pairwise_of_validate h).2
    rw [ht] at hp
    exact fun a ha ↦ (pairwise_append.1 hp).2.2 a ha e mem_cons_self
  have hf : ∀ o, (performTransition (fsm table) e.event () ⟨state, o, none⟩).fired =
      some pre.length ↔ taken e e.event ⟨state, o, none⟩ = true ∧
        ∀ a ∈ pre, ¬taken a e.event ⟨state, o, none⟩ = true := by
    intro o
    have hi := @fired_iff table pre post e e.event 0 ⟨state, o, none⟩ rfl
    rwa [← ht, Nat.zero_add] at hi
  simp only [hf, taken_iff]
  constructor
  · rintro ⟨o, ⟨hs, -, hc⟩, hn⟩
    refine ⟨hs, fun a ha hsh ↦ hn a ha ⟨hsh.2.1, hsh.1, fun c hm ↦ ?_⟩⟩
    have hcon := hsh.2.2
    rw [Option.mem_def.1 hm, if_neg (by simp)] at hcon
    exact hc c hcon.symm
  · rintro ⟨hs, hn⟩
    refine ⟨fun c ↦ e.condition == some c, ⟨hs, trivial, fun c hm ↦ beq_iff_eq.2 hm⟩, ?_⟩
    rintro a ha ⟨hap, hev, hc⟩
    refine hn a ha ⟨hev, hap, ?_⟩
    split
    · next hnone => exact fun hsrc ↦ hv a ha hsrc hev hnone
    · next hsome =>
      obtain ⟨c, hcon⟩ := Option.ne_none_iff_exists'.1 hsome
      rw [hcon, eq_of_beq (hc c hcon)]

theorem entries_fire_of_two :
    ∃ a b, validateTransitionTable [a, b] = true ∧
      ∀ pre e post, [a, b] = pre ++ e :: post → CanFire [a, b] pre.length e.event := by
  refine ⟨⟨0, 1, none, 1⟩, ⟨1, 1, none, 0⟩, by decide, (entries_fire_iff (by decide)).2 ?_⟩
  rintro (_ | ⟨a, _ | ⟨b, pre⟩⟩) e post h
  · exact ⟨e.srcState, .inr rfl, forall_mem_nil _⟩
  · cases h
    refine ⟨1, .inr rfl, fun a ha hs ↦ ?_⟩
    rw [mem_singleton.1 ha] at hs
    exact hs.2.1.elim (by decide) (by decide)
  · simp at h

/-- The checker does not see that an entry for any state hides a later one. -/
theorem closed_for_any_state_accepted :
    validateTransitionTable [⟨anySourceState, 1, none, 1⟩, ⟨1, 1, none, 0⟩] = true ∧
      ¬CanFire [⟨anySourceState, 1, none, 1⟩, ⟨1, 1, none, 0⟩] 1 1 := by
  refine ⟨by decide, ?_⟩
  rintro ⟨s, o, h⟩
  cases h

end TrustTunnel.FsmValidation

import TrustTunnel.Lib.Transition
import TrustTunnel.Upstream.Refine

namespace TrustTunnel.Upstream.Custody

open Lib.Transition Multiplexer Pool Refine List
open Traffic.Types (ServerEvent)

variable {A : Rules} {env : Env} {s t : System} {u id : ℕ} {label : Env × Input} {a v : ℕ}

/-- Connections lead to children in the pool, and none is both open and pending. -/
structure Linked (s : System) : Prop where
  child : ∀ id u, s.1.connections.lookup id = some u ∨ s.1.pendingConnections.lookup id = some u →
    u ∈ s.1.upstreamsPool
  bounded : ∀ id, s.2.connIdGenerator ≤ id →
    s.1.connections.lookup id = none ∧ s.1.pendingConnections.lookup id = none
  apart : ∀ id, s.1.connections.lookup id = none ∨ s.1.pendingConnections.lookup id = none

namespace Linked

theorem lt (h : Linked s) (hi : id ∈ s.1.pendingConnections) : id < s.2.connIdGenerator :=
  Nat.lt_of_not_le fun hn ↦ mem_iff_lookup.1 hi (h.bounded id hn).2

theorem move (h : Linked s) (hm : Move A s t) : Linked t := by
  obtain ⟨hc, hb, ha⟩ := h
  cases hm with
  | quiet hq =>
    obtain ⟨hqc, hqp, hqo, -, -, -, hqg, -⟩ := hq
    constructor <;> grind
  | note _ hn =>
    obtain ⟨hx, es, hp, -⟩ := hn
    constructor <;> grind
  | addChild v _ => constructor <;> grind [AList.mem_insert]
  | openChild v => constructor <;> grind [AList.mem_replace]
  | drop => constructor <;> grind [AList.mem_erase]
  | clear => constructor <;> simp
  | _ =>
    constructor <;> grind [Lib.Assoc.lookup_erase, lookup_emplace, mem_iff_lookup, Parent.issue,
      Parent.skip, Parent.tell]

theorem steps (h : Linked s) (hs : Steps A s t) : Linked t := by
  induction hs with
  | refl => exact h
  | tail _ hm ih => exact ih.move hm

/-- An input is a run of the moves, which keeps the links. -/
theorem step (h : Linked s) (hm : Meets A s label) (hs : Pool.step s label = some t) :
    Linked t ∧ Steps A s t := by
  cases hs
  have ht : Steps A s (handle label.1 label.2 s) :=
    handle_steps (fun a ha ↦ h.lt ha) hm
  exact ⟨h.steps ht, ht⟩

end Linked

theorem linked_start (max : ℕ) : Linked (start max) :=
  ⟨fun id u hl ↦ by simp [start] at hl, fun _ _ ↦ ⟨rfl, rfl⟩, fun _ ↦ .inl rfl⟩

def anyRules : Rules := ⟨True, False, False, fun _ ↦ False⟩

theorem meets_anyRules : Meets anyRules s label :=
  ⟨trivial, False.elim, False.elim, fun _ ↦ False.elim⟩

structure Sized (max : ℕ) (s : System) : Prop where
  capacity : 1 ≤ max
  max_eq : s.1.maxUpstreamsNum = max
  size : s.1.upstreamsPool.entries.length ≤ max

variable {max : ℕ}

theorem Sized.move (h : Sized max s) (hm : Move A s t) : Sized max t := by
  cases hm with
  | quiet hq => exact ⟨h.capacity, hq.max.trans h.max_eq, hq.pool ▸ h.size⟩
  | note _ hn =>
    refine ⟨h.capacity, ?_, ?_⟩
    · rw [hn.mux]
      exact h.max_eq
    · rw [hn.mux]
      exact h.size
  | addChild v hr =>
    refine ⟨h.capacity, h.max_eq, ?_⟩
    have hl : (s.1.upstreamsPool.insert v UpstreamState.openingSession).entries.length ≤
        s.1.upstreamsPool.entries.length + 1 := by
      rw [AList.entries_insert, length_cons]
      exact Nat.succ_le_succ (kerase_sublist _ _).length_le
    rcases hr with ht | hnil
    · rw [h.max_eq] at ht
      exact hl.trans ht
    · rw [hnil] at hl
      exact hl.trans h.capacity
  | openChild v =>
    refine ⟨h.capacity, h.max_eq, ?_⟩
    have hl := congrArg length
      (AList.keys_replace v UpstreamState.sessionOpened s.1.upstreamsPool)
    simp only [AList.keys, keys, length_map] at hl
    exact hl.trans_le h.size
  | @drop v _ _ _ =>
    exact ⟨h.capacity, h.max_eq, (kerase_sublist _ _).length_le.trans h.size⟩
  | clear _ _ => exact ⟨h.capacity, h.max_eq, Nat.zero_le _⟩
  | _ => exact ⟨h.capacity, h.max_eq, h.size⟩

theorem Sized.steps (h : Sized max s) (hs : Steps A s t) : Sized max t := by
  induction hs with
  | refl => exact h
  | tail _ hm ih => exact ih.move hm

/-- A child is added only when all the others are full. -/
theorem threshold_of_new_child {mx : UpstreamMultiplexer} {c : Children}
    (h : v ∈ (mx.openConnection c id).1.upstreamsPool) (hd : v ∉ mx.upstreamsPool)
    (hu : u ∈ mx.upstreamsPool) : newUpstreamConnectionsNumThreshold ≤
      c.connectionsNum u + (mx.pendingOf u).length := by
  rcases openConnection_cases mx c id with
    ⟨m, hm, he | ⟨w, he⟩⟩ | ⟨m, w, -, hsel, -⟩
  · rw [he, hm.eq] at h
    exact absurd h hd
  · rw [he, pool_openConnectionOn, hm.eq] at h
    exact absurd h hd
  · exact (room_of_selectExistingUpstream hsel).2 u hu

/-- The invariant of the pool, in every state that any inputs lead to. -/
theorem pool_invariant {ls : List (Env × Input)} (hmax : 1 ≤ max)
    (h : Run Pool.step (fun _ _ ↦ True) (start max) ls s) :
    s.1.upstreamsPool.entries.length ≤ max ∧
    (∀ id u, s.1.connections.lookup id = some u ∨ s.1.pendingConnections.lookup id = some u →
      u ∈ s.1.upstreamsPool) ∧
    (∀ id, ¬ (id ∈ s.1.connections ∧ id ∈ s.1.pendingConnections)) ∧
    ∀ (mux : UpstreamMultiplexer) children id v,
      v ∈ (mux.openConnection children id).1.upstreamsPool → v ∉ mux.upstreamsPool →
      ∀ u ∈ mux.upstreamsPool, newUpstreamConnectionsNumThreshold ≤
        children.connectionsNum u + (mux.pendingOf u).length := by
  have ha := h.invariant (P := fun s ↦ Linked s ∧ Sized max s)
    ⟨linked_start max, hmax, rfl, Nat.zero_le _⟩ ?_
  · obtain ⟨hd, hs⟩ := ha
    refine ⟨hs.size, hd.child, fun id hb ↦ ?_,
      fun mux children id v hn ho u hu ↦ threshold_of_new_child hn ho hu⟩
    exact (hd.apart id).elim (mem_iff_lookup.1 hb.1) (mem_iff_lookup.1 hb.2)
  · rintro s l t ⟨hl, hz⟩ - he
    obtain ⟨hl', ht⟩ := hl.step meets_anyRules he
    exact ⟨hl', hz.steps ht⟩

def sixRequests : List (Env × Input) :=
  ({}, .openSession) :: List.replicate 6 ({}, .request (.openConnection 0))

theorem pool_invariant_of_two_children :
    ∃ ls s, Run Pool.step (fun _ _ ↦ True) (start 2) ls s ∧
      s.1.upstreamsPool.keys = [1, 0] ∧ s.1.pendingOf 0 = [4, 3, 2, 1, 0] ∧
      s.1.pendingOf 1 = [5] ∧ s.1.upstreamsPool.entries.length ≤ 2 :=
  ⟨sixRequests,
    exists_run_imp (P := fun s ↦ s.1.upstreamsPool.keys = [1, 0] ∧
        s.1.pendingOf 0 = [4, 3, 2, 1, 0] ∧ s.1.pendingOf 1 = [5]) (by decide)
      fun _ hr hp ↦ ⟨hp.1, hp.2.1, hp.2.2, (pool_invariant (by decide) hr).1⟩⟩

def ends (id : ℕ) : ServerEvent → Bool
  | .connectionClosed a | .error a _ => a == id
  | _ => false

def reported (p : Parent) (id : ℕ) : Bool := p.events.any fun e ↦ ends id e.event

def Kept (s : System) : Prop :=
  ∀ id ∈ s.2.opened, reported s.2 id = true ∨ id ∈ s.1.connections ∨ id ∈ s.1.pendingConnections

theorem reported_append {p p' : Parent} {es : List Raised} (h : p'.events = p.events ++ es)
    (id : ℕ) : reported p' id = (reported p id || es.any fun e ↦ ends id e.event) := by
  rw [reported, h, any_append]
  rfl

theorem Kept.move (hA : A.kept) (h : Kept s) (hm : Move A s t) : Kept t := by
  intro a ha
  have hk := h a
  cases hm with
  | quiet hq =>
    obtain ⟨hqc, hqp, -, -, -, hqo, -, -, -, hqe⟩ := hq
    have hr := reported_append (hqe.trans (append_nil _).symm) a
    grind
  | note _ hn =>
    obtain ⟨hx, es, hp, -⟩ := hn
    have he : t.2.events = s.2.events ++ es := by rw [hp]
    have hr := reported_append he a
    grind
  | clear _ he =>
    rw [he hA] at hk
    rcases hk ha with hr | hr | hr
    · exact .inl (by simpa [reported] using .inl (any_eq_true.1 hr))
    · exact absurd hr (AList.notMem_empty a)
    · exact .inl (by simp [reported, ends, AList.mem_keys.1 hr])
  | ended _ c _ => cases c <;> grind [Parent.tell, reported, ends, AList.mem_erase]
  | _ =>
    grind [Parent.issue, Parent.skip, Parent.tell, AList.mem_erase, mem_emplace, reported, ends]

theorem Kept.steps (hA : A.kept) (h : Kept s) (hs : Steps A s t) : Kept t := by
  induction hs with
  | refl => exact h
  | tail _ hm ih => exact ih.move hA hm

def keepRules : Rules := ⟨True, True, False, fun _ ↦ False⟩

/-- No connection is lost while the children report their connections before they are dropped and
what waits for them can proceed. -/
theorem connections_kept {ls : List (Env × Input)}
    (h : Run Pool.step (fun s l ↦ keepsConnections s l = true) (start max) ls s) : Kept s := by
  have ha := h.invariant (P := fun s ↦ Linked s ∧ Kept s) ⟨linked_start max, nofun⟩ ?_
  · exact ha.2
  · rintro s label t ⟨hl, hk⟩ ho he
    have hm : Meets keepRules s label := ⟨trivial, fun _ ↦ ho, False.elim, fun _ ↦ False.elim⟩
    obtain ⟨hl', hs⟩ := hl.step hm he
    exact ⟨hl', hk.steps trivial hs⟩

/-- A child fails before its pending connection is opened, and another one closes a connection. -/
theorem connections_kept_over_child_failure :
    ∃ ls s, Run Pool.step (fun s l ↦ keepsConnections s l = true) (start 8) ls s ∧
      s.2.opened = [0, 1, 2, 3, 4, 5] ∧ s.1.upstreamsPool.keys = [0] ∧
      s.1.connections.keys = [1, 2, 3, 4] ∧ Kept s :=
  ⟨sixRequests ++ ([({}, .child 0 .sessionOpened), ({}, .child 1 .sessionClosed),
      ({}, .closeTask), ({}, .child 0 (.connectionClosed 0))] : List (Env × Input)),
    exists_run_imp (P := fun s ↦ s.2.opened = [0, 1, 2, 3, 4, 5] ∧ s.1.upstreamsPool.keys = [0] ∧
        s.1.connections.keys = [1, 2, 3, 4]) (by decide)
      fun _ hr hp ↦ ⟨hp.1, hp.2.1, hp.2.2, connections_kept hr⟩⟩

/-- The first child does not open what waits for it. The loop falls back on the second one, which
is still being opened, and then erases the entries that were to stay for it. -/
theorem fallback_on_opening_child_loses_connection :
    ∃ ls s, Run Pool.step (fun _ _ ↦ True) (start 8) ls s ∧ s.1.upstreamsPool.keys = [1, 0] ∧
      ¬ Kept s := by
  refine ⟨sixRequests ++
      [({ children := { opensConnection := fun u _ ↦ u != 0 } }, .child 0 .sessionOpened)],
    exists_run_imp (P := fun s ↦ s.1.upstreamsPool.keys = [1, 0] ∧ 0 ∈ s.2.opened ∧
      ¬ (reported s.2 0 = true ∨ 0 ∈ s.1.connections ∨ 0 ∈ s.1.pendingConnections)) (by decide)
      fun s _ hp ↦ ⟨hp.1, fun hk ↦ hp.2.2 (hk 0 hp.2.1)⟩⟩

def openings (s : System) (id : ℕ) : ℕ := s.2.events.countP fun e ↦ e.event == .connectionOpened id

def endings (s : System) (id : ℕ) : ℕ := s.2.events.countP fun e ↦ ends id e.event

/-- What was asked of the children or told to the owner is not about pending connections. -/
def Traced (s : System) : Prop :=
  ∀ id, Asked s.1 id ∨ 0 < openings s id ∨ 0 < endings s id →
    id < s.2.connIdGenerator ∧ id ∉ s.1.pendingConnections

/-- What a move does for the connection `id`. If it is held, it leaves the table only with an
error. -/
structure Effect (A : Rules) (s t : System) (id : ℕ) : Prop where
  generator : s.2.connIdGenerator ≤ t.2.connIdGenerator
  pending : id ∈ t.1.pendingConnections → id ∈ s.1.pendingConnections ∨ s.2.connIdGenerator ≤ id
  asked : Asked t.1 id → Asked s.1 id ∨ id < t.2.connIdGenerator ∧
    id ∉ t.1.pendingConnections ∧ (id < s.2.connIdGenerator → ¬ A.held id)
  opened : openings t id = openings s id ∨ (A.asked → Asked s.1 id)
  ended : endings t id = endings s id ∨ (A.asked → Asked s.1 id) ∨
    id ∈ s.1.pendingConnections ∧ id ∉ t.1.pendingConnections
  left : A.held id → id ∈ s.1.pendingConnections → id ∉ t.1.pendingConnections →
    endings t id = endings s id + 1

section Counts

variable {cs : List ChildCall} {es : List Raised}

theorem AsksFor.eq (h : AsksFor id cs) (hm : .openConnection u a ∈ cs) : a = id ∧ cs ≠ [] := by
  obtain ⟨w, hw⟩ := h _ hm
  cases hw
  exact ⟨rfl, ne_nil_of_mem hm⟩

theorem ends_of_session {e : ServerEvent} (h : isSessionEvent e = true) :
    ends id e = false ∧ (e == .connectionOpened id) = false := by
  cases e <;> simp_all [isSessionEvent, ends]

theorem openings_append (h : t.2.events = s.2.events ++ es) (id : ℕ) :
    openings t id = openings s id + es.countP (fun e ↦ e.event == .connectionOpened id) := by
  rw [openings, h, countP_append]
  rfl

theorem endings_append (h : t.2.events = s.2.events ++ es) (id : ℕ) :
    endings t id = endings s id + es.countP (fun e ↦ ends id e.event) := by
  rw [endings, h, countP_append]
  rfl

end Counts

theorem effect_of_move (hl : Linked s) (h : Move A s t) : Effect A s t a := by
  have hb : a ∈ s.1.pendingConnections → _ := hl.lt
  cases h with
  | quiet hq =>
    obtain ⟨-, hp, -, -, ⟨cs, hc, hn⟩, -, hg, -, -, he⟩ := hq
    have ho := openings_append (he.trans (append_nil _).symm) a
    have hd := endings_append (he.trans (append_nil _).symm) a
    constructor <;> grind [Asked]
  | note _ hn =>
    obtain ⟨hx, es, hp, hs⟩ := hn
    have he : t.2.events = s.2.events ++ es := by rw [hp]
    have ho := openings_append he a
    have hd := endings_append he a
    rw [countP_eq_zero.2 fun e he ↦ by simp [ends_of_session (hs e he)]] at ho hd
    constructor <;> grind [Asked]
  | clear =>
    have hd : ((s.1.pendingConnections.keys.map fun id ↦ ⟨.error id .connReset, []⟩ :
        List Raised).countP fun e ↦ ends a e.event) = s.1.pendingConnections.keys.count a := by
      rw [countP_map]
      rfl
    refine ⟨le_rfl, by simp, .inl, .inl ?_, ?_, fun _ hi _ ↦ ?_⟩
    · simp [openings, countP_eq_zero]
    · by_cases hi : a ∈ s.1.pendingConnections
      · exact .inr (.inr ⟨hi, AList.notMem_empty a⟩)
      · refine .inl ((endings_append rfl a).trans ?_)
        rw [hd, count_eq_zero.2 (hi ∘ AList.mem_keys.2), Nat.add_zero]
    · refine (endings_append rfl a).trans ?_
      rw [hd, count_eq_one_of_mem (AList.keys_nodup _) (AList.mem_keys.1 hi)]
  | ended _ c _ =>
    cases c <;> constructor <;> grind [Parent.tell, ends, Asked, openings, endings]
  | _ =>
    constructor <;> grind [Parent.issue, Parent.skip, Parent.tell, AList.mem_erase, mem_emplace,
      ends, Asked, AsksFor.eq, openings, endings]

theorem Traced.move (hA : A.asked) (hl : Linked s) (h : Traced s) (hm : Move A s t) : Traced t := by
  intro a ha
  have ht := h a
  have hb : a ∈ s.1.pendingConnections → _ := hl.lt
  obtain ⟨hg, hp, hk, ho, he, -⟩ := effect_of_move (a := a) hl hm
  grind

structure Held (id : ℕ) (s : System) : Prop where
  fresh : id < s.2.connIdGenerator
  unasked : ¬ Asked s.1 id
  unopened : openings s id = 0
  once : endings s id = if id ∈ s.1.pendingConnections then 0 else 1

/-- What is pending has not been asked for or told of. -/
theorem held_of_pending (hl : Linked s) (h : Traced s) (hi : id ∈ s.1.pendingConnections) :
    Held id s := by
  have ht := h id
  have hb := hl.lt hi
  constructor <;> grind

theorem Held.move (hA : A.asked) (hi : A.held id) (hl : Linked s) (h : Held id s)
    (hm : Move A s t) : Held id t := by
  obtain ⟨hf, hu, ho, hn⟩ := h
  obtain ⟨hg, hp, hk, ho', he, hl'⟩ := effect_of_move (a := id) hl hm
  constructor <;> grind

def askRules (held : ℕ → Prop) : Rules := ⟨True, False, True, held⟩

theorem Traced.steps (hA : A.asked) (hl : Linked s) (h : Traced s) (hs : Steps A s t) :
    Traced t := by
  have hb : Linked t ∧ Traced t := by
    induction hs with
    | refl => exact ⟨hl, h⟩
    | tail _ hm ih => exact ⟨ih.1.move hm, ih.2.move hA ih.1 hm⟩
  exact hb.2

theorem Held.steps (hA : A.asked) (hi : A.held id) (hl : Linked s) (h : Held id s)
    (hs : Steps A s t) : Held id t := by
  have hb : Linked t ∧ Held id t := by
    induction hs with
    | refl => exact ⟨hl, h⟩
    | tail _ hm ih => exact ⟨ih.1.move hm, ih.2.move hA hi ih.1 hm⟩
  exact hb.2

/-- The run lemma. -/
theorem traced_of_run {ls : List (Env × Input)}
    (h : Run Pool.step (fun s l ↦ speaksOfAsked s l = true) (start max) ls s) :
    Linked s ∧ Traced s := by
  refine h.invariant (P := fun s ↦ Linked s ∧ Traced s) ⟨linked_start max, fun a ha ↦ ?_⟩ ?_
  · simp [start, Asked, openings, endings] at ha
  · rintro s label t ⟨hl, ht⟩ ho he
    have hm : Meets (askRules fun _ ↦ False) s label :=
      ⟨trivial, False.elim, fun _ ↦ ho, fun _ ↦ False.elim⟩
    obtain ⟨hl', hs⟩ := hl.step hm he
    exact ⟨hl', ht.steps trivial hl hs⟩

/-- What follows the close of a pending connection whose child does not open any more. -/
theorem close_of_pending_honoured {ls ls' : List (Env × Input)} {graceful async : Bool}
    (h : Run Pool.step (fun s l ↦ speaksOfAsked s l = true) (start max) ls s)
    (hid : id ∈ s.1.pendingConnections)
    (h' : Run Pool.step (fun s l ↦ speaksOfAsked s l = true ∧ leavesPending id s l = true) s
      ((env, .request (.closeConnection id graceful async)) :: ls') t) :
    ¬ Asked t.1 id ∧ (∀ e ∈ t.2.events, e.event ≠ .connectionOpened id) ∧
      t.2.events.countP (fun e ↦ ends id e.event) = (if id ∈ t.1.pendingConnections then 0 else 1) ∧
      ∀ u, t.1.pendingConnections.lookup id = some u → u ∈ t.1.upstreamsPool := by
  obtain ⟨hl, ht⟩ := traced_of_run h
  have ha := h'.invariant (P := fun s ↦ Linked s ∧ Held id s) ⟨hl, held_of_pending hl ht hid⟩ ?_
  · obtain ⟨hi, hd⟩ := ha
    refine ⟨hd.unasked, fun e he ho ↦ ?_, hd.once, fun u hu ↦ hi.child id u (.inr hu)⟩
    exact countP_eq_zero.1 hd.unopened e he (beq_iff_eq.2 ho)
  · rintro s label t ⟨hl, hh⟩ ⟨ho, hle⟩ he
    have hm : Meets (askRules (· = id)) s label := by
      refine ⟨trivial, False.elim, fun _ ↦ ho, ?_⟩
      rintro a rfl
      exact ⟨hh.fresh, hle⟩
    obtain ⟨hl', hs⟩ := hl.step hm he
    exact ⟨hl', hh.steps trivial rfl hl hs⟩

def pendingRun : List (Env × Input) := [({}, .openSession), ({}, .request (.openConnection 0))]

def closeFirst : Env × Input := ({}, .request (.closeConnection 0 true true))

/-- The child dies before it opens, and the owner is told once. -/
theorem close_of_pending_honoured_by_failure :
    ∃ ls ls' s t, Run Pool.step (fun s l ↦ speaksOfAsked s l = true) (start 8) ls s ∧
      0 ∈ s.1.pendingConnections ∧
      Run Pool.step (fun s l ↦ speaksOfAsked s l = true ∧ leavesPending 0 s l = true) s
        (closeFirst :: ls') t ∧
      ¬ Asked t.1 0 ∧ 0 ∉ t.1.pendingConnections ∧
      t.2.events.countP (fun e ↦ ends 0 e.event) = 1 := by
  obtain ⟨s, hr, hp⟩ := exists_run_of_execWhile Pool.step
    (fun s l ↦ speaksOfAsked s l = true) (start 8) pendingRun
    (fun s ↦ s.1.pendingConnections.keys.contains 0 &&
      (execWhile Pool.step (fun s l ↦ speaksOfAsked s l = true ∧ leavesPending 0 s l = true) s
        [closeFirst, ({}, .child 0 (.sessionError ⟨.error, ""⟩)), ({}, .closeTask)]).any
          fun t ↦ !t.1.pendingConnections.keys.contains 0) (by decide)
  rw [Bool.and_eq_true] at hp
  obtain ⟨t, hr', hp'⟩ := exists_run_of_execWhile Pool.step _ s _ _ hp.2
  have hi : 0 ∈ s.1.pendingConnections := AList.mem_keys.2 (by simpa using hp.1)
  have ht : 0 ∉ t.1.pendingConnections := fun h ↦ by
    simp [AList.mem_keys.1 h] at hp'
  obtain ⟨ha, -, ho, -⟩ := close_of_pending_honoured hr hi hr'
  rw [if_neg ht] at ho
  exact ⟨_, _, s, t, hr, hi, hr', ha, ht, ho⟩

/-- The close of a pending connection is not remembered: its child opens it, and the owner is
told that it is open. -/
theorem closed_pending_connection_is_opened :
    ∃ ls ls' s t, Run Pool.step (fun s l ↦ speaksOfAsked s l = true) (start 8) ls s ∧
      0 ∈ s.1.pendingConnections ∧
      Run Pool.step (fun s l ↦ speaksOfAsked s l = true) s (closeFirst :: ls') t ∧
      .openConnection 0 0 ∈ t.1.calls ∧ (∃ e ∈ t.2.events, e.event = .connectionOpened 0) ∧
      reported t.2 0 = false := by
  obtain ⟨s, hr, hp⟩ := exists_run_of_execWhile Pool.step
    (fun s l ↦ speaksOfAsked s l = true) (start 8) pendingRun
    (fun s ↦ s.1.pendingConnections.keys.contains 0 &&
      (execWhile Pool.step (fun s l ↦ speaksOfAsked s l = true) s
        [closeFirst, ({}, .child 0 .sessionOpened), ({}, .child 0 (.connectionOpened 0))]).any
          fun t ↦ t.1.calls.contains (.openConnection 0 0) &&
            t.2.events.any (fun e ↦ e.event == .connectionOpened 0) && !reported t.2 0) (by decide)
  rw [Bool.and_eq_true] at hp
  obtain ⟨t, hr', hp'⟩ := exists_run_of_execWhile Pool.step _ s _ _ hp.2
  simp only [Bool.and_eq_true, contains_iff_mem, any_eq_true, beq_iff_eq, Bool.not_eq_true'] at hp'
  exact ⟨_, _, s, t, hr, AList.mem_keys.2 (by simpa using hp.1), hr', hp'.1.1, hp'.1.2, hp'.2⟩

end TrustTunnel.Upstream.Custody

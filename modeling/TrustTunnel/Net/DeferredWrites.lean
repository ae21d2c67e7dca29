import Mathlib.Data.List.Nodup
import TrustTunnel.Lib.Transition

namespace TrustTunnel.Net.DeferredWrites

open Lib.Transition List

/-- `LINGER_TV`, in microseconds as all times here. -/
def lingerTv : ℕ := 30 * 1000000

/-- Why a bufferevent is freed. The last two are the contexts that the manager does not keep. -/
inductive Cause
  | flushed
  | event
  | tick
  | completeAll
  | refused
  | doubled
deriving DecidableEq

structure Free where
  bev : ℕ
  cause : Cause
  time : ℕ
deriving DecidableEq

structure HandOver where
  bev : ℕ
  time : ℕ
deriving DecidableEq

/-- The bufferevents are numbered in the order in which they are given to the manager. -/
structure SocketManager where
  byFd : List (ℕ × ℕ) := []
  deadlines : List (ℕ × ℕ) := []
  timerId : Option ℕ := none
  next : ℕ := 0
  handed : List HandOver := []
  freed : List Free := []

namespace SocketManager

variable (m : SocketManager) (now : ℕ)

def release (p : ℕ → Bool) (cause : Cause) : SocketManager :=
  { m with
    byFd := m.byFd.filter fun e ↦ ¬p e.1
    freed := ((m.byFd.filter fun e ↦ p e.1).map fun e ↦ ⟨e.2, cause, now⟩) ++ m.freed }

def removeByFd (cause : Cause) (fd : ℕ) : SocketManager := m.release now (· == fd) cause

def clearWrites : SocketManager :=
  { m.release now (fun _ ↦ true) .completeAll with deadlines := [], timerId := none }

def clearIfEmpty : SocketManager := if m.byFd.isEmpty then m.clearWrites now else m

def insert (fd : ℕ) : SocketManager :=
  let m' := { m with
    deadlines := (now + lingerTv, fd) :: m.deadlines
    next := m.next + 1
    handed := ⟨m.next, now⟩ :: m.handed }
  if m.byFd.any (·.1 == fd) then { m' with freed := ⟨m.next, .doubled, now⟩ :: m.freed }
  else { m' with byFd := (fd, m.next) :: m.byFd }

/-- `socket_manager_complete_write`, with the id that a subscription to the timer has. -/
def completeWrite (fd : ℕ) (id : Option ℕ) : SocketManager × Bool :=
  match m.timerId <|> id with
  | none => ({ m with next := m.next + 1, freed := ⟨m.next, .refused, now⟩ :: m.freed }, false)
  | some id => ({ m with timerId := some id }.insert now fd, true)

def freeAfterFlush (left : ℕ) (fd : ℕ) : SocketManager :=
  if left ≠ 0 then m else (m.removeByFd now .flushed fd).clearIfEmpty now

def freeAfterEvent (fd : ℕ) : SocketManager := (m.removeByFd now .event fd).clearIfEmpty now

def expire (deadlines : List (ℕ × ℕ)) : SocketManager :=
  deadlines.foldl (fun m deadline ↦ m.removeByFd now .tick deadline.2) m

def deferredWriteTimerTick : SocketManager :=
  if m.byFd.isEmpty then m.clearWrites now
  else
    let m := m.expire now (m.deadlines.filter fun deadline ↦ deadline.1 ≤ now)
    { m with deadlines := m.deadlines.filter fun deadline ↦ ¬deadline.1 ≤ now }.clearIfEmpty now

def fd (bev : ℕ) : Option ℕ := (m.byFd.find? (·.2 == bev)).map (·.1)

end SocketManager

inductive Input
  | completeWrite (fd : ℕ) (id : Option ℕ)
  | flushed (bev left : ℕ)
  | event (bev : ℕ)
  | tick
  | completeAll

/-- The descriptor of a socket that waits is open, so that no other socket has it. -/
def step (m : SocketManager) : ℕ × Input → Option SocketManager
  | (now, .completeWrite fd id) =>
    if m.byFd.any (·.1 == fd) then none else some (m.completeWrite now fd id).1
  | (now, .flushed bev left) => (m.fd bev).map (m.freeAfterFlush now left)
  | (now, .event bev) => (m.fd bev).map (m.freeAfterEvent now)
  | (now, .tick) => some (m.deferredWriteTimerTick now)
  | (now, .completeAll) => some (m.clearWrites now)

/-- No deadline of an earlier socket with its descriptor is left when a socket is handed over. -/
def handsOverFresh (m : SocketManager) : ℕ × Input → Bool
  | (_, .completeWrite fd _) => m.deadlines.all fun deadline ↦ deadline.2 != fd
  | _ => true

/-- There was an input for which the bufferevent is to be freed. -/
def Free.Timely (ls : List (ℕ × Input)) (f : Free) (h : HandOver) : Prop :=
  match f.cause with
  | .tick => (f.time, .tick) ∈ ls ∧ h.time + lingerTv ≤ f.time
  | .flushed => (f.time, .flushed f.bev 0) ∈ ls
  | .event => (f.time, .event f.bev) ∈ ls
  | .completeAll => (f.time, .completeAll) ∈ ls
  | .refused | .doubled => False

theorem Free.Timely.mono {ls ls' : List (ℕ × Input)} {f : Free} {h : HandOver} (hs : ls ⊆ ls')
    (ht : f.Timely ls h) : f.Timely ls' h := by
  obtain ⟨b, c, n⟩ := f
  cases c with
  | tick => exact ⟨hs ht.1, ht.2⟩
  | flushed | event | completeAll => exact hs ht
  | refused | doubled => exact ht

namespace SocketManager

variable {m : SocketManager} {n fd : ℕ} {ls : List (ℕ × Input)}

def count (m : SocketManager) (bev : ℕ) : ℕ :=
  m.freed.countP (·.bev == bev) + m.byFd.countP (·.2 == bev)

structure Good (ls : List (ℕ × Input)) (m : SocketManager) : Prop where
  once : ∀ bev, m.count bev = if bev < m.next then 1 else 0
  nodup : (m.byFd.map (·.1)).Nodup
  handed : ∀ h ∈ m.handed, h.bev < m.next
  freed : ∀ f ∈ m.freed, ∀ h ∈ m.handed, h.bev = f.bev → f.Timely ls h
  waits : ∀ e ∈ m.byFd, ∀ h ∈ m.handed, h.bev = e.2 →
    (h.time + lingerTv, e.1) ∈ m.deadlines ∧ ∀ d, (d, e.1) ∈ m.deadlines → h.time + lingerTv ≤ d

theorem Good.mono {ls' : List (ℕ × Input)} (hg : Good ls m) (hs : ls ⊆ ls') : Good ls' m :=
  { hg with freed := fun f hf h hh he ↦ (hg.freed f hf h hh he).mono hs }

theorem good_release {p : ℕ → Bool} {c : Cause} (hg : Good ls m)
    (ht : ∀ e ∈ m.byFd, p e.1 → ∀ h ∈ m.handed, h.bev = e.2 → Free.Timely ls ⟨e.2, c, n⟩ h) :
    Good ls (m.release n p c) where
  once bev := by
    have hs := countP_eq_countP_filter_add m.byFd (·.2 == bev) fun e ↦ p e.1
    refine Eq.trans ?_ (hg.once bev)
    simp only [count, release, countP_append, countP_map, hs]
    simp [Function.comp_def]
    omega
  nodup := hg.nodup.sublist (filter_sublist.map _)
  handed := hg.handed
  freed f hf h hh he := by
    rcases mem_append.1 hf with hf | hf
    · obtain ⟨e, hm, rfl⟩ := mem_map.1 hf
      have hm := mem_filter.1 hm
      exact ht e hm.1 hm.2 h hh he
    · exact hg.freed f hf h hh he
  waits e hm := hg.waits e (mem_filter.1 hm).1

theorem good_clearWrites (hg : Good ls m) (hc : m.byFd ≠ [] → (n, .completeAll) ∈ ls) :
    Good ls (m.clearWrites n) :=
  have hr : Good ls (m.release n (fun _ ↦ true) .completeAll) :=
    good_release hg fun _ hm _ _ _ _ ↦ hc (ne_nil_of_mem hm)
  { hr with waits := fun e hm ↦ by simp [clearWrites, release] at hm }

theorem good_clearIfEmpty (hg : Good ls m) : Good ls (m.clearIfEmpty n) := by
  unfold clearIfEmpty
  split
  · next he => exact good_clearWrites hg fun hn ↦ absurd (isEmpty_iff.1 he) hn
  · exact hg

theorem good_expire {ds : List (ℕ × ℕ)} (hg : Good ls m) (ht : (n, .tick) ∈ ls)
    (hd : ∀ d ∈ ds, d ∈ m.deadlines ∧ d.1 ≤ n) : Good ls (m.expire n ds) := by
  induction ds generalizing m with
  | nil => exact hg
  | cons d rest ih =>
    refine ih (good_release hg fun e hm he h hh hb ↦ ?_) fun d hm ↦ hd d (mem_cons_of_mem _ hm)
    obtain ⟨hme, hl⟩ := hd d mem_cons_self
    have hle' := (hg.waits e hm h hh hb).2 d.1 (eq_of_beq he ▸ hme)
    exact ⟨ht, Nat.le_trans hle' hl⟩

theorem expire_fields (ds : List (ℕ × ℕ)) :
    (m.expire n ds).deadlines = m.deadlines ∧
      ∀ e ∈ (m.expire n ds).byFd, e ∈ m.byFd ∧ ∀ d ∈ ds, d.2 ≠ e.1 := by
  induction ds generalizing m with
  | nil => exact ⟨rfl, fun e hm ↦ ⟨hm, by simp⟩⟩
  | cons d rest ih =>
    obtain ⟨hd, hr⟩ := ih (m := m.removeByFd n .tick d.2)
    refine ⟨hd, fun e hm ↦ ?_⟩
    obtain ⟨hm, hn⟩ := hr e hm
    obtain ⟨hm, hp⟩ := mem_filter.1 hm
    exact ⟨hm, forall_mem_cons.2 ⟨fun he ↦ by simp [he] at hp, hn⟩⟩

theorem mem_clearIfEmpty {e : ℕ × ℕ} (h : e ∈ (m.clearIfEmpty n).byFd) : e ∈ m.byFd := by
  unfold clearIfEmpty at h
  split at h
  · exact (mem_filter.1 h).1
  · exact h

/-- What is left after a tick was there and is not due. -/
theorem mem_tick {e : ℕ × ℕ} (h : e ∈ (m.deferredWriteTimerTick n).byFd) :
    e ∈ m.byFd ∧ ∀ d ∈ m.deadlines, d.1 ≤ n → d.2 ≠ e.1 := by
  unfold deferredWriteTimerTick at h
  split at h
  · simp [clearWrites, release] at h
  · have hm := mem_clearIfEmpty h
    obtain ⟨hm, hn⟩ := (expire_fields _).2 e hm
    exact ⟨hm, fun d hd hl ↦ hn d (mem_filter.2 ⟨hd, decide_eq_true hl⟩)⟩

theorem good_tick (hg : Good ls m) (ht : (n, .tick) ∈ ls) :
    Good ls (m.deferredWriteTimerTick n) := by
  unfold deferredWriteTimerTick
  split
  · next he => exact good_clearWrites hg fun hn ↦ absurd (isEmpty_iff.1 he) hn
  · have he : Good ls (m.expire n (m.deadlines.filter fun d ↦ d.1 ≤ n)) :=
      good_expire hg ht fun d hd ↦ by simpa using hd
    refine good_clearIfEmpty { he with waits := fun e hm h hh hb ↦ ?_ }
    obtain ⟨hi, hl⟩ := he.waits e hm h hh hb
    refine ⟨mem_filter.2 ⟨hi, decide_eq_true fun hp ↦ ?_⟩, fun d hd ↦ hl d (mem_filter.1 hd).1⟩
    rw [(expire_fields _).1] at hi
    exact ((expire_fields _).2 e hm).2 _ (mem_filter.2 ⟨hi, decide_eq_true hp⟩) rfl

theorem good_count_succ {b n : ℕ} (hg : Good ls m)
    (h : n = m.count b + if m.next = b then 1 else 0) :
    n = if b < m.next + 1 then 1 else 0 := by
  rw [h, hg.once b]
  grind

theorem good_completeWrite {id : Option ℕ} (hg : Good ls m) (hfd : ¬m.byFd.any (·.1 == fd))
    (hd : ∀ d ∈ m.deadlines, d.2 ≠ fd) : Good ls (m.completeWrite n fd id).1 := by
  have hn : m.count m.next = 0 := by simp [hg.once]
  obtain ⟨hr, hl⟩ := Nat.add_eq_zero_iff.1 hn
  have ha : ∀ h ∈ m.handed, h.bev ≠ m.next := fun h hh ↦ Nat.ne_of_lt (hg.handed h hh)
  unfold completeWrite
  split
  · exact
      { once := fun b ↦ good_count_succ hg (by simp [count, countP_cons]; omega)
        nodup := hg.nodup
        handed := fun h hh ↦ Nat.lt_succ_of_lt (hg.handed h hh)
        freed := forall_mem_cons.2 ⟨fun h hh he ↦ absurd he (ha h hh), hg.freed⟩
        waits := hg.waits }
  · simp only [insert, if_neg hfd]
    refine ⟨fun b ↦ good_count_succ hg (by simp [count, countP_cons]; omega),
      nodup_cons.2 ⟨by simpa [any_eq_true] using hfd, hg.nodup⟩,
      forall_mem_cons.2 ⟨Nat.lt_succ_self _, fun h hh ↦ Nat.lt_succ_of_lt (hg.handed h hh)⟩,
      fun f hf ↦ forall_mem_cons.2 ⟨fun he ↦ ?_, hg.freed f hf⟩,
      forall_mem_cons.2 ⟨forall_mem_cons.2 ⟨fun _ ↦ ⟨mem_cons_self, fun d hm ↦ ?_⟩,
        fun h hh he ↦ absurd he (ha h hh)⟩,
      fun e hm ↦ forall_mem_cons.2 ⟨fun he ↦ ?_, fun h hh he ↦ ?_⟩⟩⟩
    · exact absurd (beq_iff_eq.2 he.symm) (countP_eq_zero.1 hr f hf)
    · rcases mem_cons.1 hm with hm | hm
      · cases hm
        exact Nat.le_refl _
      · exact absurd rfl (hd _ hm)
    · exact absurd (beq_iff_eq.2 he.symm) (countP_eq_zero.1 hl e hm)
    · obtain ⟨hi, hle⟩ := hg.waits e hm h hh he
      refine ⟨mem_cons_of_mem _ hi, fun d hme ↦ (mem_cons.1 hme).elim (fun hd ↦ ?_) (hle d)⟩
      exact absurd (any_eq_true.2 ⟨e, hm, by simpa using congrArg Prod.snd hd⟩) hfd

theorem eq_of_fd {b : ℕ} (hg : Good ls m) (hf : m.fd b = some fd) {e : ℕ × ℕ} (he : e ∈ m.byFd)
    (hq : e.1 = fd) : e.2 = b := by
  obtain ⟨d, hd, rfl⟩ := Option.map_eq_some_iff.1 hf
  rw [inj_on_of_nodup_map hg.nodup he (mem_of_find?_eq_some hd) hq]
  simpa using find?_some hd

theorem good_removeByFd {b : ℕ} {c : Cause} (hg : Good ls m) (hf : m.fd b = some fd)
    (ht : ∀ h, Free.Timely ls ⟨b, c, n⟩ h) : Good ls ((m.removeByFd n c fd).clearIfEmpty n) := by
  refine good_clearIfEmpty (good_release hg fun e he hq h _ _ ↦ ?_)
  rw [eq_of_fd hg hf he (eq_of_beq hq)]
  exact ht h

/-- The step lemma: who is let go has a cause in the inputs. -/
theorem good_step {m' : SocketManager} {l : ℕ × Input} (hg : Good ls m) (hl : l ∈ ls)
    (ho : handsOverFresh m l = true) (hs : step m l = some m') : Good ls m' := by
  obtain ⟨n, i⟩ := l
  cases i with
  | completeWrite fd id =>
    simp only [step] at hs
    split at hs
    · cases hs
    · rename_i hf
      cases hs
      exact good_completeWrite hg hf (by simpa [handsOverFresh] using ho)
  | flushed b left =>
    obtain ⟨fd, hf, rfl⟩ := Option.map_eq_some_iff.1 hs
    unfold freeAfterFlush
    split
    · exact hg
    · next hz =>
      obtain rfl := not_not.1 hz
      exact good_removeByFd hg hf fun _ ↦ hl
  | event b =>
    obtain ⟨fd, hf, rfl⟩ := Option.map_eq_some_iff.1 hs
    exact good_removeByFd hg hf fun _ ↦ hl
  | tick =>
    cases hs
    exact good_tick hg hl
  | completeAll =>
    cases hs
    exact good_clearWrites hg fun _ ↦ hl

end SocketManager

open SocketManager

variable {m : SocketManager}

/-- Of the sockets handed over, each waits or was freed once, at an input for which it is to be
freed, and none waits after a tick at its deadline or later. -/
theorem lingering_writes_timely {ls : List (ℕ × Input)}
    (hr : Run step (fun m l ↦ handsOverFresh m l = true) {} ls m) {h : HandOver}
    (hh : h ∈ m.handed) :
    (∀ f ∈ m.freed, f.bev = h.bev → f.Timely ls h) ∧ m.count h.bev = 1 ∧
      ∀ now, h.time + lingerTv ≤ now → ∀ e ∈ (m.deferredWriteTimerTick now).byFd, e.2 ≠ h.bev := by
  have hg : Good ls m := by
    refine hr.invariant_past (Q := Good)
      ⟨by simp [SocketManager.count], by simp, by simp, by simp, by simp⟩ ?_
    intro ls m l m' hg ho hs
    exact good_step (hg.mono (subset_append_left ls [l])) mem_concat_self ho hs
  refine ⟨fun f hf he ↦ hg.freed f hf h hh he.symm,
    (hg.once h.bev).trans (if_pos (hg.handed h hh)), fun now hl e hm he ↦ ?_⟩
  obtain ⟨hm, hn⟩ := mem_tick hm
  exact hn _ (hg.waits e hm h hh he.symm).1 hl rfl

/-- One write is flushed, and the other runs out of time. -/
theorem lingering_writes_timely_of_two :
    ∃ m, Run step (fun m l ↦ handsOverFresh m l = true) {} [(0, .completeWrite 7 (some 0)),
      (5, .completeWrite 8 none), (6, .flushed 0 0), (lingerTv + 5, .tick)] m ∧
      ⟨1, 5⟩ ∈ m.handed ∧ m.count 1 = 1 :=
  exists_run_imp (P := fun m : SocketManager ↦ ⟨1, 5⟩ ∈ m.handed) (by decide) fun _ hr hh ↦
    ⟨hh, (lingering_writes_timely hr hh).2.1⟩

/-- The deadline of the first socket is left when its output is flushed, and meets the third socket,
which has the same descriptor. -/
theorem reused_descriptor_freed_early :
    ∃ m, Run step anyStep {} [(0, .completeWrite 7 (some 0)), (0, .completeWrite 8 none),
      (1, .flushed 0 0), (29000000, .completeWrite 7 none), (30000000, .tick)] m ∧
      ⟨2, 29000000⟩ ∈ m.handed ∧ ⟨2, .tick, 30000000⟩ ∈ m.freed :=
  exists_run (by decide)

end TrustTunnel.Net.DeferredWrites

import Mathlib.Algebra.GroupWithZero.Nat
import Mathlib.Logic.Function.Basic
import TrustTunnel.Lib.Transition

namespace TrustTunnel.Core.Monitor

open Lib.Transition List Function

inductive Direction
  | upload
  | download
deriving DecidableEq

structure Statistics where
  bytes : Direction → ℕ := fun _ ↦ 0
  raiseNotBefore : ℕ := 0

structure ConnectionStatistics where
  time : ℕ
  id : ℕ
  bytes : Direction → ℕ

/-- The clock counts microseconds, the throttling period milliseconds. -/
structure ConnectionStatisticsMonitor where
  stats : ℕ → Option Statistics := fun _ ↦ none
  throttlingPeriod : ℕ
  thresholdBytes : ℕ
  raised : List ConnectionStatistics := []

namespace ConnectionStatisticsMonitor

variable (m : ConnectionStatisticsMonitor) (now id : ℕ)

/-- `ms_to_timeval` takes a `uint32_t`. -/
def period : ℕ := 1000 * (m.throttlingPeriod % 2 ^ 32)

def registerConn : ConnectionStatisticsMonitor :=
  let stats := { (m.stats id).getD {} with raiseNotBefore := now + m.period }
  { m with stats := Function.update m.stats id (some stats) }

def shouldBeNotified (stats : Statistics) : Bool :=
  !(stats.bytes .upload < m.thresholdBytes && stats.bytes .download < m.thresholdBytes) &&
    stats.raiseNotBefore < now

def raiseStats (stats : Statistics) : ConnectionStatisticsMonitor :=
  { m with
    stats := Function.update m.stats id (some { raiseNotBefore := now + m.period })
    raised := m.raised ++ [⟨now, id, stats.bytes⟩] }

/-- `update_upload` and `update_download`. The counters are of type `uint64_t`. -/
def update (direction : Direction) (inc : ℕ) : ConnectionStatisticsMonitor :=
  match m.stats id with
  | none => m
  | some stats =>
    let count := (stats.bytes direction + inc) % 2 ^ 64
    let stats := { stats with bytes := Function.update stats.bytes direction count }
    if m.shouldBeNotified now stats then m.raiseStats now id stats
    else { m with stats := Function.update m.stats id (some stats) }

def unregisterConn (doReport : Bool) : ConnectionStatisticsMonitor :=
  let rest := { m with stats := Function.update m.stats id none }
  match m.stats id with
  | none => rest
  | some stats =>
    if doReport && 0 < stats.bytes .upload && 0 < stats.bytes .download then
      { rest with raised := m.raised ++ [⟨now, id, stats.bytes⟩] }
    else rest

def reports : List ConnectionStatistics := m.raised.filter fun r ↦ r.id = id

end ConnectionStatisticsMonitor

open ConnectionStatisticsMonitor

structure Call where
  now : ℕ
  id : ℕ
  direction : Direction
  inc : ℕ

def step (m : ConnectionStatisticsMonitor) (c : Call) : Option ConnectionStatisticsMonitor :=
  some (m.update c.now c.id c.direction c.inc)

abbrev Fits (m : ConnectionStatisticsMonitor) (c : Call) : Prop :=
  ∀ s ∈ m.stats c.id, s.bytes c.direction + c.inc < 2 ^ 64

def total (id : ℕ) (direction : Direction) (calls : List Call) : ℕ :=
  ((calls.filter fun c ↦ c.id = id ∧ c.direction = direction).map (·.inc)).sum

/-- What was counted is reported or still to be reported, and the reports keep their distance. -/
structure Ledger (id : ℕ) (m : ConnectionStatisticsMonitor) (count : Direction → ℕ)
    (s : Statistics) : Prop where
  registered : m.stats id = some s
  adds : ∀ d, ((m.reports id).map (·.bytes d)).sum + s.bytes d = count d
  waits : ∀ r ∈ m.reports id, r.time + m.period ≤ s.raiseNotBefore
  apart : (m.reports id).Pairwise fun a b ↦ a.time + m.period < b.time

variable {id : ℕ} {m t : ConnectionStatisticsMonitor} {ct : Direction → ℕ} {s : Statistics}

theorem Ledger.update_other (h : Ledger id m ct s) {c : Call} (hi : c.id ≠ id) :
    Ledger id (m.update c.now c.id c.direction c.inc) ct s := by
  have hs : ∀ x, Function.update m.stats c.id x id = some s :=
    fun x ↦ (update_of_ne hi.symm x m.stats).trans h.registered
  have hr : ∀ s, (m.raiseStats c.now c.id s).reports id = m.reports id := by
    simp [raiseStats, reports, hi]
  simp only [ConnectionStatisticsMonitor.update]
  split
  · exact h
  split
  · exact ⟨hs _, hr _ ▸ h.adds, hr _ ▸ h.waits, hr _ ▸ h.apart⟩
  · exact ⟨hs _, h.adds, h.waits, h.apart⟩

theorem Ledger.update (h : Ledger id m ct s) (now : ℕ) {dn : Direction} {i : ℕ}
    (hs : s.bytes dn + i < 2 ^ 64) :
    ∃ s', Ledger id (m.update now id dn i) (Function.update ct dn (ct dn + i)) s' := by
  have ha : ∀ d, ((m.reports id).map (·.bytes d)).sum +
      Function.update s.bytes dn (s.bytes dn + i) d =
        Function.update ct dn (ct dn + i) d := by
    intro d
    have hd := h.adds d
    by_cases he : d = dn
    · subst he
      rw [update_self, update_self]
      omega
    · rwa [update_of_ne he, update_of_ne he]
  simp only [ConnectionStatisticsMonitor.update, h.registered, Nat.mod_eq_of_lt hs]
  split
  · next hn =>
    have hl : ∀ r ∈ m.reports id, r.time + m.period < now := fun r hr ↦
      Nat.lt_of_le_of_lt (h.waits r hr) (of_decide_eq_true (Bool.and_eq_true_iff.1 hn).2)
    have hre : ∀ s, (m.raiseStats now id s).reports id =
        m.reports id ++ [⟨now, id, s.bytes⟩] := by
      simp [raiseStats, reports]
    refine ⟨_, update_self .., fun d ↦ ?_, ?_, ?_⟩
    all_goals rw [hre]
    · rw [← ha d]
      simp
    · exact forall_mem_append.2 ⟨fun r hr ↦ Nat.le_add_right_of_le (Nat.le_of_lt (hl r hr)),
        forall_mem_singleton.2 (Nat.le_refl _)⟩
    · exact pairwise_append.2 ⟨h.apart, pairwise_singleton _ _,
        fun r hr ↦ forall_mem_singleton.2 (hl r hr)⟩
  · exact ⟨_, update_self .., ha, h.waits, h.apart⟩

/-- After any calls the ledger has grown by the bytes that they counted. -/
theorem Ledger.run {cs : List Call} (h : Ledger id m ct s) (hn : Run step Fits m cs t) :
    ∃ s', Ledger id t (fun d ↦ ct d + total id d cs) s' := by
  induction hn generalizing ct s with
  | nil => exact ⟨s, h⟩
  | @cons m _ _ c rest ho hs _ ih =>
    cases hs
    by_cases hid : c.id = id
    · subst hid
      obtain ⟨s₁, h₁⟩ := h.update c.now (ho s h.registered)
      obtain ⟨s₂, h₂⟩ := ih h₁
      refine ⟨s₂, h₂.registered, fun d ↦ (h₂.adds d).trans ?_, h₂.waits, h₂.apart⟩
      by_cases hd : d = c.direction
      · simp [total, hd, Nat.add_assoc]
      · simp [total, hd, Ne.symm hd]
    · obtain ⟨s₂, h₂⟩ := ih (h.update_other hid)
      refine ⟨s₂, h₂.registered, fun d ↦ (h₂.adds d).trans ?_, h₂.waits, h₂.apart⟩
      simp [total, hid]

/-- The reports from the registration of a connection on add up to what was counted, unless a
counter wraps around or only one of them is left at zero. Those before the last one are more than
the throttling period apart, if it fits in 32 bits. -/
theorem reports_add_up (m₀ : ConnectionStatisticsMonitor) (hnew : m₀.stats id = none)
    (now₀ now : ℕ) {calls : List Call}
    (h : Run step Fits ({ m₀ with raised := [] }.registerConn now₀ id) calls m)
    (hlast : ∀ s ∈ m.stats id, s.bytes .upload = 0 ↔ s.bytes .download = 0) :
    (∀ d, (((m.unregisterConn now id true).reports id).map (·.bytes d)).sum = total id d calls) ∧
      (m.throttlingPeriod < 2 ^ 32 →
        (m.reports id).Pairwise fun a b ↦ a.time + 1000 * m.throttlingPeriod < b.time) := by
  have ht : Ledger id ({ m₀ with raised := [] }.registerConn now₀ id) (fun _ ↦ 0)
      { raiseNotBefore := now₀ + m₀.period } :=
    ⟨by simp [registerConn, hnew, period], fun _ ↦ rfl, fun _ hr ↦ (by cases hr), .nil⟩
  obtain ⟨s, hs⟩ := ht.run h
  refine ⟨fun d ↦ ?_, fun hp ↦ by simpa only [period, Nat.mod_eq_of_lt hp] using hs.apart⟩
  have hd := hs.adds d
  have hb := hlast s hs.registered
  simp only [unregisterConn, hs.registered, Bool.true_and, Bool.and_eq_true, decide_eq_true_eq]
  split
  · simpa [reports] using hd
  · change (map _ (m.reports id)).sum = _
    cases d <;> omega

def quick : ConnectionStatisticsMonitor := { throttlingPeriod := 100, thresholdBytes := 20 }

theorem reports_add_up_ten : ∃ m,
    Run step Fits (quick.registerConn 0 7) [⟨0, 7, .upload, 10⟩, ⟨0, 7, .download, 9⟩] m ∧
      (((m.unregisterConn 5 7 true).reports 7).map (·.bytes .upload)).sum = 10 := by
  obtain ⟨m, hrun, hlast⟩ : ∃ m,
      Run step Fits (quick.registerConn 0 7) [⟨0, 7, .upload, 10⟩, ⟨0, 7, .download, 9⟩] m ∧
        ∀ s ∈ m.stats 7, s.bytes .upload = 0 ↔ s.bytes .download = 0 := exists_run (by decide)
  exact ⟨m, hrun, (reports_add_up quick rfl 0 5 hrun hlast).1 .upload⟩

/-- Ten bytes were uploaded, and nothing was downloaded. -/
theorem upload_unreported :
    (((quick.registerConn 0 7).update 0 7 .upload 10).unregisterConn 5 7 true).raised.length =
        0 := by
  decide

end TrustTunnel.Core.Monitor

import TrustTunnel.Connector.Fallbackable
import TrustTunnel.Lib.Trace
import TrustTunnel.Lib.Transition

namespace TrustTunnel.Connector.Outcome

open Fallbackable Lib.Trace Lib.Transition Single List Option
open FallbackableUpstreamConnector SingleUpstreamConnector

variable {f f' : FallbackableUpstreamConnector} {child : Child} {trace : List Record}
  {c c' : SingleUpstreamConnector}

def Reports (c c' : SingleUpstreamConnector) : Prop :=
  (c.state = .disconnected → c'.state = .disconnected ∧ c'.reported = none) ∧
    ∀ r, c'.reported = some r → c'.state = .disconnected

theorem reports_receive {e : ServerEvent} (h : c.receive e = some c') : Reports c c' :=
  ⟨fun hc ↦ receive_of_disconnected hc h, fun _ hr ↦ (receive_reported h hr).1⟩

theorem reports_runDeferredTask (h : c.runDeferredTask = some c') : Reports c c' := by
  obtain ⟨hq, hp⟩ := runDeferredTask_spec h
  exact ⟨hq, fun r hr ↦ (hp r hr).1⟩

def Quiet (info : ConnectorInfo) : Prop :=
  info.resultTask = none ∧ ∀ c, info.connector = some c → c.state = .disconnected

structure Finished (f : FallbackableUpstreamConnector) : Prop where
  quiet : ∀ child, Quiet (f.info child)
  delayTask : f.delayTask = false

/-- The record does not conclude the attempt. -/
def early : Record → Bool
  | .raised _ | .disconnected | .processed _ (.upstream _) => false
  | _ => true

structure Alive (f : FallbackableUpstreamConnector) : Prop where
  failed : ∀ child, (f.info child).hasResult = true →
    f.info child = { hasResult := true } ∧ ∃ e, Record.processed child (.error e) ∈ f.trace
  waiting : ∀ child, (f.info child).hasResult = false → ∃ c, (f.info child).connector = some c ∧
    ∀ task, (f.info child).resultTask = some task → task.ready = some child ∧
      c.state = .disconnected
  untried : f.tried = false → Quiet f.fallback ∧ f.fallback.hasResult = false
  delayed : f.delayTask = true → f.tried = false
  started : f.trace.countP (· = .started .fallback) = if f.tried then 1 else 0
  early : ∀ r ∈ f.trace, early r = true

def Allowed (before : List Record) : Record → Prop
  | .raised (.error _) => .disconnected ∉ before ∧
      ∀ child, ∃ e, .processed child (.error e) ∈ before
  | .raised (.upstream u) => .disconnected ∉ before ∧ ∃ child,
      .processed child (.upstream u) ∈ before ∧
        (.toldToDisconnect child.other ∈ before ∨ ∃ e, .processed child.other (.error e) ∈ before)
  | _ => True

def isRaised : Record → Bool
  | .raised _ => true
  | _ => false

structure Reported (trace : List Record) : Prop where
  once : trace.countP isRaised ≤ 1
  startedOnce : trace.countP (· = .started .fallback) ≤ 1
  allowed : Guarded Allowed trace
  handed : ∀ child u, .processed child (.upstream u) ∈ trace → .raised (.upstream u) ∈ trace

def Good (f : FallbackableUpstreamConnector) : Prop := Alive f ∨ Finished f ∧ Reported f.trace

theorem Alive.quiet_of_hasResult (h : Alive f) (cd : Child) (hr : (f.info cd).hasResult = true) :
    Quiet (f.info cd) := by
  rw [(h.failed cd hr).1]
  exact ⟨rfl, fun c hc ↦ (by cases hc)⟩

theorem Alive.countP_isRaised (h : Alive f) : f.trace.countP isRaised = 0 := by
  refine countP_eq_zero.2 fun r hr hs ↦ ?_
  have he := h.early r hr
  cases r <;> cases hs
  cases he

theorem Alive.reported (h : Alive f) : Reported f.trace where
  once := by
    rw [h.countP_isRaised]
    exact Nat.zero_le 1
  startedOnce := by
    rw [h.started]
    split
    · exact le_rfl
    · exact Nat.zero_le 1
  allowed := by
    intro b r a he
    have hr := h.early r (he ▸ mem_append_right _ mem_cons_self)
    cases r with
    | raised => cases hr
    | _ => trivial
  handed child u hu := by cases h.early _ hu

theorem Reported.append (h : Reported trace) {rs : List Record}
    (hs : ∀ r ∈ rs, r = .disconnected ∨ ∃ c, r = .toldToDisconnect c) :
    Reported (trace ++ rs) where
  once := by
    rw [countP_append, (countP_eq_zero (l := rs)).2 fun r hr ↦ ?_]
    · exact h.once
    · rcases hs r hr with rfl | ⟨c, rfl⟩ <;> simp [isRaised]
  startedOnce := by
    rw [countP_append, (countP_eq_zero (l := rs)).2 fun r hr ↦ ?_]
    · exact h.startedOnce
    · rcases hs r hr with rfl | ⟨c, rfl⟩ <;> simp
  allowed := by
    refine h.allowed.append_of_forall fun r hr b ↦ ?_
    rcases hs r hr with rfl | ⟨c, rfl⟩ <;> trivial
  handed c u hu := by
    rcases mem_append.1 hu with hu | hu
    · exact mem_append_left _ (h.handed c u hu)
    · rcases hs _ hu with hr | ⟨_, hr⟩ <;> cases hr

theorem Finished.setInfo (h : Finished f) {i : ConnectorInfo} (hi : Quiet i) :
    Finished (f.setInfo child i) where
  quiet child' := by
    rcases child'.eq_or_eq_other child with rfl | rfl
    · rwa [info_setInfo_self]
    · rw [info_setInfo_other]
      exact h.quiet _
  delayTask := by
    rw [delayTask_setInfo]
    exact h.delayTask

theorem Finished.connectorHandler (h : Finished f) (hc : (f.info child).connector = some c)
    (hs : Reports c c') :
    Finished (f.connectorHandler child c') ∧ (f.connectorHandler child c').trace = f.trace := by
  obtain ⟨ht, hr⟩ := hs.1 ((h.quiet child).2 c hc)
  simp only [FallbackableUpstreamConnector.connectorHandler, hr]
  refine ⟨h.setInfo ⟨(h.quiet child).1, fun c₁ hc₁ ↦ ?_⟩, trace_setInfo _ _ _⟩
  cases hc₁
  exact ht

theorem Finished.step {i : FallbackableUpstreamConnector.Input} (h : Finished f)
    (hp : f.step i = some f') : Finished f' ∧ f'.trace = f.trace := by
  cases i with
  | childEvent cd e =>
    obtain ⟨c', hc', rfl⟩ := map_eq_some_iff.1 hp
    obtain ⟨c, hc, hr⟩ := bind_eq_some_iff.1 hc'
    exact h.connectorHandler hc (reports_receive hr)
  | childTask cd =>
    obtain ⟨c', hc', rfl⟩ := map_eq_some_iff.1 hp
    obtain ⟨c, hc, hr⟩ := bind_eq_some_iff.1 hc'
    exact h.connectorHandler hc (reports_runDeferredTask hr)
  | resultTask cd =>
    rw [FallbackableUpstreamConnector.step, (h.quiet cd).1] at hp
    cases hp
  | delayTask init os =>
    rw [FallbackableUpstreamConnector.step, h.delayTask] at hp
    cases hp
  | handedEvent cd e =>
    rw [FallbackableUpstreamConnector.step, (h.quiet cd).1] at hp
    cases hp

theorem Alive.setInfo (h : Alive f) (hr : (f.info child).hasResult = false)
    {tk : Option ResultTask}
    (hk : ∀ t, tk = some t → t.ready = some child ∧ c.state = .disconnected)
    (hq : child = .fallback → f.tried = false → Quiet ⟨some c, false, tk⟩) :
    Alive (f.setInfo child ⟨some c, false, tk⟩) := by
  have htr := f.trace_setInfo child ⟨some c, false, tk⟩
  have hd := f.tried_setInfo child ⟨some c, false, tk⟩
  have hy := f.delayTask_setInfo child ⟨some c, false, tk⟩
  refine ⟨fun c' hr' ↦ ?_, fun c' hr' ↦ ?_, fun ht ↦ ?_, ?_, ?_, ?_⟩
  · rcases c'.eq_or_eq_other child with rfl | rfl
    · rw [info_setInfo_self] at hr'
      cases hr'
    · rw [info_setInfo_other] at hr' ⊢
      rw [htr]
      exact h.failed _ hr'
  · rcases c'.eq_or_eq_other child with rfl | rfl
    · rw [info_setInfo_self]
      exact ⟨c, rfl, hk⟩
    · rw [info_setInfo_other] at hr' ⊢
      exact h.waiting _ hr'
  · rw [hd] at ht
    cases child with
    | main => exact h.untried ht
    | fallback => exact ⟨hq rfl ht, rfl⟩
  · rw [hy, hd]
    exact h.delayed
  · rw [htr, hd]
    exact h.started
  · rw [htr]
    exact h.early

theorem Alive.hasResult_of_task (h : Alive f) {t : ResultTask}
    (hk : (f.info child).resultTask = some t) : (f.info child).hasResult = false := by
  refine Bool.eq_false_iff.2 fun hr ↦ ?_
  rw [(h.failed child hr).1] at hk
  cases hk

theorem Alive.tried_of_task (h : Alive f) {t : ResultTask}
    (hk : (f.info child).resultTask = some t) (hd : child = .fallback) : f.tried = true := by
  subst hd
  refine Bool.eq_true_of_not_eq_false fun ht ↦ ?_
  exact some_ne_none t (hk.symm.trans (h.untried ht).1.1)

theorem Alive.connectorHandler (h : Alive f) (hc : (f.info child).connector = some c)
    (hs : Reports c c') : Alive (f.connectorHandler child c') := by
  cases hr : (f.info child).hasResult with
  | true =>
    rw [(h.failed child hr).1] at hc
    cases hc
  | false =>
    obtain ⟨c₁, hc₁, hk⟩ := h.waiting child hr
    obtain rfl : c = c₁ := some.inj (hc.symm.trans hc₁)
    have hq : child = .fallback → f.tried = false → c.state = .disconnected := by
      rintro rfl ht
      exact (h.untried ht).1.2 c hc
    rw [FallbackableUpstreamConnector.connectorHandler]
    cases hrep : c'.reported with
    | none =>
      dsimp only
      rw [hr]
      refine h.setInfo hr (fun t ht ↦ ?_) fun hf ht ↦ ?_
      · exact ⟨(hk t ht).1, (hs.1 (hk t ht).2).1⟩
      · subst hf
        refine ⟨(h.untried ht).1.1, fun c₂ hc₂ ↦ ?_⟩
        cases hc₂
        exact (hs.1 (hq rfl ht)).1
    | some r =>
      have hp : (f.setInfo child { f.info child with connector := some c' }).pointer child =
          some child := by
        rw [pointer, info_setInfo_self]
        rfl
      dsimp only
      rw [hp, setInfo_setInfo, info_setInfo_self, hr]
      refine h.setInfo hr (fun t ht ↦ ?_) fun hf ht ↦ ?_
      · cases ht
        exact ⟨rfl, hs.2 r hrep⟩
      · rw [(hs.1 (hq hf ht)).2] at hrep
        cases hrep

theorem Alive.raise (h : Alive f) {rs : List Record} {rt : EndpointConnectorResult}
    (hs : ∀ r ∈ rs, (∃ c, r = .toldToDisconnect c) ∨ ∃ c rt, r = .processed c rt)
    (hd : Allowed (f.trace ++ rs) (.raised rt))
    (hh : ∀ c u, .processed c (.upstream u) ∈ rs → rt = .upstream u) :
    Reported (f.trace ++ rs ++ [.raised rt]) where
  once := by
    rw [countP_append, countP_append, h.countP_isRaised, (countP_eq_zero (l := rs)).2 fun r hr ↦ ?_]
    · exact le_rfl
    · rcases hs r hr with ⟨c, rfl⟩ | ⟨c, rt, rfl⟩ <;> simp [isRaised]
  startedOnce := by
    rw [countP_append, countP_append, (countP_eq_zero (l := rs)).2 fun r hr ↦ ?_]
    · simpa using h.reported.startedOnce
    · rcases hs r hr with ⟨c, rfl⟩ | ⟨c, rt, rfl⟩ <;> simp
  allowed := by
    refine Guarded.concat (h.reported.allowed.append_of_forall fun r hr b ↦ ?_) hd
    rcases hs r hr with ⟨c, rfl⟩ | ⟨c, rt, rfl⟩ <;> trivial
  handed c u hu := by
    rw [append_assoc, mem_append, mem_append] at hu
    rcases hu with hu | hu | hu
    · cases h.early _ hu
    · rw [hh c u hu]
      exact mem_concat_self
    · cases mem_singleton.1 hu

theorem finished_empty (trace : List Record) : Finished { main := {}, fallback := {}, trace } where
  quiet child := by
    cases child <;> exact ⟨rfl, fun c hc ↦ (by cases hc)⟩
  delayTask := rfl

theorem Alive.fail (h : Alive f) (hi : child = .fallback → f.tried = true)
    (hh : (f.info child.other).hasResult = false) (e : Session.Types.VpnError)
    (hf : f'.info child = { hasResult := true }) (he : f'.info child.other = f.info child.other)
    (h' : f'.tried = f.tried) (hy : f'.delayTask = true → f.tried = false)
    (htr : f'.trace = f.trace ++ [.processed child (.error e)]) : Alive f' := by
  refine ⟨fun c hr' ↦ ?_, fun c hr' ↦ ?_, fun ht ↦ ?_, fun hd ↦ ?_, ?_, ?_⟩
  · rcases c.eq_or_eq_other child with rfl | rfl
    · exact ⟨hf, e, htr ▸ mem_concat_self⟩
    · rw [he, hh] at hr'
      cases hr'
  · rcases c.eq_or_eq_other child with rfl | rfl
    · rw [hf] at hr'
      cases hr'
    · rw [he] at hr' ⊢
      exact h.waiting _ hr'
  · rw [h'] at ht
    cases child with
    | main =>
      have hb : f'.fallback = f.fallback := he
      rw [hb]
      exact h.untried ht
    | fallback =>
      rw [hi rfl] at ht
      cases ht
  · rw [h']
    exact hy hd
  · rw [htr, h', countP_append, h.started]
    exact Nat.add_zero _
  · rw [htr]
    exact forall_mem_append.2 ⟨h.early, forall_mem_singleton.2 rfl⟩

/-- A child has got a session, and the other one is told to disconnect if it is there. -/
theorem Alive.succeed (h : Alive f) (child : Child) (u : ServerUpstream) :
    Reported (f.trace ++ ([.processed child (.upstream u)] ++
      if (f.info child.other).connector.isSome then [.toldToDisconnect child.other] else []) ++
        [.raised (.upstream u)]) := by
  set told : List Record :=
    if (f.info child.other).connector.isSome then [.toldToDisconnect child.other] else []
  have ho : ∀ r ∈ told, r = .toldToDisconnect child.other := by
    intro r hr
    simp only [told] at hr
    split at hr
    · exact mem_singleton.1 hr
    · exact absurd hr not_mem_nil
  have hm : ∀ r ∈ [Record.processed child (.upstream u)] ++ told,
      r = .processed child (.upstream u) ∨ r = .toldToDisconnect child.other :=
    fun r hr ↦ (mem_append.1 hr).imp mem_singleton.1 (ho r)
  refine h.raise (fun r hr ↦ ?_) ⟨fun hd ↦ ?_, child, ?_, ?_⟩ fun ch v hv ↦ ?_
  · rcases hm r hr with rfl | rfl
    · exact .inr ⟨child, _, rfl⟩
    · exact .inl ⟨_, rfl⟩
  · rcases mem_append.1 hd with hd | hd
    · cases h.early _ hd
    · rcases hm _ hd with hd | hd <;> cases hd
  · exact mem_append_right _ (mem_append_left _ (mem_singleton_self _))
  · cases hoth : (f.info child.other).hasResult with
    | true =>
      obtain ⟨-, e, he⟩ := h.failed _ hoth
      exact .inr ⟨e, mem_append_left _ he⟩
    | false =>
      obtain ⟨c', hc', -⟩ := h.waiting _ hoth
      refine .inl (mem_append_right _ (mem_append_right _ ?_))
      simp [told, hc']
  · rcases hm _ hv with hv | hv
    · cases hv
      rfl
    · cases hv

/-- The second child fails too. -/
theorem Alive.giveUp (h : Alive f) (hoth : (f.info child.other).hasResult = true)
    (e : Session.Types.VpnError) :
    Reported (f.trace ++ [.processed child (.error e)] ++ [.raised (.error e)]) := by
  refine h.raise (fun r hr ↦ ?_) ⟨fun hd ↦ ?_, fun ch ↦ ?_⟩ fun ch v hv ↦ ?_
  · exact .inr ⟨child, _, mem_singleton.1 hr⟩
  · rcases mem_append.1 hd with hd | hd
    · cases h.early _ hd
    · cases mem_singleton.1 hd
  · rcases ch.eq_or_eq_other child with rfl | rfl
    · exact ⟨e, mem_concat_self⟩
    · obtain ⟨-, e', he'⟩ := h.failed _ hoth
      exact ⟨e', mem_append_left _ he'⟩
  · cases mem_singleton.1 hv

theorem good_handleConnectResult (h : Alive f) (hr : (f.info child).hasResult = false)
    (ht : child = .fallback → f.tried = true) (rt : EndpointConnectorResult) :
    Good (f.handleConnectResult (some child) rt) := by
  obtain ⟨c, hc, -⟩ := h.waiting child hr
  have hh : (if f.pointer .main = some child then Child.main else .fallback) = child := by
    cases child with
    | main => simp [pointer, hc]
    | fallback =>
      refine if_neg fun hp ↦ ?_
      rw [pointer] at hp
      split at hp <;> cases hp
  simp only [handleConnectResult, hh]
  cases rt with
  | upstream u =>
    refine .inr ⟨finished_empty _, ?_⟩
    have htr : (((f.record [.processed child (.upstream u)]).tell child.other).setInfo child
        { hasResult := true }).trace = f.trace ++ ([.processed child (.upstream u)] ++
          if (f.info child.other).connector.isSome then [.toldToDisconnect child.other]
          else []) := by
      rw [trace_setInfo, trace_tell, info_record]
      exact append_assoc _ _ _
    simp only [isUpstream, if_true, htr]
    exact h.succeed child u
  | error e =>
    set g := (f.record [.processed child (.error e)]).setInfo child { hasResult := true } with hg
    have hs : g.info child = { hasResult := true } := info_setInfo_self _ _ _
    have hre : g.info child.other = f.info child.other := by
      rw [hg, info_setInfo_other, info_record]
    have htried' : g.tried = f.tried := tried_setInfo _ _ _
    have hy : g.delayTask = f.delayTask := delayTask_setInfo _ _ _
    have htr : g.trace = f.trace ++ [.processed child (.error e)] := trace_setInfo _ _ _
    have hb : (g.main.hasResult && g.fallback.hasResult) = (f.info child.other).hasResult := by
      rw [← hre]
      cases child with
      | main => rfl
      | fallback => exact Bool.and_true _
    simp only [isUpstream, Bool.false_eq_true, if_false, Bool.false_or, ← hg, hb]
    cases hoth : (f.info child.other).hasResult with
    | true =>
      refine .inr ⟨finished_empty _, ?_⟩
      rw [htr]
      exact h.giveUp hoth e
    | false =>
      left
      rw [if_neg Bool.false_ne_true]
      split
      · next hn =>
        rw [htried', Bool.not_eq_true'] at hn
        refine h.fail ht hoth e ?_ ?_ htried' (fun _ ↦ hn) htr
        · cases child <;> exact hs
        · cases child <;> exact hre
      · exact h.fail ht hoth e hs hre htried' (fun hd ↦ h.delayed (hy ▸ hd)) htr

theorem Alive.start (h : Alive f) (htr : f.tried = false) (c : SingleUpstreamConnector) :
    Alive { f with
      delayTask := false
      tried := true
      fallback := ⟨some c, false, none⟩
      trace := f.trace ++ [.started .fallback] } := by
  refine ⟨fun cd hr ↦ ?_, fun cd hr ↦ ?_, fun ht ↦ (by cases ht), fun hd ↦ (by cases hd), ?_,
    forall_mem_append.2 ⟨h.early, forall_mem_singleton.2 rfl⟩⟩
  · cases cd with
    | main =>
      obtain ⟨hi, e, he⟩ := h.failed .main hr
      exact ⟨hi, e, mem_append_left _ he⟩
    | fallback => cases hr
  · cases cd with
    | main => exact h.waiting .main hr
    | fallback => exact ⟨c, rfl, fun t ht ↦ (by cases ht)⟩
  · dsimp only
    rw [countP_append, h.started, htr]
    rfl

theorem good_startFallbackConnection (h : Alive f) (hd : f.tried = false) (i os : Bool) :
    Good ({ f with delayTask := false }.startFallbackConnection i os) := by
  obtain ⟨hq, hr⟩ := h.untried hd
  obtain ⟨c, hc, -⟩ := h.waiting .fallback hr
  have hs : { f with delayTask := false, tried := true }.startChild .fallback i os =
      ((c.connect i os).1, { f with
        delayTask := false
        tried := true
        fallback := ⟨some (c.connect i os).2, false, none⟩
        trace := f.trace ++ [.started .fallback] }) := by
    obtain ⟨m, ⟨cr, ha, rt⟩⟩ := f
    cases hc
    cases hr
    cases hq.1
    rfl
  have hn := h.start hd (c.connect i os).2
  simp only [startFallbackConnection, hs]
  split
  · exact good_handleConnectResult hn rfl (fun _ ↦ rfl) _
  · exact .inl hn

theorem good_step {i : FallbackableUpstreamConnector.Input} (h : Good f)
    (hp : f.step i = some f') : Good f' := by
  rcases h with h | ⟨h, he⟩
  swap
  · obtain ⟨hn, htr⟩ := h.step hp
    exact .inr ⟨hn, htr ▸ he⟩
  cases i with
  | childEvent cd e =>
    obtain ⟨c', hc', rfl⟩ := map_eq_some_iff.1 hp
    obtain ⟨c, hc, hr⟩ := bind_eq_some_iff.1 hc'
    exact .inl (h.connectorHandler hc (reports_receive hr))
  | childTask cd =>
    obtain ⟨c', hc', rfl⟩ := map_eq_some_iff.1 hp
    obtain ⟨c, hc, hr⟩ := bind_eq_some_iff.1 hc'
    exact .inl (h.connectorHandler hc (reports_runDeferredTask hr))
  | resultTask cd =>
    obtain ⟨tk, hk, rfl⟩ := map_eq_some_iff.1 hp
    have hr := h.hasResult_of_task hk
    have hi := h.tried_of_task hk
    obtain ⟨c, hc, hrd⟩ := h.waiting cd hr
    dsimp only
    rw [(hrd tk hk).1, hc, hr]
    refine good_handleConnectResult (h.setInfo hr (fun t ht ↦ (by cases ht)) fun hf ht ↦ ?_) ?_ ?_ _
    · rw [hi hf] at ht
      cases ht
    · rw [info_setInfo_self]
    · rwa [tried_setInfo]
  | delayTask it os =>
    simp only [step, ite_none_right_eq_some, some.injEq] at hp
    obtain ⟨hd, rfl⟩ := hp
    exact good_startFallbackConnection h (h.delayed hd) it os
  | handedEvent cd e =>
    rw [step] at hp
    split at hp
    · next r u hk =>
      obtain ⟨u', -, rfl⟩ := map_eq_some_iff.1 hp
      have hr := h.hasResult_of_task hk
      obtain ⟨c, hc, hrd⟩ := h.waiting cd hr
      dsimp only
      rw [hc, hr]
      refine .inl (h.setInfo hr (fun t ht ↦ ?_) fun hf ht ↦ ?_)
      · cases ht
        exact ⟨(hrd _ hk).1, (hrd _ hk).2⟩
      · rw [h.tried_of_task hk hf] at ht
        cases ht
    · cases hp

theorem info_disconnect (f : FallbackableUpstreamConnector) (child : Child) :
    f.disconnect.info child = { f.info child with
      connector :=
        if (f.info child).hasResult = true ∨ child = .fallback ∧ f.tried = false then
          (f.info child).connector
        else (f.info child).connector.map disconnect
      resultTask := none } := by
  obtain ⟨⟨mc, mh, mt⟩, ⟨fc, fh, ft⟩, td, dt, t⟩ := f
  cases child <;> cases mh <;> cases mc <;> cases td <;> cases fh <;> cases fc <;> rfl

theorem disconnect_quiet (h : ∀ child, (f.info child).hasResult = true ∨
    child = .fallback ∧ f.tried = false → Quiet (f.info child)) : Finished f.disconnect := by
  refine ⟨fun child ↦ ?_, rfl⟩
  rw [info_disconnect]
  refine ⟨rfl, fun c hc ↦ ?_⟩
  dsimp only at hc
  split at hc
  · next hq => exact (h child hq).2 c hc
  · obtain ⟨c', -, rfl⟩ := map_eq_some_iff.1 hc
    exact (disconnect_spec c').1

theorem trace_disconnect (f : FallbackableUpstreamConnector) : ∃ rs,
    f.disconnect.trace = f.trace ++ rs ∧
      ∀ r ∈ rs, r = .disconnected ∨ ∃ child, r = .toldToDisconnect child := by
  have hl : ∀ (g : FallbackableUpstreamConnector) (b : Bool) (child : Child), ∃ rs,
      (if b then g.tell child else g).trace = g.trace ++ rs ∧
        ∀ r ∈ rs, r = .disconnected ∨ ∃ child, r = .toldToDisconnect child := by
    intro g b child
    cases b with
    | false => exact ⟨[], (append_nil _).symm, fun r hr ↦ absurd hr not_mem_nil⟩
    | true =>
      refine ⟨_, g.trace_tell child, fun r hr ↦ .inr ⟨child, ?_⟩⟩
      split at hr
      · exact mem_singleton.1 hr
      · exact absurd hr not_mem_nil
  simp only [FallbackableUpstreamConnector.disconnect]
  obtain ⟨td, hd, hm⟩ := hl (f.record [.disconnected]) (!f.main.hasResult) .main
  set f₁ := if (!f.main.hasResult) = true then (f.record [.disconnected]).tell .main
    else f.record [.disconnected] with hf₁
  obtain ⟨t, ht, hf⟩ := hl { f₁ with main := { f₁.main with resultTask := none } }
    (f₁.tried && !f₁.fallback.hasResult) .fallback
  refine ⟨.disconnected :: td ++ t, ht.trans ?_, fun r hr ↦ ?_⟩
  · rw [show _ = f₁.trace from rfl, hd, record]
    simp
  · rcases mem_append.1 hr with hr | hr
    · rcases mem_cons.1 hr with rfl | hr
      · exact .inl rfl
      · exact hm r hr
    · exact hf r hr

theorem good_disconnect (h : Good f) : Good f.disconnect := by
  obtain ⟨rs, ht, hs⟩ := trace_disconnect f
  refine .inr ?_
  rw [ht]
  rcases h with h | ⟨h, hp⟩
  · refine ⟨disconnect_quiet fun child hc ↦ ?_, h.reported.append hs⟩
    rcases hc with hr | ⟨rfl, hd⟩
    · exact h.quiet_of_hasResult child hr
    · exact (h.untried hd).1
  · exact ⟨disconnect_quiet fun child _ ↦ h.quiet child, hp.append hs⟩

theorem alive_started (main fallback : ServerUpstream) (c : SingleUpstreamConnector)
    (delayTask : Bool) :
    Alive { make main fallback with
      main := { connector := some c }
      delayTask
      trace := [.started .main] } := by
  refine ⟨fun cd hr ↦ ?_, fun cd hr ↦ ?_, fun _ ↦ ⟨⟨rfl, fun c hc ↦ ?_⟩, rfl⟩, fun _ ↦ rfl,
    rfl, forall_mem_singleton.2 rfl⟩
  · cases cd <;> cases hr
  · cases cd with
    | main => exact ⟨c, rfl, fun t ht ↦ (by cases ht)⟩
    | fallback => exact ⟨_, rfl, fun t ht ↦ (by cases ht)⟩
  · cases hc
    rfl

theorem good_connect (main fallback : ServerUpstream) (init openSession : Bool) :
    Good ((make main fallback).connect init openSession) := by
  rw [FallbackableUpstreamConnector.connect]
  split
  · exact good_handleConnectResult (alive_started main fallback _ false) rfl
      (fun hf ↦ by cases hf) _
  · exact .inl (alive_started main fallback _ true)

inductive Input
  | connector (input : FallbackableUpstreamConnector.Input)
  | disconnect
deriving DecidableEq

def step (f : FallbackableUpstreamConnector) : Input → Option FallbackableUpstreamConnector
  | .connector input => f.step input
  | .disconnect => some f.disconnect

/-- The run lemma: one outcome at most is reported, and the fallback is started at most once. -/
theorem reported_run {m fk : ServerUpstream} {it os : Bool} {ls : List Input}
    (h : Run step anyStep ((make m fk).connect it os) ls f) : Reported f.trace := by
  have hd : Good f := by
    refine h.invariant (good_connect m fk it os) fun g i g' hg _ hs ↦ ?_
    cases i with
    | connector i => exact good_step hg hs
    | disconnect =>
      cases hs
      exact good_disconnect hg
  rcases hd with hd | ⟨-, hr⟩
  · exact hd.reported
  · exact hr

/-- Whatever the connectors report, one outcome is raised at most and none after `disconnect`: an
upstream that was found, or an error once both connectors have failed. The fallback connector is
started once at most. -/
theorem connector_reports_one_outcome {main fallback : ServerUpstream} {init openSession : Bool}
    {ls : List Input} (h : Run step anyStep ((make main fallback).connect init openSession) ls f) :
    f.trace.countP isRaised ≤ 1 ∧
    (∀ child u, .processed child (.upstream u) ∈ f.trace → .raised (.upstream u) ∈ f.trace) ∧
    (∀ before e after, f.trace = before ++ .raised (.error e) :: after →
      ∀ child, ∃ e', .processed child (.error e') ∈ before) ∧
    (∀ before r after, f.trace = before ++ .raised r :: after → .disconnected ∉ before) ∧
    f.trace.countP (· = .started .fallback) ≤ 1 ∧
    ∀ before u after, f.trace = before ++ .raised (.upstream u) :: after →
      ∃ child, .processed child (.upstream u) ∈ before ∧
        (.toldToDisconnect child.other ∈ before ∨
          ∃ e, .processed child.other (.error e) ∈ before) := by
  have hr := reported_run h
  refine ⟨hr.once, hr.handed, fun before e after he ↦ (hr.allowed _ _ _ he).2,
    fun before r after he ↦ ?_, hr.startedOnce, fun before u after he ↦ (hr.allowed _ _ _ he).2⟩
  cases r <;> exact (hr.allowed _ _ _ he).1

def mainFails : List Input :=
  [.connector (.childEvent .main (.error ⟨.error, "reset"⟩)), .connector (.childTask .main),
    .connector (.resultTask .main), .connector (.delayTask true true),
    .connector (.childEvent .fallback .sessionOpened), .connector (.resultTask .fallback)]

theorem connector_reports_one_outcome_of_fallback :
    ∃ f, Run step anyStep ((make { id := 0 } { id := 1 }).connect true true) mainFails f ∧
      f.trace.countP isRaised ≤ 1 :=
  exists_run_imp (P := fun _ ↦ True) (by decide) fun _ h _ ↦ (connector_reports_one_outcome h).1

/-- The main connector is gone when the fallback one succeeds, and is not told anything. -/
theorem failed_connector_not_told :
    ∃ f, Run step anyStep ((make { id := 0 } { id := 1 }).connect true true) mainFails f ∧
      .raised (.upstream { id := 1, session := .opened, handler := .client }) ∈ f.trace ∧
      .processed .fallback (.upstream { id := 1, session := .opened, handler := .client }) ∈
        f.trace ∧ .toldToDisconnect .main ∉ f.trace :=
  exists_run (by decide)

end TrustTunnel.Connector.Outcome

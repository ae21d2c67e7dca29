import TrustTunnel.Connector.Composition
import TrustTunnel.Connector.Outcome

namespace TrustTunnel.Connector.Handover

open Connector.Composition EndpointConnector List Option
open Fallbackable hiding Record
open Single hiding State Event
open Session.Client (DeferredTask VpnClient)
open FallbackableUpstreamConnector SingleUpstreamConnector

variable {result : EndpointConnectorResult} {f f' : FallbackableUpstreamConnector}
  {records : List Fallbackable.Record}

section Fallbackable

variable {f f' : FallbackableUpstreamConnector}

def Unraised (records : List Fallbackable.Record) : Prop := ∀ r ∈ records, raisedResult r = none

theorem findSome_of_unraised {l : List Fallbackable.Record} (h : Unraised records) :
    ((l ++ records).drop l.length).findSome? raisedResult = none := by
  rw [drop_left, findSome?_eq_none_iff]
  exact h

theorem findSome_of_raised {l : List Fallbackable.Record} (h : Unraised records)
    (result : EndpointConnectorResult) :
    ((l ++ records ++ [Fallbackable.Record.raised result]).drop l.length).findSome? raisedResult =
      some result := by
  rw [append_assoc, drop_left, findSome?_append, findSome?_eq_none_iff.2 h]
  rfl

def KeepsTasks (f f' : FallbackableUpstreamConnector) : Prop :=
  ∀ child task, (f'.info child).resultTask = some task → (f.info child).resultTask = some task

/-- What becomes of the result of a child: it is kept for later, or it is the one that is raised. -/
def Handles (f f' : FallbackableUpstreamConnector) (result : EndpointConnectorResult) : Prop :=
  ∃ records, Unraised records ∧
    (f'.trace = f.trace ++ records ∧ KeepsTasks f f' ∨
      f'.trace = f.trace ++ records ++ [.raised result] ∧ Outcome.Finished f')

theorem keepsTasks_tell (f : FallbackableUpstreamConnector) (c : Child) :
    KeepsTasks f (f.tell c) := by
  intro c' t h
  rcases c'.eq_or_eq_other c with rfl | rfl
  · rwa [info_tell_self] at h
  · rwa [info_tell_other] at h

theorem KeepsTasks.setInfo (h : KeepsTasks f f') (c : Child) {i : ConnectorInfo}
    (ho : ∀ t, i.resultTask = some t → (f.info c).resultTask = some t) :
    KeepsTasks f (f'.setInfo c i) := by
  intro c' t ht
  rcases c'.eq_or_eq_other c with rfl | rfl
  · rw [info_setInfo_self] at ht
    exact ho t ht
  · rw [info_setInfo_other] at ht
    exact h _ _ ht

theorem handles_handleConnectResult (f : FallbackableUpstreamConnector) (ry : Option Child)
    (result : EndpointConnectorResult) : Handles f (f.handleConnectResult ry result) result := by
  simp only [handleConnectResult]
  set child := if f.pointer .main = ry then Child.main else .fallback
  set f₁ := f.record [.processed child result]
  have hf₁ : KeepsTasks f f₁ := fun c t h ↦ by
    rwa [info_record] at h
  obtain ⟨td, htold, ht, hkeeps⟩ : ∃ td, Unraised td ∧
      (if isUpstream result then f₁.tell child.other else f₁).trace = f₁.trace ++ td ∧
      KeepsTasks f (if isUpstream result then f₁.tell child.other
        else f₁) := by
    split
    · refine ⟨_, fun r hr ↦ ?_, f₁.trace_tell child.other, fun c t h ↦ ?_⟩
      · split at hr
        · rw [mem_singleton.1 hr]
          rfl
        · exact absurd hr not_mem_nil
      · exact hf₁ _ _ (keepsTasks_tell _ _ _ _ h)
    · exact ⟨[], fun r hr ↦ absurd hr not_mem_nil, (append_nil _).symm, hf₁⟩
  set f₂ := if isUpstream result then f₁.tell child.other else f₁
  have hf₃ : KeepsTasks f (f₂.setInfo child { hasResult := true }) :=
    hkeeps.setInfo child fun t h ↦ (by cases h)
  have htr₃ : (f₂.setInfo child { hasResult := true }).trace =
      f.trace ++ (.processed child result :: td) := by
    rw [trace_setInfo, ht]
    exact append_assoc _ _ _
  refine ⟨.processed child result :: td, fun r hr ↦ ?_, ?_⟩
  · rcases mem_cons.1 hr with rfl | hr
    · rfl
    · exact htold r hr
  · split
    · exact .inr ⟨by rw [htr₃], Outcome.finished_empty _⟩
    · left
      split
      · refine ⟨htr₃, fun c t h ↦ hf₃ c t ?_⟩
        cases c <;> exact h
      · exact ⟨htr₃, hf₃⟩

theorem Handles.trans {f₁ : FallbackableUpstreamConnector} (h : Handles f₁ f' result)
    (hs : KeepsTasks f f₁) (hrs : Unraised records)
    (htr : f₁.trace = f.trace ++ records) : Handles f f' result := by
  obtain ⟨r', h', h⟩ := h
  refine ⟨records ++ r', fun r hr ↦ ?_, ?_⟩
  · exact (mem_append.1 hr).elim (hrs r) (h' r)
  · rw [htr, append_assoc] at h
    exact h.imp_left fun h ↦ ⟨h.1, fun c t ht ↦ hs _ _ (h.2 _ _ ht)⟩

theorem unraised_nil : Unraised [] := fun _ hr ↦ absurd hr not_mem_nil

theorem startChild_spec (f : FallbackableUpstreamConnector) (c : Child)
    (i os : Bool) : ∃ rs, Unraised rs ∧
      (f.startChild c i os).2.trace = f.trace ++ rs ∧ KeepsTasks f (f.startChild c i os).2 := by
  rw [startChild]
  split
  · exact ⟨[], unraised_nil, (append_nil _).symm, fun _ _ h ↦ h⟩
  · refine ⟨[.started c], fun r hr ↦ ?_, ?_, fun c' t h ↦ ?_⟩
    · rw [mem_singleton.1 hr]
      rfl
    · exact congrArg (· ++ [_]) (trace_setInfo _ _ _)
    · rw [info_record] at h
      refine KeepsTasks.setInfo (fun _ _ h ↦ h) c ?_ c' t h
      exact fun t h ↦ h

theorem handles_task {i : FallbackableUpstreamConnector.Input} (hp : f.step i = some f') :
    (∀ c, i = .resultTask c → ∃ t, (f.info c).resultTask = some t ∧ Handles f f' t.result) ∧
    (∀ it os, i = .delayTask it os → ∃ e, Handles f f' (.error e)) := by
  constructor
  · rintro c rfl
    obtain ⟨t, ht, rfl⟩ := map_eq_some_iff.1 hp
    refine ⟨t, ht, (handles_handleConnectResult _ _ _).trans ?_ unraised_nil ?_⟩
    · refine KeepsTasks.setInfo (fun _ _ h ↦ h) c fun t h ↦ (by cases h)
    · rw [trace_setInfo, append_nil]
  · rintro it os rfl
    simp only [FallbackableUpstreamConnector.step, ite_none_right_eq_some, some.injEq] at hp
    obtain ⟨-, rfl⟩ := hp
    set f₁ := { f with delayTask := false, tried := true } with hf₁
    have hkeeps₁ : KeepsTasks f f₁ := by
      intro c t h
      cases c <;> exact h
    obtain ⟨rs, hrs, hr, hk⟩ := startChild_spec f₁ .fallback it os
    have hs : KeepsTasks f (f₁.startChild .fallback it os).2 := fun c t h ↦ hkeeps₁ _ _ (hk _ _ h)
    rw [startFallbackConnection]
    dsimp only
    rw [← hf₁]
    split
    · next e _ => exact ⟨e, (handles_handleConnectResult _ _ _).trans hs hrs hr⟩
    · exact ⟨{}, rs, hrs, .inl ⟨hr, hs⟩⟩

theorem Handles.raised {r : EndpointConnectorResult} (h : Handles f f' result)
    (hr : (f'.trace.drop f.trace.length).findSome? raisedResult = some r) :
    r = result ∧ Outcome.Finished f' := by
  obtain ⟨rs, hs, ⟨ht, -⟩ | ⟨ht, hf⟩⟩ := h
  · rw [ht, findSome_of_unraised hs] at hr
    cases hr
  · rw [ht, findSome_of_raised hs, some.injEq] at hr
    exact ⟨hr.symm, hf⟩

end Fallbackable

/-- A connector from which no result comes any more. -/
def Quiet : EndpointConnector → Prop
  | .single c => c.state = .disconnected
  | .fallbackable f => Outcome.Finished f

/-- The upstreams that wait to be handed over have open sessions. -/
def HandsOpen : EndpointConnector → Prop
  | .single _ => True
  | .fallbackable f => ∀ child ready u,
      (f.info child).resultTask = some ⟨ready, .upstream u⟩ → u.session = .opened

def endsSession : ServerEvent → Bool
  | .sessionClosed => true
  | .error _ => true
  | _ => false

section Steps

variable {c c' : EndpointConnector} {i : FallbackableUpstreamConnector.Input}
  {r : Option EndpointConnectorResult}

theorem single_step {c : SingleUpstreamConnector}
    (h : (EndpointConnector.single c).step i = some (c', r)) :
    ∃ c₁, c' = .single c₁ ∧ r = c₁.reported ∧
      ((∃ e, c.receive e = some c₁) ∨ c.runDeferredTask = some c₁) := by
  cases i with
  | childEvent cd e =>
    cases cd with
    | main =>
      obtain ⟨c₁, hc₁, he⟩ := map_eq_some_iff.1 h
      cases he
      exact ⟨c₁, rfl, rfl, .inl ⟨e, hc₁⟩⟩
    | fallback => cases h
  | childTask cd =>
    cases cd with
    | main =>
      obtain ⟨c₁, hc₁, he⟩ := map_eq_some_iff.1 h
      cases he
      exact ⟨c₁, rfl, rfl, .inr hc₁⟩
    | fallback => cases h
  | resultTask cd => cases h
  | delayTask init os => cases h
  | handedEvent cd e => cases h

theorem fallbackable_step (h : (EndpointConnector.fallbackable f).step i = some (c', r)) :
    ∃ f', f.step i = some f' ∧ c' = .fallbackable f' ∧
      r = (f'.trace.drop f.trace.length).findSome? raisedResult := by
  obtain ⟨f', hf', he⟩ := map_eq_some_iff.1 h
  cases he
  exact ⟨f', hf', rfl, rfl⟩

theorem findSome_of_trace_eq (h : f'.trace = f.trace) :
    (f'.trace.drop f.trace.length).findSome? raisedResult = none := by
  rw [h, drop_length]
  rfl

theorem step_of_quiet (h : Quiet c) (hp : c.step i = some (c', r)) : Quiet c' ∧ r = none := by
  cases c with
  | single c =>
    obtain ⟨c₁, rfl, rfl, ⟨e, hc₁⟩ | hc₁⟩ := single_step hp
    · exact receive_of_disconnected h hc₁
    · exact (runDeferredTask_spec hc₁).1 h
  | fallbackable f =>
    obtain ⟨f', hf', rfl, rfl⟩ := fallbackable_step hp
    obtain ⟨hf, ht⟩ := Outcome.Finished.step h hf'
    exact ⟨hf, findSome_of_trace_eq ht⟩

theorem trace_childStep (h : f.step i = some f') (hs : ∀ c, i ≠ .resultTask c)
    (hy : ∀ it os, i ≠ .delayTask it os) : f'.trace = f.trace := by
  cases i with
  | childEvent c e =>
    obtain ⟨c₁, -, rfl⟩ := map_eq_some_iff.1 h
    exact trace_connectorHandler _ _ _
  | childTask c =>
    obtain ⟨c₁, -, rfl⟩ := map_eq_some_iff.1 h
    exact trace_connectorHandler _ _ _
  | resultTask c => exact absurd rfl (hs c)
  | delayTask it os => exact absurd rfl (hy it os)
  | handedEvent c e =>
    rw [FallbackableUpstreamConnector.step] at h
    split at h
    · obtain ⟨u, -, rfl⟩ := map_eq_some_iff.1 h
      exact trace_setInfo _ _ _
    · cases h

theorem silent_of_handed {cd : Child} {e : ServerEvent}
    (hp : c.step (.handedEvent cd e) = some (c', r)) : r = none := by
  cases c with
  | single c => cases hp
  | fallbackable f =>
    obtain ⟨f', hf', rfl, rfl⟩ := fallbackable_step hp
    exact findSome_of_trace_eq
      (trace_childStep hf' (fun _ h ↦ (by cases h)) (fun _ _ h ↦ (by cases h)))

/-- The result that was raised is the last one. -/
theorem quiet_of_raised (hp : c.step i = some (c', some result)) : Quiet c' := by
  cases c with
  | single c =>
    obtain ⟨c₁, rfl, hr, ⟨et, hc₁⟩ | hc₁⟩ := single_step hp
    · exact (receive_reported hc₁ hr.symm).1
    · exact ((runDeferredTask_spec hc₁).2 _ hr.symm).1
  | fallbackable f =>
    obtain ⟨f', hf', rfl, hr⟩ := fallbackable_step hp
    by_cases hres : ∃ cd, i = .resultTask cd
    · obtain ⟨cd, rfl⟩ := hres
      obtain ⟨t, -, hh⟩ := (handles_task hf').1 cd rfl
      exact (hh.raised hr.symm).2
    by_cases hdelay : ∃ it os, i = .delayTask it os
    · obtain ⟨it, os, rfl⟩ := hdelay
      obtain ⟨e, hh⟩ := (handles_task hf').2 it os rfl
      exact (hh.raised hr.symm).2
    · have ht := trace_childStep hf' (fun cd h ↦ hres ⟨cd, h⟩)
        (fun it os h ↦ hdelay ⟨it, os, h⟩)
      rw [findSome_of_trace_eq ht] at hr
      cases hr

theorem handsOpen_of_handles (h : HandsOpen (.fallbackable f)) (hs : Handles f f' result) :
    HandsOpen (.fallbackable f') := by
  obtain ⟨rs, -, ⟨-, hk⟩ | ⟨-, hf⟩⟩ := hs
  · exact fun c r u ht ↦ h c r u (hk _ _ ht)
  · intro c r u ht
    rw [(hf.quiet c).1] at ht
    cases ht

theorem handsOpen_connectorHandler {cd : Child} {c : SingleUpstreamConnector}
    (h : HandsOpen (.fallbackable f))
    (hc : ∀ u, c.reported = some (.upstream u) → u.session = .opened) :
    HandsOpen (.fallbackable (f.connectorHandler cd c)) := by
  intro c' r u ht
  rcases c'.eq_or_eq_other cd with rfl | rfl
  · rw [task_connectorHandler] at ht
    split at ht
    · exact h _ _ _ ht
    · next hr =>
      cases ht
      exact hc u hr
  · rw [info_connectorHandler_other] at ht
    exact h _ _ _ ht

theorem session_of_raise {u u' : ServerUpstream} {et : ServerEvent} (h : u.session = .opened)
    (he : endsSession et = false) (hr : u.raise et = some u') : u'.session = .opened := by
  obtain ⟨id, s⟩ := u
  cases h
  cases et with
  | sessionOpened => cases hr
  | sessionClosed => cases he
  | error e => cases he
  | healthCheckError e =>
    cases hr
    rfl

/-- The step lemma: what is handed over is open, unless its session ends while it waits. -/
theorem handsOpen_step (h : HandsOpen c)
    (hi : ∀ cd et, i = .handedEvent cd et → endsSession et = false) (hp : c.step i = some (c', r)) :
    HandsOpen c' ∧ ∀ u, r = some (.upstream u) → u.session = .opened := by
  cases c with
  | single c =>
    obtain ⟨c₁, rfl, rfl, ⟨et, hc₁⟩ | hc₁⟩ := single_step hp
    · exact ⟨trivial, fun u hu ↦ (receive_reported hc₁ hu).2 u rfl⟩
    · refine ⟨trivial, fun u hu ↦ ?_⟩
      obtain ⟨e, he⟩ := ((runDeferredTask_spec hc₁).2 _ hu).2
      cases he
  | fallbackable f =>
    obtain ⟨f', hf', rfl, rfl⟩ := fallbackable_step hp
    cases i with
    | childEvent cd et =>
      have hr := trace_childStep hf' (fun _ h ↦ (by cases h)) (fun _ _ h ↦ (by cases h))
      obtain ⟨c₁, hc₁, rfl⟩ := map_eq_some_iff.1 hf'
      obtain ⟨c, -, hc⟩ := bind_eq_some_iff.1 hc₁
      refine ⟨handsOpen_connectorHandler h fun u hu ↦ ?_, fun u hu ↦ ?_⟩
      · exact (receive_reported hc hu).2 u rfl
      · rw [findSome_of_trace_eq hr] at hu
        cases hu
    | childTask cd =>
      have hr := trace_childStep hf' (fun _ h ↦ (by cases h)) (fun _ _ h ↦ (by cases h))
      obtain ⟨c₁, hc₁, rfl⟩ := map_eq_some_iff.1 hf'
      obtain ⟨c, -, hc⟩ := bind_eq_some_iff.1 hc₁
      refine ⟨handsOpen_connectorHandler h fun u hu ↦ ?_, fun u hu ↦ ?_⟩
      · obtain ⟨e, he⟩ := ((runDeferredTask_spec hc).2 _ hu).2
        cases he
      · rw [findSome_of_trace_eq hr] at hu
        cases hu
    | resultTask cd =>
      obtain ⟨t, ht, hh⟩ := (handles_task hf').1 cd rfl
      refine ⟨handsOpen_of_handles h hh, fun u hu ↦ ?_⟩
      obtain ⟨ry, result⟩ := t
      obtain rfl : .upstream u = result := (hh.raised hu).1
      exact h cd ry u ht
    | delayTask it os =>
      obtain ⟨e, hh⟩ := (handles_task hf').2 it os rfl
      refine ⟨handsOpen_of_handles h hh, fun u hu ↦ ?_⟩
      cases (hh.raised hu).1
    | handedEvent cd et =>
      have hr := trace_childStep hf' (fun _ h ↦ (by cases h)) (fun _ _ h ↦ (by cases h))
      refine ⟨?_, fun u hu ↦ ?_⟩
      · rw [FallbackableUpstreamConnector.step] at hf'
        split at hf'
        · next ry u ht =>
          obtain ⟨u', hu', rfl⟩ := map_eq_some_iff.1 hf'
          intro ch r' v hv
          rcases ch.eq_or_eq_other cd with rfl | rfl
          · rw [info_setInfo_self] at hv
            cases hv
            exact session_of_raise (h _ _ _ ht) (hi _ _ rfl) hu'
          · rw [info_setInfo_other] at hv
            exact h _ _ _ hv
        · cases hf'
      · rw [findSome_of_trace_eq hr] at hu
        cases hu

theorem handsOpen_connect (fallback : Bool) (id : ℕ) (i os : Bool) :
    HandsOpen ((EndpointConnector.make fallback id).connect i os).2 := by
  cases fallback with
  | false => trivial
  | true =>
    set f := make { id } { id := id + 1 }
    have hn : HandsOpen (.fallbackable f) := by
      intro c r u ht
      cases c <;> cases ht
    obtain ⟨rs, hrs, hr, hk⟩ := startChild_spec f .main i os
    have hs : HandsOpen (.fallbackable (f.startChild .main i os).2) :=
      fun c r u ht ↦ hn c r u (hk _ _ ht)
    change HandsOpen (.fallbackable (f.connect i os))
    rw [FallbackableUpstreamConnector.connect]
    dsimp only
    split
    · exact handsOpen_of_handles hs (handles_handleConnectResult _ _ _)
    · intro c r u ht
      cases c with
      | main => exact hs .main r u ht
      | fallback => exact hs .fallback r u ht

end Steps

end TrustTunnel.Connector.Handover

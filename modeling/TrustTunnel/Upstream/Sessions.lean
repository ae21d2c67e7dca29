import TrustTunnel.Lib.Transition
import TrustTunnel.Upstream.Refine

namespace TrustTunnel.Upstream.Sessions

open Lib.Transition Session.Types Multiplexer Pool Refine List AList
open Traffic.Types (ServerEvent)

variable {en : Env} {s t r : System} {u id : ℕ} {label : Env × Input}

structure Session where
  childOpened : Bool := false
  fatal : List VpnError := []
  reports : List Raised := []
  died : Bool := false

def lastWord : Option VpnError → ServerEvent
  | some error => .sessionError error
  | none => .sessionClosed

def poolEmpty (s : System) : Bool := s.1.upstreamsPool.entries.isEmpty

def sessionEvents (events : List Raised) : List Raised :=
  events.filter fun e ↦ isSessionEvent e.event

def opensChild (s : System) : Input → Bool
  | .child u .sessionOpened => s.1.hasUpstream u
  | _ => false

def fatalErrors (s : System) : Input → List VpnError
  | .child u (.sessionError error) =>
    if s.1.hasUpstream u && isFatalError error then [error] else []
  | _ => []

namespace Session

variable (x : Session)

def observe (s : System) (input : Input) (t : System) : Session where
  childOpened := x.childOpened || opensChild s input
  fatal := x.fatal ++ fatalErrors s input
  reports := x.reports ++ sessionEvents (t.2.events.drop s.2.events.length)
  died := x.died || (input != .closeSession && !poolEmpty s && poolEmpty t)

def verdict : ServerEvent := lastWord x.fatal.getLast?

structure Accounted : Prop where
  opened : x.reports.countP (fun e ↦ e.event == .sessionOpened) = if x.childOpened then 1 else 0
  ended : (x.reports.filter fun e ↦ e.event != .sessionOpened) =
    if x.died then [⟨x.verdict, []⟩] else []

end Session

def observe (s : System) (input : Input) (t : System) : List Session → List Session
  | sessions =>
    match input, sessions with
    | .openSession, sessions => if poolEmpty s && !poolEmpty t then {} :: sessions else sessions
    | _, [] => []
    | input, x :: rest => x.observe s input t :: rest

def observedStep (o : System × List Session) (label : Env × Input) :
    Option (System × List Session) :=
  (step o.1 label).map fun t ↦ (t, observe o.1 label.2 t o.2)

/-- No session event is raised, and the pool does not get empty. -/
structure Calm (s t : System) : Prop where
  sessionOpen : t.1.sessionOpen = s.1.sessionOpen
  pendingError : t.1.pendingError = s.1.pendingError
  events : ∃ events, t.2.events = s.2.events ++ events ∧ sessionEvents events = []
  inhabited : poolEmpty s = false → poolEmpty t = false

theorem events_trans {as bs : List Raised}
    (h : ∃ e, t.2.events = s.2.events ++ e ∧ sessionEvents e = as)
    (h' : ∃ e, r.2.events = t.2.events ++ e ∧ sessionEvents e = bs) :
    ∃ e, r.2.events = s.2.events ++ e ∧ sessionEvents e = as ++ bs := by
  obtain ⟨es, he, rfl⟩ := h
  obtain ⟨fs, hf, rfl⟩ := h'
  exact ⟨es ++ fs, by rw [hf, he, append_assoc], filter_append ..⟩

theorem Calm.refl : Calm s s := ⟨rfl, rfl, ⟨[], by simp, rfl⟩, id⟩

theorem Calm.trans (h : Calm s t) (h' : Calm t r) : Calm s r where
  sessionOpen := h'.sessionOpen.trans h.sessionOpen
  pendingError := h'.pendingError.trans h.pendingError
  events := events_trans h.events h'.events
  inhabited hs := h'.inhabited (h.inhabited hs)

def calmRules : Rules := ⟨False, False, False, fun _ ↦ False⟩

theorem poolEmpty_iff : poolEmpty s = true ↔ ∀ u, u ∉ s.1.upstreamsPool := by
  rw [poolEmpty, List.isEmpty_iff, List.eq_nil_iff_forall_not_mem]
  constructor
  · intro h u hu
    obtain ⟨st, hs⟩ := Option.isSome_iff_exists.1 (lookup_isSome.2 hu)
    exact h _ (mem_lookup_iff.1 hs)
  · rintro h ⟨u, st⟩ he
    refine h u (lookup_isSome.1 ?_)
    rw [Option.mem_def.1 (mem_lookup_iff.2 he)]
    rfl

theorem poolEmpty_of_subset (h : ∀ u, u ∈ s.1.upstreamsPool → u ∈ t.1.upstreamsPool)
    (hs : poolEmpty s = false) : poolEmpty t = false := by
  by_contra ht
  rw [Bool.not_eq_false, poolEmpty_iff] at ht
  rw [← Bool.not_eq_true, poolEmpty_iff] at hs
  exact hs fun u hu ↦ ht u (h u hu)

theorem calm_of_move (h : Move calmRules s t) : Calm s t := by
  have hs : ∀ {p : Parent} {m : UpstreamMultiplexer} (es : List Raised),
      m.sessionOpen = s.1.sessionOpen → m.pendingError = s.1.pendingError →
      p.events = s.2.events ++ es → sessionEvents es = [] →
      (∀ u, u ∈ s.1.upstreamsPool → u ∈ m.upstreamsPool) → Calm s (m, p) :=
    fun es ho hp he hn hl ↦ ⟨ho, hp, ⟨es, he, hn⟩, poolEmpty_of_subset hl⟩
  cases h with
  | quiet hq =>
    exact hs [] hq.sessionOpen hq.pendingError (by simp [hq.events]) rfl fun u hu ↦ hq.pool ▸ hu
  | note hA _ => exact hA.elim
  | addChild v _ =>
    exact hs [] rfl rfl (by simp) rfl fun u hu ↦ (mem_insert _).2 (.inr hu)
  | openChild v => exact hs [] rfl rfl (by simp) rfl fun u hu ↦ mem_replace.2 hu
  | refuse | opened => exact hs [_] rfl rfl rfl rfl fun u hu ↦ hu
  | ended pool c _ =>
    exact hs [_] rfl rfl rfl (by cases c <;> rfl) fun u hu ↦ hu
  | drop hA _ _ => exact hA.elim
  | clear hA _ => exact hA.elim
  | _ => exact hs [] rfl rfl (by simp [Parent.issue, Parent.skip]) rfl fun u hu ↦ hu

theorem calm_of_steps (h : Steps calmRules s t) : Calm s t := by
  induction h with
  | refl => exact .refl
  | tail _ hm ih => exact ih.trans (calm_of_move hm)

structure Passed (s t : System) : Prop extends Calm s t where
  empty : poolEmpty s = true → poolEmpty t = true

theorem Passed.refl : Passed s s := ⟨.refl, id⟩

theorem Passed.trans (h : Passed s t) (h' : Passed t r) : Passed s r :=
  ⟨h.toCalm.trans h'.toCalm, fun hs ↦ h'.empty (h.empty hs)⟩

/-- The last child is gone, and the owner is told why. -/
structure Died (s t : System) : Prop where
  before : poolEmpty s = false
  after : poolEmpty t = true
  pendingError : t.1.pendingError = none
  events : ∃ events, t.2.events = s.2.events ++ events ∧
    sessionEvents events = [⟨lastWord s.1.pendingError, []⟩]

theorem Passed.died (h : Passed s t) (h' : Died t r) : Died s r where
  before := by
    by_contra hs
    have := h.empty ((Bool.not_eq_false _).mp hs)
    rw [h'.before] at this
    cases this
  after := h'.after
  pendingError := h'.pendingError
  events := by
    rw [← h.pendingError]
    exact events_trans h.events h'.events

theorem escalate_cases (h : Passed s t) (hn : poolEmpty s = false)
    (hu : ∃ p, r = ({ t.1 with upstreamsPool := p }, t.2)) :
    Passed s (escalate (raise en) r) ∨ Died s (escalate (raise en) r) := by
  obtain ⟨p, rfl⟩ := hu
  unfold escalate
  cases hemp : p.entries.isEmpty with
  | false =>
    refine .inl ⟨⟨h.sessionOpen, h.pendingError, h.events, fun _ ↦ hemp⟩, fun hs ↦ ?_⟩
    rw [hn] at hs
    cases hs
  | true =>
    obtain ⟨es, he, hes⟩ := h.events
    have hk : p.keys = [] := by
      rw [AList.keys, isEmpty_iff.1 hemp]
      rfl
    have ht : ∀ e, isSessionEvent e = true →
        sessionEvents (es ++ [⟨e, []⟩]) = [⟨e, []⟩] := by
      intro e hv
      rw [sessionEvents, filter_append]
      rw [sessionEvents] at hes
      rw [hes]
      simp [hv]
    refine .inr ?_
    simp only [Bool.not_true, Bool.false_eq_true, if_false]
    split
    · rename_i error hp
      have hp' : s.1.pendingError = some error := h.pendingError.symm.trans hp
      rw [raise_eq (by simp)]
      refine ⟨hn, hemp, rfl, es ++ [⟨.sessionError error, []⟩], ?_, ?_⟩
      · simp [Parent.tell, hk, he]
      · rw [ht _ rfl, hp']
        rfl
    · rename_i hp
      have hp' : s.1.pendingError = none := h.pendingError.symm.trans hp
      rw [raise_eq (by simp)]
      refine ⟨hn, hemp, hp, es ++ [⟨.sessionClosed, []⟩], ?_, ?_⟩
      · simp [Parent.tell, hk, he]
      · rw [ht _ rfl, hp']
        rfl

theorem closeUpstream_cases (en : Env) (s : System) (u : ℕ) :
    Passed s (closeUpstream (raise en) u s) ∨ Died s (closeUpstream (raise en) u s) := by
  unfold closeUpstream
  split
  · exact .inl .refl
  · rename_i hi
    have hu : u ∈ s.1.upstreamsPool := hasUpstream_iff.1 (by simpa using hi)
    have hn : poolEmpty s = false := by
      rw [← Bool.not_eq_true, poolEmpty_iff]
      exact fun ha ↦ ha u hu
    obtain ⟨hf, hm⟩ := @steps_forget calmRules s (connectionsOf s.1 u) False.elim
    obtain ⟨hr, he⟩ := @steps_refuseAll calmRules en
      ((connectionsOf s.1 u).foldl (fun m id ↦ m.eraseConnection id) s.1, s.2) u
    have hc := calm_of_steps (hf.trans hr)
    refine escalate_cases ⟨hc, fun hs ↦ ?_⟩ hn ⟨_, rfl⟩
    rw [hn] at hs
    cases hs

theorem runCloseTask_cases (en : Env) (s : System) :
    Passed s (runCloseTask (raise en) s) ∨ Died s (runCloseTask (raise en) s) := by
  have hf : ∀ (i : List ℕ) (s : System),
      Passed s (i.foldl (fun s u ↦ closeUpstream (raise en) u s) s) ∨
        Died s (i.foldl (fun s u ↦ closeUpstream (raise en) u s) s) := by
    intro i
    induction i with
    | nil => exact fun s ↦ .inl .refl
    | cons u rest ih =>
      intro s
      rw [foldl_cons]
      rcases closeUpstream_cases en s u with h | h
      · rcases ih (closeUpstream (raise en) u s) with h' | h'
        · exact .inl (h.trans h')
        · exact .inr (h.died h')
      · rcases ih (closeUpstream (raise en) u s) with h' | h'
        · exact .inr ⟨h.before, h'.empty h.after, h'.pendingError.trans h.pendingError,
            events_trans h.events h'.events⟩
        · have := h'.before
          rw [h.after] at this
          cases this
  unfold runCloseTask
  split
  · exact .inl .refl
  · rename_i i ts _
    have ht : Passed s ({ s.1 with closeTasks := ts }, s.2) :=
      ⟨⟨rfl, rfl, ⟨[], by simp, rfl⟩, id⟩, id⟩
    rcases hf i ({ s.1 with closeTasks := ts }, s.2) with h | h
    · exact .inl (ht.trans h)
    · exact .inr (ht.died h)

theorem passed_request (r : Request) : Passed s (request en r s) := by
  refine ⟨calm_of_steps (steps_request r), fun hs ↦ ?_⟩
  cases r with
  | openConnection sd =>
    rw [request, if_pos (show s.1.upstreamsPool.entries.isEmpty = true from hs)]
    exact hs
  | closeConnection id g a =>
    simp only [request, UpstreamMultiplexer.closeConnection]
    split <;> exact hs

theorem passed_requests : Passed s (requests en s) := by
  unfold requests
  induction en.requests generalizing s with
  | nil => exact .refl
  | cons r rest ih => exact (passed_request r).trans ih

theorem childOpened_session (hn : poolEmpty s = false) :
    (childOpened en.children (raise en) u s).1.sessionOpen = true ∧
    (childOpened en.children (raise en) u s).1.pendingError = s.1.pendingError ∧
    poolEmpty (childOpened en.children (raise en) u s) = false ∧
    ∃ e, (childOpened en.children (raise en) u s).2.events = s.2.events ++ e ∧
      sessionEvents e = if s.1.sessionOpen then [] else
        [⟨.sessionOpened, s.1.upstreamsPool.keys⟩] := by
  have hr : ∀ t : System, Calm t ((({ t.1 with
      upstreamsPool := t.1.upstreamsPool.replace u .sessionOpened }, t.2) :
      System).1.pendingOf u |>.foldl (settlePending en u)
        ({ t.1 with upstreamsPool := t.1.upstreamsPool.replace u .sessionOpened }, t.2)) := by
    intro t
    refine (calm_of_steps (.single (.openChild u))).trans (calm_of_steps
      (steps_settleAll _ (pendingOf_nodup _) fun id hi ↦ ?_))
    have hl := mem_pendingOf.1 hi
    exact ⟨lookup_isSome.1 (by rw [hl]; rfl), fun h ↦ h, False.elim, False.elim⟩
  unfold childOpened
  cases hopen : s.1.sessionOpen with
  | true =>
    have h := hr s
    exact ⟨h.sessionOpen.trans hopen, h.pendingError, h.inhabited hn, h.events⟩
  | false =>
    have ha : raise en .sessionOpened ({ s.1 with sessionOpen := true }, s.2) =
        requests en ({ s.1 with sessionOpen := true },
          s.2.tell s.1.upstreamsPool.keys .sessionOpened) := by
      unfold raise
      exact if_pos rfl
    have hq : Calm ({ s.1 with sessionOpen := true },
        s.2.tell s.1.upstreamsPool.keys .sessionOpened)
        (raise en .sessionOpened ({ s.1 with sessionOpen := true }, s.2)) := by
      rw [ha]
      exact passed_requests.toCalm
    have h := hq.trans (hr _)
    refine ⟨h.sessionOpen, h.pendingError, h.inhabited hn, ?_⟩
    obtain ⟨es, he, hs⟩ := h.events
    refine ⟨⟨.sessionOpened, s.1.upstreamsPool.keys⟩ :: es, ?_, ?_⟩
    · refine he.trans ?_
      simp [Parent.tell]
    · rw [sessionEvents, filter_cons_of_pos rfl]
      rw [sessionEvents] at hs
      rw [hs]
      rfl

theorem childFailed_session {e : VpnError} (hn : poolEmpty s = false) :
    (childFailed en.children (raise en) u e s).1.sessionOpen = s.1.sessionOpen ∧
    (childFailed en.children (raise en) u e s).1.pendingError =
      (if isFatalError e then some e else s.1.pendingError) ∧
    poolEmpty (childFailed en.children (raise en) u e s) = false ∧
    ∃ es, (childFailed en.children (raise en) u e s).2.events = s.2.events ++ es ∧
      sessionEvents es = [] := by
  have hr : ∀ (t r : System) (i : List ℕ),
      r = i.foldl (fun s u ↦ closeChildSession en.children (raise en) u s) t →
      Calm t ({ r.1 with closeTasks := r.1.closeTasks ++ [i] }, r.2) := by
    rintro t r i rfl
    exact (calm_of_steps (steps_closeChildSessions i False.elim)).trans
      (calm_of_steps (steps_defer i))
  unfold childFailed
  cases hfatal : isFatalError e with
  | true =>
    have h := hr ({ s.1 with pendingError := some e }, s.2) _ s.1.upstreamsPool.keys rfl
    exact ⟨h.sessionOpen, h.pendingError, h.inhabited hn, h.events⟩
  | false =>
    have h := hr s _ [u] rfl
    exact ⟨h.sessionOpen, h.pendingError, h.inhabited hn, h.events⟩

theorem closeSession_session :
    poolEmpty (closeSession en.children (raise en) s) = true ∧
    (closeSession en.children (raise en) s).1.pendingError = none ∧
    ∃ ev, (closeSession en.children (raise en) s).2.events = s.2.events ++ ev ∧
      sessionEvents ev = [] := by
  have h : Calm s (s.1.upstreamsPool.keys.foldl
      (fun s u ↦ closeChildSession en.children (raise en) u s) s) :=
    calm_of_steps (steps_closeChildSessions _ False.elim)
  obtain ⟨es, he, hs⟩ := h.events
  unfold closeSession
  simp only [resetPending_eq]
  refine ⟨rfl, trivial, es ++ _, by rw [he, append_assoc], ?_⟩
  rw [sessionEvents, filter_append]
  rw [sessionEvents] at hs
  rw [hs, nil_append, filter_eq_nil_iff]
  intro e hm
  obtain ⟨id, -, rfl⟩ := mem_map.1 hm
  simp [isSessionEvent]

theorem openSession_session : Calm s ((s.1.openSession en.children).1, s.2) :=
  calm_of_steps steps_openSession

/-- The reports agree with what the children did, and the newest session is the open one. -/
structure Watched (s : System) (sessions : List Session) : Prop where
  accounted : ∀ x ∈ sessions, x.Accounted
  idle : poolEmpty s = true → s.1.pendingError = none
  current : poolEmpty s = false → ∃ x rest, sessions = x :: rest ∧ x.died = false ∧
    s.1.sessionOpen = x.childOpened ∧ s.1.pendingError = x.fatal.getLast?

theorem drop_of_events {events : List Raised} (h : t.2.events = s.2.events ++ events) :
    t.2.events.drop s.2.events.length = events := by
  rw [h, drop_left]

section Observe

variable {x : Session} {i : Input} {es : List Raised}

theorem observe_calm (h : opensChild s i = false) (hl : fatalErrors s i = [])
    (he : t.2.events = s.2.events ++ es) (hes : sessionEvents es = [])
    (hd : i = .closeSession ∨ (poolEmpty s = false → poolEmpty t = false)) :
    x.observe s i t = x := by
  have hi : (i != .closeSession && !poolEmpty s && poolEmpty t) = false := by
    rcases hd with rfl | hd
    · rfl
    · cases hs : poolEmpty s with
      | true => simp
      | false => simp [hd hs]
  simp [Session.observe, drop_of_events he, hes, hi, h, hl]

theorem accounted_opened (hx : x.Accounted) (hd : x.died = false) (h : opensChild s i = true)
    (he : t.2.events = s.2.events ++ es) {p : List ℕ}
    (hs : sessionEvents es = if x.childOpened then [] else [⟨.sessionOpened, p⟩])
    (ht : poolEmpty t = false) : (x.observe s i t).Accounted := by
  obtain ⟨hc, hn⟩ := hx
  rw [hd] at hn
  constructor
  · simp only [Session.observe, drop_of_events he, hs, h, Bool.or_true, countP_append,
      hc]
    cases x.childOpened <;> simp
  · simp only [Session.observe, drop_of_events he, hs, hd, ht, filter_append, hn]
    cases x.childOpened <;> simp

theorem accounted_failed (hx : x.Accounted) (hd : x.died = false) (h : opensChild s i = false)
    (he : t.2.events = s.2.events ++ es) (hs : sessionEvents es = [])
    (ht : poolEmpty t = false) : (x.observe s i t).Accounted := by
  obtain ⟨hc, hn⟩ := hx
  rw [hd] at hn
  constructor
  · simpa [Session.observe, drop_of_events he, hs, h] using hc
  · simpa [Session.observe, drop_of_events he, hs, hd, ht] using hn

theorem lastWord_ne (e : Option VpnError) : lastWord e ≠ .sessionOpened := by
  cases e <;> simp [lastWord]

theorem accounted_died (hx : x.Accounted) (hxd : x.died = false) (h : Died s t)
    (hp : s.1.pendingError = x.fatal.getLast?) : (x.observe s .closeTask t).Accounted := by
  obtain ⟨hc, hd⟩ := hx
  rw [hxd] at hd
  obtain ⟨es, he, hs⟩ := h.events
  have hn := lastWord_ne s.1.pendingError
  constructor
  · simp [Session.observe, drop_of_events he, hs, opensChild, hc, hn]
  · have hw : lastWord s.1.pendingError = (x.observe s .closeTask t).verdict := by
      rw [Session.verdict, hp]
      simp [Session.observe, fatalErrors]
    have hi : (x.observe s .closeTask t).died = true := by
      simp [Session.observe, h.before, h.after]
    rw [hi, if_pos rfl, ← hw]
    simp [Session.observe, drop_of_events he, hs, hd, hn]

end Observe

/-- A session is opened only if the flag of the one before is down. -/
def opensFresh (s : System) (label : Env × Input) : Bool :=
  match label.2 with
  | .openSession => !poolEmpty s || !s.1.sessionOpen
  | _ => true

namespace Watched

variable {sessions : List Session}

theorem passed (h : Watched s sessions) (hp : Passed s t) : Watched t sessions where
  accounted := h.accounted
  idle ht := by
    rw [hp.pendingError]
    refine h.idle ?_
    by_contra hs
    rw [hp.inhabited (by simpa using hs)] at ht
    cases ht
  current ht := by
    rw [hp.sessionOpen, hp.pendingError]
    refine h.current ?_
    by_contra hs
    rw [hp.empty (by simpa using hs)] at ht
    cases ht

theorem observe_passed {i : Input} (h : Watched s sessions) (hp : Passed s t)
    (hi : i ≠ .openSession) (hn : opensChild s i = false)
    (hl : fatalErrors s i = []) : Watched t (observe s i t sessions) := by
  obtain ⟨es, he, hes⟩ := hp.events
  have hs : observe s i t sessions = sessions := by
    cases sessions with
    | nil => cases i <;> first | rfl | exact absurd rfl hi
    | cons x r =>
      have hx : x.observe s i t = x := observe_calm hn hl he hes (.inr hp.inhabited)
      cases i with
      | openSession => exact absurd rfl hi
      | _ => exact congrArg (· :: r) hx
  rw [hs]
  exact h.passed hp

theorem openSession (h : Watched s sessions) (ho : opensFresh s (en, .openSession) = true) :
    Watched (handle en .openSession s)
      (observe s .openSession (handle en .openSession s) sessions) := by
  have hc : Calm s (handle en .openSession s) := openSession_session
  cases hs : poolEmpty s with
  | false =>
    have he : handle en .openSession s = s := by
      have hne : s.1.upstreamsPool.entries.isEmpty = false := hs
      simp [handle, UpstreamMultiplexer.openSession, hne]
    rw [he]
    simpa [observe, hs] using h
  | true =>
    have hg : s.1.sessionOpen = false := by simpa [opensFresh, hs] using ho
    cases ht : poolEmpty (handle en .openSession s) with
    | true =>
      have he : observe s .openSession (handle en .openSession s) sessions = sessions := by
        simp [observe, ht]
      rw [he]
      refine ⟨h.accounted, fun _ ↦ hc.pendingError.trans (h.idle hs), fun hf ↦ ?_⟩
      rw [ht] at hf
      cases hf
    | false =>
      have hn : observe s .openSession (handle en .openSession s) sessions =
          {} :: sessions := by
        simp [observe, hs, ht]
      rw [hn]
      refine ⟨fun x hx ↦ ?_, fun hf ↦ ?_, fun _ ↦ ⟨{}, sessions, rfl, rfl, ?_, ?_⟩⟩
      · rcases mem_cons.1 hx with rfl | hx
        · exact ⟨rfl, rfl⟩
        · exact h.accounted x hx
      · rw [ht] at hf
        cases hf
      · exact hc.sessionOpen.trans hg
      · exact hc.pendingError.trans (h.idle hs)

theorem closeSession (h : Watched s sessions) : Watched (handle en .closeSession s)
    (observe s .closeSession (handle en .closeSession s) sessions) := by
  obtain ⟨hp, hn, es, he, hes⟩ := @closeSession_session en s
  have hs : observe s .closeSession (handle en .closeSession s) sessions = sessions := by
    cases sessions with
    | nil => rfl
    | cons x r =>
      have hx : x.observe s .closeSession (handle en .closeSession s) = x :=
        observe_calm rfl rfl he hes (.inl rfl)
      exact congrArg (· :: r) hx
  rw [hs]
  refine ⟨h.accounted, fun _ ↦ hn, fun hf ↦ ?_⟩
  rw [show poolEmpty (handle en .closeSession s) = true from hp] at hf
  cases hf

theorem closeTask (h : Watched s sessions) : Watched (handle en .closeTask s)
    (observe s .closeTask (handle en .closeTask s) sessions) := by
  rcases runCloseTask_cases en s with hp | hd
  · exact h.observe_passed hp (by simp) rfl rfl
  · obtain ⟨x, rest, rfl, hx, -, he⟩ := h.current hd.before
    refine ⟨fun y hy ↦ ?_, fun _ ↦ hd.pendingError, fun hf ↦ ?_⟩
    · rcases mem_cons.1 hy with rfl | hy
      · exact accounted_died (h.accounted x mem_cons_self) hx hd he
      · exact h.accounted y (mem_cons_of_mem _ hy)
    · have := hd.after
      rw [show poolEmpty (runCloseTask (raise en) s) = false from hf] at this
      cases this

theorem childOpened (h : Watched s sessions) (hu : u ∈ s.1.upstreamsPool)
    (hn : poolEmpty s = false) :
    Watched (Multiplexer.childOpened en.children (raise en) u s)
      (observe s (.child u .sessionOpened)
        (Multiplexer.childOpened en.children (raise en) u s) sessions) := by
  obtain ⟨ho, hp, ht, es, he, hs⟩ := @childOpened_session en s u hn
  obtain ⟨x, r, rfl, hx, hg, hl⟩ := h.current hn
  have hi : opensChild s (.child u .sessionOpened) = true := hasUpstream_iff.2 hu
  rw [hg] at hs
  refine ⟨fun y hy ↦ ?_, fun hf ↦ ?_, fun _ ↦ ⟨_, r, rfl, ?_, ?_, ?_⟩⟩
  · rcases mem_cons.1 hy with rfl | hy
    · exact accounted_opened (h.accounted x mem_cons_self) hx hi he hs ht
    · exact h.accounted y (mem_cons_of_mem _ hy)
  · rw [ht] at hf
    cases hf
  · simp [Session.observe, hx, ht]
  · simp [Session.observe, hi, ho]
  · simp [Session.observe, fatalErrors, hp, hl]

theorem childFailed {e : VpnError} (h : Watched s sessions) (hu : u ∈ s.1.upstreamsPool)
    (hn : poolEmpty s = false) :
    Watched (Multiplexer.childFailed en.children (raise en) u e s)
      (observe s (.child u (.sessionError e))
        (Multiplexer.childFailed en.children (raise en) u e s) sessions) := by
  obtain ⟨ho, hp, ht, es, he, hs⟩ := @childFailed_session en s u e hn
  obtain ⟨x, r, rfl, hx, hg, hl⟩ := h.current hn
  have hi : s.1.hasUpstream u = true := hasUpstream_iff.2 hu
  refine ⟨fun y hy ↦ ?_, fun hf ↦ ?_, fun _ ↦ ⟨_, r, rfl, ?_, ?_, ?_⟩⟩
  · rcases mem_cons.1 hy with rfl | hy
    · exact accounted_failed (h.accounted x mem_cons_self) hx rfl he hs ht
    · exact h.accounted y (mem_cons_of_mem _ hy)
  · rw [ht] at hf
    cases hf
  · simp [Session.observe, hx, ht]
  · simp [Session.observe, opensChild, ho, hg]
  · rw [hp, hl]
    cases hfe : isFatalError e with
    | true => simp [Session.observe, fatalErrors, hi, hfe]
    | false => simp [Session.observe, fatalErrors, hi, hfe]

theorem child {e : ChildEvent} (h : Watched s sessions) :
    Watched (handle en (.child u e) s)
      (observe s (.child u e) (handle en (.child u e) s) sessions) := by
  cases hin : s.1.hasUpstream u with
  | false =>
    have he : handle en (.child u e) s = s := by
      simp [handle, childUpstreamHandler, hin]
    have ho : opensChild s (.child u e) = false := by
      cases e <;> simp [opensChild, hin]
    have hf : fatalErrors s (.child u e) = [] := by
      cases e <;> simp [fatalErrors, hin]
    rw [he]
    exact h.observe_passed .refl (by simp) ho hf
  | true =>
    have hu := hasUpstream_iff.1 hin
    have hn : poolEmpty s = false := by
      rw [← Bool.not_eq_true, poolEmpty_iff]
      exact fun ha ↦ ha u hu
    have hp : ∀ t, Steps calmRules s t → Passed s t := fun t ht ↦
      ⟨calm_of_steps ht, fun hs ↦ by
        rw [hn] at hs
        cases hs⟩
    simp only [handle, childUpstreamHandler, hin, Bool.not_true, Bool.false_eq_true, if_false]
    cases e with
    | sessionOpened => exact h.childOpened hu hn
    | sessionClosed =>
      exact h.observe_passed (hp _ (steps_refuseAll.1.trans (steps_defer _))) (by simp) rfl rfl
    | connectionOpened id =>
      refine h.observe_passed (hp _ ?_) (by simp) rfl rfl
      simp only [raise_eq (show ServerEvent.connectionOpened id ≠ .sessionOpened by simp)]
      exact .single (.opened _ False.elim)
    | connectionClosed id =>
      exact h.observe_passed (hp _ (steps_childConnectionEnded False.elim)) (by simp) rfl rfl
    | error id c =>
      exact h.observe_passed (hp _ (steps_childConnectionEnded False.elim)) (by simp) rfl rfl
    | sessionError error => exact h.childFailed hu hn

/-- The step lemma: one case for each input. -/
theorem step (h : Watched s sessions) (ho : opensFresh s label = true) {o : System × List Session}
    (hs : observedStep (s, sessions) label = some o) : Watched o.1 o.2 := by
  obtain ⟨env, input⟩ := label
  obtain rfl : (handle env input s, observe s input (handle env input s) sessions) = o :=
    Option.some.inj hs
  cases input with
  | openSession => exact h.openSession ho
  | closeSession => exact h.closeSession
  | request r => exact h.observe_passed (passed_request r) (by simp) rfl rfl
  | child u event => exact h.child
  | closeTask => exact h.closeTask

end Watched

/-- In every run in which no session is opened while the flag of an earlier one is up, the owner
is told of every session exactly what there is to tell. -/
theorem sessions_accounted {max : ℕ} {ls : List (Env × Input)} {o : System × List Session}
    (h : Run observedStep (fun o l ↦ opensFresh o.1 l = true) (start max, []) ls o) :
    ∀ x ∈ o.2, x.Accounted := by
  have ha := h.invariant (P := fun o ↦ Watched o.1 o.2) ⟨nofun, fun _ ↦ rfl, nofun⟩
    fun o l o' hw ho hs ↦ hw.step ho hs
  exact ha.accounted

def authRequired : VpnError := { code := .authRequired }

/-- One session ends by a fatal error, and the next one without. -/
theorem sessions_accounted_of_two :
    ∃ ls o x y, Run observedStep (fun o l ↦ opensFresh o.1 l = true) (start 8, []) ls o ∧
      o.2 = [y, x] ∧ x.fatal = [authRequired] ∧ x.died = true ∧ x.childOpened = true ∧
      y.fatal = [] ∧ y.died = true ∧ x.Accounted ∧ y.Accounted := by
  obtain ⟨o, hr, hp⟩ := exists_run_of_execWhile observedStep
    (fun o l ↦ opensFresh o.1 l = true) (start 8, [])
    ([({}, .openSession), ({}, .child 0 .sessionOpened),
      ({}, .child 0 (.sessionError authRequired)), ({}, .closeTask), ({}, .openSession),
      ({}, .child 1 .sessionClosed), ({}, .closeTask)] : List (Env × Input))
    (fun o ↦ o.2.map (fun x ↦ (x.fatal, x.died)) == [([], true), ([authRequired], true)] &&
      o.2.getLast?.any (·.childOpened)) (by decide)
  have ha := sessions_accounted hr
  rw [Bool.and_eq_true, beq_iff_eq] at hp
  obtain ⟨y, rest, ho, hy, ht⟩ := map_eq_cons_iff.1 hp.1
  obtain ⟨x, last, rfl, hx, hl⟩ := map_eq_cons_iff.1 ht
  rw [map_eq_nil_iff.1 hl] at ho
  rw [ho] at ha
  rw [Prod.mk.injEq] at hx hy
  have hd : x.childOpened = true := by simpa [ho] using hp.2
  exact ⟨_, o, x, y, hr, ho, hx.1, hx.2, hd, hy.1, hy.2, ha x (by simp), ha y (by simp)⟩

/-- After `close_session` the flag stays up, and the owner is not told that the next session
opened. -/
theorem closed_session_hides_next_opening :
    ∃ ls o, Run observedStep (fun _ _ ↦ True) (start 8, []) ls o ∧
      ∃ x ∈ o.2, x.childOpened = true ∧ x.reports = [] ∧ ¬ x.Accounted := by
  refine ⟨[({}, .openSession), ({}, .child 0 .sessionOpened), ({}, .closeSession),
      ({}, .openSession), ({}, .child 1 .sessionOpened)],
    exists_run_imp (P := fun o ↦ ∃ x ∈ o.2, x.childOpened = true ∧ x.reports = []) (by decide) ?_⟩
  rintro o - ⟨x, hx, ho, hr⟩
  refine ⟨x, hx, ho, hr, fun ha ↦ ?_⟩
  have hc := ha.opened
  rw [ho, hr] at hc
  simp at hc

end TrustTunnel.Upstream.Sessions

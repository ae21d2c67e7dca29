import TrustTunnel.Lib.Transition
import TrustTunnel.Upstream.Udp.Moves

namespace TrustTunnel.Upstream.Udp.Failures

open Lib.Transition Upstream.Types Udp.Multiplexer Moves

variable {A : Rules} {s t : HttpUdpMultiplexer}

def refusal : ServerError := ⟨econnrefused, "HTTP stream creation failed"⟩

def refusedAfter (refused : Bool) : Happening → Bool
  | .connectRequest => false
  | .response statusCode => refused || statusCode ≠ httpOkStatus
  | _ => refused

/-- The last stream that was started got a response other than 200. -/
def refused (trace : List Happening) : Bool := trace.foldl refusedAfter false

theorem refused_append (t : List Happening) (h : Happening) :
    refused (t ++ [h]) = refusedAfter (refused t) h := by
  rw [refused, List.foldl_append]
  rfl

/-- The event by which the end of a stream should end a connection. -/
def lastEvent (refused : Bool) (error : ServerError) (id : ℕ) : Happening :=
  if refused then .error id refusal
  else if error.code ≠ 0 then .error id error
  else .connectionClosed id

theorem refused_ends {trace : List Happening} {r : Option ServerError} {i : List ℕ} :
    refused (trace ++ i.map (HttpUdpMultiplexer.closeEvent r)) = refused trace := by
  induction i generalizing trace with
  | nil => simp
  | cons id i ih =>
    rw [List.map_cons, List.append_cons, ih, refused_append]
    cases r <;> rfl

def Owned (s : HttpUdpMultiplexer) : Prop :=
  s.pendingError = if refused s.trace then some refusal else none

theorem Owned.emit {h : Happening} (hs : Owned s) (hh : refusedAfter (refused s.trace) h =
    refused s.trace) : Owned (s.emit h) := by
  rw [Owned, HttpUdpMultiplexer.emit, refused_append, hh]
  exact hs

theorem Owned.move (hA : ¬ A.leftover) (hs : Owned s) (h : Move A s t) : Owned t := by
  cases h with
  | note hn => exact hs.emit (by cases hn <;> rfl)
  | modify id f hf => exact hs
  | prepare r hr => exact hs
  | start sm hi ht =>
    have he : s.pendingError = none := ht.resolve_right hA
    show s.pendingError = if refused (s.trace ++ [.connectRequest]) then some refusal else none
    rw [refused_append, he]
    rfl
  | accept id c hst hw hk => exact hs.emit rfl
  | complete id c hc => exact hs
  | miss id hi => exact hs
  | read d hv => exact hs.emit rfl
  | finish id hd =>
    rw [Owned, trace_finish, pendingError_finish, refused_append]
    exact hs
  | stray id hu => exact hs.emit rfl
  | respond sc =>
    by_cases hok : sc = httpOkStatus
    · subst hok
      exact hs.emit (Bool.or_false _)
    · simp only [HttpUdpMultiplexer.handleResponse, ne_eq, hok, not_false_eq_true, if_true]
      show some refusal = if refused (s.trace ++ [.response sc]) then some refusal else none
      rw [refused_append]
      simp [refusedAfter, hok]
  | close e =>
    have her : (s.close e).pendingError = s.pendingError := (foldl_finish _ _ s).2
    rw [Owned, trace_close, refused_ends, her]
    exact hs

/-- The run lemma over the moves. -/
theorem Owned.steps (hA : ¬ A.leftover) (hs : Owned s) (h : Steps A s t) : Owned t := by
  induction h with
  | refl => exact hs
  | tail _ hm ih => exact ih.move hA hm

theorem closeError_of_owned (hs : Owned s) (e : ServerError) (id : ℕ) :
    HttpUdpMultiplexer.closeEvent (s.closeError e) id = lastEvent (refused s.trace) e id := by
  rw [HttpUdpMultiplexer.closeError, hs, lastEvent]
  split
  · rfl
  · split <;> rfl

/-- A stream is only started while no error of an earlier one is kept. -/
def startsClean (s : HttpUdpMultiplexer) (label : Env × Input) : Prop :=
  match label.2 with
  | .request (.openConnection ..) => s.state = .idle → s.pendingError = none
  | _ => True

instance (s : HttpUdpMultiplexer) (label : Env × Input) : Decidable (startsClean s label) := by
  unfold startsClean
  split <;> infer_instance

def rules : Rules := { unchecked := True, leftover := False }

theorem meets_of_startsClean {label : Env × Input} (h : startsClean s label) :
    Meets rules s label := by
  refine ⟨.inr trivial, ?_⟩
  intro r hr ho
  cases hs : s.state with
  | established => exact .inl hs
  | idle =>
    cases r with
    | openConnection id addr an sm =>
      rw [startsClean, hr] at h
      exact .inr (.inl (h hs))
    | closeConnection id a => cases ho
    | send id d ok => cases ho
    | setReadEnabled id v => cases ho

/-- The end of a stream is told to the connections that it still has as its own failure or the
error of the end, and otherwise as a plain end. -/
theorem close_tells_own_failure {labels : List (Env × Input)} {mux : HttpUdpMultiplexer}
    (h : Run step startsClean {} labels mux) (error : ServerError) :
    (mux.close error).trace = mux.trace ++
      mux.connections.keys.map (lastEvent (refused mux.trace) error) := by
  have ho : Owned mux := h.invariant (P := Owned) rfl fun s l t hs hk hp ↦
    hs.steps (A := rules) (fun h ↦ h) (step_steps (meets_of_startsClean hk) hp)
  rw [trace_close]
  congr 1
  exact List.map_congr_left fun id _ ↦ closeError_of_owned ho error id

def openOn (id stream : ℕ) : Env × Input :=
  ({}, .request
      (.openConnection id ⟨⟨.inet, id, 1⟩, .socketAddress ⟨.inet, 8, 53⟩⟩ [] (some stream)))

/-- The first stream fails; the second one ends without an error. -/
theorem own_failure_of_two_streams : ∃ mux,
    Run step startsClean {} [openOn 1 1, ({}, .handleResponse 200), ({}, .close ⟨7, "reset"⟩),
      openOn 2 3, openOn 4 5, ({}, .handleResponse 200)] mux ∧
    (mux.close {}).trace = mux.trace ++ [.connectionClosed 4, .connectionClosed 2] := by
  refine exists_run_imp (P := fun mux ↦ mux.connections.keys = [4, 2] ∧
    refused mux.trace = false) (by decide) fun mux hr hp ↦ ?_
  rw [close_tells_own_failure hr, hp.1, hp.2]
  rfl

/-- The first stream is refused, the second one is not and ends without an error. -/
theorem refusal_leaks_into_next_stream : ∃ mux,
    Run step anyStep {} [openOn 1 1, ({}, .handleResponse 403), ({}, .close {}), openOn 2 3,
      ({}, .handleResponse 200)] mux ∧
    refused mux.trace = false ∧ (mux.close {}).trace = mux.trace ++ [.error 2 refusal] :=
  exists_run (by decide)

end TrustTunnel.Upstream.Udp.Failures

import TrustTunnel.Ping.Locations

namespace TrustTunnel.Ping.Reports

open Lib.Assoc Lib.Transition Locations List

structure Good (strict : Prop) (all : List VpnLocation) (hand : List LocationsCtx)
    (p : LocationsPinger) : Prop where
  books : ∀ location, (p.trace.filterMap locationOf).count location + p.runningFor location +
    ((hand ++ p.pendingLocations).map (·.info)).count location = all.count location
  follows : ∀ l, l ∈ hand ++ p.pendingLocations ∨ (∃ ping, p.locations.lookup ping = some l) →
    Follows strict l
  reported : ∀ location results destroyed result,
    .reported location results destroyed result ∈ p.trace →
      Names p.queryAllInterfaces location results result ∧
      (strict → Consistent results destroyed result)
  task : p.taskId = some .startLocationPing ↔ p.pendingLocations ≠ []
  tell : p.taskId = some .tellFinished → p.locations.keys = [] ∧ hand = []
  working : ¬ p.Idle ∨ hand ≠ [] → .finished ∉ p.trace
  unmade : ∀ ping, p.pingsMade ≤ ping → p.locations.lookup ping = none
  completed : p.Idle → hand = [] → ∃ front, p.trace = front ++ [.finished] ∧ .finished ∉ front

section Pinger

variable {st : Prop} {all : List VpnLocation} {p : LocationsPinger} {l : LocationsCtx}
  {ping : ℕ}

theorem keys_ne_nil (h : p.locations.lookup ping = some l) : p.locations.keys ≠ [] := by
  have hm : ping ∈ p.locations.keys := AList.mem_keys.1 (AList.lookup_isSome.1 (by rw [h]; rfl))
  exact ne_nil_of_mem hm

theorem Good.receive (h : Good st all [] p) (hl : p.locations.lookup ping = some l)
    {r : PingResult} (hr : r.endpoint ∈ l.info.endpoints) (hn : st → Clean (l.table (isIpv6 r)) r) :
    Good st all [] (p.processPingResult ping l (.ok r)) := by
  have hlo : ∀ k, (p.processPingResult ping l (.ok r)).locations.lookup k =
      if k = ping then some (l.receive r) else p.locations.lookup k := fun k ↦ by
    refine (lookup_modify _ _ _ _).trans ?_
    rw [hl]
    rfl
  have hs : ∀ location, (p.processPingResult ping l (.ok r)).runningFor location =
      p.runningFor location := fun location ↦ sumOf_modify_same _ fun _ _ ↦ rfl
  have hb : (p.processPingResult ping l (.ok r)).locations.keys ≠ [] :=
    keys_ne_nil ((hlo ping).trans (if_pos rfl))
  refine ⟨fun location ↦ ?_, fun l' hl' ↦ ?_, h.reported, h.task,
    fun ht ↦ absurd (h.tell ht).1 (keys_ne_nil hl),
    fun _ ↦ h.working (.inl fun hi ↦ keys_ne_nil hl hi.2), fun k hk ↦ ?_,
    fun hi ↦ absurd hi.2 hb⟩
  · rw [hs]
    exact h.books location
  · rcases hl' with hl' | ⟨k, hk⟩
    · exact h.follows l' (.inl hl')
    · rw [hlo] at hk
      split at hk
      · cases hk
        exact (h.follows l (.inr ⟨ping, hl⟩)).receive hr hn
      · exact h.follows l' (.inr ⟨k, hk⟩)
  · have ho := h.unmade k hk
    have hne : k ≠ ping := fun he ↦ by rw [he, hl] at ho; cases ho
    rw [hlo, if_neg hne, ho]

theorem Good.erase (h : Good st all [] p) (hl : p.locations.lookup ping = some l) :
    Good st all [l] { p with locations := p.locations.erase ping } := by
  refine ⟨fun ln ↦ ?_, fun l' hl' ↦ ?_, h.reported, h.task,
    fun ht ↦ absurd (h.tell ht).1 (keys_ne_nil hl),
    fun _ ↦ h.working (.inl fun hi ↦ keys_ne_nil hl hi.2), fun k hk ↦ ?_,
    fun _ hh ↦ absurd hh (by simp)⟩
  · have hs := sumOf_erase (fun l ↦ if l.info = ln then 1 else 0) hl
    have hb := h.books ln
    rw [LocationsPinger.runningFor] at hb ⊢
    simp only [nil_append, singleton_append, map_cons, count_cons, beq_iff_eq] at hb ⊢
    omega
  · rcases hl' with hl' | ⟨k, hk⟩
    · rcases mem_cons.1 hl' with rfl | hl'
      · exact h.follows l' (.inr ⟨ping, hl⟩)
      · exact h.follows l' (.inl hl')
    · exact h.follows l' (.inr ⟨k, (lookup_erase_eq_some.1 hk).2⟩)
  · rw [lookup_erase, h.unmade k hk, ite_self]

theorem Good.finalizeLocation (h : Good st all [l] p) {lt : Bool}
    (ht : lt = true ↔ p.Idle) : Good st all [] (p.finalizeLocation l lt) := by
  have hl := h.follows l (.inl (by simp))
  have hu := h.working (.inr (by simp))
  have hr : (p.finalizeLocation l lt).trace = p.trace ++ .reported l.info l.results
      (l.destroyed ++ dropped l (select p.queryAllInterfaces l))
      (resultOf l.info (select p.queryAllInterfaces l)) :: if lt then [.finished] else [] := rfl
  refine ⟨fun ln ↦ ?_, fun l' hl' ↦ h.follows l' (hl'.imp_left (mem_append_right _)),
    fun ln rs d r hmem ↦ ?_, h.task,
    fun he ↦ absurd (h.tell he).2 (by simp), fun hb ↦ ?_, h.unmade,
    fun hi _ ↦ ?_⟩
  · have hc := h.books ln
    have hn : (if lt then [Record.finished] else []).filterMap locationOf = [] := by
      cases lt <;> rfl
    change _ + p.runningFor ln + (p.pendingLocations.map _).count ln = _
    rw [hr, filterMap_append, filterMap_cons, locationOf, hn]
    simp only [count_append, singleton_append, map_cons, count_cons, count_nil] at hc ⊢
    omega
  · rw [hr, mem_append, mem_cons] at hmem
    rcases hmem with hmem | hmem | hmem
    · exact h.reported _ _ _ _ hmem
    · cases hmem
      exact ⟨hl.names _, fun hs ↦ hl.consistent hs _⟩
    · split at hmem <;> simp at hmem
  · have ho : lt ≠ true := fun h' ↦ hb.elim (· (ht.1 h')) (· rfl)
    rw [hr, if_neg ho]
    simpa using hu
  · rw [hr, if_pos (ht.2 hi)]
    exact ⟨_, append_cons .., by simpa using hu⟩

theorem Good.pop (h : Good st all [] p) {r : List LocationsCtx}
    (hd : p.pendingLocations = l :: r) :
    Good st all [l] { p with
      pendingLocations := r
      taskId := if r.isEmpty then none else some .startLocationPing } := by
  have hk : p.taskId = some .startLocationPing := h.task.2 (by simp [hd])
  have hb := h.books
  have hf := h.follows
  rw [hd, nil_append] at hb hf
  refine ⟨hb, hf, h.reported, ?_, fun ht ↦ ?_, fun _ ↦ ?_, h.unmade, fun _ hh ↦ absurd hh (by simp)⟩
  · cases r <;> simp
  · cases r <;> simp at ht
  · exact h.working (.inl fun hi ↦ by rw [hi.1] at hk; cases hk)

theorem Good.insert (h : Good st all [l] p) : Good st all []
    { p with locations := p.locations.insert p.pingsMade l, pingsMade := p.pingsMade + 1 } := by
  have hn := h.unmade p.pingsMade le_rfl
  have hl := lookup_insert p.locations p.pingsMade (x := l)
  have hb : (p.locations.insert p.pingsMade l).keys ≠ [] := by simp
  refine ⟨fun ln ↦ ?_, fun l' hl' ↦ ?_, h.reported, h.task,
    fun ht ↦ absurd (h.tell ht).2 (by simp), fun _ ↦ h.working (.inr (by simp)),
    fun k hk ↦ ?_, fun hi ↦ absurd hi.2 hb⟩
  · have hs := sumOf_insert_new (fun l ↦ if l.info = ln then 1 else 0) hn l
    have hbk := h.books ln
    rw [LocationsPinger.runningFor] at hbk ⊢
    simp only [nil_append, singleton_append, map_cons, count_cons, beq_iff_eq] at hbk ⊢
    omega
  · rcases hl' with hl' | ⟨k, hk⟩
    · exact h.follows l' (.inl (mem_append_right _ hl'))
    · rw [hl] at hk
      split at hk
      · cases hk
        exact h.follows l (.inl (by simp))
      · exact h.follows l' (.inr ⟨k, hk⟩)
  · have hk : p.pingsMade + 1 ≤ k := hk
    rw [hl, if_neg (by omega), h.unmade k (by omega)]

theorem Good.startLocationPing (h : Good st all [] p) (s : Bool) :
    Good st all [] (p.startLocationPing s) := by
  rw [LocationsPinger.startLocationPing]
  cases hp : p.pendingLocations with
  | nil => exact h
  | cons i r =>
    cases s with
    | true => exact (h.pop hp).insert
    | false =>
      refine (h.pop hp).finalizeLocation ?_
      cases r <;> simp [LocationsPinger.Idle]

def clean (p : LocationsPinger) : Input → Bool
  | .result ping (.ok r) => (p.locations.lookup ping).all fun l ↦ Clean (l.table (isIpv6 r)) r
  | _ => true

theorem Good.step {i : Input} {p' : LocationsPinger} (h : Good st all [] p)
    (hc : st → clean p i = true) (hp : step p i = some p') : Good st all [] p' := by
  cases i with
  | runTask s =>
    simp only [Locations.step] at hp
    cases htask : p.taskId with
    | none => simp [htask] at hp
    | some t =>
      cases t with
      | startLocationPing =>
        simp only [htask, Option.some.injEq] at hp
        exact hp ▸ h.startLocationPing s
      | tellFinished =>
        simp only [htask, Option.some.injEq] at hp
        subst hp
        have hd : p.pendingLocations = [] := by
          by_contra hne
          rw [h.task.2 hne] at htask
          cases htask
        have hu := h.working (.inl fun hi ↦ by rw [hi.1] at htask; cases htask)
        refine ⟨fun ln ↦ ?_, h.follows, fun ln rs d result hm ↦ ?_, ?_,
          fun ht ↦ (by cases ht), fun hb ↦ ?_, h.unmade, fun _ _ ↦ ⟨_, rfl, hu⟩⟩
        · have hs : (p.trace ++ [Record.finished]).filterMap locationOf =
              p.trace.filterMap locationOf := by
            simp [filterMap_cons, locationOf]
          rw [hs]
          exact h.books ln
        · exact h.reported _ _ _ _ (by simpa using hm)
        · simp [hd]
        · exact absurd ⟨rfl, (h.tell htask).1⟩ (hb.resolve_right (· rfl))
  | result pg ss =>
    simp only [Locations.step] at hp
    cases hl : p.locations.lookup pg with
    | none =>
      simp only [hl, Option.some.injEq] at hp
      exact hp ▸ h
    | some l =>
      simp only [hl] at hp
      cases ss with
      | ok r =>
        obtain ⟨hr, rfl⟩ : r.endpoint ∈ l.info.endpoints ∧
            p.processPingResult pg l (.ok r) = p' := by simpa using hp
        refine h.receive hl hr fun hst ↦ ?_
        simpa [clean, hl] using hc hst
      | finished =>
        obtain rfl : p.processPingResult pg l .finished = p' := by simpa using hp
        refine (h.erase hl).finalizeLocation ?_
        have ht : p.taskId ≠ some .tellFinished := fun ht ↦ keys_ne_nil hl (h.tell ht).1
        have hn : p.taskId = none ↔ p.pendingLocations = [] := by
          rw [← not_iff_not, ← ne_eq p.pendingLocations, ← h.task]
          cases htask : p.taskId with
          | none => simp
          | some t => cases t <;> simp_all
        simp [LocationsPinger.Idle, hn, and_comm]
      | socketError =>
        cases hp
        exact h
      | timedout =>
        cases hp
        exact h

theorem good_start (qs : Bool) (all : List VpnLocation) : Good st all [] (start qs all) := by
  refine ⟨fun ln ↦ ?_, fun l hl ↦ ?_, fun _ _ _ _ hm ↦ (by cases hm), ?_,
    fun _ ↦ ⟨rfl, rfl⟩, fun _ hm ↦ (by cases hm), fun _ _ ↦ rfl, fun hi ↦ (by cases hi.1)⟩
  · have hs : ((start qs all).pendingLocations.map (·.info)) = all := by
      simp [start, Function.comp_def]
    rw [nil_append, hs]
    exact Nat.zero_add _
  · rcases hl with hl | ⟨p, hp⟩
    · obtain ⟨i, -, rfl⟩ := mem_map.1 hl
      refine ⟨by simp, fun ipv6 ↦ ?_, fun _ ↦ by simp [LocationsCtx.table]⟩
      cases ipv6 <;>
        exact ⟨nodup_nil, fun _ ↦ Iff.rfl, fun _ ↦ rfl, fun _ _ hx ↦ (by cases hx)⟩
    · cases hp
  · cases all <;> simp [start]

/-- The run lemma: a location waits, is pinged or was reported as often as it was given. -/
theorem good_run {qs : Bool} {i : List Input}
    (h : Run step (fun p it ↦ st → clean p it = true) (start qs all) i p) : Good st all [] p :=
  h.invariant (good_start qs all) fun _ _ _ hg hok hs ↦ hg.step hok hs

end Pinger

/-- Every location is reported once, `nullptr` follows once, and the result of a location names the
first endpoint in the order of the addresses of the location. -/
theorem locations_reported_once {queryAllInterfaces : Bool} {all : List VpnLocation}
    {inputs : List Input} {p : LocationsPinger}
    (hrun : Run step anyStep (start queryAllInterfaces all) inputs p) :
    (∀ location, (p.trace.filterMap locationOf).count location ≤ all.count location) ∧
    (¬ p.Idle → .finished ∉ p.trace) ∧
    (p.Idle → (p.trace.filterMap locationOf).Perm all ∧
      ∃ front, p.trace = front ++ [.finished] ∧ .finished ∉ front) ∧
    ∀ location results destroyed result, .reported location results destroyed result ∈ p.trace →
      Names p.queryAllInterfaces location results result := by
  have h : Good False all [] p := good_run (hrun.mono fun _ _ _ ↦ False.elim)
  refine ⟨fun location ↦ ?_, fun hb ↦ h.working (.inl hb), fun hi ↦ ⟨?_, h.completed hi rfl⟩,
    fun _ _ _ _ hm ↦ (h.reported _ _ _ _ hm).1⟩
  · have hs := h.books location
    omega
  · refine perm_iff_count.2 fun location ↦ ?_
    have hp : p.pendingLocations = [] := by
      by_contra hne
      have ht := h.task.2 hne
      rw [hi.1] at ht
      cases ht
    have hn : p.runningFor location = 0 := by
      have he : p.locations.entries = [] := by simpa [AList.keys, keys] using hi.2
      rw [LocationsPinger.runningFor, sumOf, he]
      rfl
    have hs := h.books location
    rw [hp, hn] at hs
    simpa using hs

def endpointNamed (name : String) : VpnEndpoint := ⟨⟨.inet, 1, 443⟩, name, none⟩

def city : VpnLocation := ⟨"city", [endpointNamed "a", endpointNamed "b"]⟩

def answerOf (name : String) (ms : ℕ) : PingResult := { endpoint := endpointNamed name, ms }

def pingCity (results : List PingResult) : List Input :=
  .runTask true :: results.map (fun r ↦ .result 0 (.ok r)) ++ [.result 0 .finished]

theorem locations_reported_once_of_city :
    ∃ p, Run step anyStep (start false [city]) (pingCity [answerOf "b" 7]) p ∧
      (p.trace.filterMap locationOf).Perm [city] :=
  exists_run_imp (P := fun p ↦ p.taskId = none ∧ p.locations.keys = []) (by decide)
    fun _ hr hp ↦ ((locations_reported_once hr).2.2.1 ⟨hp.1, hp.2⟩).1

/-- Of two endpoints with one address the one that answers first is named. -/
theorem second_endpoint_named :
    ∃ p results destroyed result, Run step anyStep (start false [city]) (pingCity results) p ∧
      .reported city results destroyed result ∈ p.trace ∧
      city.endpoints = [endpointNamed "a", endpointNamed "b"] ∧
      endpointNamed "a" ∈ results.map (·.endpoint) ∧
      result.endpoint = some (endpointNamed "b") := by
  obtain ⟨p, hrun, hp⟩ : ∃ p, Run step anyStep (start false [city])
      (pingCity [answerOf "b" 7, answerOf "a" 5]) p ∧
      .reported city [answerOf "b" 7, answerOf "a" 5] []
        (resultOf city (some (answerOf "b" 7))) ∈ p.trace := exists_run (by decide)
  exact ⟨p, _, _, _, hrun, hp, rfl, by simp [answerOf], rfl⟩

/-- The data of a result come from one result of the endpoint. -/
theorem reported_data_consistent {queryAllInterfaces : Bool} {all : List VpnLocation}
    {inputs : List Input} {p : LocationsPinger}
    (hrun : Run step (fun p input ↦ clean p input = true) (start queryAllInterfaces all) inputs p) :
    ∀ location results destroyed result, .reported location results destroyed result ∈ p.trace →
      Consistent results destroyed result := by
  have h : Good True all [] p := good_run (hrun.mono fun _ _ hc _ ↦ hc)
  exact fun _ _ _ _ hm ↦ (h.reported _ _ _ _ hm).2 trivial

def quicAnswer (ms state : ℕ) : PingResult :=
  { answerOf "a" ms with isQuic := true, connState := some state }

/-- Two answers, of which the faster one is reported. -/
theorem reported_data_consistent_of_two :
    ∃ p results result, Run step (fun p input ↦ clean p input = true) (start false [city])
      (pingCity results) p ∧ .reported city results [1] result ∈ p.trace ∧
      Consistent results [1] result := by
  obtain ⟨p, hrun, hp⟩ : ∃ p, Run step (fun p input ↦ clean p input = true) (start false [city])
      (pingCity [quicAnswer 7 1, quicAnswer 5 2]) p ∧
      .reported city [quicAnswer 7 1, quicAnswer 5 2] [1]
        (resultOf city (some (quicAnswer 5 2))) ∈ p.trace := exists_run (by decide)
  exact ⟨p, _, _, hrun, hp, reported_data_consistent hrun _ _ _ _ hp⟩

def relayedAnswer : PingResult := { answerOf "a" 20 with relay := some ⟨⟨.inet, 2, 443⟩, []⟩ }

/-- The time of the second result is reported without its relay, and nobody gets the connection
state of the third. -/
theorem relay_lost_and_state_leaked :
    ∃ p results result, Run step anyStep (start false [city]) (pingCity results) p ∧
      .reported city results [] result ∈ p.trace ∧ ¬ Consistent results [] result ∧
      result.connState = none ∧ results.filterMap (·.connState) = [7] := by
  obtain ⟨p, hrun, hp⟩ : ∃ p, Run step anyStep (start false [city])
      (pingCity [answerOf "a" 50, relayedAnswer, quicAnswer 30 7]) p ∧
      .reported city [answerOf "a" 50, relayedAnswer, quicAnswer 30 7] []
        (resultOf city (some (answerOf "a" 20))) ∈ p.trace := exists_run (by decide)
  refine ⟨p, _, _, hrun, hp, fun h ↦ ?_, rfl, rfl⟩
  obtain ⟨r, hr, -, -, hy, -⟩ := h.1 _ rfl
  cases hr
  cases hy

end TrustTunnel.Ping.Reports

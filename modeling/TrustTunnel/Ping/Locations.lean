import Mathlib.Data.List.MinMax
import TrustTunnel.Lib.Assoc
import TrustTunnel.Lib.Transition
import TrustTunnel.Session.Types

namespace TrustTunnel.Ping.Locations

open Lib.Assoc Net.Address List
open Session.Types (VpnRelay)

/-- The part of an endpoint that `vpn_endpoint_equals` compares. -/
structure VpnEndpoint where
  address : SocketAddress
  name : String
  remoteId : Option String := none
deriving DecidableEq, Repr

structure VpnLocation where
  id : String
  endpoints : List VpnEndpoint
deriving DecidableEq, Repr

/-- A result with `PING_OK`, and what is kept of it; connection states are numbered. -/
structure PingResult where
  endpoint : VpnEndpoint
  ms : ℕ
  relay : Option VpnRelay := none
  isQuic : Bool := false
  connState : Option ℕ := none
deriving DecidableEq, Repr

abbrev PingedEndpoint := PingResult

/-- Besides its tables a location has the history of its results and destroyed connection states. -/
structure LocationsCtx where
  info : VpnLocation
  pingedIpv6 : List PingedEndpoint := []
  pingedIpv4 : List PingedEndpoint := []
  results : List PingResult := []
  destroyed : List ℕ := []

structure LocationsPingerResult where
  id : String
  pingMs : ℤ
  endpoint : Option VpnEndpoint := none
  relay : Option VpnRelay := none
  isQuic : Bool := false
  connState : Option ℕ := none
deriving DecidableEq, Repr

def httpHeHttp3PenaltyMs : ℕ := 100

/-- HTTP/2 gets some time advantage. -/
def corrected (r : PingResult) : ℕ := if r.isQuic then r.ms + httpHeHttp3PenaltyMs else r.ms

/-- `PING_OK` for a table, with the connection state that is destroyed. An entry keeps its relay. -/
def receive (dst : List PingedEndpoint) (r : PingResult) : List PingedEndpoint × Option ℕ :=
  match dst.find? (·.endpoint = r.endpoint) with
  | none => (dst ++ [r], none)
  | some it =>
    if corrected r < corrected it then
      (dst.map fun x ↦ if x.endpoint = r.endpoint then { r with relay := x.relay } else x,
        it.connState)
    else (dst, none)

def isIpv6 (r : PingResult) : Bool := r.endpoint.address.isIpv6

def LocationsCtx.table (l : LocationsCtx) (ipv6 : Bool) : List PingedEndpoint :=
  if ipv6 then l.pingedIpv6 else l.pingedIpv4

def LocationsCtx.receive (l : LocationsCtx) (r : PingResult) : LocationsCtx :=
  let (dst, state) := Locations.receive (l.table (isIpv6 r)) r
  { info := l.info
    pingedIpv6 := if isIpv6 r then dst else l.pingedIpv6
    pingedIpv4 := if isIpv6 r then l.pingedIpv4 else dst
    results := l.results ++ [r]
    destroyed := l.destroyed ++ state.toList }

def place (location : VpnLocation) (e : VpnEndpoint) : ℕ :=
  location.endpoints.findIdx (·.address = e.address)

def getAddrPriority (location : VpnLocation) (r : PingedEndpoint) : ℕ :=
  location.endpoints.length - place location r.endpoint

/-- `-(ping_ms + 1)` as a `size_t`. -/
def getSmallestPingPriority (_ : VpnLocation) (r : PingedEndpoint) : ℕ := 2 ^ 64 - (r.ms + 1)

def selectEndpointFromList (priority : PingedEndpoint → ℕ) (addresses : List PingedEndpoint) :
    Option PingedEndpoint :=
  addresses.foldl (fun selected i ↦ match selected with
    | none => some i
    | some x => if priority x < priority i then some i else some x) none

def selectEndpoint (sorter : VpnLocation → PingedEndpoint → ℕ) (l : LocationsCtx) :
    Option PingedEndpoint :=
  (selectEndpointFromList (sorter l.info) l.pingedIpv6).or
    (selectEndpointFromList (sorter l.info) l.pingedIpv4)

def select (queryAllInterfaces : Bool) (l : LocationsCtx) : Option PingedEndpoint :=
  selectEndpoint (if queryAllInterfaces then getSmallestPingPriority else getAddrPriority) l

def resultOf (location : VpnLocation) : Option PingedEndpoint → LocationsPingerResult
  | none => { id := location.id, pingMs := -1 }
  | some x =>
    { id := location.id, pingMs := x.ms, relay := x.relay, isQuic := x.isQuic
      connState := x.connState, endpoint := location.endpoints.find? (· = x.endpoint) }

/-- The connection states that `finalize_location` destroys. No two entries share an endpoint. -/
def dropped (l : LocationsCtx) (selected : Option PingedEndpoint) : List ℕ :=
  ((l.pingedIpv4 ++ l.pingedIpv6).filter fun x ↦ selected.all (·.endpoint ≠ x.endpoint)).filterMap
    (·.connState)

inductive Record
  | reported (location : VpnLocation) (results : List PingResult) (destroyed : List ℕ)
      (result : LocationsPingerResult)
  | finished
deriving DecidableEq

inductive Task
  | startLocationPing
  | tellFinished
deriving DecidableEq, Repr

structure LocationsPinger where
  queryAllInterfaces : Bool
  pendingLocations : List LocationsCtx
  locations : AList (fun _ : ℕ ↦ LocationsCtx) := ∅
  taskId : Option Task
  pingsMade : ℕ := 0
  trace : List Record := []

inductive PingStatus
  | ok (r : PingResult)
  | finished
  | socketError
  | timedout

inductive Input
  | runTask (started : Bool)
  | result (ping : ℕ) (status : PingStatus)

namespace LocationsPinger

variable (p : LocationsPinger)

def finalizeLocation (l : LocationsCtx) (isLastLocation : Bool) : LocationsPinger :=
  let selected := select p.queryAllInterfaces l
  { p with trace := p.trace ++
      .reported l.info l.results (l.destroyed ++ dropped l selected) (resultOf l.info selected) ::
        if isLastLocation then [.finished] else [] }

def processPingResult (ping : ℕ) (l : LocationsCtx) : PingStatus → LocationsPinger
  | .ok r => { p with locations := modify p.locations ping (·.receive r) }
  | .finished =>
    let p := { p with locations := p.locations.erase ping }
    p.finalizeLocation l (p.locations.keys.isEmpty && p.pendingLocations.isEmpty)
  | .socketError => p
  | .timedout => p

def startLocationPing (started : Bool) : LocationsPinger :=
  match p.pendingLocations with
  | [] => p
  | i :: rest =>
    let isLastLocation := rest.isEmpty && p.locations.keys.isEmpty
    let p := { p with
      pendingLocations := rest
      taskId := if rest.isEmpty then none else some .startLocationPing }
    if started then
      { p with locations := p.locations.insert p.pingsMade i, pingsMade := p.pingsMade + 1 }
    else p.finalizeLocation i isLastLocation

end LocationsPinger

/-- A ping reports the endpoints that it was given. -/
def step (p : LocationsPinger) : Input → Option LocationsPinger
  | .runTask started =>
    match p.taskId with
    | none => none
    | some .startLocationPing => some (p.startLocationPing started)
    | some .tellFinished => some { p with taskId := none, trace := p.trace ++ [.finished] }
  | .result ping status =>
    match p.locations.lookup ping with
    | none => some p
    | some l =>
      match status with
      | .ok r =>
        if r.endpoint ∈ l.info.endpoints then some (p.processPingResult ping l status) else none
      | _ => some (p.processPingResult ping l status)

def start (queryAllInterfaces : Bool) (locations : List VpnLocation) : LocationsPinger where
  queryAllInterfaces
  pendingLocations := locations.map fun info ↦ { info }
  taskId := some (if locations.isEmpty then .tellFinished else .startLocationPing)

def locationOf : Record → Option VpnLocation
  | .reported location _ _ _ => some location
  | .finished => none

def LocationsPinger.runningFor (p : LocationsPinger) (location : VpnLocation) : ℕ :=
  sumOf (fun l ↦ if l.info = location then 1 else 0) p.locations

def LocationsPinger.Idle (p : LocationsPinger) : Prop := p.taskId = none ∧ p.locations.keys = []

section Selection

variable {α β : Type*} {f : α → ℕ} {g : α → β} {h : β → ℕ} {l : List α} {a : α}

theorem argmin_concat_of_mem (ha : a ∈ l) : (l ++ [a]).argmin f = l.argmin f := by
  rw [argmin_concat]
  cases hm : l.argmin f with
  | none =>
    rw [argmin_eq_none.1 hm] at ha
    cases ha
  | some m => exact if_neg (not_lt.2 (le_of_mem_argmin ha hm))

theorem map_argmax (hf : ∀ x y, f x < f y ↔ h (g y) < h (g x)) :
    (l.argmax f).map g = (l.map g).argmin h := by
  induction l using reverseRecOn with
  | nil => rfl
  | append_singleton l a ih =>
    rw [argmax_concat, map_append, map_singleton, argmin_concat, ← ih]
    cases l.argmax f with
    | none => rfl
    | some m =>
      by_cases hlt : f m < f a
      · simp [hlt, (hf m a).1 hlt]
      · simp [hlt, mt (hf m a).2 hlt]

theorem selectEndpointFromList_eq (priority : PingedEndpoint → ℕ) (a : List PingedEndpoint) :
    selectEndpointFromList priority a = a.argmax priority := by
  refine congrArg (fun f ↦ a.foldl f none) (funext fun s ↦ funext fun i ↦ ?_)
  cases s <;> rfl

theorem getAddrPriority_lt (l : VpnLocation) (x y : PingedEndpoint) :
    getAddrPriority l x < getAddrPriority l y ↔ place l y.endpoint < place l x.endpoint := by
  have hx : place l x.endpoint ≤ l.endpoints.length := findIdx_le_length
  have hy : place l y.endpoint ≤ l.endpoints.length := findIdx_le_length
  rw [getAddrPriority, getAddrPriority]
  omega

end Selection

/-- The result improves its entry through the same relay, or has no connection state. -/
def Clean (dst : List PingedEndpoint) (r : PingResult) : Prop :=
  ∀ x ∈ dst, x.endpoint = r.endpoint →
    if corrected r < corrected x then r.relay = x.relay else r.connState = none

instance (dst : List PingedEndpoint) (r : PingResult) : Decidable (Clean dst r) :=
  inferInstanceAs (Decidable (∀ x ∈ dst, _))

structure Tracks (strict : Prop) (table : List PingedEndpoint) (rs : List PingResult) : Prop where
  nodup : (table.map (·.endpoint)).Nodup
  mem : ∀ e, e ∈ table.map (·.endpoint) ↔ e ∈ rs.map (·.endpoint)
  first : ∀ f : VpnEndpoint → ℕ, (table.map (·.endpoint)).argmin f = (rs.map (·.endpoint)).argmin f
  best : strict → ∀ x ∈ table, (rs.filter (·.endpoint = x.endpoint)).argmin corrected = some x

section Tables

variable {s : Prop} {t : List PingedEndpoint} {rs : List PingResult} {r : PingResult}

theorem receive_cases (hn : (t.map (·.endpoint)).Nodup) (r : PingResult) :
    r.endpoint ∉ t.map (·.endpoint) ∧ receive t r = (t ++ [r], none) ∨
    ∃ b it a, t = b ++ it :: a ∧ it.endpoint = r.endpoint ∧
      (∀ x ∈ b ++ a, x.endpoint ≠ r.endpoint) ∧
      receive t r = if corrected r < corrected it then
        (b ++ { r with relay := it.relay } :: a, it.connState) else (t, none) := by
  cases hfind : t.find? (·.endpoint = r.endpoint) with
  | none =>
    refine .inl ⟨fun hm ↦ ?_, by rw [receive, hfind]⟩
    obtain ⟨x, hx, he⟩ := mem_map.1 hm
    simpa [he] using find?_eq_none.1 hfind x hx
  | some it =>
    have hi : it.endpoint = r.endpoint := by simpa using find?_some hfind
    obtain ⟨b, a, rfl⟩ := append_of_mem (mem_of_find?_eq_some hfind)
    have ho : ∀ x ∈ b ++ a, x.endpoint ≠ r.endpoint := fun x hx he ↦ by
      rw [map_append, map_cons, nodup_middle, nodup_cons, ← map_append] at hn
      exact hn.1 (hi ▸ he ▸ mem_map_of_mem hx)
    have hk : ∀ l : List PingedEndpoint, (∀ x ∈ l, x ∈ b ++ a) → (l.map fun x ↦
        if x.endpoint = r.endpoint then { r with relay := x.relay } else x) = l := fun l hl ↦
      (map_congr_left fun x hx ↦ if_neg (ho x (hl x hx))).trans (map_id l)
    refine .inr ⟨b, it, a, rfl, hi, ho, ?_⟩
    simp only [receive, hfind]
    simp [hi, hk b fun _ ↦ mem_append_left _, hk a fun _ ↦ mem_append_right _]

theorem bestOf_concat (rs : List PingResult) (r : PingResult) (e : VpnEndpoint) :
    ((rs ++ [r]).filter (·.endpoint = e)).argmin corrected =
      if r.endpoint = e then ((rs.filter (·.endpoint = e)).argmin corrected).elim (some r) fun x ↦
        if corrected r < corrected x then some r else some x
      else (rs.filter (·.endpoint = e)).argmin corrected := by
  rw [filter_append]
  split
  · next he =>
    rw [filter_cons_of_pos (by simpa using he), filter_nil, argmin_concat]
    cases (rs.filter (·.endpoint = e)).argmin corrected <;> rfl
  · next he => rw [filter_cons_of_neg (by simpa using he), filter_nil, append_nil]

theorem Tracks.receive (h : Tracks s t rs) (hc : s → Clean t r) :
    Tracks s (receive t r).1 (rs ++ [r]) := by
  rcases receive_cases h.nodup r with ⟨hn, hq⟩ | ⟨b, it, a, rfl, hi, ho, hq⟩
  · rw [hq]
    refine ⟨?_, fun e ↦ by simp [← h.mem e], fun f ↦ by simp [argmin_concat, h.first f],
      fun hs x hx ↦ ?_⟩
    · rw [map_append, map_singleton, nodup_append]
      exact ⟨h.nodup, nodup_singleton _, by grind⟩
    · rw [bestOf_concat]
      rcases mem_append.1 hx with hx | hx
      · have hne : r.endpoint ≠ x.endpoint := fun he ↦ hn (mem_map.2 ⟨x, hx, he.symm⟩)
        rw [if_neg hne, h.best hs x hx]
      · rw [mem_singleton.1 hx, if_pos rfl, filter_eq_nil_iff.2 fun x hx ↦ ?_]
        · rfl
        · have hne : x.endpoint ≠ r.endpoint := fun he ↦
            hn ((h.mem _).2 (he ▸ mem_map_of_mem hx))
          simpa using hne
  · have hm : r.endpoint ∈ rs.map (·.endpoint) := by rw [← h.mem]; simp [hi]
    have hk : ∀ it', it'.endpoint = r.endpoint → (b ++ it' :: a).map (·.endpoint) =
        (b ++ it :: a).map (·.endpoint) := fun it' he ↦ by simp [he, hi]
    have ht : ∀ it', it'.endpoint = r.endpoint →
        (s → it' = if corrected r < corrected it then r else it) →
        Tracks s (b ++ it' :: a) (rs ++ [r]) := by
      intro it' he hb
      refine ⟨hk it' he ▸ h.nodup, fun e ↦ ?_, fun f ↦ ?_, fun hs x hx ↦ ?_⟩
      · rw [hk it' he, h.mem]
        grind
      · rw [hk it' he, h.first, map_append, map_singleton, argmin_concat_of_mem hm]
      · have hd := h.best hs
        rw [bestOf_concat]
        rcases mem_cons.1 (perm_middle.mem_iff.1 hx) with rfl | hx
        · rw [if_pos he.symm, he, ← hi, hd it (by simp), hb hs]
          split <;> simp_all
        · rw [if_neg (ho x hx).symm, hd x (perm_middle.mem_iff.2 (mem_cons_of_mem _ hx))]
    rw [hq]
    split
    · next hlt =>
      refine ht _ rfl fun hs ↦ ?_
      have hr := hc hs it (by simp) hi
      rw [if_pos hlt] at hr ⊢
      rw [← hr]
    · next hl => exact ht it hi fun _ ↦ (if_neg hl).symm

theorem receive_states (hn : (t.map (·.endpoint)).Nodup) (hc : Clean t r) :
    ((receive t r).2.toList ++ (receive t r).1.filterMap (·.connState)).Perm
      (t.filterMap (·.connState) ++ r.connState.toList) := by
  rcases receive_cases hn r with ⟨-, he⟩ | ⟨b, it, a, rfl, ht, ho, he⟩
  · rw [he]
    cases hr : r.connState <;> simp [hr]
  · have hc := hc it (by simp) ht
    rw [he]
    split
    · refine perm_iff_count.2 fun s ↦ ?_
      cases hi : it.connState <;> cases hr : r.connState <;>
        simp [count_cons, hi] <;> omega
    · next hl =>
      rw [if_neg hl] at hc
      simp [hc]

end Tables

structure Follows (strict : Prop) (l : LocationsCtx) : Prop where
  endpoints : ∀ r ∈ l.results, r.endpoint ∈ l.info.endpoints
  tables : ∀ ipv6, Tracks strict (l.table ipv6) (l.results.filter (isIpv6 · == ipv6))
  states : strict → (l.destroyed ++ (l.table false ++ l.table true).filterMap (·.connState)).Perm
    (l.results.filterMap (·.connState))

def candidates (rs : List PingResult) : List PingResult :=
  if rs.any isIpv6 then rs.filter isIpv6 else rs

/-- The endpoint that the result of a location names. -/
def Names (queryAllInterfaces : Bool) (location : VpnLocation) (rs : List PingResult)
    (result : LocationsPingerResult) : Prop :=
  (result.endpoint = none ↔ rs = []) ∧
  (queryAllInterfaces = false →
    result.endpoint = ((candidates rs).map (·.endpoint)).argmin (place location))

/-- The data are those of the best result, and the other connection states were destroyed. -/
def Consistent (rs : List PingResult) (closed : List ℕ) (result : LocationsPingerResult) : Prop :=
  (∀ e, result.endpoint = some e → ∃ r, (rs.filter (·.endpoint = e)).argmin corrected = some r ∧
    result.pingMs = r.ms ∧ result.isQuic = r.isQuic ∧ result.relay = r.relay ∧
    result.connState = r.connState) ∧
  (closed ++ result.connState.toList).Perm (rs.filterMap (·.connState))

section Location

variable {st : Prop} {l : LocationsCtx} {rs : List PingResult} {r : PingResult}
  {x : PingedEndpoint} {ipv6 : Bool}

theorem table_receive (ipv6 : Bool) : (l.receive r).table ipv6 =
    if isIpv6 r = ipv6 then (receive (l.table ipv6) r).1 else l.table ipv6 := by
  rw [LocationsCtx.receive]
  cases hv : isIpv6 r <;> cases ipv6 <;> simp [LocationsCtx.table]

theorem Follows.receive (h : Follows strict l) (hr : r.endpoint ∈ l.info.endpoints)
    (hc : strict → Clean (l.table (isIpv6 r)) r) : Follows strict (l.receive r) := by
  refine ⟨?_, fun ipv6 ↦ ?_, fun ht ↦ ?_⟩
  · simpa [LocationsCtx.receive, or_imp, forall_and] using ⟨h.endpoints, hr⟩
  · rw [table_receive]
    split
    · next hv =>
      subst hv
      simpa [LocationsCtx.receive] using (h.tables _).receive hc
    · next hv => simpa [LocationsCtx.receive, hv] using h.tables ipv6
  · have hw := perm_iff_count.1 (receive_states (h.tables _).nodup (hc ht))
    have hd := perm_iff_count.1 (h.states ht)
    refine perm_iff_count.2 fun state ↦ ?_
    have hn := hw state
    have ho := hd state
    rw [table_receive, table_receive]
    cases hv : isIpv6 r <;> cases hs : r.connState <;>
      simp [LocationsCtx.receive, hv, hs] at * <;> omega

theorem Tracks.eq_nil_iff {t : List PingedEndpoint} (h : Tracks st t rs) : t = [] ↔ rs = [] := by
  rw [← map_eq_nil_iff (f := (·.endpoint)), ← argmin_eq_none (f := fun _ ↦ 0), h.first,
    argmin_eq_none, map_eq_nil_iff]

theorem Follows.exists_result (h : Follows st l) (hx : x ∈ l.table ipv6) :
    ∃ r ∈ l.results, r.endpoint = x.endpoint ∧ isIpv6 x = ipv6 := by
  obtain ⟨r, hr, he⟩ := mem_map.1 (((h.tables ipv6).mem x.endpoint).1 (mem_map_of_mem hx))
  obtain ⟨hr, hv⟩ := mem_filter.1 hr
  exact ⟨r, hr, he, by rw [isIpv6, ← he]; exact eq_of_beq hv⟩

theorem Follows.nodup (h : Follows st l) :
    ((l.table false ++ l.table true).map (·.endpoint)).Nodup := by
  rw [map_append, nodup_append]
  refine ⟨(h.tables _).nodup, (h.tables _).nodup, fun e he e' he' hq ↦ ?_⟩
  obtain ⟨x, hx, rfl⟩ := mem_map.1 he
  obtain ⟨y, hy, rfl⟩ := mem_map.1 he'
  obtain ⟨-, -, -, hx4⟩ := h.exists_result hx
  obtain ⟨-, -, -, hy6⟩ := h.exists_result hy
  rw [isIpv6, hq, ← isIpv6, hy6] at hx4
  cases hx4

theorem Follows.best (h : Follows st l) (hr : st) (hx : x ∈ l.table ipv6) :
    (l.results.filter (·.endpoint = x.endpoint)).argmin corrected = some x := by
  rw [← (h.tables ipv6).best hr x hx, filter_filter]
  obtain ⟨-, -, -, hv⟩ := h.exists_result hx
  refine congrArg _ (filter_congr fun r _ ↦ ?_)
  by_cases he : r.endpoint = x.endpoint
  · rw [isIpv6, ← he, ← isIpv6] at hv
    simp [he, hv]
  · simp [he]

theorem select_eq (qs : Bool) : ∃ p : PingedEndpoint → ℕ,
    select qs l = ((l.table true).argmax p).or ((l.table false).argmax p) ∧
    (qs = false → p = getAddrPriority l.info) := by
  refine ⟨(if qs then getSmallestPingPriority else getAddrPriority) l.info, ?_, ?_⟩
  · rw [select, selectEndpoint, selectEndpointFromList_eq, selectEndpointFromList_eq]
    rfl
  · rintro rfl
    rfl

theorem select_mem {qs : Bool} (h : select qs l = some x) : ∃ ipv6, x ∈ l.table ipv6 := by
  obtain ⟨p, he, -⟩ := select_eq (l := l) qs
  rw [he, Option.or_eq_some_iff] at h
  exact h.elim (fun h ↦ ⟨true, argmax_mem h⟩) fun h ↦ ⟨false, argmax_mem h.2⟩

theorem Follows.endpoint_resultOf (h : Follows st l) (qs : Bool) :
    (resultOf l.info (select qs l)).endpoint = (select qs l).map (·.endpoint) := by
  cases hs : select qs l with
  | none => rfl
  | some x =>
    obtain ⟨ipv6, hx⟩ := select_mem hs
    obtain ⟨r, hr, he, -⟩ := h.exists_result hx
    have hm := he ▸ h.endpoints r hr
    cases hfind : l.info.endpoints.find? (· = x.endpoint) with
    | none => simpa using find?_eq_none.1 hfind _ hm
    | some e =>
      have ho := find?_some hfind
      simp_all [resultOf]

theorem Follows.names (h : Follows st l) (qs : Bool) :
    Names qs l.info l.results (resultOf l.info (select qs l)) := by
  obtain ⟨p, hs, hp⟩ := select_eq (l := l) qs
  rw [Names, h.endpoint_resultOf, hs]
  refine ⟨?_, fun hq ↦ ?_⟩
  · rw [Option.map_eq_none_iff, Option.or_eq_none_iff, argmax_eq_none, argmax_eq_none,
      (h.tables _).eq_nil_iff, (h.tables _).eq_nil_iff, filter_eq_nil_iff,
      filter_eq_nil_iff]
    constructor
    · rintro ⟨h6, h4⟩
      refine eq_nil_iff_forall_not_mem.2 fun r hr ↦ ?_
      cases hv : isIpv6 r
      · exact h4 r hr (by simp [hv])
      · exact h6 r hr (by simp [hv])
    · intro hrs
      simp [hrs]
  · rw [hp hq, Option.map_or, map_argmax (getAddrPriority_lt l.info), (h.tables _).first,
      map_argmax (getAddrPriority_lt l.info), (h.tables _).first, candidates]
    cases hany : l.results.any isIpv6 with
    | true =>
      have he : l.results.filter isIpv6 ≠ [] := by simpa using hany
      cases hmin : ((l.results.filter isIpv6).map (·.endpoint)).argmin (place l.info) with
      | none => exact absurd (map_eq_nil_iff.1 (argmin_eq_none.1 hmin)) he
      | some e => simp [hmin]
    | false =>
      have hn : ∀ r ∈ l.results, isIpv6 r = false := by simpa using hany
      rw [filter_eq_nil_iff.2 fun r hr ↦ by simp [hn r hr],
        filter_eq_self.2 fun r hr ↦ by simp [hn r hr]]
      rfl

theorem Follows.consistent (h : Follows st l) (hr : st) (qs : Bool) :
    Consistent l.results (l.destroyed ++ dropped l (select qs l))
      (resultOf l.info (select qs l)) := by
  have ht := h.states hr
  rw [Consistent, h.endpoint_resultOf]
  cases hs : select qs l with
  | none =>
    have hd : dropped l none = (l.table false ++ l.table true).filterMap (·.connState) := by
      simp [dropped, LocationsCtx.table]
    rw [hd]
    simpa [resultOf] using ht
  | some x =>
    obtain ⟨ipv6, hx⟩ := select_mem hs
    refine ⟨fun e he ↦ ?_, ?_⟩
    · cases he
      exact ⟨x, h.best hr hx, rfl, rfl, rfl, rfl⟩
    · have hm : x ∈ l.table false ++ l.table true := by cases ipv6 <;> simp [hx]
      have hn := h.nodup
      obtain ⟨b, a, hq⟩ := append_of_mem hm
      rw [hq, map_append, map_cons, nodup_middle, nodup_cons, ← map_append] at hn
      have hd : dropped l (some x) = (b ++ a).filterMap (·.connState) := by
        change ((l.table false ++ l.table true).filter _).filterMap _ = _
        rw [hq, filter_append, filter_cons_of_neg (by simp), ← filter_append,
          filter_eq_self.2 fun y hy ↦ ?_]
        have hne : x.endpoint ≠ y.endpoint := fun he ↦ hn.1 (mem_map.2 ⟨y, hy, he.symm⟩)
        simpa using hne
      rw [hd]
      refine List.Perm.trans ?_ ht
      rw [hq]
      refine perm_iff_count.2 fun s ↦ ?_
      cases hc : x.connState <;> simp [resultOf, count_cons, hc]

end Location

end TrustTunnel.Ping.Locations

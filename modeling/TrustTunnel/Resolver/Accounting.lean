import TrustTunnel.Lib.Pending
import TrustTunnel.Lib.Transition
import TrustTunnel.Resolver.Queries

namespace TrustTunnel.Resolver.Accounting

open Lib.Assoc Lib.Pending Lib.Trace Lib.Transition Queries VpnDnsResolver Function Option
open List hiding extract map_map
open VpnDnsResolver

variable {s t u : VpnDnsResolver} {id : UInt32} {recordType : RecordType} {env : Environment}
  {lt requests : List Request} {query : Query} {queryId : UInt16}

def opens : Record → Option UInt32
  | .resolving id => some id
  | _ => none

def closes : Record → Option UInt32
  | .cancelled id => some id
  | .result id _ _ => some id
  | _ => none

def unsentOf (recordType : RecordType) : Record → Option UInt32
  | .unsent id recordType' => if recordType' = recordType then some id else none
  | _ => none

def ends : Record → Bool
  | .connectionClosed _ => true
  | .stopped => true
  | _ => false

def Awaited (trace : List Record) (id : UInt32) : Prop := pending opens closes id trace = true

def Lost (trace : List Record) (id : UInt32) (recordType : RecordType) : Prop :=
  pending (unsentOf recordType) opens id trace = true

def Live (s : VpnDnsResolver) (id : UInt32) (recordType : RecordType) : Prop :=
  ∃ queryId query, s.state.queries.lookup queryId = some query ∧ query.id = id ∧
    query.recordType = recordType

def Covered (s : VpnDnsResolver) (id : UInt32) (r : Resolve) : Prop :=
  (∃ queue, id ∈ s.queues queue) ∨
    r.recordTypes ≠ ∅ ∧ ∀ recordType ∈ r.recordTypes,
      Live s id recordType ∨ Lost s.trace id recordType

structure Accounts (s : VpnDnsResolver) : Prop where
  matched : Matched opens closes s.trace
  awaited : ∀ id, Awaited s.trace id ↔ ∃ r, s.resolutions.lookup id = some r
  ended : Guarded (fun before r ↦ ends r = true → ∀ id, ¬ Awaited before id) s.trace

def Remembered (s : VpnDnsResolver) : Prop :=
  ∀ id r recordType queryId query, s.resolutions.lookup id = some r →
    r.queries recordType = some queryId → s.state.queries.lookup queryId = some query →
        query.id = id

structure Good (busy : Option UInt32) (s : VpnDnsResolver) : Prop where
  accounts : Accounts s
  remembered : Remembered s
  idle : s.state.connectionId = none → (∀ queryId, s.state.queries.lookup queryId = none) ∧
    ∀ id r, s.resolutions.lookup id = some r → ∃ queue, id ∈ s.queues queue
  covered : ∀ id r, s.resolutions.lookup id = some r → busy ≠ some id → Covered s id r

def Neutral (r : Record) : Prop := opens r = none ∧ closes r = none ∧ ends r = false

section Traces

variable {l l' : List Record} {r : Record}

theorem awaited_append (h : ∀ r ∈ l', opens r = none ∧ closes r = none) :
    Awaited (l ++ l') id ↔ Awaited l id := by
  rw [Awaited, Awaited, pending_append_of_forall h]

theorem Lost.append (h : Lost l id recordType) (hl' : ∀ r ∈ l', opens r = none) :
    Lost (l ++ l') id recordType := by
  induction l' using reverseRecOn with
  | nil => rwa [append_nil]
  | append_singleton l' r ih =>
    have hr := hl' r (mem_append_right _ (mem_singleton_self r))
    have ht := ih fun r hr ↦ hl' r (mem_append_left _ hr)
    rw [Lost] at ht
    rw [← append_assoc, Lost, pending_concat, hr, ht]
    simp

theorem Lost.concat_resolving (h : Lost l id recordType) {id' : UInt32} (hi : id' ≠ id) :
    Lost (l ++ [.resolving id']) id recordType := by
  rw [Lost] at h
  rw [Lost, pending_concat, h]
  simp [unsentOf, opens, hi]

theorem lost_concat_unsent : Lost (l ++ [.unsent id recordType]) id recordType := by
  rw [Lost, pending_concat]
  simp [unsentOf]

theorem Accounts.append (h : Accounts s) (ht : t.trace = s.trace ++ l)
    (hs : ∀ id, (∃ r, t.resolutions.lookup id = some r) ↔ ∃ r, s.resolutions.lookup id = some r)
    (hrs : ∀ r ∈ l, Neutral r) : Accounts t := by
  have hn : ∀ r ∈ l, opens r = none ∧ closes r = none := fun r hr ↦ ⟨(hrs r hr).1, (hrs r hr).2.1⟩
  refine ⟨?_, fun id ↦ ?_, ?_⟩
  · rw [ht]
    exact h.matched.append_of_forall hn
  · rw [ht, awaited_append hn, hs]
    exact h.awaited id
  · rw [ht]
    refine h.ended.append_of_forall fun r hr b he ↦ ?_
    rw [(hrs r hr).2.2] at he
    cases he

theorem Accounts.close (h : Accounts s) (rc : Record) (hc : closes rc = some id)
    (hs : ends rc = false) (ho : opens rc = none) {r : Resolve}
    (hr : s.resolutions.lookup id = some r) (hre : t.resolutions = s.resolutions.erase id)
    (ht : t.trace = s.trace ++ [rc]) : Accounts t := by
  have ha : Awaited s.trace id := (h.awaited id).2 ⟨r, hr⟩
  refine ⟨?_, fun i ↦ ?_, ?_⟩
  · rw [ht]
    exact h.matched.concat_of_closes hc ho ha
  · rw [ht, Awaited, pending_concat_of_closes hc ho, hre]
    simp only [lookup_erase]
    by_cases hi : i = id
    · simp [hi]
    · simp only [hi, not_false_eq_true, true_and, if_false, ne_eq]
      exact h.awaited i
  · rw [ht]
    refine h.ended.concat fun he ↦ ?_
    rw [hs] at he
    cases he

end Traces

/-- Only resolutions that are over are removed, with their queries and places in the queues. -/
structure Restricts (s t : VpnDnsResolver) : Prop where
  resolutions : ∀ id r, t.resolutions.lookup id = some r → s.resolutions.lookup id = some r
  queries : ∀ queryId query, t.state.queries.lookup queryId = some query →
    s.state.queries.lookup queryId = some query
  live : ∀ queryId query r, s.state.queries.lookup queryId = some query →
    t.resolutions.lookup query.id = some r → t.state.queries.lookup queryId = some query
  queues : ∀ id r queue, t.resolutions.lookup id = some r → id ∈ s.queues queue →
    id ∈ t.queues queue
  connection : t.state.connectionId = s.state.connectionId
  lost : ∀ id recordType, Lost s.trace id recordType → Lost t.trace id recordType
  accounts : Accounts s → Accounts t

section Restricts

variable {b : Option UInt32}

theorem Restricts.refl (s : VpnDnsResolver) : Restricts s s :=
  ⟨fun _ _ h ↦ h, fun _ _ h ↦ h, fun _ _ _ h _ ↦ h, fun _ _ _ _ h ↦ h, rfl, fun _ _ h ↦ h, id⟩

theorem Restricts.trans (h : Restricts s t) (h' : Restricts t u) : Restricts s u where
  resolutions id r hr := h.resolutions id r (h'.resolutions id r hr)
  queries queryId query hq := h.queries queryId query (h'.queries queryId query hq)
  live queryId query r hq hr :=
    h'.live queryId query r (h.live queryId query r hq (h'.resolutions _ r hr)) hr
  queues id r queue hr hmem :=
    h'.queues id r queue hr (h.queues id r queue (h'.resolutions id r hr) hmem)
  connection := h'.connection.trans h.connection
  lost id recordType hl := h'.lost id recordType (h.lost id recordType hl)
  accounts := h'.accounts ∘ h.accounts

theorem Remembered.restrict (h : Remembered s) (hst : Restricts s t) : Remembered t :=
  fun id r rt qi q hr hq hqy ↦ h id r rt qi q
    (hst.resolutions id r hr) hq (hst.queries qi q hqy)

theorem Good.restrict (h : Good b s) (hs : Restricts s t) : Good b t where
  accounts := hs.accounts h.accounts
  remembered := h.remembered.restrict hs
  idle hconnection := by
    rw [hs.connection] at hconnection
    obtain ⟨hqs, hq⟩ := h.idle hconnection
    refine ⟨fun qi ↦ ?_, fun id r hr ↦ ?_⟩
    · cases hy : t.state.queries.lookup qi with
      | none => rfl
      | some q =>
        have he := hs.queries qi q hy
        rw [hqs qi] at he
        cases he
    · obtain ⟨qe, hm⟩ := hq id r (hs.resolutions id r hr)
      exact ⟨qe, hs.queues id r qe hr hm⟩
  covered id r hr hbusy := by
    rcases h.covered id r (hs.resolutions id r hr) hbusy with ⟨qe, hm⟩ | ⟨hne, hty⟩
    · exact .inl ⟨qe, hs.queues id r qe hr hm⟩
    · refine .inr ⟨hne, fun rt hm ↦ ?_⟩
      rcases hty rt hm with ⟨qi, q, hy, rfl, hrt⟩ | hlost
      · exact .inl ⟨qi, q, hs.live qi q r hy hr, rfl, hrt⟩
      · exact .inr (hs.lost id rt hlost)

theorem restricts_of_append {l : List Record} (he : t.resolutions = s.resolutions)
    (hs : ∀ qi, t.state.queries.lookup qi = s.state.queries.lookup qi)
    (hqs : t.queues = s.queues) (hn : t.state.connectionId = s.state.connectionId)
    (ht : t.trace = s.trace ++ l) (hl : ∀ r ∈ l, Neutral r) : Restricts s t where
  resolutions id r hr := by rwa [← he]
  queries qi query hq := by rwa [← hs]
  live qi query r hq _ := by rwa [hs]
  queues id r queue _ hmem := by rwa [hqs]
  connection := hn
  lost id recordType hlost := by
    rw [ht]
    exact hlost.append fun r hr ↦ (hl r hr).1
  accounts h := h.append ht (fun id ↦ by rw [he]) hl

theorem Good.same (h : Good b s) (hres : t.resolutions = s.resolutions)
    (hs : t.state.queries = s.state.queries) (hqs : t.queues = s.queues)
    (hn : t.state.connectionId = s.state.connectionId) (htr : t.trace = s.trace) : Good b t :=
  h.restrict (restricts_of_append (l := []) hres (fun _ ↦ by rw [hs]) hqs hn
    (by rw [htr, append_nil]) fun _ hr ↦ (by cases hr))

theorem restricts_foldl {P : VpnDnsResolver → Prop}
    {f : VpnDnsResolver → UInt32 → VpnDnsResolver} (hP : ∀ {s t}, P s → Restricts s t → P t)
    (hf : ∀ s id, P s → Restricts s (f s id) ∧ (f s id).resolutions.lookup id = none ∧
      (f s id).queues = s.queues) (ids : List UInt32) (hs : P s) :
    Restricts s (ids.foldl f s) ∧ (∀ id ∈ ids, (ids.foldl f s).resolutions.lookup id = none) ∧
      (ids.foldl f s).queues = s.queues := by
  induction ids generalizing s with
  | nil => exact ⟨.refl s, fun id hd ↦ (by cases hd), rfl⟩
  | cons id rt ih =>
    obtain ⟨hb, hg, hqs⟩ := hf s id hs
    obtain ⟨hu, h', hq⟩ := ih (hP hs hb)
    refine ⟨hb.trans hu, fun i hi ↦ ?_, hq.trans hqs⟩
    rcases mem_cons.1 hi with rfl | hi
    · cases hr : (rt.foldl f (f s i)).resolutions.lookup i with
      | none => exact hr
      | some r =>
        rw [hu.resolutions i r hr] at hg
        cases hg
    · exact h' i hi

end Restricts

section Frames

variable (s) (rt : VpnDnsResolverResult)

theorem lookup_finish (id i : UInt32) : (s.finish id rt).resolutions.lookup i =
    if i = id then none else s.resolutions.lookup i := by
  cases h : s.resolutions.lookup id with
  | none =>
    rw [finish_of_none s rt h]
    by_cases hi : i = id
    · rw [if_pos hi, hi, h]
    · rw [if_neg hi]
  | some r =>
    rw [finish_of_some s rt h]
    exact lookup_erase s.resolutions id i

variable {s} in
theorem restricts_erase {r : Resolve} (hr : s.resolutions.lookup id = some r) (rec : Record)
    (hcls : closes rec = some id) (hs : ends rec = false) (hops : opens rec = none) :
    Restricts s ({ s with resolutions := s.resolutions.erase id }.record rec) := by
  refine ⟨fun i r hr ↦ ?_, fun _ _ hq ↦ hq, fun _ _ _ hq _ ↦ hq, fun _ _ _ _ hmem ↦ hmem, rfl,
    fun i recordType hl ↦ hl.append (forall_mem_singleton.2 hops),
    fun h ↦ h.close rec hcls hs hops hr rfl rfl⟩
  exact (lookup_erase_eq_some.1 hr).2

theorem restricts_finish (id : UInt32) : Restricts s (s.finish id rt) := by
  cases hr : s.resolutions.lookup id with
  | none =>
    rw [finish_of_none s rt hr]
    exact .refl s
  | some r =>
    rw [finish_of_some s rt hr]
    exact restricts_erase hr _ rfl rfl rfl

variable (qs : List UInt16)

theorem eraseQueries_eq : ∃ queries,
    s.eraseQueries qs = { s with state := { s.state with queries := queries } } ∧
      ∀ q, queries.lookup q = if q ∈ qs then none else s.state.queries.lookup q := by
  induction qs generalizing s with
  | nil => exact ⟨s.state.queries, rfl, fun _ ↦ rfl⟩
  | cons qi rest ih =>
    obtain ⟨queries, he, hl⟩ := ih (s.eraseQuery qi)
    refine ⟨queries, he, fun q ↦ ?_⟩
    rw [hl, VpnDnsResolver.eraseQuery, lookup_erase]
    by_cases hm : q ∈ rest
    · simp [hm]
    · simp [hm]

theorem restricts_eraseQueries
    (h : ∀ qi ∈ qs, ∀ q, s.state.queries.lookup qi = some q →
      s.resolutions.lookup q.id = none) : Restricts s (s.eraseQueries qs) := by
  obtain ⟨queries, he, hl⟩ := eraseQueries_eq s qs
  rw [he]
  refine ⟨fun _ _ hr ↦ hr, fun qi q hq ↦ ?_, fun qi q r hq hr ↦ ?_, fun _ _ _ _ hm ↦ hm, rfl,
    fun _ _ hl ↦ hl, fun ha ↦ ⟨ha.1, ha.2, ha.3⟩⟩
  · rw [hl, ite_none_left_eq_some] at hq
    exact hq.2
  · rw [hl, if_neg, hq]
    intro hm
    have hr : s.resolutions.lookup q.id = some r := hr
    rw [h qi hm q hq] at hr
    cases hr

end Frames

theorem mem_queryIds {r : Resolve} : queryId ∈ r.queryIds ↔ ∃ rt, r.queries rt = some queryId := by
  rw [Resolve.queryIds, mem_filterMap]
  constructor
  · rintro ⟨rt, -, h⟩
    exact ⟨rt, h⟩
  · rintro ⟨rt, h⟩
    exact ⟨rt, rt.mem_values, h⟩

theorem Remembered.remove (h : Remembered s) {r : Resolve} (hr : s.resolutions.lookup id = some r)
    (hs : Restricts s t) (he : t.resolutions.lookup id = none) :
    Restricts s (t.eraseQueries r.queryIds) ∧
      (t.eraseQueries r.queryIds).resolutions.lookup id = none ∧
      (t.eraseQueries r.queryIds).queues = t.queues := by
  refine ⟨hs.trans (restricts_eraseQueries t _ fun qi hm q hy ↦ ?_), ?_⟩
  · obtain ⟨rt, hq⟩ := mem_queryIds.1 hm
    rw [h id r rt qi q hr hq (hs.queries qi q hy)]
    exact he
  · obtain ⟨queries, hq, -⟩ := eraseQueries_eq t r.queryIds
    rw [hq]
    exact ⟨he, rfl⟩

theorem Remembered.stopEntry (h : Remembered s) (ei : UInt32) :
    Restricts s (s.stopEntry ei) ∧
      (s.stopEntry ei).resolutions.lookup ei = none ∧ (s.stopEntry ei).queues = s.queues := by
  cases hr : s.resolutions.lookup ei with
  | none =>
    simp only [VpnDnsResolver.stopEntry, hr]
    exact ⟨.refl s, trivial, trivial⟩
  | some r =>
    simp only [VpnDnsResolver.stopEntry, hr]
    rw [← finish_queues s .failure ei]
    exact h.remove hr (restricts_finish s .failure ei) (by rw [lookup_finish, if_pos rfl])

theorem Remembered.stopQueue (h : Remembered s) (queue : VpnDnsResolverQueue) :
    Restricts s (s.stopQueue queue) ∧ (s.stopQueue queue).queues = update s.queues queue [] := by
  have ht : Remembered (s.setQueue queue []) := h
  obtain ⟨hb, hg, hq⟩ := restricts_foldl Remembered.restrict
    (fun s id hs ↦ hs.stopEntry id) (s.queues queue) ht
  refine ⟨⟨hb.resolutions, hb.queries, hb.live, ?_,
    hb.connection, hb.lost, fun ha ↦ hb.accounts ⟨ha.1, ha.2, ha.3⟩⟩,
    hq⟩
  intro id r q hr hm
  have hn : q ≠ queue := by
    rintro rfl
    rw [VpnDnsResolver.stopQueue, hg id hm] at hr
    cases hr
  rw [VpnDnsResolver.stopQueue, hq]
  change id ∈ update s.queues queue [] q
  rwa [update_of_ne hn]

theorem restricts_stopQueries (s : VpnDnsResolver) (sg : Finset VpnDnsResolverQueue) :
    Restricts s (s.stopQueries sg) ∧ (s.stopQueries sg).queues = s.queues := by
  obtain ⟨queries, he, hl⟩ := eraseQueries_eq s
    ((s.state.queries.entries.filter fun e ↦ e.2.queueKind ∈ sg).map (·.1))
  rw [stopQueries, he]
  obtain ⟨hs, hg, hqs⟩ := restricts_foldl (P := fun _ ↦ True) (fun h _ ↦ h)
    (fun s id _ ↦ ⟨restricts_finish s .failure id, by rw [lookup_finish, if_pos rfl],
      finish_queues s _ id⟩)
    ((s.state.queries.entries.filter fun e ↦ e.2.queueKind ∈ sg).map (·.2.id)) trivial
    (s := { s with state := { s.state with queries := queries } })
  refine ⟨⟨hs.resolutions, fun qi query hq ↦ ?_, fun qi query r hq hr ↦ ?_, hs.queues,
    hs.connection, hs.lost, fun ha ↦ hs.accounts ⟨ha.1, ha.2, ha.3⟩⟩, hqs⟩
  · have hf := hs.queries qi query hq
    rw [hl, ite_none_left_eq_some] at hf
    exact hf.2
  · refine hs.live qi query r ?_ hr
    rw [hl, if_neg, hq]
    intro hm
    obtain ⟨e, he, rfl⟩ := mem_map.1 hm
    have hy : e.2 = query := by
      have hl := AList.mem_lookup_iff.2 (mem_of_mem_filter he)
      rw [hq] at hl
      exact (some.inj hl).symm
    rw [← hy, hg e.2.id (mem_map_of_mem he)] at hr
    cases hr

theorem Good.stopResolvingQueues (h : Good none s) (sg : Finset VpnDnsResolverQueue) :
    Good none (s.stopResolvingQueues sg) ∧ ∀ q ∈ sg, (s.stopResolvingQueues sg).queues q = [] := by
  have hs : ∀ (s : VpnDnsResolver) (q : VpnDnsResolverQueue), Good none s →
      Good none (if q ∈ sg then s.stopQueue q else s) ∧
        (if q ∈ sg then s.stopQueue q else s).queues =
          if q ∈ sg then update s.queues q [] else s.queues := by
    intro s q h
    by_cases hm : q ∈ sg
    · rw [if_pos hm, if_pos hm]
      obtain ⟨hb, hqs⟩ := h.remembered.stopQueue q
      exact ⟨h.restrict hb, hqs⟩
    · rw [if_neg hm, if_neg hm]
      exact ⟨h, rfl⟩
  obtain ⟨hg, hqs⟩ := hs s .background h
  obtain ⟨hf, h'⟩ := hs _ .foreground hg
  obtain ⟨hb, hq⟩ := restricts_stopQueries _ sg
  refine ⟨hf.restrict hb, fun q hm ↦ ?_⟩
  rw [VpnDnsResolver.stopResolvingQueues, hq, h', hqs]
  cases q with
  | background =>
    rw [if_pos hm]
    split
    · rw [update_of_ne (by decide), update_self]
    · rw [update_self]
  | foreground => rw [if_pos hm, update_self]

theorem Good.cancel (h : Good none s) (id : UInt32) : Good none (s.cancel id) := by
  have ht : Good none (s.extract id) ∧ (s.extract id).resolutions.lookup id = none := by
    cases hr : s.resolutions.lookup id with
    | none =>
      simp only [extract, hr]
      exact ⟨h, trivial⟩
    | some r =>
      simp only [extract, hr]
      have hg : (s.resolutions.erase id).lookup id = none := by
        rw [lookup_erase, if_pos rfl]
      obtain ⟨hb, hn, -⟩ := h.remembered.remove hr
        (restricts_erase hr (.cancelled id) rfl rfl rfl) hg
      exact ⟨h.restrict hb, hn⟩
  obtain ⟨hd, hg⟩ := ht
  rw [VpnDnsResolver.cancel]
  split
  · exact hd
  · next e he =>
    have hi : e.2.id = id := by simpa using find?_some he
    refine hd.restrict (restricts_eraseQueries _ [e.1] fun qi hm q hq ↦ ?_)
    rw [mem_singleton.1 hm, AList.mem_lookup_iff.2 (mem_of_find?_eq_some he), some.injEq] at hq
    rw [← hq, hi]
    exact hg

theorem good_of_empty {b : Option UInt32} (h : Accounts s)
    (hs : ∀ id, s.resolutions.lookup id = none)
    (hq : ∀ qi, s.state.queries.lookup qi = none) : Good b s := by
  refine ⟨h, fun id r _ _ _ hr ↦ ?_, fun _ ↦ ⟨hq, fun id r hr ↦ ?_⟩, fun id r hr ↦ ?_⟩
  · rw [hs id] at hr
    cases hr
  · rw [hs id] at hr
    cases hr
  · rw [hs id] at hr
    cases hr

theorem Accounts.not_awaited (h : Accounts s) (hs : ∀ id, s.resolutions.lookup id = none)
    (id : UInt32) : ¬ Awaited s.trace id := by
  rw [h.awaited id, hs id]
  rintro ⟨r, hr⟩
  cases hr

theorem Accounts.concat_ends (h : Accounts s) (hs : ∀ id, s.resolutions.lookup id = none)
    {rc : Record} (ho : opens rc = none) (hc : closes rc = none)
    (h' : t.resolutions = s.resolutions) (ht : t.trace = s.trace ++ [rc]) : Accounts t := by
  have he : ∀ r ∈ [rc], opens r = none ∧ closes r = none := by
    intro r hr
    rw [mem_singleton.1 hr]
    exact ⟨ho, hc⟩
  refine ⟨?_, fun id ↦ ?_, ?_⟩
  · rw [ht]
    exact h.matched.append_of_forall he
  · rw [ht, awaited_append he, h']
    exact h.awaited id
  · rw [ht]
    exact h.ended.concat fun _ ↦ h.not_awaited hs

theorem Accounts.closeNow (h : Accounts s) : Accounts s.closeNow := by
  let rs := s.resolutions.entries.map fun e ↦
    Record.result e.1 e.2.handler (resultOf e.2.resolvedAddresses)
  have ho : ∀ r ∈ rs, opens r = none := by
    intro r hr
    obtain ⟨e, -, rfl⟩ := mem_map.1 hr
    rfl
  have hm : Matched opens closes (s.trace ++ rs) := by
    refine h.matched.append_of_closes (fun r hr ↦ ?_) ?_
    · obtain ⟨e, he, rfl⟩ := mem_map.1 hr
      exact ⟨rfl, e.1, rfl, (h.awaited e.1).2 ⟨e.2, AList.mem_lookup_iff.2 he⟩⟩
    · rw [List.map_map]
      have hk : (s.resolutions.entries.map (closes ∘ fun e ↦
          Record.result e.1 e.2.handler (resultOf e.2.resolvedAddresses))) =
            s.resolutions.keys.map some := by
        rw [AList.keys, keys, List.map_map]
        rfl
      rw [hk]
      exact (AList.keys_nodup s.resolutions).map (some_injective _)
  have hw : ∀ id, ¬ Awaited (s.trace ++ rs) id := by
    intro id hi
    obtain ⟨hb, hn⟩ := (pending_append_of_closes ho).1 hi
    obtain ⟨r, hr⟩ := (h.awaited id).1 hb
    exact hn _ (mem_map_of_mem (AList.mem_lookup_iff.1 hr)) rfl
  have ha : Accounts { s with resolutions := ∅, trace := s.trace ++ rs } := by
    refine ⟨hm, fun id ↦ ⟨fun hi ↦ absurd hi (hw id), ?_⟩, ?_⟩
    · rintro ⟨r, hr⟩
      cases hr
    · refine h.ended.append_of_forall fun r hr b hs ↦ ?_
      obtain ⟨e, -, rfl⟩ := mem_map.1 hr
      cases hs
  exact ha.concat_ends (fun _ ↦ rfl) rfl rfl rfl rfl

theorem Good.closeConnection (h : Good none s) (c : Option ℕ) (a : Bool) :
    Good none (s.closeConnection c a) := by
  rw [VpnDnsResolver.closeConnection]
  split
  · exact h
  · split
    · exact h.same rfl rfl rfl rfl rfl
    · exact good_of_empty h.accounts.closeNow (fun _ ↦ rfl) fun _ ↦ rfl

theorem closeConnection_self (s : VpnDnsResolver) :
    s.closeConnection s.state.connectionId false = s.closeNow := by
  rw [closeConnection, if_neg fun hn ↦ hn rfl, if_neg Bool.false_ne_true]

theorem Good.stopResolving (h : Good none s) : Good none s.stopResolving := by
  obtain ⟨hg, hq⟩ := h.stopResolvingQueues {.background, .foreground}
  rw [VpnDnsResolver.stopResolving]
  by_cases hcon : (s.stopResolvingQueues {.background, .foreground}).state.connectionId = none
  · have he : ∀ id, (s.stopResolvingQueues {.background, .foreground}).resolutions.lookup id =
        none := by
      intro id
      cases hr : (s.stopResolvingQueues {.background, .foreground}).resolutions.lookup id with
      | none => rfl
      | some r =>
        obtain ⟨q, hm⟩ := (hg.idle hcon).2 id r hr
        rw [hq q (by cases q <;> decide)] at hm
        cases hm
    simp only [hcon, ne_eq, not_true_eq_false, if_false]
    exact good_of_empty (hg.accounts.concat_ends he rfl rfl rfl rfl) he fun _ ↦ rfl
  · simp only [ne_eq, hcon, not_false_eq_true, if_true, closeConnection_self]
    exact good_of_empty (hg.accounts.closeNow.concat_ends (fun _ ↦ rfl) rfl rfl rfl rfl)
      (fun _ ↦ rfl) fun _ ↦ rfl

theorem Good.release (h : Good (some id) s)
    (hd : ∀ r, s.resolutions.lookup id = some r → Covered s id r) : Good none s := by
  refine ⟨h.accounts, h.remembered, h.idle, fun i r hr _ ↦ ?_⟩
  by_cases hi : i = id
  · subst hi
    exact hd r hr
  · exact h.covered i r hr fun he ↦ hi (some.inj he).symm

def Used (s : VpnDnsResolver) (queryId : UInt16) : Prop :=
  (∃ query, s.state.queries.lookup queryId = some query) ∨
    ∃ id r recordType, s.resolutions.lookup id = some r ∧ r.queries recordType = some queryId

theorem Restricts.used (h : Restricts s t) (hd : Used t queryId) : Used s queryId := by
  rcases hd with ⟨q, hy⟩ | ⟨id, r, rt, hr, hq⟩
  · exact .inl ⟨q, h.queries queryId q hy⟩
  · exact .inr ⟨id, r, rt, h.resolutions id r hr, hq⟩

theorem Good.finishIfDone (h : Good (some id) s)
    (hi : ∀ r, s.resolutions.lookup id = some r → r.recordTypes ≠ ∅ → Covered s id r) :
    Good none (s.finishIfDone id) ∧ Restricts s (s.finishIfDone id) ∧
      (s.finishIfDone id).queues = s.queues := by
  cases hr : s.resolutions.lookup id with
  | none =>
    simp only [VpnDnsResolver.finishIfDone, hr]
    refine ⟨h.release fun r hr' ↦ ?_, .refl s, trivial⟩
    rw [hr] at hr'
    cases hr'
  | some r =>
    simp only [VpnDnsResolver.finishIfDone, hr]
    by_cases hemp : r.recordTypes = ∅
    · rw [if_pos hemp]
      have hs := restricts_finish s (resultOf r.resolvedAddresses) id
      refine ⟨(h.restrict hs).release fun r' hr' ↦ ?_, hs, finish_queues s _ id⟩
      rw [lookup_finish, if_pos rfl] at hr'
      cases hr'
    · rw [if_neg hemp]
      refine ⟨h.release fun r' hr' ↦ ?_, .refl s, rfl⟩
      rw [hr] at hr'
      cases hr'
      exact hi r hr hemp

def answered (s : VpnDnsResolver) (queryId : UInt16) (query : Query)
    (addresses : List Net.Address.SocketAddress) : VpnDnsResolver :=
  { s.eraseQuery queryId with
    resolutions := modify s.resolutions query.id fun r ↦ { r with
      recordTypes := r.recordTypes.erase query.recordType
      resolvedAddresses := r.resolvedAddresses ++ addresses } }

theorem lookup_answered {a : List Net.Address.SocketAddress} {r' : Resolve}
    (h : (answered s queryId query a).resolutions.lookup id = some r') :
    ∃ r, s.resolutions.lookup id = some r ∧ r'.queries = r.queries ∧
      (id ≠ query.id → r' = r) ∧
      (id = query.id → r'.recordTypes = r.recordTypes.erase query.recordType) := by
  simp only [answered, lookup_modify] at h
  by_cases hid : id = query.id
  · rw [if_pos hid] at h
    obtain ⟨r, hr, rfl⟩ := map_eq_some_iff.1 h
    exact ⟨r, hid ▸ hr, rfl, fun hn ↦ absurd hid hn, fun _ ↦ rfl⟩
  · rw [if_neg hid] at h
    exact ⟨r', h, rfl, fun _ ↦ rfl, fun he ↦ absurd he hid⟩

theorem Good.answered (h : Good none s) (hy : s.state.queries.lookup queryId = some query)
    (ad : List Net.Address.SocketAddress) :
    Good (some query.id) (answered s queryId query ad) ∧
      ∀ r, (Accounting.answered s queryId query ad).resolutions.lookup query.id = some r →
        r.recordTypes ≠ ∅ → Covered (Accounting.answered s queryId query ad) query.id r := by
  have hk : ∀ q, (Accounting.answered s queryId query ad).state.queries.lookup q =
      if q = queryId then none else s.state.queries.lookup q := fun q ↦ lookup_erase _ _ _
  -- The other queries of a resolution, and the queries of the others, are still there.
  have hl : ∀ id recordType, (id = query.id → recordType ≠ query.recordType) →
      Live s id recordType → Live (Accounting.answered s queryId query ad) id recordType := by
    rintro id recordType hne ⟨q, q', hq, rfl, rfl⟩
    refine ⟨q, q', ?_, rfl, rfl⟩
    rw [hk, if_neg, hq]
    rintro rfl
    rw [hy] at hq
    cases hq
    exact hne rfl rfl
  have hv : ∀ id r, s.resolutions.lookup id = some r → Covered s id r :=
    fun id r hr ↦ h.covered id r hr fun he ↦ (by cases he)
  refine ⟨⟨?_, ?_, fun hc ↦ ?_, fun id r' hr' hb ↦ ?_⟩, fun r' hr' hne ↦ ?_⟩
  · refine h.accounts.append (l := []) (append_nil _).symm (fun id ↦ ?_) fun r hr ↦ (by cases hr)
    simp only [Accounting.answered, lookup_modify]
    by_cases hi : id = query.id
    · rw [if_pos hi, hi]
      cases s.resolutions.lookup query.id with
      | none => simp
      | some r => simp
    · rw [if_neg hi]
  · intro id r' recordType q q' hr' hq h'
    obtain ⟨r, hr, hqs, -⟩ := lookup_answered hr'
    rw [hk] at h'
    split at h'
    · cases h'
    · exact h.remembered id r recordType q q' hr (hqs ▸ hq) h'
  · have hn := (h.idle hc).1 queryId
    rw [hy] at hn
    cases hn
  · have hi : id ≠ query.id := fun he ↦ hb (by rw [he])
    obtain ⟨r, hr, -, hs, -⟩ := lookup_answered hr'
    rw [hs hi]
    refine (hv id r hr).imp_right fun hw ↦ ⟨hw.1, fun recordType hm ↦ ?_⟩
    exact (hw.2 recordType hm).imp_left (hl id recordType fun he ↦ absurd he hi)
  · obtain ⟨r, hr, -, -, ht⟩ := lookup_answered hr'
    refine (hv query.id r hr).imp_right fun hw ↦ ⟨hne, fun recordType hm ↦ ?_⟩
    rw [ht rfl, Finset.mem_erase] at hm
    exact (hw.2 recordType hm.2).imp_left (hl _ _ fun _ ↦ hm.1)

theorem Good.settleQuery (h : Good none s) (qi : UInt16) (a : List Net.Address.SocketAddress) :
    Good none (s.settleQuery qi a) ∧
      (s.settleQuery qi a).queues = s.queues ∧ ∀ q, Used (s.settleQuery qi a) q → Used s q := by
  cases hqy : s.state.queries.lookup qi with
  | none =>
    simp only [VpnDnsResolver.settleQuery, hqy]
    exact ⟨h, trivial, fun q hq ↦ hq⟩
  | some qy =>
    simp only [VpnDnsResolver.settleQuery, hqy]
    obtain ⟨hg, hc⟩ := h.answered hqy a
    obtain ⟨hd, hb, hqs⟩ := hg.finishIfDone hc
    refine ⟨hd, hqs, fun q hq ↦ ?_⟩
    rcases hb.used hq with ⟨q', hq'⟩ | ⟨id, r', rt, hr', hq'⟩
    · exact .inl ⟨q', (lookup_erase_eq_some.1 hq').2⟩
    · obtain ⟨r, hr, hs, -⟩ := lookup_answered hr'
      exact .inr ⟨id, r, rt, hr, hs ▸ hq'⟩

theorem Good.settleQueries (h : Good none s) (ds : List (ℕ × UInt16)) :
    Good none (ds.foldl (fun s d ↦ s.settleQuery d.2 []) s) ∧
      (ds.foldl (fun s d ↦ s.settleQuery d.2 []) s).queues = s.queues ∧
      ∀ q, Used (ds.foldl (fun s d ↦ s.settleQuery d.2 []) s) q → Used s q := by
  induction ds generalizing s with
  | nil => exact ⟨h, rfl, fun q hq ↦ hq⟩
  | cons d rest ih =>
    obtain ⟨hd, hqs, hs⟩ := h.settleQuery d.2 []
    obtain ⟨hg, h', hu⟩ := ih hd
    exact ⟨hg, h'.trans hqs, fun q hq ↦ hs q (hu q hq)⟩

section Sending

def requestId : Request → Option UInt16
  | .unencodable => none
  | .encoded queryId _ => some queryId

/-- The ids of the requests to come are different, and none of them is used. -/
def Fresh (s : VpnDnsResolver) (requests : List Request) : Prop :=
  (requests.filterMap requestId).Nodup ∧ ∀ q ∈ requests.filterMap requestId, ¬ Used s q

theorem Fresh.mono (h : Fresh s requests) (hd : ∀ q, Used t q → Used s q) : Fresh t requests :=
  ⟨h.1, fun q hq ht ↦ h.2 q hq (hd q ht)⟩

structure Sends (entryId : UInt32) (s t : VpnDnsResolver) : Prop where
  good : Good (some entryId) t
  queues : t.queues = s.queues
  connection : t.state.connectionId = s.state.connectionId
  kept : ∀ recordType, Live s entryId recordType ∨ Lost s.trace entryId recordType →
    Live t entryId recordType ∨ Lost t.trace entryId recordType
  types : ∀ r', t.resolutions.lookup entryId = some r' →
    ∃ r, s.resolutions.lookup entryId = some r ∧ r'.recordTypes = r.recordTypes

variable {qt : VpnDnsResolverQueue} {entryId : UInt32} {e : Resolve}

theorem sends_unsent (h : Good (some entryId) s) (re : RecordType) (l : List Record)
    (hl : ∀ r ∈ l, Neutral r) (hr : t.resolutions = s.resolutions) (hqs : t.queues = s.queues)
    (hn : t.state.connectionId = s.state.connectionId)
    (hs : ∀ q, t.state.queries.lookup q = s.state.queries.lookup q)
    (htr : t.trace = s.trace ++ l ++ [.unsent entryId re]) :
    Sends entryId s t ∧ Lost t.trace entryId re ∧ ∀ q, Used t q → Used s q := by
  have hb : Restricts s t :=
    restricts_of_append hr hs hqs hn (htr.trans (append_assoc ..))
      (forall_mem_append.2 ⟨hl, forall_mem_singleton.2 ⟨rfl, rfl, rfl⟩⟩)
  refine ⟨⟨h.restrict hb, hqs, hn, fun rt hrt ↦ ?_, fun r' hr' ↦ ?_⟩, ?_, fun q hq ↦ hb.used hq⟩
  · refine hrt.imp ?_ (hb.lost entryId rt)
    rintro ⟨q, qy, hq, hi, ht⟩
    exact ⟨q, qy, (hs q).trans hq, hi, ht⟩
  · rw [hr] at hr'
    exact ⟨r', hr', rfl⟩
  · rw [htr]
    exact lost_concat_unsent

theorem Good.sendSent (h : Good (some entryId) s) (hc : s.state.connectionId ≠ none)
    (hen : s.resolutions.lookup entryId = some e) (hm : recordType ∈ e.recordTypes)
    (hu : ¬ Used s queryId) (hnw : s.state.queries.lookup queryId = none)
    (hd : query.id = entryId) (hy : query.recordType = recordType)
    (hs : ∀ q, t.state.queries.lookup q =
      if q = queryId then some query else s.state.queries.lookup q)
    (hrs : t.resolutions = modify s.resolutions entryId fun e ↦ { e with
      recordTypes := insert recordType e.recordTypes
      queries := update e.queries recordType (some queryId) })
    (hqs : t.queues = s.queues) (hn : t.state.connectionId = s.state.connectionId)
    (rc : Record) (hrc : Neutral rc) (htr : t.trace = s.trace ++ [rc]) :
    Sends entryId s t ∧ Live t entryId recordType ∧ ∀ q, Used t q → Used s q ∨ queryId = q := by
  have hli : ∀ id rt, Live s id rt → Live t id rt := by
    rintro id rt ⟨q, q', hq, h', ht⟩
    refine ⟨q, q', ?_, h', ht⟩
    rw [hs, if_neg, hq]
    rintro rfl
    rw [hnw] at hq
    cases hq
  have hlo : ∀ id rt, Lost s.trace id rt → Lost t.trace id rt := by
    intro id rt hl
    rw [htr]
    exact hl.append (forall_mem_singleton.2 hrc.1)
  -- The resolutions, with the new query among those that its resolution has.
  have hk : ∀ id r', t.resolutions.lookup id = some r' → ∃ r,
      s.resolutions.lookup id = some r ∧ r'.recordTypes = r.recordTypes ∧ (id ≠ entryId → r' = r) ∧
        ∀ rt q, r'.queries rt = some q → q = queryId ∧ id = entryId ∨ r.queries rt = some q := by
    intro id r' hr'
    rw [hrs, lookup_modify] at hr'
    by_cases hi : id = entryId
    · rw [if_pos hi, hen] at hr'
      cases hr'
      refine ⟨e, hi ▸ hen, Finset.insert_eq_of_mem hm, fun hne ↦ absurd hi hne, fun rt q hq ↦ ?_⟩
      change update e.queries recordType (some queryId) rt = some q at hq
      by_cases hrt : rt = recordType
      · rw [hrt, update_self, some.injEq] at hq
        exact .inl ⟨hq.symm, hi⟩
      · rw [update_of_ne hrt] at hq
        exact .inr hq
    · rw [if_neg hi] at hr'
      exact ⟨r', hr', rfl, fun _ ↦ rfl, fun rt q hq ↦ .inr hq⟩
  have ha : Accounts t := by
    refine h.accounts.append htr (fun id ↦ ?_) (forall_mem_singleton.2 hrc)
    rw [hrs, lookup_modify]
    by_cases hi : id = entryId
    · rw [if_pos hi, hi, hen]
      simp
    · rw [if_neg hi]
  refine ⟨⟨⟨ha, ?_, fun ho ↦ ?_, fun id r' hr' hb ↦ ?_⟩, hqs, hn, fun rt hrt ↦ ?_,
    fun r' hr' ↦ ?_⟩, ⟨queryId, query, ?_, hd, hy⟩, fun q hq ↦ ?_⟩
  · intro id r' rt q q' hr' hq hqy
    obtain ⟨r, hr, -, -, hre⟩ := hk id r' hr'
    rw [hs] at hqy
    rcases hre rt q hq with ⟨rfl, rfl⟩ | hq
    · rw [if_pos rfl, some.injEq] at hqy
      rw [← hqy, hd]
    · have hne : q ≠ queryId := fun he ↦ hu (he ▸ .inr ⟨id, r, rt, hr, hq⟩)
      rw [if_neg hne] at hqy
      exact h.remembered id r rt q q' hr hq hqy
  · rw [hn] at ho
    exact absurd ho hc
  · have hi : id ≠ entryId := fun he ↦ hb (by rw [he])
    obtain ⟨r, hr, -, hsa, -⟩ := hk id r' hr'
    rw [hsa hi]
    refine (h.covered id r hr hb).imp (fun hq ↦ ?_) fun hw ↦ ⟨hw.1, fun rt hrt ↦ ?_⟩
    · rwa [hqs]
    · exact (hw.2 rt hrt).imp (hli id rt) (hlo id rt)
  · exact hrt.imp (hli entryId rt) (hlo entryId rt)
  · obtain ⟨r, hr, hty, -⟩ := hk entryId r' hr'
    exact ⟨r, hr, hty⟩
  · rw [hs, if_pos rfl]
  · rcases hq with ⟨q', hq⟩ | ⟨id, r', rt, hr', hq⟩
    · rw [hs] at hq
      by_cases he : q = queryId
      · exact .inr he.symm
      · rw [if_neg he] at hq
        exact .inl (.inl ⟨q', hq⟩)
    · obtain ⟨r, hr, -, -, hre⟩ := hk id r' hr'
      rcases hre rt q hq with ⟨rfl, -⟩ | hq
      · exact .inr rfl
      · exact .inl (.inr ⟨id, r, rt, hr, hq⟩)

theorem Good.sendRequest (n : ℕ) (qt : VpnDnsResolverQueue) (h : Good (some entryId) s)
    (hn : s.state.connectionId ≠ none)
    (ht : s.resolutions.lookup entryId = some e) (hm : recordType ∈ e.recordTypes)
    {rt : Request} (hf : ∀ q, requestId rt = some q → ¬ Used s q) :
    Sends entryId s (s.sendRequest n qt entryId e recordType rt) ∧
      (Live (s.sendRequest n qt entryId e recordType rt) entryId recordType ∨
        Lost (s.sendRequest n qt entryId e recordType rt).trace entryId
          recordType) ∧
      ∀ q, Used (s.sendRequest n qt entryId e recordType rt) q →
        Used s q ∨ requestId rt = some q := by
  cases rt with
  | unencodable =>
    obtain ⟨hsn, hl, hd⟩ := sends_unsent (t := s.record (.unsent entryId recordType)) h
      recordType [] (fun r hr ↦ (by cases hr)) rfl rfl rfl (fun _ ↦ rfl) (by rw [append_nil]; rfl)
    exact ⟨hsn, .inr hl, fun q hq ↦ .inl (hd q hq)⟩
  | encoded qi st =>
    have hun := hf qi rfl
    have hw : s.state.queries.lookup qi = none := by
      cases hq : s.state.queries.lookup qi with
      | none => rfl
      | some qy => exact absurd (.inl ⟨qy, hq⟩) hun
    have hi : (if (s.state.queries.lookup qi).isSome then s.state.queries
        else s.state.queries.insert qi
          { id := entryId, recordType, name := e.name, queueKind := qt }) =
        s.state.queries.insert qi
          { id := entryId, recordType, name := e.name, queueKind := qt } := by
      rw [hw]
      rfl
    simp only [VpnDnsResolver.sendRequest, hi]
    cases st with
    | false =>
      rw [if_neg Bool.false_ne_true]
      refine And.imp_right ?_ (sends_unsent h recordType [.read s.state.connectionId qi]
        (forall_mem_singleton.2 ⟨rfl, rfl, rfl⟩) rfl rfl rfl (fun q ↦ ?_) rfl)
      · exact fun hu ↦ ⟨.inr hu.1, fun q hq ↦ .inl (hu.2 q hq)⟩
      · change ((s.state.queries.insert qi _).erase qi).lookup q = _
        rw [lookup_erase, lookup_insert]
        by_cases hq : q = qi
        · rw [if_pos hq, hq, hw]
        · rw [if_neg hq, if_neg hq]
    | true =>
      rw [if_pos rfl]
      refine And.imp_right ?_ (Good.sendSent h hn ht hm hun hw rfl rfl
        (fun q ↦ lookup_insert s.state.queries qi q _) rfl rfl rfl
        (.read s.state.connectionId qi) ⟨rfl, rfl, rfl⟩ rfl)
      exact fun hs ↦ ⟨.inl hs.1, fun q hq ↦ (hs.2 q hq).imp_right (congrArg some)⟩

theorem Fresh.head (h : Fresh s requests) :
    ∀ q, requestId (requests.headD .unencodable) = some q → ¬ Used s q := by
  intro q hq
  cases requests with
  | nil => cases hq
  | cons r rest =>
    rw [headD_cons] at hq
    refine h.2 q ?_
    rw [filterMap_cons_some hq]
    exact mem_cons_self

theorem Fresh.tail (h : Fresh s requests)
    (hd : ∀ q, Used t q → Used s q ∨ requestId (requests.headD .unencodable) = some q) :
    Fresh t requests.tail := by
  cases requests with
  | nil => exact ⟨nodup_nil, fun q hq ↦ (by cases hq)⟩
  | cons r rest =>
    obtain ⟨hnd, hu⟩ := h
    cases hid : requestId r with
    | none =>
      rw [filterMap_cons_none hid] at hnd hu
      refine ⟨hnd, fun q hq ht ↦ ?_⟩
      rcases hd q ht with hs | hs
      · exact hu q hq hs
      · rw [headD_cons, hid] at hs
        cases hs
    | some qi =>
      rw [filterMap_cons_some hid] at hnd hu
      obtain ⟨hn, hnd⟩ := nodup_cons.1 hnd
      refine ⟨hnd, fun q hq ht ↦ ?_⟩
      rcases hd q ht with hs | hs
      · exact hu q (mem_cons_of_mem _ hq) hs
      · rw [headD_cons, hid, some.injEq] at hs
        exact hn (hs ▸ hq)

theorem Sends.refl (h : Good (some entryId) s) : Sends entryId s s :=
  ⟨h, rfl, rfl, fun _ hrt ↦ hrt, fun r hr ↦ ⟨r, hr, rfl⟩⟩

theorem Sends.trans (h : Sends entryId s t) (h' : Sends entryId t u) : Sends entryId s u := by
  refine ⟨h'.good, h'.queues.trans h.queues, h'.connection.trans h.connection,
    fun rt hrt ↦ h'.kept rt (h.kept rt hrt), fun r'' hr'' ↦ ?_⟩
  obtain ⟨r', hr', ht⟩ := h'.types r'' hr''
  obtain ⟨r, hr, hy⟩ := h.types r' hr'
  exact ⟨r, hr, ht.trans hy⟩

theorem Good.sendRequests (n : ℕ) (qt : VpnDnsResolverQueue) (rs : List RecordType)
    (h : Good (some entryId) s) (hn : s.state.connectionId ≠ none) (hfr : Fresh s requests)
    (hd : sendRequests n qt entryId rs s requests = (t, lt)) :
    Sends entryId s t ∧ Fresh t lt ∧ ∀ r, t.resolutions.lookup entryId = some r →
      ∀ rt ∈ rs, rt ∈ r.recordTypes → Live t entryId rt ∨ Lost t.trace entryId rt := by
  induction rs generalizing s requests with
  | nil =>
    cases hd
    exact ⟨.refl h, hfr, fun r _ rt hrt ↦ (by cases hrt)⟩
  | cons re rest ih =>
    rw [sendRequests] at hd
    cases hent : s.resolutions.lookup entryId with
    | none =>
      rw [hent] at hd
      cases hd
      refine ⟨.refl h, hfr, fun r hr ↦ ?_⟩
      rw [hent] at hr
      cases hr
    | some e =>
      rw [hent] at hd
      dsimp only at hd
      by_cases hmem : re ∈ e.recordTypes
      · rw [if_pos hmem] at hd
        obtain ⟨hsn, hse, hu⟩ := h.sendRequest n qt
          hn hent hmem hfr.head
        obtain ⟨hs, hf, ht⟩ := ih hsn.good
          (by rw [hsn.connection]; exact hn) (hfr.tail hu) hd
        refine ⟨hsn.trans hs, hf, fun r hr rt hrt he ↦ ?_⟩
        rcases mem_cons.1 hrt with rfl | hrt
        · exact hs.kept rt hse
        · exact ht r hr rt hrt he
      · rw [if_neg hmem] at hd
        obtain ⟨hs, hf, ht⟩ := ih h hn hfr hd
        refine ⟨hs, hf, fun r hr rt hrt he ↦ ?_⟩
        rcases mem_cons.1 hrt with rfl | hrt
        · obtain ⟨r₀, hr₀, hy⟩ := hs.types r hr
          rw [hent] at hr₀
          cases hr₀
          exact absurd (hy ▸ he) hmem
        · exact ht r hr rt hrt he

theorem Good.resolveEntry (n : ℕ) (qt : VpnDnsResolverQueue) (h : Good (some entryId) s)
    (hn : s.state.connectionId ≠ none) (hfr : Fresh s requests)
    (ht : s.resolveEntry n qt entryId requests = (t, lt)) :
    Good none t ∧ Fresh t lt ∧ t.queues = s.queues ∧
      t.state.connectionId = s.state.connectionId := by
  obtain ⟨hs, hf, hc⟩ := h.sendRequests n qt RecordType.values
    hn hfr (Prod.eta _).symm
  rw [VpnDnsResolver.resolveEntry] at ht
  split at ht
  · cases ht
    have hb := restricts_finish
      (VpnDnsResolver.sendRequests n qt entryId RecordType.values s requests).1 .failure
      entryId
    refine ⟨(hs.good.restrict hb).release fun r hr ↦ ?_, hf.mono fun q hq ↦ hb.used hq, ?_, ?_⟩
    · rw [lookup_finish, if_pos rfl] at hr
      cases hr
    · rw [finish_queues, hs.queues]
    · rw [finish_state, hs.connection]
  · next hd =>
    cases ht
    refine ⟨hs.good.release fun r hr ↦ .inr ⟨fun he ↦ hd ?_, fun rt hrt ↦ ?_⟩, hf,
      hs.queues, hs.connection⟩
    · rw [isDone, hr]
      simp [he]
    · exact hc r hr rt rt.mem_values hrt

theorem mem_setQueue {i : List UInt32} {queue : VpnDnsResolverQueue} (hm : id ∈ s.queues queue)
    (hs : queue = qt → id ∈ i) : id ∈ (s.setQueue qt i).queues queue := by
  change id ∈ update s.queues qt i queue
  by_cases hq : queue = qt
  · rw [hq, update_self]
    exact hs hq
  · rwa [update_of_ne hq]

theorem Good.setQueue (h : Good none s) {rt : List UInt32} (hu : s.queues qt ⊆ entryId :: rt)
    (hc : s.state.connectionId ≠ none) : Good (some entryId) (s.setQueue qt rt) := by
  refine ⟨⟨h.accounts.1, h.accounts.2, h.accounts.3⟩, h.remembered,
    fun hn ↦ absurd hn hc, fun id r hr hb ↦ ?_⟩
  refine (h.covered id r hr fun he ↦ (by cases he)).imp_left ?_
  rintro ⟨q, hm⟩
  refine ⟨q, mem_setQueue hm fun hq ↦ ?_⟩
  exact (mem_cons.1 (hu (hq ▸ hm))).resolve_left fun he ↦ hb (by rw [he])

theorem restricts_setQueue {ids : List UInt32} (hqu : s.queues qt ⊆ ids) :
    Restricts s (s.setQueue qt ids) :=
  ⟨fun _ _ hr ↦ hr, fun _ _ hq ↦ hq, fun _ _ _ hq _ ↦ hq,
    fun _ _ _ _ hm ↦ mem_setQueue hm fun hq ↦ hqu (hq ▸ hm), rfl, fun _ _ hl ↦ hl,
    fun h ↦ ⟨h.1, h.2, h.3⟩⟩

theorem Good.resolveQueue (n : ℕ) (o : List UInt32) (h : Good none s)
    (hn : s.state.connectionId ≠ none) (hu : s.queues qt ⊆ o) (hfr : Fresh s requests)
    (he : resolveQueue n qt o s requests = (t, lt)) :
    Good none t ∧ Fresh t lt ∧ t.state.connectionId = s.state.connectionId ∧
      ∀ queue, queue ≠ qt → t.queues queue = s.queues queue := by
  have hs : Good none (s.setQueue qt o) ∧ Fresh (s.setQueue qt o) requests :=
    ⟨h.restrict (restricts_setQueue hu), hfr.mono fun q ↦ (restricts_setQueue hu).used⟩
  induction o generalizing s requests with
  | nil =>
    cases he
    exact ⟨hs.1, hs.2, rfl, fun queue hq ↦ update_of_ne hq _ _⟩
  | cons ei rest ih =>
    rw [resolveQueue] at he
    split at he
    · have hfr₀ : Fresh (s.setQueue qt rest) requests := hfr.mono fun q hq ↦ hq
      obtain ⟨hg, hf', hqs, hc⟩ :=
        (h.setQueue hu hn).resolveEntry n qt hn hfr₀
          (Prod.eta _).symm
      have hr : ((s.setQueue qt rest).resolveEntry n qt ei
          requests).1.queues qt ⊆ rest := by
        rw [hqs]
        change update s.queues qt rest qt ⊆ rest
        rw [update_self]
        exact List.Subset.refl rest
      obtain ⟨ho, hf, h', hqs'⟩ := ih hg (hc ▸ hn) hr hf'
        he ⟨hg.restrict (restricts_setQueue hr), hf'.mono fun q ↦ (restricts_setQueue hr).used⟩
      refine ⟨ho, hf, h'.trans hc, fun queue hq ↦ (hqs' queue hq).trans ?_⟩
      rw [hqs]
      exact update_of_ne hq _ _
    · cases he
      exact ⟨hs.1, hs.2, rfl, fun queue hq ↦ update_of_ne hq _ _⟩

theorem fits_subset (hs : env.fits s = true) (queue : VpnDnsResolverQueue) :
    s.queues queue ⊆ env.order queue := by
  obtain ⟨hb, hf⟩ := Bool.and_eq_true_iff.1 hs
  cases queue with
  | background => exact (isPerm_iff.1 hb).symm.subset
  | foreground => exact (isPerm_iff.1 hf).symm.subset

theorem Good.startConnectionTimeout (h : Good none s) : Good none s.startConnectionTimeout :=
  h.same rfl rfl rfl rfl rfl

theorem Good.resolvePendingDomains (h : Good none s) (hq : ∀ q, s.queues q ⊆ env.order q)
    (hfr : Fresh s env.requests) : Good none (s.resolvePendingDomains env) := by
  rw [VpnDnsResolver.resolvePendingDomains]
  split
  · exact h
  split
  · refine Good.startConnectionTimeout ⟨?_, h.remembered, fun hn ↦ (by cases hn),
      fun id r hr hb ↦ ?_⟩
    · exact h.accounts.append rfl (fun id ↦ Iff.rfl) (forall_mem_singleton.2 ⟨rfl, rfl, rfl⟩)
    · refine (h.covered id r hr hb).imp_right fun hw ↦ ⟨hw.1, fun rt ht ↦ ?_⟩
      exact (hw.2 rt ht).imp_right fun hl ↦ hl.append (forall_mem_singleton.2 rfl)
  · next hco =>
    split
    · obtain ⟨hg, hf, hc, ho⟩ :=
        h.resolveQueue env.now (env.order .background) hco (hq .background) hfr
          (Prod.eta _).symm
      refine (hg.resolveQueue env.now (env.order .foreground) ?_ ?_ hf
        (Prod.eta _).symm).1.startConnectionTimeout
      · rw [hc]
        exact hco
      · rw [ho .foreground (by decide)]
        exact hq .foreground
    · exact h.startConnectionTimeout

end Sending

/-- The next id is not that of a resolution, and the ids of the requests are not used. -/
def fresh (s : VpnDnsResolver) : Input → Bool
  | .resolve _ _ _ _ => (s.resolutions.lookup s.nextId).isNone
  | input => input.environment.all fun env ↦
      (env.requests.filterMap requestId).Nodup && (env.requests.filterMap requestId).all fun q ↦
        (s.state.queries.lookup q).isNone && s.resolutions.entries.all fun e ↦ q ∉ e.2.queryIds

theorem fresh_environment {i : Input} (hv : i.environment = some env)
    (h : fresh s i = true) : Fresh s env.requests := by
  have ha : ((env.requests.filterMap requestId).Nodup &&
      (env.requests.filterMap requestId).all fun q ↦
        (s.state.queries.lookup q).isNone && s.resolutions.entries.all fun e ↦ q ∉ e.2.queryIds) =
      true := by
    cases i <;> cases hv <;> exact h
  obtain ⟨hd, hun⟩ := Bool.and_eq_true_iff.1 ha
  refine ⟨of_decide_eq_true hd, fun q hq hu ↦ ?_⟩
  obtain ⟨hy, he⟩ := Bool.and_eq_true_iff.1 (all_eq_true.1 hun q hq)
  rcases hu with ⟨qy, hs⟩ | ⟨id, r, rt, hr, hm⟩
  · rw [hs] at hy
    cases hy
  · have hn := of_decide_eq_true
      (all_eq_true.1 he ⟨id, r⟩ (AList.mem_lookup_iff.1 hr))
    exact hn (mem_queryIds.2 ⟨rt, hm⟩)

theorem Good.resolve (h : Good none s) (hne : s.resolutions.lookup s.nextId = none)
    (qe : VpnDnsResolverQueue) (name : String) (recordTypes : Finset RecordType) (handler : Bool) :
    Good none (s.resolve qe name recordTypes handler) := by
  have hre : ∀ id, (s.resolve qe name recordTypes handler).resolutions.lookup id =
      if id = s.nextId then some { name, recordTypes, handler } else s.resolutions.lookup id := by
    intro id
    simp only [VpnDnsResolver.resolve, record, hne, isSome_none, Bool.false_eq_true, if_false]
    exact lookup_insert _ _ _ _
  have hqs : ∀ id q, id ∈ (s.resolve qe name recordTypes handler).queues q ↔
      id = s.nextId ∧ q = qe ∨ id ∈ s.queues q := by
    intro id q
    simp only [VpnDnsResolver.resolve, record]
    by_cases hq : q = qe
    · subst hq
      rw [update_self]
      split
      · next hm =>
        refine ⟨.inr, ?_⟩
        rintro (⟨rfl, -⟩ | hid)
        · exact hm
        · exact hid
      · simp
    · simp [hq]
  have ha : ¬ Awaited s.trace s.nextId := by
    rw [h.accounts.awaited, hne]
    rintro ⟨r, hr⟩
    cases hr
  refine ⟨⟨?_, fun id ↦ ?_, ?_⟩, fun id r re q qy hr hq hy ↦ ?_, fun ho ↦ ?_, fun id r hr _ ↦ ?_⟩
  · exact h.accounts.matched.concat_of_opens rfl rfl (Bool.eq_false_iff.2 ha)
  · have hp : Awaited (s.resolve qe name recordTypes handler).trace id ↔
        id = s.nextId ∨ Awaited s.trace id :=
      pending_concat_of_opens (a := Record.resolving s.nextId) (l := s.trace)
        (show opens (.resolving s.nextId) = some s.nextId from rfl) id fun hc ↦ (by cases hc)
    rw [hp, h.accounts.awaited id, hre]
    by_cases hid : id = s.nextId <;> simp [hid]
  · exact h.accounts.ended.concat fun hn ↦ (by cases hn)
  · rw [hre] at hr
    split at hr
    · cases hr
      cases hq
    · exact h.remembered id r re q qy hr hq hy
  · obtain ⟨hs, hd⟩ := h.idle ho
    refine ⟨hs, fun id r hr ↦ ?_⟩
    rw [hre] at hr
    split at hr
    · next hid => exact ⟨qe, (hqs id qe).2 (.inl ⟨hid, rfl⟩)⟩
    · obtain ⟨q, hm⟩ := hd id r hr
      exact ⟨q, (hqs id q).2 (.inr hm)⟩
  · rw [hre] at hr
    split at hr
    · next hid => exact .inl ⟨qe, (hqs id qe).2 (.inl ⟨hid, rfl⟩)⟩
    · next hid =>
      refine (h.covered id r hr fun he ↦ (by cases he)).imp ?_ fun hw ↦ ⟨hw.1, fun rt ht ↦ ?_⟩
      · rintro ⟨q, hm⟩
        exact ⟨q, (hqs id q).2 (.inr hm)⟩
      · exact (hw.2 rt ht).imp_right fun hl ↦ hl.concat_resolving (Ne.symm hid)

theorem Good.send (h : Good none s) (hqs : ∀ qe, s.queues qe ⊆ env.order qe)
    (hf : Fresh s env.requests) (id : ℕ) (p : Packet) (l : ℕ) :
    Good none (s.send env id p l).1 := by
  have ht := h.startConnectionTimeout
  simp only [VpnDnsResolver.send]
  split
  · exact ht
  · next ri _ =>
    split
    · exact ht
    · split
      · exact ht
      · next qy hy =>
        split
        · next hg =>
          refine ht.restrict (restricts_eraseQueries _ [ri] fun q hq q' h' ↦ ?_)
          rw [mem_singleton.1 hq, hy, some.injEq] at h'
          rw [← h']
          exact isNone_iff_eq_none.1 hg
        · obtain ⟨hd, hs, hu⟩ := ht.settleQuery ri p.addresses
          refine hd.resolvePendingDomains (fun qe ↦ ?_) (hf.mono hu)
          rw [hs]
          exact hqs qe

theorem Good.queriesCheck (h : Good none s) (hqs : ∀ qe, s.queues qe ⊆ env.order qe)
    (hf : Fresh s env.requests) : Good none (s.onPeriodicQueriesCheck env) := by
  have hr : Good none
      { s with state := { s.state with periodicQueriesCheckTask := none } } :=
    h.same rfl rfl rfl rfl rfl
  obtain ⟨hg, hs, hu⟩ := hr.settleQueries
    (Lib.Multimap.upTo env.now s.state.deadlines)
  refine Good.resolvePendingDomains (hg.same rfl rfl rfl rfl rfl) (fun qe ↦ ?_)
    (hf.mono fun q hq ↦ hu q hq)
  exact (congrFun hs qe).symm ▸ hqs qe

theorem Good.step {i : Input} (h : Good none s) (hfr : fresh s i = true)
    (hp : step s i = some t) : Good none t := by
  rw [Queries.step] at hp
  split at hp
  · next ho =>
    obtain ⟨-, hf⟩ := Bool.and_eq_true_iff.1 ho
    cases hp
    cases i with
    | resolve qe n rs hr =>
      exact h.resolve (isNone_iff_eq_none.1 hfr) qe n rs hr
    | cancel id => exact h.cancel id
    | stopResolvingQueues qs => exact (h.stopResolvingQueues qs).1
    | stopResolving => exact h.stopResolving
    | completeConnectRequest id pass =>
      simp only [handle, completeConnectRequest]
      split
      · exact h
      · split
        · exact h.same rfl rfl rfl rfl rfl
        · exact h.closeConnection (some id) true
    | closeConnection id a => exact h.closeConnection (some id) a
    | send e id p l =>
      exact h.send (fits_subset hf) (fresh_environment rfl hfr) id p l
    | connectionTimeout =>
      have hg : Good none { s with state := { s.state with connectionTimeoutTask := false } } :=
        h.same rfl rfl rfl rfl rfl
      exact hg.closeConnection _ false
    | queriesCheck e => exact h.queriesCheck (fits_subset hf) (fresh_environment rfl hfr)
    | deferredAccept e =>
      have hu : Fresh s e.requests := fresh_environment rfl hfr
      exact Good.resolvePendingDomains (h.restrict (restricts_of_append rfl (fun _ ↦ rfl) rfl rfl
        rfl (forall_mem_singleton.2 ⟨rfl, rfl, rfl⟩))) (fits_subset (s := s) hf)
        (hu.mono fun q hq ↦ hq)
    | deferredClose =>
      have hg : Good none { s with deferredCloseTask := false } := h.same rfl rfl rfl rfl rfl
      exact hg.closeConnection _ false
    | deferredResolve e =>
      have hg : Good none { s with deferredResolveTask := false } := h.same rfl rfl rfl rfl rfl
      have hu : Fresh s e.requests := fresh_environment rfl hfr
      exact hg.resolvePendingDomains (fits_subset (s := s) hf) (hu.mono fun q hq ↦ hq)
    | setQueryTimeout tt => exact h.same rfl rfl rfl rfl rfl
    | dnsUpdated ss => exact h.same rfl rfl rfl rfl rfl
  · cases hp

/-- The run lemma: each resolution is pending or was closed once. -/
theorem good_run {ss : SystemDnsServers} {ls : List Input}
    (h : Run Queries.step (fun s i ↦ fresh s i = true) (start ss) ls s) : Good none s := by
  refine h.invariant ?_ fun s i t hs hf hp ↦ hs.step hf hp
  refine good_of_empty ⟨matched_nil, fun id ↦ ?_, guarded_nil⟩ (fun _ ↦ rfl) fun _ ↦ rfl
  constructor
  · intro hi
    cases hi
  · rintro ⟨r, hr⟩
    cases hr

theorem opens_disjoint (r : Record) (id : UInt32) (h : opens r = some id) : closes r = none := by
  cases r with
  | resolving id => rfl
  | _ => cases h

/-- If no id is returned or given to a request while it is in use, each id that was returned is
answered or cancelled once, unless its resolution is still there, in a queue or with a live query
for every record type that is left and was sent. -/
theorem resolutions_accounted {servers : SystemDnsServers} {ls : List Input}
    (h : Run step (fun s input ↦ fresh s input = true) (start servers) ls s) :
    (∀ id, s.trace.countP (fun r ↦ opens r = some id) =
        s.trace.countP (fun r ↦ closes r = some id) +
      if (s.resolutions.lookup id).isSome then 1 else 0) ∧
    (∀ before r after id, s.trace = before ++ r :: after → closes r = some id → Awaited before id) ∧
    (∀ before r after, s.trace = before ++ r :: after →
      (r = .stopped ∨ ∃ connection, r = .connectionClosed connection) → ∀ id, ¬ Awaited before id) ∧
    ∀ id r, s.resolutions.lookup id = some r → (∃ queue, id ∈ s.queues queue) ∨
      r.recordTypes ≠ ∅ ∧ ∀ recordType ∈ r.recordTypes,
        (∃ queryId query, s.state.queries.lookup queryId = some query ∧ query.id = id ∧
          query.recordType = recordType) ∨ Lost s.trace id recordType := by
  have hg := good_run h
  refine ⟨fun id ↦ ?_, fun before r after id he hr ↦ ?_, fun before r after he hr ↦ ?_,
    fun id r hr ↦ hg.covered id r hr fun hb ↦ (by cases hb)⟩
  · rw [hg.accounts.matched.countP_eq opens_disjoint id]
    have ha := hg.accounts.awaited id
    cases hr : s.resolutions.lookup id with
    | none =>
      rw [hr] at ha
      have hn : ¬ Awaited s.trace id := fun hi ↦ by
        obtain ⟨r, hr⟩ := ha.1 hi
        cases hr
      rw [Awaited] at hn
      rw [if_neg hn]
      rfl
    | some r =>
      have hi : pending opens closes id s.trace = true := ha.2 ⟨r, hr⟩
      rw [if_pos hi]
      rfl
  · exact (hg.accounts.matched before r after he).2 id hr
  · refine hg.accounts.ended before r after he ?_
    rcases hr with rfl | ⟨connection, rfl⟩ <;> rfl

def environment (waiting : List UInt32) (requests : List Request) : Environment where
  now := 0
  connectionId := 7
  order
    | .background => []
    | .foreground => waiting
  requests := requests

def resolving (requests : List Request) : List Input :=
  [.resolve .foreground "example.org" {.a, .aaaa} true, .deferredResolve (environment [0] []),
    .completeConnectRequest 7 true, .deferredAccept (environment [0] requests)]

/-- Both queries of a resolution are answered. -/
theorem resolutions_accounted_of_answers :
    ∃ s, Run step (fun s input ↦ fresh s input = true) (start ⟨[], []⟩)
        (resolving [.encoded 1 true, .encoded 2 true] ++
          [.send (environment [] []) 7 (.reply 2 []) 40,
            .send (environment [] []) 7 (.reply 1 [⟨.inet, 1, 0⟩]) 40]) s ∧
      .result 0 true (.success [⟨.inet, 1, 0⟩]) ∈ s.trace ∧
      ∀ id, s.trace.countP (fun r ↦ opens r = some id) =
        s.trace.countP (fun r ↦ closes r = some id) +
          if (s.resolutions.lookup id).isSome then 1 else 0 :=
  exists_run_imp (P := fun s ↦ .result 0 true (.success [⟨.inet, 1, 0⟩]) ∈ s.trace) (by decide)
    fun _ h hs ↦ ⟨hs, (resolutions_accounted h).1⟩

/-- None of the requests can be encoded: the resolution neither fails nor is in a queue, and there
is no query that could be answered for it. -/
theorem unsent_resolution_stays :
    ∃ s, Run step anyStep (start ⟨[], []⟩) (resolving [.unencodable, .unencodable]) s ∧
      (s.resolutions.lookup 0).isSome = true ∧ Awaited s.trace 0 ∧
      s.queues .background = [] ∧ s.queues .foreground = [] ∧ s.state.queries.entries = [] :=
  exists_run_imp (P := fun s ↦ (s.resolutions.lookup 0).isSome = true ∧
    pending opens closes 0 s.trace = true ∧ s.queues .background = [] ∧
    s.queues .foreground = [] ∧ s.state.queries.entries = []) (by decide) fun _ _ hs ↦ hs

end TrustTunnel.Resolver.Accounting

import TrustTunnel.Icmp.Manager
import TrustTunnel.Lib.Pending
import TrustTunnel.Lib.Transition

namespace TrustTunnel.Icmp.Answers

open Lib.Assoc Lib.Pending Lib.Transition Manager List
open IcmpManager

abbrev Key := UInt16 × UInt16

inductive Record
  | requested (request : IcmpEchoRequest)
  | replied (reply : IcmpEchoReply)
  | timedOut (reply : IcmpEchoReply)
  | abandoned (key : Key)
deriving DecidableEq, Repr

namespace Record

def opens : Record → Option Key
  | .requested request => some (request.id, request.seqno)
  | _ => none

def closes : Record → Option Key
  | .requested _ => none
  | .replied reply => some (reply.id, reply.seqno)
  | .timedOut reply => some (reply.id, reply.seqno)
  | .abandoned key => some key

end Record

structure State where
  manager : IcmpManager
  trace : List Record := []

inductive Input
  | registerRequest (now : ℕ) (request : IcmpEchoRequest)
  | registerReply (reply : IcmpEchoReply)
  | timer (now : ℕ)
  | deinit
deriving DecidableEq

def outstanding (m : IcmpManager) : List Key :=
  m.requests.entries.flatMap fun e ↦ e.2.tries.map fun attempt ↦ (e.1, attempt.seqno)

def handle (s : State) : Input → State
  | .registerRequest now request =>
    let r := s.manager.registerRequest now request
    ⟨r.1, s.trace ++ if r.2 = .pass then [.requested request] else []⟩
  | .registerReply reply =>
    let r := s.manager.registerReply reply
    ⟨r.1, s.trace ++ if r.2.2 = .pass then [.replied r.2.1] else []⟩
  | .timer now =>
    let r := s.manager.timerCallback now
    ⟨r.1, s.trace ++ r.2.map .timedOut⟩
  | .deinit => ⟨s.manager.deinit, s.trace ++ (outstanding s.manager).map .abandoned⟩

/-- The timer only fires while it is set. -/
def step (s : State) (input : Input) : Option State :=
  match input with
  | .timer _ => if s.manager.timer.isSome then some (handle s input) else none
  | _ => some (handle s input)

def start (requestTimeout : Option ℕ) : State := ⟨init requestTimeout, []⟩

def attempts (m : IcmpManager) (id : UInt16) : Option (List RequestAttempt) :=
  (m.requests.lookup id).map RequestInfo.tries

def Outstanding (m : IcmpManager) (key : Key) : Prop :=
  ∃ tries, attempts m key.1 = some tries ∧ ∃ attempt ∈ tries, attempt.seqno = key.2

def WellFormed (m : IcmpManager) : Prop :=
  ∀ id tries, attempts m id = some tries → tries ≠ [] ∧ (tries.map RequestAttempt.seqno).Nodup

structure Good (s : State) : Prop where
  wellFormed : WellFormed s.manager
  matched : Matched Record.opens Record.closes s.trace
  pending_iff : ∀ key, pending Record.opens Record.closes key s.trace = true ↔
    Outstanding s.manager key

section Tables

variable {m m' : IcmpManager} {id : UInt16} {tries tries' : List RequestAttempt}

def Sets (m m' : IcmpManager) (id : UInt16) (tries : List RequestAttempt) : Prop :=
  ∀ i, attempts m' i =
    if i = id then if tries.isEmpty then none else some tries else attempts m i

theorem sets_erase_or_replace {io : RequestInfo} (h : m.requests.lookup id = some io)
    (tries : List RequestAttempt) :
    Sets m { m with
      requests := if tries.isEmpty then m.requests.erase id
        else m.requests.replace id { io with tries } } id tries := by
  intro i
  cases tries with
  | nil =>
    refine (congrArg (Option.map _) (lookup_erase m.requests id i)).trans ?_
    split <;> rfl
  | cons a tries =>
    refine (congrArg (Option.map _) (lookup_replace m.requests id i _)).trans ?_
    rw [h]
    split <;> rfl

theorem WellFormed.sets (h : WellFormed m) (hs : Sets m m' id tries)
    (hd : (tries.map RequestAttempt.seqno).Nodup) : WellFormed m' := by
  intro i l hl
  rw [hs i] at hl
  split at hl
  · split at hl
    · cases hl
    · next he =>
      cases hl
      exact ⟨fun hn ↦ he (by rw [hn]; rfl), hd⟩
  · exact h i l hl

theorem Sets.outstanding_iff (hs : Sets m m' id ts) (key : Key) :
    Outstanding m' key ↔ if key.1 = id then ∃ a ∈ ts, a.seqno = key.2 else Outstanding m key := by
  simp only [Outstanding, hs key.1]
  by_cases hid : key.1 = id
  · cases ts <;> simp [hid]
  · simp [hid]

theorem Sets.outstanding_add {a : RequestAttempt}
    (hs : Sets m m' id ((attempts m id).getD [] ++ [a])) (key : Key) :
    Outstanding m' key ↔ key = (id, a.seqno) ∨ Outstanding m key := by
  rw [hs.outstanding_iff]
  obtain ⟨i, s⟩ := key
  by_cases hid : i = id
  · subst hid
    cases htrs : attempts m i with
    | none => simp [Outstanding, htrs, eq_comm]
    | some ts => simp [Outstanding, htrs, or_and_right, exists_or, or_comm, eq_comm]
  · simp [hid]

theorem exists_mem_filter_iff (hd : (tries.map RequestAttempt.seqno).Nodup)
    (keep : RequestAttempt → Bool) (seqno : UInt16) :
    (∃ a ∈ tries.filter keep, a.seqno = seqno) ↔
      (∃ a ∈ tries, a.seqno = seqno) ∧ ∀ a ∈ tries.filter fun a ↦ !keep a, a.seqno ≠ seqno := by
  simp only [mem_filter, Bool.not_eq_true']
  constructor
  · rintro ⟨a, ⟨hm, hk⟩, rfl⟩
    refine ⟨⟨a, hm, rfl⟩, fun other ho hs ↦ ?_⟩
    rw [inj_on_of_nodup_map hd ho.1 hm hs, hk] at ho
    cases ho.2
  · rintro ⟨⟨a, hm, rfl⟩, hn⟩
    refine ⟨a, ⟨hm, ?_⟩, rfl⟩
    by_contra hk
    exact hn a ⟨hm, by simpa using hk⟩ rfl

theorem Sets.outstanding_filter {keep : RequestAttempt → Bool}
    (hs : Sets m m' id (tries.filter keep)) (ht : attempts m id = some tries)
    (hn : (tries.map RequestAttempt.seqno).Nodup) (key : Key) :
    Outstanding m' key ↔ Outstanding m key ∧
      ∀ a ∈ tries.filter fun a ↦ !keep a, (id, a.seqno) ≠ key := by
  rw [hs.outstanding_iff]
  obtain ⟨i, seqno⟩ := key
  by_cases hid : i = id
  · subst hid
    simp only [Outstanding, ht, if_true, exists_mem_filter_iff hn, Option.some.injEq,
      exists_eq_left', ne_eq, Prod.mk.injEq, true_and]
  · simp [hid, Ne.symm hid]

theorem nodup_filter (hnd : (tries.map RequestAttempt.seqno).Nodup)
    (k : RequestAttempt → Bool) : ((tries.filter k).map RequestAttempt.seqno).Nodup :=
  hnd.sublist (filter_sublist.map _)

end Tables

section Outstanding

variable {m : IcmpManager}

/-- The computed list of what is outstanding, against its description. -/
theorem mem_outstanding (key : Key) : key ∈ outstanding m ↔ Outstanding m key := by
  obtain ⟨id, s⟩ := key
  simp only [outstanding, Outstanding, attempts, mem_flatMap, mem_map, Prod.mk.injEq,
    Option.map_eq_some_iff]
  constructor
  · rintro ⟨⟨i, io⟩, he, a, hm, rfl, hs⟩
    exact ⟨io.tries, ⟨io, AList.mem_lookup_iff.2 he, rfl⟩, a, hm, hs⟩
  · rintro ⟨_, ⟨io, hi, rfl⟩, a, hm, hs⟩
    exact ⟨⟨id, io⟩, AList.mem_lookup_iff.1 hi, a, hm, rfl, hs⟩

theorem nodup_outstanding (h : WellFormed m) : (outstanding m).Nodup := by
  rw [outstanding, nodup_flatMap]
  constructor
  · rintro ⟨id, info⟩ he
    have hl : m.requests.lookup id = some info := AList.mem_lookup_iff.2 he
    have hn := (h id info.tries (by rw [attempts, hl]; rfl)).2
    have hi : Function.Injective fun s : UInt16 ↦ (id, s) := Prod.mk_right_injective id
    simpa [Function.comp_def] using hn.map hi
  · have hs : m.requests.entries.Pairwise fun e e' ↦ e.1 ≠ e'.1 :=
      pairwise_map.1 m.requests.nodupKeys
    refine hs.imp fun hne key hy hk ↦ ?_
    obtain ⟨_, _, rfl⟩ := mem_map.1 hy
    obtain ⟨_, _, hq⟩ := mem_map.1 hk
    exact hne (congrArg Prod.fst hq).symm

end Outstanding

section Steps

variable {s : State} {m' : IcmpManager} {id : UInt16} {r : Record}

theorem Good.add (h : Good s) {a : RequestAttempt}
    (hs : Sets s.manager m' id ((attempts s.manager id).getD [] ++ [a]))
    (hw : ¬ Outstanding s.manager (id, a.seqno)) (ho : r.opens = some (id, a.seqno))
    (hl : r.closes = none) : Good ⟨m', s.trace ++ [r]⟩ := by
  have hp : pending Record.opens Record.closes (id, a.seqno) s.trace = false := by
    rw [← Bool.not_eq_true, h.pending_iff]
    exact hw
  refine ⟨h.wellFormed.sets hs ?_, h.matched.concat_of_opens ho hl hp, fun k ↦ ?_⟩
  · rw [map_append, map_singleton, nodup_append]
    cases htrs : attempts s.manager id with
    | none => simp
    | some ts =>
      refine ⟨(h.wellFormed id ts htrs).2, by simp, fun so hq s' h' he ↦ ?_⟩
      obtain ⟨o, hh, rfl⟩ := mem_map.1 hq
      rw [mem_singleton.1 h'] at he
      exact hw ⟨ts, htrs, o, hh, he⟩
  · rw [hs.outstanding_add, ← h.pending_iff]
    refine pending_concat_of_opens ho k fun hc ↦ ?_
    rw [hl] at hc
    cases hc

theorem Good.remove (h : Good s) {ts : List RequestAttempt} {keep : RequestAttempt → Bool}
    {rs : List Record} (hs : Sets s.manager m' id (ts.filter keep))
    (ht : attempts s.manager id = some ts) (ho : ∀ r ∈ rs, r.opens = none)
    (hc : rs.map Record.closes = (ts.filter fun a ↦ !keep a).map fun a ↦ some (id, a.seqno)) :
    Good ⟨m', s.trace ++ rs⟩ := by
  have hn := (h.wellFormed id ts ht).2
  refine ⟨h.wellFormed.sets hs (nodup_filter hn keep), ?_, fun key ↦ ?_⟩
  · refine h.matched.append_of_closes (fun r hr ↦ ⟨ho r hr, ?_⟩) ?_
    · have hm := mem_map_of_mem (f := Record.closes) hr
      rw [hc] at hm
      obtain ⟨a, ha, he⟩ := mem_map.1 hm
      exact ⟨_, he.symm, (h.pending_iff _).2 ⟨ts, ht, a, mem_of_mem_filter ha,
        rfl⟩⟩
    · have hi : Function.Injective fun so : UInt16 ↦ some (id, so) :=
        (Option.some_injective _).comp (Prod.mk_right_injective id)
      rw [hc]
      simpa [Function.comp_def] using (nodup_filter hn fun a ↦ !keep a).map hi
  · have hl : (∀ r ∈ rs, r.closes ≠ some key) ↔
        ∀ a ∈ ts.filter fun a ↦ !keep a, (id, a.seqno) ≠ key := by
      have hp := forall_mem_map (f := Record.closes) (l := rs) (P := fun c ↦ c ≠ some key)
      rw [← hp, hc, forall_mem_map]
      simp
    rw [hs.outstanding_filter ht hn, ← h.pending_iff, ← hl]
    exact pending_append_of_closes ho

theorem tries_getD (m : IcmpManager) (r : IcmpEchoRequest) :
    ((m.requests.lookup r.id).getD { originalPeer := r.peer }).tries =
      (attempts m r.id).getD [] := by
  rw [attempts]
  cases m.requests.lookup r.id with
  | none => rfl
  | some i => rfl

theorem any_seqno_iff (m : IcmpManager) (id s : UInt16) :
    ((attempts m id).getD []).any (·.seqno == s) = true ↔ Outstanding m (id, s) := by
  cases htrs : attempts m id with
  | none => simp [Outstanding, htrs]
  | some ts => simp [Outstanding, htrs]

theorem good_registerRequest (h : Good s) (now : ℕ) (r : IcmpEchoRequest) :
    Good (handle s (.registerRequest now r)) := by
  simp only [handle, registerRequest, tries_getD]
  split
  · next hw =>
    -- An id that has an attempt has an entry, which is not changed.
    obtain ⟨tries, ht, -⟩ := (any_seqno_iff _ _ _).1 hw
    obtain ⟨info, ho, -⟩ := Option.map_eq_some_iff.1 ht
    have hs : ∀ i, attempts { s.manager with
        requests := s.manager.requests.insert r.id
          ((s.manager.requests.lookup r.id).getD { originalPeer := r.peer }) } i =
        attempts s.manager i := by
      intro i
      rw [attempts, lookup_insert, ho, attempts]
      split
      · next hi => rw [hi, ho]; rfl
      · rfl
    refine ⟨fun i l hl ↦ h.wellFormed i l (hs i ▸ hl), ?_, fun key ↦ ?_⟩
    · simpa using h.matched
    · simpa [Outstanding, hs] using h.pending_iff key
  · next hw =>
    rw [any_seqno_iff] at hw
    refine @Good.add s _ r.id _ h ⟨r.seqno, now + s.manager.requestTimeout⟩ (fun i ↦ ?_) hw rfl rfl
    refine (congrArg (Option.map _) (lookup_insert _ r.id i _)).trans ?_
    split
    · simp
    · next hi => rw [lookup_insert, if_neg hi, attempts]

theorem findTry_spec {r : IcmpEchoReply} {tries : List RequestAttempt} {a : RequestAttempt}
    (h : findTry r tries = some a) : a ∈ tries := by
  rw [findTry] at h
  split at h
  · exact mem_of_find?_eq_some h
  · exact mem_of_head? h

theorem good_registerReply (h : Good s) (ry : IcmpEchoReply) :
    Good (handle s (.registerReply ry)) := by
  have hd : s.manager.registerReply ry = (s.manager, ry, .drop) →
      Good (handle s (.registerReply ry)) := by
    intro hd
    simpa [handle, hd] using h
  cases hinfo : s.manager.requests.lookup ry.id with
  | none => exact hd (by rw [registerReply, hinfo])
  | some info =>
    cases hfind : findTry ry info.tries with
    | none => exact hd (by simp only [registerReply, hinfo, hfind])
    | some att =>
      have ht : attempts s.manager ry.id = some info.tries := by rw [attempts, hinfo]; rfl
      have hm : att ∈ info.tries := findTry_spec hfind
      have hn : info.tries.Nodup := (h.wellFormed _ _ ht).2.of_map
      have he : (info.tries.filter fun a ↦ !(a != att)) = [att] := by
        simp only [bne, Bool.not_not]
        rw [filter_beq, count_eq_one_of_mem hn hm]
        rfl
      simp only [handle, registerReply, hinfo, hfind, if_true, hn.erase_eq_filter]
      refine h.remove (sets_erase_or_replace hinfo _) ht (fun r hr ↦ ?_) ?_
      · rw [mem_singleton.1 hr]
        rfl
      · rw [he]
        rfl

theorem good_timeOut (h : Good s) (now : ℕ) (id : UInt16) :
    Good ⟨(s.manager.timeOut now id).1, s.trace ++ (s.manager.timeOut now id).2.map .timedOut⟩ := by
  simp only [timeOut]
  split
  · simpa using h
  next info hi =>
  have ht : attempts s.manager id = some info.tries := by rw [attempts, hi]; rfl
  refine h.remove (sets_erase_or_replace hi _) ht (fun r hr ↦ ?_) ?_
  · obtain ⟨_, _, rfl⟩ := mem_map.1 hr
    rfl
  · rw [map_map, map_map]
    rfl

theorem good_timeOutAll (h : Good s) (n : ℕ) (i : List UInt16) :
    Good ⟨(timeOutAll n i s.manager).1,
      s.trace ++ (timeOutAll n i s.manager).2.map .timedOut⟩ := by
  induction i generalizing s with
  | nil => simpa [timeOutAll] using h
  | cons id i ih =>
    have hn := ih (good_timeOut h n id)
    simp only [timeOutAll, map_append, ← append_assoc]
    exact hn

theorem good_deinit (h : Good s) : Good (handle s .deinit) := by
  have hk : ((outstanding s.manager).map Record.abandoned).map Record.closes =
      (outstanding s.manager).map some := by
    rw [map_map]
    rfl
  refine ⟨fun i l hl ↦ ?_, h.matched.append_of_closes (fun r hr ↦ ?_) ?_, fun key ↦ ?_⟩
  · cases hl
  · obtain ⟨key, hy, rfl⟩ := mem_map.1 hr
    exact ⟨rfl, key, rfl, (h.pending_iff key).2 ((mem_outstanding key).1 hy)⟩
  · rw [hk]
    exact (nodup_outstanding h.wellFormed).map (Option.some_injective _)
  · have hn : ¬ Outstanding (handle s .deinit).manager key := by
      rintro ⟨ts, ht, -⟩
      cases ht
    have ho : ∀ r ∈ (outstanding s.manager).map Record.abandoned, r.opens = none := by
      intro r hr
      obtain ⟨_, _, rfl⟩ := mem_map.1 hr
      rfl
    rw [iff_false_right hn, handle, pending_append_of_closes ho, h.pending_iff, ← mem_outstanding]
    rintro ⟨hm, ha⟩
    exact ha (.abandoned key) (mem_map_of_mem hm) rfl

theorem good_step {t : State} {i : Input} (h : Good s) (hp : step s i = some t) : Good t := by
  cases i with
  | registerRequest n rt =>
    cases hp
    exact good_registerRequest h n rt
  | registerReply r =>
    cases hp
    exact good_registerReply h r
  | timer n =>
    simp only [step, Option.ite_none_right_eq_some, Option.some.injEq] at hp
    obtain ⟨-, rfl⟩ := hp
    exact good_timeOutAll h n _
  | deinit =>
    cases hp
    exact good_deinit h

end Steps

section Timer

variable {m : IcmpManager} {id : UInt16}

def Attempted (m : IcmpManager) (id : UInt16) (attempt : RequestAttempt) : Prop :=
  ∃ tries, attempts m id = some tries ∧ attempt ∈ tries

theorem lookup_timeOut_of_ne (n : ℕ) {i : UInt16} (hi : i ≠ id) :
    (m.timeOut n id).1.requests.lookup i = m.requests.lookup i := by
  rw [timeOut]
  split
  · rfl
  · dsimp only
    split
    · rw [lookup_erase, if_neg hi]
    · rw [lookup_replace, if_neg hi]

theorem attempted_timeOut (n : ℕ) (i : UInt16) (att : RequestAttempt) :
    Attempted (m.timeOut n id).1 i att ↔ Attempted m i att ∧ (i = id → n < att.timeoutTs) := by
  by_cases hi : i = id
  · subst hi
    cases hinfo : m.requests.lookup i with
    | none => simp [Attempted, attempts, timeOut, hinfo]
    | some io =>
      have ht : attempts m i = some io.tries := by rw [attempts, hinfo]; rfl
      have hs : Sets m (m.timeOut n i).1 i
          (io.tries.filter fun a ↦ n < a.timeoutTs) := by
        rw [timeOut, hinfo]
        exact sets_erase_or_replace hinfo _
      rw [Attempted, Attempted, hs i, ht, if_pos rfl]
      cases hleft : io.tries.filter fun a ↦ n < a.timeoutTs with
      | nil =>
        have he := filter_eq_nil_iff.1 hleft att
        simpa using he
      | cons a rest =>
        have hm : att ∈ io.tries ∧ n < att.timeoutTs ↔ att ∈ a :: rest := by
          rw [← hleft, mem_filter, decide_eq_true_eq]
        simp only [isEmpty_cons, Bool.false_eq_true, if_false, Option.some.injEq,
          exists_eq_left', forall_const]
        exact hm.symm
  · simp [Attempted, attempts, lookup_timeOut_of_ne n hi, hi]

theorem attempted_timeOutAll (n : ℕ) (ids : List UInt16) (i : UInt16) (a : RequestAttempt) :
    Attempted (timeOutAll n ids m).1 i a ↔ Attempted m i a ∧ (i ∈ ids → n < a.timeoutTs) := by
  induction ids generalizing m with
  | nil => simp [timeOutAll]
  | cons id ids ih =>
    rw [timeOutAll, ih, attempted_timeOut, mem_cons, and_assoc, or_imp]

theorem attempted_timerCallback (n : ℕ) (i : UInt16) (a : RequestAttempt) :
    Attempted (m.timerCallback n).1 i a ↔ Attempted m i a ∧ n < a.timeoutTs := by
  rw [timerCallback, attempted_timeOutAll]
  refine and_congr_right fun ⟨ts, ht, _⟩ ↦ ?_
  obtain ⟨info, hi, -⟩ := Option.map_eq_some_iff.1 ht
  have hk : i ∈ m.requests.keys := AList.lookup_isSome.1 (Option.isSome_of_eq_some hi)
  rw [(perm_insertionSort _ _).mem_iff]
  exact forall_prop_of_true hk

def Expired (m : IcmpManager) (now : ℕ) (reply : IcmpEchoReply) : Prop :=
  ∃ info attempt, m.requests.lookup reply.id = some info ∧ attempt ∈ info.tries ∧
    attempt.timeoutTs ≤ now ∧ reply = makeReplyOnTimeout reply.id info.originalPeer attempt.seqno

theorem mem_timeOut (n : ℕ) (reply : IcmpEchoReply) :
    reply ∈ (m.timeOut n id).2 ↔ reply.id = id ∧ Expired m n reply := by
  cases hinfo : m.requests.lookup id with
  | none =>
    rw [timeOut, hinfo]
    refine iff_of_false not_mem_nil ?_
    rintro ⟨rfl, i, -, hl, -⟩
    rw [hinfo] at hl
    cases hl
  | some i =>
    rw [timeOut, hinfo]
    simp only [mem_map, mem_filter, Bool.not_eq_true', decide_eq_false_iff_not, not_lt]
    constructor
    · rintro ⟨a, ⟨hm, ht⟩, rfl⟩
      exact ⟨rfl, i, a, hinfo, hm, ht, rfl⟩
    · rintro ⟨rfl, i', a, hl, hm, ht, hr⟩
      rw [hinfo, Option.some.injEq] at hl
      subst hl
      exact ⟨a, ⟨hm, ht⟩, hr.symm⟩

theorem mem_timeOutAll (n : ℕ) {i : List UInt16} (hs : i.Nodup) (reply : IcmpEchoReply) :
    reply ∈ (timeOutAll n i m).2 ↔ reply.id ∈ i ∧ Expired m n reply := by
  induction i generalizing m with
  | nil => simp [timeOutAll]
  | cons id i ih =>
    rw [nodup_cons] at hs
    rw [timeOutAll, mem_append, mem_timeOut, ih hs.2, mem_cons, or_and_right]
    refine or_congr Iff.rfl (and_congr_right fun hm ↦ ?_)
    have hn : reply.id ≠ id := fun he ↦ hs.1 (he ▸ hm)
    rw [Expired, Expired, lookup_timeOut_of_ne n hn]

/-- The timer answers exactly the requests that have expired. -/
theorem mem_timerCallback (n : ℕ) (reply : IcmpEchoReply) :
    reply ∈ (m.timerCallback n).2 ↔ Expired m n reply := by
  have hs := perm_insertionSort (· ≤ ·) m.requests.keys
  rw [timerCallback, mem_timeOutAll n (hs.nodup_iff.2 m.requests.nodupKeys), hs.mem_iff]
  refine and_iff_right_of_imp fun ⟨i, _, hi, _⟩ ↦ ?_
  exact AList.lookup_isSome.1 (Option.isSome_of_eq_some hi)

end Timer

/-- The run lemma: every request is outstanding or was answered once. -/
theorem good_run {t : Option ℕ} {s : State} {ls : List Input}
    (h : Run step anyStep (start t) ls s) : Good s := by
  refine h.invariant ⟨fun i l hl ↦ ?_, matched_nil, fun key ↦ iff_of_false ?_ ?_⟩
    fun _ _ _ hs _ hp ↦ good_step hs hp
  · cases hl
  · exact Bool.false_ne_true
  · rintro ⟨ts, ht, -⟩
    cases ht

/-- A request is outstanding until exactly one reply, timeout or deinitialization ends it, no id has
two attempts with one sequence number or an entry without attempts, and the timer ends exactly the
attempts that have expired. -/
theorem echo_requests_answered_once {timeout : Option ℕ} {s : State} {ls : List Input}
    (h : Run step anyStep (start timeout) ls s) :
    Matched Record.opens Record.closes s.trace ∧
    (∀ key, s.trace.countP (fun r ↦ r.opens = some key) =
      s.trace.countP (fun r ↦ r.closes = some key) + if key ∈ outstanding s.manager then 1 else 0) ∧
    WellFormed s.manager ∧
    (∀ reply m' reply', s.manager.registerReply reply = (m', reply', .pass) →
      (reply'.id, reply'.seqno) ∈ outstanding s.manager ∧
        (reply'.id, reply'.seqno) ∉ outstanding m') ∧
    ∀ now t, step s (.timer now) = some t →
      (∀ id attempt, Attempted t.manager id attempt ↔
        Attempted s.manager id attempt ∧ now < attempt.timeoutTs) ∧
      ∃ replies : List IcmpEchoReply, t.trace = s.trace ++ replies.map .timedOut ∧
        ∀ reply, reply ∈ replies ↔ Expired s.manager now reply := by
  have hg := good_run h
  refine ⟨hg.matched, fun key ↦ ?_, hg.wellFormed, fun reply m' reply' hp ↦ ?_, fun now t ht ↦ ?_⟩
  · rw [hg.matched.countP_eq (fun r k hr ↦ ?_) key]
    · simp only [mem_outstanding, ← hg.pending_iff]
    · cases r with
      | requested => rfl
      | replied => cases hr
      | timedOut => cases hr
      | abandoned => cases hr
  · have hn := good_registerReply hg reply
    simp only [handle, hp, if_true] at hn
    rw [mem_outstanding, mem_outstanding, ← hg.pending_iff, ← hn.pending_iff]
    refine ⟨(hn.matched s.trace _ [] rfl).2 _ rfl, fun hc ↦ ?_⟩
    have hs : (Record.replied reply').closes = some (reply'.id, reply'.seqno) := rfl
    exact ((pending_concat_of_closes hs rfl _).1 hc).1 rfl
  · simp only [step, Option.ite_none_right_eq_some, Option.some.injEq] at ht
    obtain ⟨-, rfl⟩ := ht
    exact ⟨attempted_timerCallback now, (s.manager.timerCallback now).2, rfl, mem_timerCallback now⟩

/-- Two requests, the first of which is answered by an error that names neither. -/
theorem echo_requests_answered_once_by_error :
    ∃ s, Run step anyStep (start none)
        [.registerRequest 0 ⟨⟨.inet, 0x08080808, 0⟩, 5, 1⟩,
          .registerRequest 10 ⟨⟨.inet, 0x08080808, 0⟩, 5, 2⟩,
          .registerReply ⟨⟨.inet, 0x0a000001, 0⟩, 5, 0, 11, 0⟩, .timer 3010] s ∧
      s.trace.countP (fun r ↦ r.opens = some (5, 1)) =
        s.trace.countP (fun r ↦ r.closes = some (5, 1)) +
          if (5, 1) ∈ outstanding s.manager then 1 else 0 :=
  exists_run_imp (P := fun _ ↦ True) (by decide)
    fun _ h _ ↦ (echo_requests_answered_once h).2.1 (5, 1)

end TrustTunnel.Icmp.Answers

import TrustTunnel.Lib.Transition

namespace TrustTunnel.Tun.EchoRequests

open Lib.Transition List

inductive ReplyType
  | echoReply
  | destinationUnreachable
  | timeExceeded
  | drop
  | other
deriving DecidableEq

/-- What becomes of a packet: freed, freed after an error message, or passed to lwIP for the
reply. -/
inductive Fate
  | freed
  | reported
  | passed
deriving DecidableEq

/-- The key is the id and the sequence number. The source of a reply is `none` if it is any. -/
structure IcmpRequestDescriptor where
  key : ℕ × ℕ
  buffer : ℕ
  replySrc : Option ℕ := none
  replyType : ReplyType := .echoReply
deriving DecidableEq

/-- The packets are numbered in the order in which they come. -/
structure IcmpManager where
  requests : List IcmpRequestDescriptor := []
  next : ℕ := 0
  fates : List (ℕ × Fate) := []

def finalizeIcmpRequest (request : IcmpRequestDescriptor) : Fate :=
  if request.replySrc = none then .freed
  else
    match request.replyType with
    | .echoReply => .passed
    | .destinationUnreachable | .timeExceeded => .reported
    | _ => .freed

namespace IcmpManager

variable (m : IcmpManager) (key : ℕ × ℕ)

def findDescriptor : Option IcmpRequestDescriptor := m.requests.find? (·.key == key)

def closeDescriptor : IcmpManager := { m with requests := m.requests.eraseP (·.key == key) }

def settle (buffer : ℕ) (fate : Fate) : IcmpManager := { m with fates := (buffer, fate) :: m.fates }

/-- The buffer of the request is not freed with it. -/
def forwardExistingIcmpEntry (request : IcmpRequestDescriptor) (buffer : ℕ) : IcmpManager :=
  (m.closeDescriptor request.key).settle buffer (finalizeIcmpRequest request)

/-- The handler of `TCPIP_EVENT_ICMP_ECHO` says whether the request is started. -/
def processNewIcmpRequest (buffer : ℕ) (started : Bool) : IcmpManager :=
  if started then { m with requests := ⟨key, buffer, none, .echoReply⟩ :: m.requests }
  else m.settle buffer .freed

def processIcmpReq (buffer : ℕ) (started : Bool) : IcmpManager :=
  match m.findDescriptor key with
  | some request => m.forwardExistingIcmpEntry request buffer
  | none => m.processNewIcmpRequest key buffer started

/-- `netif_input` runs `process_icmp_req` on the packet of the request. -/
def processReply (type : ReplyType) (peer : Option ℕ) : IcmpManager :=
  match m.findDescriptor key with
  | none => m
  | some request =>
    if type = .drop then (m.closeDescriptor key).settle request.buffer .freed
    else
      let request' := { request with replySrc := peer, replyType := type }
      { m with requests := request' :: m.requests.eraseP (·.key == key) }.processIcmpReq key
        request.buffer false

def cleanUp : IcmpManager :=
  { m with requests := [], fates := (m.requests.map fun r ↦ (r.buffer, .freed)) ++ m.fates }

end IcmpManager

inductive Input
  | packet (key : ℕ × ℕ) (started : Bool)
  | reply (key : ℕ × ℕ) (type : ReplyType) (peer : Option ℕ)
  | cleanUp

def step (m : IcmpManager) : Input → Option IcmpManager
  | .packet key started => some ({ m with next := m.next + 1 }.processIcmpReq key m.next started)
  | .reply key type peer => some (m.processReply key type peer)
  | .cleanUp => some m.cleanUp

/-- No packet comes with the id and the sequence number of an outstanding request. -/
def distinct (m : IcmpManager) : Input → Bool
  | .packet key _ => (m.findDescriptor key).isNone
  | _ => true

variable {m m' : IcmpManager} {key : ℕ × ℕ} {r : IcmpRequestDescriptor}

def IcmpManager.count (m : IcmpManager) (n : ℕ) : ℕ :=
  m.fates.countP (·.1 == n) + m.requests.countP (·.buffer == n)

def Good (m : IcmpManager) : Prop := ∀ n, m.count n = if n < m.next then 1 else 0

theorem split_of_find (h : m.findDescriptor key = some r) : r.key = key ∧ ∃ l₁ l₂,
    m.requests = l₁ ++ r :: l₂ ∧ m.requests.eraseP (·.key == key) = l₁ ++ l₂ := by
  obtain ⟨hk, l₁, l₂, he, hn⟩ := find?_eq_some_iff_append.1 h
  refine ⟨eq_of_beq hk, l₁, l₂, he, ?_⟩
  rw [he, eraseP_append_right _ (by simpa using hn)]
  exact congrArg _ (eraseP_cons_of_pos hk)

/-- A reply closes its request and settles the buffer, whatever its type. -/
theorem processReply_eq (h : m.findDescriptor key = some r) (type : ReplyType)
    (p : Option ℕ) : ∃ fate, m.processReply key type p =
      (m.closeDescriptor key).settle r.buffer fate ∧
        (type ≠ .drop → fate = finalizeIcmpRequest ⟨key, r.buffer, p, type⟩) := by
  obtain ⟨hk, -⟩ := split_of_find h
  simp only [IcmpManager.processReply, h]
  split
  · exact ⟨_, rfl, fun hn ↦ absurd ‹_› hn⟩
  · refine ⟨_, ?_, fun _ ↦ rfl⟩
    simp [IcmpManager.processIcmpReq, IcmpManager.findDescriptor, hk,
      IcmpManager.forwardExistingIcmpEntry, IcmpManager.closeDescriptor, IcmpManager.settle]

theorem Good.close (hg : Good m) (h : m.findDescriptor key = some r) (fate : Fate) :
    Good ((m.closeDescriptor key).settle r.buffer fate) := fun n ↦ by
  obtain ⟨-, l₁, l₂, he, herase⟩ := split_of_find h
  refine Eq.trans ?_ (hg n)
  simp only [IcmpManager.count, IcmpManager.settle, IcmpManager.closeDescriptor, herase]
  rw [he]
  simp only [countP_append, countP_cons]
  omega

theorem processIcmpReq_new (h : (m.findDescriptor k).isNone = true) (started : Bool) :
    { m with next := m.next + 1 }.processIcmpReq k m.next started =
      { m with next := m.next + 1 }.processNewIcmpRequest k m.next started := by
  have hn : ({ m with next := m.next + 1 } : IcmpManager).findDescriptor k = none :=
    Option.isNone_iff_eq_none.1 h
  simp only [IcmpManager.processIcmpReq, hn]

/-- The step lemma: each buffer is held by one request or was settled once. -/
theorem Good.step {i : Input} (hg : Good m) (ho : distinct m i = true) (h : step m i = some m') :
    Good m' := by
  cases i with
  | packet k s =>
    cases h
    rw [processIcmpReq_new ho, IcmpManager.processNewIcmpRequest]
    intro n
    have hn := hg n
    simp only [IcmpManager.count] at hn
    cases s <;> simp [IcmpManager.count, IcmpManager.settle, countP_cons] <;> grind
  | reply k type p =>
    cases h
    cases hf : m.findDescriptor k with
    | none => simpa only [IcmpManager.processReply, hf] using hg
    | some r =>
      obtain ⟨f, he, -⟩ := processReply_eq hf type p
      rw [he]
      exact hg.close hf f
  | cleanUp =>
    cases h
    intro n
    refine Eq.trans ?_ (hg n)
    simp [IcmpManager.count, IcmpManager.cleanUp, Function.comp_def]
    omega

theorem mem_closeDescriptor (h : r ∈ m.requests) (hk : r.key ≠ key) :
    r ∈ (m.closeDescriptor key).requests :=
  (mem_eraseP_of_neg (by simpa using hk)).2 h

/-- Every packet waits in a request, or was freed or passed on once. A request stays until a
notification with its key or the clean-up, and a reply is finished with its packet. -/
theorem echo_requests_independent {ls : List Input}
    (h : Run step (fun m i ↦ distinct m i = true) {} ls m) :
    (∀ n < m.next, m.count n = 1) ∧
      (∀ i m', distinct m i = true → step m i = some m' → ∀ r ∈ m.requests, r ∈ m'.requests ∨
        i = .cleanUp ∨ ∃ type peer, i = .reply r.key type peer) ∧
      ∀ key r type peer, m.findDescriptor key = some r → type ≠ .drop →
        (r.buffer, finalizeIcmpRequest ⟨key, r.buffer, peer, type⟩) ∈
          (m.processReply key type peer).fates := by
  have hg : Good m := h.invariant (fun n ↦ rfl) fun _ _ _ hg ho hs ↦ hg.step ho hs
  refine ⟨fun n hn ↦ (hg n).trans (if_pos hn), fun i m' ho hs r hr ↦ ?_,
    fun key r type peer hf hne ↦ ?_⟩
  · cases i with
    | packet key s =>
      cases hs
      rw [processIcmpReq_new ho]
      cases s
      · exact .inl hr
      · exact .inl (mem_cons_of_mem _ hr)
    | reply key type peer =>
      cases hs
      by_cases hk : r.key = key
      · exact .inr (.inr ⟨type, peer, by rw [hk]⟩)
      · left
        cases hf : m.findDescriptor key with
        | none => simpa only [IcmpManager.processReply, hf] using hr
        | some x =>
          obtain ⟨f, he, -⟩ := processReply_eq hf type peer
          rw [he]
          exact mem_closeDescriptor hr hk
    | cleanUp => exact .inr (.inl rfl)
  · obtain ⟨f, he, ha⟩ := processReply_eq hf type peer
    rw [he, ← ha hne]
    exact mem_cons_self

/-- Two requests with one id, of which the first is answered. -/
theorem echo_requests_independent_of_two :
    ∃ m, Run step (fun m i ↦ distinct m i = true) {} [.packet (1, 1) true, .packet (1, 2) true,
      .reply (1, 1) .echoReply (some 9)] m ∧ m.next = 2 ∧ m.count 0 = 1 :=
  exists_run_imp (P := fun m : IcmpManager ↦ m.next = 2) (by decide) fun _ h hn ↦
    ⟨hn, (echo_requests_independent h).1 0 (by rw [hn]; decide)⟩

/-- A second packet with the key of an outstanding request removes the request, and the first
packet is neither freed nor passed on: the reply finds no request. -/
theorem second_packet_removes_request :
    ∃ m, Run step anyStep {} [.packet (1, 1) true, .packet (1, 1) true,
      .reply (1, 1) .echoReply (some 9)] m ∧ m.requests = [] ∧ m.fates = [(1, .freed)] :=
  exists_run (by decide)

end TrustTunnel.Tun.EchoRequests

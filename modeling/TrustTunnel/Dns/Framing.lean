import TrustTunnel.Dns.ClientListener
import TrustTunnel.Dns.ServerUpstream

namespace TrustTunnel.Dns.Framing

open Lib.Assoc Messages List

variable {message : Message} {id : ℕ}

def split (buf : List UInt8) : List Message × List UInt8 := readMessages buf.length buf

def announced (hi lo : UInt8) : ℕ := hi.toNat * 256 + lo.toNat

theorem readMessages_cons (f : ℕ) (hi lo : UInt8) (r : List UInt8) :
    readMessages (f + 1) (hi :: lo :: r) =
      if r.length < announced hi lo then ([], hi :: lo :: r)
      else
        (r.take (announced hi lo) :: (readMessages f (r.drop (announced hi lo))).1,
          (readMessages f (r.drop (announced hi lo))).2) := rfl

theorem readMessages_fuel {fl f : ℕ} {buf : List UInt8} (h : buf.length ≤ fl)
    (h' : buf.length ≤ f) : readMessages fl buf = readMessages f buf := by
  induction fl generalizing f buf with
  | zero =>
    have hn : buf = [] := length_eq_zero_iff.1 (by omega)
    subst hn
    cases f <;> rfl
  | succ fl ih =>
    rcases buf with _ | ⟨hi, _ | ⟨lo, r⟩⟩
    · cases f <;> rfl
    · cases f <;> rfl
    · simp only [length_cons] at h h'
      obtain ⟨n, rfl⟩ : ∃ n, f = n + 1 := ⟨f - 1, by omega⟩
      have hl : (r.drop (announced hi lo)).length ≤ r.length := by
        rw [length_drop]
        omega
      have hr := ih (Nat.le_trans hl (by omega)) (Nat.le_trans hl (show _ ≤ n by omega))
      rw [readMessages_cons, readMessages_cons, hr]

theorem split_short {b : List UInt8} (h : b.length < 2) : split b = ([], b) := by
  rcases b with _ | ⟨hi, _ | ⟨lo, rest⟩⟩
  · rfl
  · rfl
  · simp only [length_cons] at h
    omega

theorem split_incomplete {hi lo : UInt8} {r : List UInt8} (h : r.length < announced hi lo) :
    split (hi :: lo :: r) = ([], hi :: lo :: r) := by
  rw [split, length_cons, readMessages_cons, if_pos h]

theorem split_whole {hi lo : UInt8} {m rest : List UInt8} (h : m.length = announced hi lo) :
    split (hi :: lo :: (m ++ rest)) = (m :: (split rest).1, (split rest).2) := by
  have hl : ¬ (m ++ rest).length < announced hi lo := by
    rw [length_append]
    omega
  have hf : readMessages (lo :: (m ++ rest)).length rest = split rest := by
    refine readMessages_fuel ?_ (Nat.le_refl _)
    rw [length_cons, length_append]
    omega
  rw [split, length_cons, readMessages_cons, if_neg hl, ← h, drop_left, take_left, hf]

theorem split_cases (b : List UInt8) : b.length < 2 ∨
    (∃ hi lo r, b = hi :: lo :: r ∧ r.length < announced hi lo) ∨
    ∃ hi lo m r, b = hi :: lo :: (m ++ r) ∧ m.length = announced hi lo := by
  rcases b with _ | ⟨hi, _ | ⟨lo, r⟩⟩
  · exact .inl Nat.zero_lt_two
  · exact .inl Nat.one_lt_two
  · by_cases h : r.length < announced hi lo
    · exact .inr (.inl ⟨hi, lo, r, rfl, h⟩)
    · refine .inr (.inr ⟨hi, lo, r.take (announced hi lo), r.drop (announced hi lo), ?_, ?_⟩)
      · rw [take_append_drop]
      · rw [length_take]
        omega

theorem split_append (a b : List UInt8) : split (a ++ b) =
    ((split a).1 ++ (split ((split a).2 ++ b)).1, (split ((split a).2 ++ b)).2) := by
  induction hn : a.length using Nat.strong_induction_on generalizing a with
  | _ n ih =>
    rcases split_cases a with hs | ⟨hi, lo, r, rfl, hp⟩ | ⟨hi, lo, m, r, rfl, hw⟩
    · rw [split_short hs, nil_append]
    · rw [split_incomplete hp, nil_append]
    · have hl : r.length < n := by
        simp only [length_cons, length_append] at hn
        omega
      rw [cons_append, cons_append, append_assoc, split_whole hw, split_whole hw,
        ih r.length hl r rfl]
      rfl

theorem writeDnsMessage_eq (h : message.length ≤ 65535) :
    ∃ hi lo, writeDnsMessage message = hi :: lo :: message ∧ message.length = announced hi lo := by
  have hm : message.length % 2 ^ 16 = message.length := Nat.mod_eq_of_lt (by omega)
  refine ⟨UInt8.ofNat (message.length / 256), UInt8.ofNat (message.length % 256), ?_, ?_⟩
  · simp only [writeDnsMessage, hm, take_length]
    rfl
  · have hh : (UInt8.ofNat (message.length / 256)).toNat = message.length / 256 % 256 :=
      UInt8.toNat_ofNat'
    have hl : (UInt8.ofNat (message.length % 256)).toNat = message.length % 256 % 256 :=
      UInt8.toNat_ofNat'
    rw [announced, hh, hl]
    omega

theorem split_writeDnsMessage (h : m.length ≤ 65535) (r : List UInt8) :
    split (writeDnsMessage m ++ r) = (m :: (split r).1, (split r).2) := by
  obtain ⟨hi, lo, hw, hl⟩ := writeDnsMessage_eq h
  rw [hw, cons_append, cons_append, split_whole hl]

def completed : ℕ → List Message → List Message
  | _, [] => []
  | length, message :: messages =>
    if (writeDnsMessage message).length ≤ length then
      message :: completed (length - (writeDnsMessage message).length) messages
    else []

theorem split_take_writeDnsMessage (h : message.length ≤ 65535) {l : ℕ}
    (hl : l < (writeDnsMessage message).length) :
    (split ((writeDnsMessage message).take l)).1 = [] := by
  obtain ⟨hi, lo, hw, hn⟩ := writeDnsMessage_eq h
  rw [hw] at hl ⊢
  by_cases hshort : l < 2
  · rw [split_short]
    rw [length_take]
    omega
  · obtain ⟨n, rfl⟩ : ∃ n, l = n + 2 := ⟨l - 2, by omega⟩
    rw [take_succ_cons, take_succ_cons, split_incomplete]
    simp only [length_cons] at hl
    rw [length_take]
    omega

theorem split_take {messages : List Message} (h : ∀ m ∈ messages, m.length ≤ 65535) (l : ℕ) :
    (split ((messages.flatMap writeDnsMessage).take l)).1 = completed l messages := by
  induction messages generalizing l with
  | nil => simp [completed, split_short]
  | cons me messages ih =>
    have he := h me mem_cons_self
    have hr := ih fun m hm ↦ h m (mem_cons_of_mem me hm)
    simp only [completed, flatMap_cons]
    split
    · next hl =>
      rw [take_append, take_of_length_le hl, split_writeDnsMessage he, hr]
    · next ht =>
      have hlt' := Nat.not_le.1 ht
      rw [take_append_of_le_length (Nat.le_of_lt hlt')]
      exact split_take_writeDnsMessage he hlt'

theorem split_flatMap {ms : List Message} (h : ∀ m ∈ ms, m.length ≤ 65535) :
    split (ms.flatMap writeDnsMessage) = (ms, []) := by
  induction ms with
  | nil => rfl
  | cons me ms ih =>
    rw [flatMap_cons, split_writeDnsMessage (h me mem_cons_self),
      ih fun m hm ↦ h m (mem_cons_of_mem me hm)]

def feed : List UInt8 → List (List UInt8) → List Message × List UInt8
  | buf, [] => ([], buf)
  | buf, chunk :: chunks =>
    ((split (buf ++ chunk)).1 ++ (feed (split (buf ++ chunk)).2 chunks).1,
      (feed (split (buf ++ chunk)).2 chunks).2)

theorem feed_split (b : List UInt8) (cs : List (List UInt8)) :
    ((split b).1 ++ (feed (split b).2 cs).1, (feed (split b).2 cs).2) =
      split (b ++ cs.flatten) := by
  induction cs generalizing b with
  | nil => simp [feed]
  | cons c cs ih =>
    rw [flatten_cons, ← append_assoc, ← ih (b ++ c), split_append b c, feed, append_assoc]

theorem feed_nil (cs : List (List UInt8)) : feed [] cs = split cs.flatten := by
  have h := feed_split [] cs
  rw [split_short (by simp), nil_append, nil_append] at h
  exact h

section Directions

def sendRequests (u : ServerUpstream.UpstreamBase) (id : ℕ) (chunks : List (List UInt8)) :
    ServerUpstream.UpstreamBase :=
  chunks.foldl (fun u chunk ↦ (u.send id chunk).1) u

def sendResponses (l : ClientListener.ListenerBase) (id : ℕ) (chunks : List (List UInt8)) :
    ClientListener.ListenerBase :=
  chunks.foldl (fun l chunk ↦ (l.send id chunk).1) l

/-- The chunks that a client sends come out as the messages that they frame. -/
theorem sendRequests_eq {u : ServerUpstream.UpstreamBase} {cn : ServerUpstream.Connection}
    (h : u.connections.lookup id = some cn) (hp : cn.proto = .tcp) (cs : List (List UInt8)) :
    (sendRequests u id cs).trace =
        u.trace ++ (feed cn.sndBuf cs).1.map (.dnsRequest id) ∧
      (sendRequests u id cs).connections.lookup id =
        some { cn with sndBuf := (feed cn.sndBuf cs).2 } := by
  induction cs generalizing u cn with
  | nil => simp [sendRequests, feed, h]
  | cons c cs ih =>
    have hs : (u.send id c).1.connections.lookup id =
        some { cn with sndBuf := (split (cn.sndBuf ++ c)).2 } := by
      simp [ServerUpstream.UpstreamBase.send, h, ServerUpstream.UpstreamBase.dnsRequests,
        ServerUpstream.UpstreamBase.modifyConnection, lookup_modify,
        ServerUpstream.UpstreamBase.receive, hp, split]
    have ht : (u.send id c).1.trace =
        u.trace ++ (split (cn.sndBuf ++ c)).1.map (.dnsRequest id) := by
      simp [ServerUpstream.UpstreamBase.send, h, ServerUpstream.UpstreamBase.dnsRequests,
        ServerUpstream.UpstreamBase.modifyConnection, ServerUpstream.UpstreamBase.receive, hp,
        split]
    have hr := ih hs hp
    rw [ht, append_assoc, ← map_append] at hr
    exact hr

/-- The same for the chunks of a server. -/
theorem sendResponses_eq {l : ClientListener.ListenerBase} {cn : ClientListener.Connection}
    (h : l.connections.lookup id = some cn) (hp : cn.proto = .tcp) (cs : List (List UInt8)) :
    (sendResponses l id cs).trace =
        l.trace ++ (feed cn.rcvBuf cs).1.map (.dnsResponse cn.upstreamConnId) ∧
      (sendResponses l id cs).connections.lookup id =
        some { cn with rcvBuf := (feed cn.rcvBuf cs).2 } := by
  induction cs generalizing l cn with
  | nil => simp [sendResponses, feed, h]
  | cons c cs ih =>
    have hs : (l.send id c).1.connections.lookup id =
        some { cn with rcvBuf := (split (cn.rcvBuf ++ c)).2 } := by
      simp [ClientListener.ListenerBase.send, h, ClientListener.ListenerBase.dnsResponses,
        ClientListener.ListenerBase.modifyConnection, lookup_modify, ClientListener.receive, hp,
        split]
    have ht : (l.send id c).1.trace =
        l.trace ++ (split (cn.rcvBuf ++ c)).1.map (.dnsResponse cn.upstreamConnId) := by
      simp [ClientListener.ListenerBase.send, h, ClientListener.ListenerBase.dnsResponses,
        ClientListener.ListenerBase.modifyConnection, ClientListener.receive, hp, split]
    have hr := ih hs hp
    rw [ht, append_assoc, ← map_append] at hr
    exact hr

theorem send_result {u : ServerUpstream.UpstreamBase} {cn : ServerUpstream.Connection}
    (h : u.connections.lookup id = some cn) (c : List UInt8) : (u.send id c).2 = some c.length := by
  simp only [ServerUpstream.UpstreamBase.send, h]

theorem send_result_listener {l : ClientListener.ListenerBase} {cn : ClientListener.Connection}
    (h : l.connections.lookup id = some cn) (c : List UInt8) : (l.send id c).2 = some c.length := by
  simp only [ClientListener.ListenerBase.send, h]

end Directions

section Cuts

variable {messages : List Message} {chunks : List (List UInt8)}

/-- After some of the chunks, the messages that are complete by then. -/
theorem feed_take (hm : ∀ m ∈ messages, m.length ≤ 65535)
    (h : chunks.flatten = messages.flatMap writeDnsMessage) (k : ℕ) :
    (feed [] (chunks.take k)).1 = completed (chunks.take k).flatten.length messages := by
  have hp : (chunks.take k).flatten <+: messages.flatMap writeDnsMessage :=
    ⟨(chunks.drop k).flatten, by rw [← flatten_append, take_append_drop, h]⟩
  rw [feed_nil, ← split_take hm, ← prefix_iff_eq_take.1 hp]

/-- However the messages are cut, they come out whole and nothing is left. -/
theorem feed_cut (hm : ∀ m ∈ messages, m.length ≤ 65535)
    (h : chunks.flatten = messages.flatMap writeDnsMessage) : feed [] chunks = (messages, []) := by
  rw [feed_nil, h, split_flatMap hm]

/-- However the encodings are cut into chunks, each direction passes on every message once,
unchanged and with the chunk that completes it, and keeps nothing. -/
theorem tcp_framing (hm : ∀ m ∈ messages, m.length ≤ 65535)
    (hcut : chunks.flatten = messages.flatMap writeDnsMessage) :
    (∀ (u : ServerUpstream.UpstreamBase) (id : ℕ) (conn : ServerUpstream.Connection),
      u.connections.lookup id = some conn → conn.proto = .tcp → conn.sndBuf = [] →
        (∀ k, (sendRequests u id (chunks.take k)).trace =
          u.trace ++ (completed (chunks.take k).flatten.length messages).map (.dnsRequest id)) ∧
        (sendRequests u id chunks).trace = u.trace ++ messages.map (.dnsRequest id) ∧
        (sendRequests u id chunks).connections.lookup id = some conn ∧
        ∀ k chunk, ((sendRequests u id (chunks.take k)).send id chunk).2 = some chunk.length) ∧
    ∀ (l : ClientListener.ListenerBase) (id : ℕ) (conn : ClientListener.Connection),
      l.connections.lookup id = some conn → conn.proto = .tcp → conn.rcvBuf = [] →
        (∀ k, (sendResponses l id (chunks.take k)).trace = l.trace ++
          (completed (chunks.take k).flatten.length messages).map
            (.dnsResponse conn.upstreamConnId)) ∧
        (sendResponses l id chunks).trace =
          l.trace ++ messages.map (.dnsResponse conn.upstreamConnId) ∧
        (sendResponses l id chunks).connections.lookup id = some conn ∧
        ∀ k chunk, ((sendResponses l id (chunks.take k)).send id chunk).2 = some chunk.length := by
  refine ⟨fun u id conn hc ht hb ↦ ?_, fun l id conn hc ht hb ↦ ?_⟩
  · have hs := sendRequests_eq hc ht
    rw [hb] at hs
    refine ⟨fun k ↦ ?_, ?_, ?_, fun k chunk ↦ send_result (hs _).2 chunk⟩
    · rw [(hs _).1, feed_take hm hcut]
    · rw [(hs _).1, feed_cut hm hcut]
    · rw [(hs _).2, feed_cut hm hcut, ← hb]
  · have hs := sendResponses_eq hc ht
    rw [hb] at hs
    refine ⟨fun k ↦ ?_, ?_, ?_, fun k chunk ↦ send_result_listener (hs _).2 chunk⟩
    · rw [(hs _).1, feed_take hm hcut]
    · rw [(hs _).1, feed_cut hm hcut]
    · rw [(hs _).2, feed_cut hm hcut, ← hb]

/-- Two messages, one of them empty, that are cut inside a length. -/
theorem tcp_framing_of_cut :
    (sendRequests
      { connections := (∅ : AList fun _ : ℕ ↦ ServerUpstream.Connection).insert 1
          { proto := .tcp, addrs := ⟨⟨.inet, 0, 0⟩, .socketAddress ⟨.inet, 0, 53⟩⟩,
            appName := "" } } 1 [[0], [2, 7], [8, 0, 0]]).trace =
      [.dnsRequest 1 [7, 8], .dnsRequest 1 []] :=
  ((@tcp_framing [[7, 8], []] _ (by decide) (by decide)).1 _ _ _
    (AList.lookup_insert _) rfl rfl).2.1

end Cuts

end TrustTunnel.Dns.Framing

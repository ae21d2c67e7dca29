import TrustTunnel.Net.Wire
import TrustTunnel.Icmp.Manager

namespace TrustTunnel.Icmp.Multiplexer

open Net.Wire Manager List

def icmppktReplySize : ℕ := 2 + ipv6AddrSize + 1 + 1 + 2

def readReply (rawReply : List UInt8) : Option IcmpEchoReply := do
  let (id, rest) ← getU16 rawReply
  let (peer, rest) ← getIpPadded rest
  let (type, rest) ← getU8 rest
  let (code, rest) ← getU8 rest
  let (seqno, _) ← getU16 rest
  return { peer, id := .ofNat id, seqno := .ofNat seqno, type := .ofNat type, code := .ofNat code }

structure HttpIcmpMultiplexer where
  replyBuffer : List UInt8 := []
  partly : replyBuffer.length < icmppktReplySize := by decide

def processReplyChunk (m : HttpIcmpMultiplexer) (data : List UInt8) :
    HttpIcmpMultiplexer × List UInt8 × List IcmpEchoReply :=
  if m.replyBuffer = [] ∧ icmppktReplySize ≤ data.length then
    ({}, data.drop icmppktReplySize, (readReply (data.take icmppktReplySize)).toList)
  else
    let toRead := min data.length (icmppktReplySize - m.replyBuffer.length)
    let replyBuffer := m.replyBuffer ++ data.take toRead
    if h : replyBuffer.length < icmppktReplySize then (⟨replyBuffer, h⟩, data.drop toRead, [])
    else ({}, data.drop toRead, (readReply replyBuffer).toList)

theorem length_processReplyChunk_lt (m : HttpIcmpMultiplexer) {d : List UInt8}
    (h : d ≠ []) : (processReplyChunk m d).2.1.length < d.length := by
  have hs : 0 < d.length := length_pos_of_ne_nil h
  have hp := m.partly
  simp only [processReplyChunk]
  split
  · rw [length_drop, icmppktReplySize]
    omega
  · split
    all_goals
      rw [length_drop]
      omega

def processReadEvent (m : HttpIcmpMultiplexer) (data : List UInt8) :
    HttpIcmpMultiplexer × List IcmpEchoReply :=
  if data = [] then (m, [])
  else
    let r := processReplyChunk m data
    let s := processReadEvent r.1 r.2.1
    (s.1, r.2.2 ++ s.2)
termination_by data.length
decreasing_by exact length_processReplyChunk_lt m ‹_›

def receive (m : HttpIcmpMultiplexer) : List (List UInt8) → HttpIcmpMultiplexer × List IcmpEchoReply
  | [] => (m, [])
  | data :: rest =>
    let r := processReadEvent m data
    let s := receive r.1 rest
    (s.1, r.2 ++ s.2)

/-- A record is the id, the source address, the type, the code and the sequence number. -/
def replyOf (record : List UInt8) : IcmpEchoReply where
  id := .ofNat (number (record.take 2))
  peer := paddedAddress ((record.drop 2).take ipv6AddrSize)
  type := record.getD 18 0
  code := record.getD 19 0
  seqno := .ofNat (number (record.drop 20))

def decode (bytes : List UInt8) : List IcmpEchoReply × List UInt8 :=
  if bytes.length < icmppktReplySize then ([], bytes)
  else
    let r := decode (bytes.drop icmppktReplySize)
    (replyOf (bytes.take icmppktReplySize) :: r.1, r.2)
termination_by bytes.length
decreasing_by
  rw [length_drop]
  have : 0 < icmppktReplySize := by decide
  omega

theorem decode_of_lt {bs : List UInt8} (h : bs.length < icmppktReplySize) :
    decode bs = ([], bs) := by
  rw [decode, if_pos h]

theorem decode_record_append {r : List UInt8} (h : r.length = icmppktReplySize) (bs : List UInt8) :
    decode (r ++ bs) = (replyOf r :: (decode bs).1, (decode bs).2) := by
  have hl : ¬ (r ++ bs).length < icmppktReplySize := by
    rw [length_append]
    omega
  rw [decode, if_neg hl, take_left' h, drop_left' h]

theorem decode_append (a b : List UInt8) : decode (a ++ b) =
    ((decode a).1 ++ (decode ((decode a).2 ++ b)).1, (decode ((decode a).2 ++ b)).2) := by
  induction hn : a.length using Nat.strong_induction_on generalizing a with
  | _ n ih =>
    by_cases hlt : a.length < icmppktReplySize
    · rw [decode_of_lt hlt]
      rfl
    · have hc : (a.take icmppktReplySize).length = icmppktReplySize :=
        length_take_of_le (Nat.not_lt.1 hlt)
      have hp : 0 < icmppktReplySize := by decide
      have hr : (a.drop icmppktReplySize).length < n := by
        rw [length_drop]
        omega
      have hd := ih _ hr (a.drop icmppktReplySize) rfl
      rw [← take_append_drop icmppktReplySize a, append_assoc,
        decode_record_append hc, decode_record_append hc, hd, cons_append]

/-- A record of the documented size is read field by field. -/
theorem readReply_record {r : List UInt8} (h : r.length = icmppktReplySize) :
    readReply r = some (replyOf r) := by
  change _ = 22 at h
  have hi : getU16 r = some (number (r.take 2), r.drop 2) := getNumber_of_le (by omega)
  have hp : ipv6AddrSize ≤ (r.drop 2).length := by
    rw [length_drop, h]
    decide
  have hr : (r.drop 18).length = 4 := by rw [length_drop, h]
  obtain ⟨type, c, high, low, hb⟩ := length_eq_four.1 hr
  have hg : ∀ n, r.getD (18 + n) 0 = [type, c, high, low].getD n 0 := by
    intro n
    rw [← hb]
    simp [getD]
  have ht : r.getD 18 0 = type := hg 0
  have hc : r.getD 19 0 = c := hg 1
  have hs : r.drop 20 = [high, low] := by
    rw [← drop_drop (i := 2) (j := 18), hb]
    rfl
  simp only [readReply, replyOf, hi, getIpPadded_of_le hp, drop_drop, ipv6AddrSize, hb, ht, hc, hs,
    Option.bind_eq_bind, Option.bind_some]
  simp [getU8, getU16, getNumber, getBytes, number]

theorem processReplyChunk_decode {m : HttpIcmpMultiplexer} {d : List UInt8}
    {r : HttpIcmpMultiplexer × List UInt8 × List IcmpEchoReply}
    (hr : processReplyChunk m d = r) : decode (m.replyBuffer ++ d) =
      (r.2.2 ++ (decode (r.1.replyBuffer ++ r.2.1)).1, (decode (r.1.replyBuffer ++ r.2.1)).2) := by
  subst hr
  have hp := m.partly
  simp only [processReplyChunk]
  split
  · next h =>
    have hc := length_take_of_le h.2
    rw [h.1, nil_append, readReply_record hc, Option.toList_some, singleton_append,
      ← decode_record_append hc, nil_append, take_append_drop]
  · split
    · rw [append_assoc, take_append_drop]
      rfl
    · next hf =>
      have hc : (m.replyBuffer ++ d.take
          (min d.length (icmppktReplySize - m.replyBuffer.length))).length =
            icmppktReplySize := by
        rw [length_append, length_take] at hf ⊢
        omega
      rw [nil_append, readReply_record hc, Option.toList_some, singleton_append,
        ← decode_record_append hc, append_assoc, take_append_drop]

theorem processReadEvent_decode (m : HttpIcmpMultiplexer) (d : List UInt8) :
    decode (m.replyBuffer ++ d) =
      ((processReadEvent m d).2, (processReadEvent m d).1.replyBuffer) := by
  fun_induction processReadEvent m d with
  | case1 m => rw [append_nil, decode_of_lt m.partly]
  | case2 m d h r s ih => rw [processReplyChunk_decode rfl, ih]

/-- The chunks are read as if they had come in one. -/
theorem receive_decode (m : HttpIcmpMultiplexer) (cs : List (List UInt8)) :
    decode (m.replyBuffer ++ cs.flatten) = ((receive m cs).2, (receive m cs).1.replyBuffer) := by
  induction cs generalizing m with
  | nil => rw [flatten_nil, append_nil, decode_of_lt m.partly]; rfl
  | cons d rest ih =>
    rw [flatten_cons, ← append_assoc, decode_append, processReadEvent_decode, ih]
    rfl

/-- The replies of a stream, and what is kept of it, are those of its consecutive records, however
it is cut into chunks. Each complete record has the reply that it is documented to hold. -/
theorem replies_of_records (chunks : List (List UInt8)) :
    (receive {} chunks).2 = (decode chunks.flatten).1 ∧
      (receive {} chunks).1.replyBuffer = (decode chunks.flatten).2 ∧
      ∀ record : List UInt8, record.length = icmppktReplySize →
        readReply record = some (replyOf record) := by
  have hd : decode chunks.flatten = _ := receive_decode {} chunks
  rw [hd]
  exact ⟨rfl, rfl, fun record h ↦ readReply_record h⟩

end TrustTunnel.Icmp.Multiplexer

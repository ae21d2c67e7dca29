import TrustTunnel.Socks5.Changes

namespace TrustTunnel.Socks5.Failures

open Lib.Assoc Lib.Transition Net.Address Net.Wire Messages Changes Listener Socks5Listener List

variable {s t : Socks5Listener} {conn : Connection}

/-- `memcpy` of received bytes; it is undefined for a negative length and beyond what was
received. -/
def copyReceived (data : List UInt8) (length : ℤ) : Option (List UInt8) :=
  if 0 ≤ length ∧ length ≤ data.length then some (data.take length.toNat) else none

def replyBufferSize : ℕ := 1024

/-- The label `invalid_request` of `sock_handler`, if what it does is defined. -/
def writeInvalidReply (s : Socks5Listener) (status : Socks5ReplyStatus) (chunk : List UInt8) :
    Option (List UInt8) :=
  let atyp := byteAt chunk 3
  let addrLen := addrLengthFromRequest (Socks5AddressType.ofByte? atyp) (dstAddr chunk)
  (copyReceived (dstAddr chunk) addrLen).bind fun address ↦
    if address.length + 2 ≤ replyBufferSize then
      some ([socks5Ver, status.toByte, 0, atyp] ++ address ++ putU16 s.listenAddress.port)
    else none

/-- The bytes have the whole address of a type, with the names that it begins with. -/
def FieldReceived : Option Socks5AddressType → List UInt8 → Prop
  | none, _ => True
  | some .ipv4, data => ipv4AddrSize ≤ data.length
  | some .ipv6, data => ipv6AddrSize ≤ data.length
  | some .domainname, data => ∃ n rest, data = n :: rest ∧ n.toNat ≤ rest.length
  | some .ipv4Appname, data => ∃ n rest, data = n :: rest ∧ n.toNat + ipv4AddrSize ≤ rest.length
  | some .ipv6Appname, data => ∃ n rest, data = n :: rest ∧ n.toNat + ipv6AddrSize ≤ rest.length
  | some .domainnameAppname, data => ∃ n rest m rest', data = n :: rest ∧
      rest.drop n.toNat = m :: rest' ∧ m.toNat ≤ rest'.length

theorem byteAt_eq {d : List UInt8} {k : ℕ} (h : k < d.length) : byteAt d k = d[k] := by
  simp [byteAt, h]

/-- The computed length fits exactly if the address was received whole. -/
theorem addrLength_received_iff (t : Option Socks5AddressType) (data : List UInt8) :
    0 ≤ addrLengthFromRequest t data ∧ addrLengthFromRequest t data ≤ data.length ↔
      FieldReceived t data := by
  cases t with
  | none => simp [addrLengthFromRequest, FieldReceived]
  | some t =>
    cases data with
    | nil =>
      cases t <;> simp [addrLengthFromRequest, FieldReceived, ipv4AddrSize, ipv6AddrSize]
    | cons n r =>
      cases t with
      | domainnameAppname =>
        have hz : byteAt (n :: r) 0 = n := rfl
        have hb : byteAt (n :: r) (n.toNat + 1) = byteAt r n.toNat := rfl
        simp only [addrLengthFromRequest, FieldReceived, hz, hb, cons.injEq, length_cons]
        constructor
        · intro he
          split at he
          · omega
          · refine ⟨n, r, byteAt r n.toNat, r.drop (n.toNat + 1), ⟨rfl, rfl⟩, ?_, ?_⟩
            · rw [drop_eq_getElem_cons (by omega), byteAt_eq (by omega)]
            · rw [length_drop]
              omega
        · rintro ⟨n, r, m, r', ⟨rfl, rfl⟩, hd, he⟩
          have hl := congrArg length hd
          rw [length_drop, length_cons] at hl
          rw [drop_eq_getElem_cons (by omega), cons.injEq] at hd
          rw [if_neg (by omega), byteAt_eq (by omega), hd.1]
          omega
      | _ =>
        simp [addrLengthFromRequest, FieldReceived, byteAt, ipv4AddrSize, ipv6AddrSize]
        try omega

theorem addrLength_le (t : Option Socks5AddressType) (d : List UInt8) :
    addrLengthFromRequest t d + 2 ≤ replyBufferSize := by
  have h₀ := (byteAt d 0).toNat_lt
  have h₁ := (byteAt d ((byteAt d 0).toNat + 1)).toNat_lt
  rcases t with _ | t
  · simp [addrLengthFromRequest, replyBufferSize]
  · cases t <;> simp only [addrLengthFromRequest, replyBufferSize, ipv4AddrSize, ipv6AddrSize] <;>
      (try split) <;> omega

/-- The reply to a request that is refused is made of received bytes exactly if the whole address
field was received that the request announces. -/
theorem refusal_of_received_iff {chunk : List UInt8} {status : Socks5ReplyStatus}
    {proto : Option IpProto} {env : Surroundings} (hwritten : env.written = true)
    (h : request conn.proto chunk = .invalid status proto) :
    (s.onRequest conn chunk env).trace = s.trace ++ [.reply conn.id (s.invalidReply status chunk)] ∧
      (writeInvalidReply s status chunk = some (s.invalidReply status chunk) ↔
        FieldReceived (Socks5AddressType.ofByte? (byteAt chunk 3)) (dstAddr chunk)) := by
  constructor
  · simp [onRequest, h, hwritten, answer, record, put, invalidReply]
  · rw [← addrLength_received_iff, writeInvalidReply, copyReceived]
    split
    · next hl =>
      have hr := addrLength_le (Socks5AddressType.ofByte? (byteAt chunk 3)) (dstAddr chunk)
      refine iff_of_true ?_ hl
      rw [Option.bind_some, if_pos (by rw [length_take]; omega)]
      rfl
    · next hn => exact iff_of_false (by simp) hn

def truncated : List UInt8 := [4, 1, 0, 3]

theorem refusal_of_received_iff_of_address :
    writeInvalidReply (start [] [] {}) .commandNotSupported [5, 2, 0, 1, 1, 2, 3, 4, 0, 80] =
      some [5, 7, 0, 1, 1, 2, 3, 4, 0, 0] :=
  (@refusal_of_received_iff (start [] [] {}) { id := 1, state := .waitingRequest }
    [5, 2, 0, 1, 1, 2, 3, 4, 0, 80] .commandNotSupported none { shown := 9 } rfl (by decide)).2.2
    (by decide : ipv4AddrSize ≤ [1, 2, 3, 4, 0, 80].length)

/-- The address of a refused request is copied with a negative length. -/
theorem refusal_copies_negative_length :
    request none truncated = .invalid .socksServerFailure none ∧
      addrLengthFromRequest (Socks5AddressType.ofByte? (byteAt truncated 3))
          (dstAddr truncated) = -1 ∧
      writeInvalidReply (start [] [] {}) .socksServerFailure truncated = none := by
  decide

/-- A flush removes a failed connection exactly if its protocol is TCP. -/
theorem destroyed_iff {id : ℕ} {p : Option IpProto} (h : Over id p s)
    (hstep : step s (.writeFlush id) = some t) :
    t.connections.lookup id = none ↔ p = some .tcp := by
  obtain ⟨c, hc, hstep⟩ := Option.bind_eq_some_iff.1 hstep
  obtain ⟨hf, rfl⟩ := h.failed c hc
  have hi := (h.valid.known id c hc).id_eq
  have hr : s.isUdpAssociationTcpConnection c = false := by
    simp [isUdpAssociationTcpConnection, hi, h.valid.not_relay hc (by simp [hf])]
  split at hstep
  · cases hstep
  · cases hstep
    rw [onWriteFlush, hr, if_neg Bool.false_ne_true, hf]
    split
    · next ht =>
      refine iff_of_true ?_ ht
      rw [close, hf, hi]
      exact AList.lookup_erase _ _
    · next ht => exact iff_of_false (by simp [hc]) ht

/-- A connection that has failed is destroyed when its reply is flushed exactly if it failed after
it had got as far as the command CONNECT, whatever happened in between. -/
theorem failed_destroyed_iff {username password : List UInt8} {address : SocketAddress} {id : ℕ}
    {ls ls' : List Input} {i : Input} {s' s₂ : Socks5Listener} {c c' : Connection}
    (hrun : Run step anyStep (start username password address) ls s)
    (hc : s.connections.lookup id = some c) (hopen : c.state ≠ .failed)
    (hstep : step s i = some s') (hc' : s'.connections.lookup id = some c')
    (hfailed : c'.state = .failed) (hlater : Run step anyStep s' ls' s₂)
    (hflush : step s₂ (.writeFlush id) = some t) :
    t.connections.lookup id = none ↔ commanded c = true := by
  obtain ⟨ho, hp⟩ := over_of_failure (valid_of_run hrun) hc hopen hstep hc' hfailed
  have ho := hlater.invariant ho fun _ _ _ ho _ hs ↦ over_of_step ho hs
  rw [destroyed_iff ho hflush, hp]

/-- A greeting and a CONNECT whose reserved byte is not zero. -/
def malformed : List Input :=
  [.accept 1 {} true, .segment 1 [5, 1, 0], .readable 1 { shown := 9 }, .segment 1 [5, 1, 1, 1]]

/-- The malformed CONNECT fails, and the flush of the reply removes the connection. -/
theorem failed_destroyed_of_connect :
    ∃ s s', Run step anyStep (start [] [] {}) malformed s ∧
      step s (.readable 1 { shown := 9 }) = some s' ∧
      ∃ t, step s' (.writeFlush 1) = some t ∧ t.connections.lookup 1 = none := by
  refine exists_run_some_imp (P := fun s s' ↦
    (∃ c ∈ s.connections.lookup 1, c.state ≠ .failed ∧ commanded c = true) ∧
      (∃ c ∈ s'.connections.lookup 1, c.state = .failed) ∧ (step s' (.writeFlush 1)).isSome = true)
    (by decide) ?_
  rintro s s' hrun hstep ⟨⟨c, hc, hopen, hcmd⟩, ⟨c', hc', hfailed⟩, ht⟩
  obtain ⟨t, ht⟩ := Option.isSome_iff_exists.1 ht
  exact ⟨t, ht, (failed_destroyed_iff hrun hc hopen hstep hc' hfailed (.nil s') ht).2 hcmd⟩

/-- A client that offers no acceptable method is left in the table after the reply was flushed. -/
theorem refused_client_stays :
    ((([.accept 1 {} true, .segment 1 [5, 1, 0xff], .readable 1 { shown := 9 }, .writeFlush 1] :
        List Input).foldlM step (start [] [] {})).bind (·.connections.lookup 1)).map (·.state) =
      some .failed := by
  decide

end TrustTunnel.Socks5.Failures

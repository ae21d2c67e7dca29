import TrustTunnel.Upstream.Udp.Receive

namespace TrustTunnel.Upstream.Udp.Demultiplexing

open Lib.Framing Net.Address Net.Wire Udp.Multiplexer Receive

structure Frame where
  header : List UInt8
  payload : List UInt8
  header_length : header.length = udppktInPrefixSize
  payload_length : number (header.take udppktLengthSize) =
    payload.length + (udppktInPrefixSize - udppktLengthSize)

namespace Frame

variable (f : Frame)

def length : ℕ := number (f.header.take udppktLengthSize)

def bytes : List UInt8 := f.header ++ f.payload

def addr : Option TunnelAddressPair := readAddresses (f.header.drop udppktLengthSize)

def addressee (mux : HttpUdpMultiplexer) : Option ℕ :=
  (f.addr.bind mux.addrToId.lookup).filter mux.isReadEnabled

def report (mux : HttpUdpMultiplexer) : Option (ℕ × List UInt8) :=
  if f.length ≤ maxUdpInPacketLength then (f.addressee mux).map fun id ↦ (id, f.payload) else none

end Frame

def Frame.compose (addresses payload : List UInt8)
    (ha : addresses.length = udppktInPrefixSize - udppktLengthSize)
    (hp : payload.length + (udppktInPrefixSize - udppktLengthSize) < 2 ^ 32) : Frame where
  header := putU32 (payload.length + (udppktInPrefixSize - udppktLengthSize)) ++ addresses
  payload := payload
  header_length := by
    rw [List.length_append, putU32, length_spell, ha]
    rfl
  payload_length := by
    have hl : ∀ n, (putU32 n).length = udppktLengthSize := length_spell 4
    rw [List.take_left' (hl _), putU32, number_spell]
    exact Nat.mod_eq_of_lt hp

variable {mux : HttpUdpMultiplexer} {f : Frame}

theorem Frame.exists_addr (f : Frame) : ∃ addr, f.addr = some addr := by
  have h : (f.header.drop udppktLengthSize).length = 2 * (ipv6AddrSize + 2) := by
    rw [List.length_drop, f.header_length]
    rfl
  have hc : ipv6AddrSize + 2 ≤ (f.header.drop udppktLengthSize).length := by omega
  obtain ⟨s, hs⟩ := exists_getEndpoint hc
  have ht : ipv6AddrSize + 2 ≤
      ((f.header.drop udppktLengthSize).drop (ipv6AddrSize + 2)).length := by
    rw [List.length_drop]
    omega
  obtain ⟨d, hd⟩ := exists_getEndpoint ht
  refine ⟨⟨d, .socketAddress s⟩, ?_⟩
  simp only [Frame.addr, readAddresses, hs, hd, Option.bind_eq_bind, Option.bind_some]
  rfl

theorem readPrefix_header (f : Frame) {a : TunnelAddressPair} (h : f.addr = some a) :
    mux.readPrefix f.header =
      if f.length > maxUdpInPacketLength then {}
      else { id := mux.addrToId.lookup a, payloadLength := f.payload.length } := by
  have he : udppktLengthSize ≤ f.header.length := by
    rw [f.header_length]
    decide
  have hl : f.length = f.payload.length + (udppktInPrefixSize - udppktLengthSize) :=
    f.payload_length
  have ht : ¬ f.length < udppktInPrefixSize - udppktLengthSize := by omega
  have hg : getU32 f.header = some (f.length, f.header.drop udppktLengthSize) := getNumber_of_le he
  rw [Frame.addr] at h
  simp only [HttpUdpMultiplexer.readPrefix, hg, if_neg ht, h]
  rw [hl, Nat.add_sub_cancel]

theorem announce_of_fits (h : f.length ≤ maxUdpInPacketLength) :
    (format mux).announce f.header = (f.addressee mux, f.payload.length) := by
  obtain ⟨a, ha⟩ := f.exists_addr
  simp only [format, readPrefix_header f ha, if_neg (Nat.not_lt.2 h), Frame.addressee, ha,
    Option.bind_some]

theorem announce_of_oversized (h : maxUdpInPacketLength < f.length) :
    (format mux).announce f.header = (none, 0) := by
  obtain ⟨a, ha⟩ := f.exists_addr
  simp only [format, readPrefix_header f ha, gt_iff_lt, if_pos h, Option.filter_none]

def Frame.toFormat (mux : HttpUdpMultiplexer) (f : Frame) (h : f.length ≤ maxUdpInPacketLength) :
    (format mux).Frame where
  header := f.header
  payload := f.payload
  header_length := f.header_length
  payload_length := by rw [announce_of_fits h]

def Admissible (length : ℕ) : Prop :=
  udppktInPrefixSize - udppktLengthSize < length ∧ length ≤ maxUdpInPacketLength

instance : DecidablePred Admissible := fun _ ↦ inferInstanceAs (Decidable (_ ∧ _))

/-- A frame that is admissible is read as it was written. -/
theorem feed_bytes (h : Admissible f.length) :
    (format mux).feed (.header []) f.bytes = (.header [], [(f.addressee mux, f.payload)]) := by
  have hne : (f.toFormat mux h.2).payload ≠ [] := by
    intro he
    have hl : f.length = f.payload.length + (udppktInPrefixSize - udppktLengthSize) :=
      f.payload_length
    have hn : f.payload = [] := he
    have ht := h.1
    rw [hn, List.length_nil] at hl
    omega
  have hc : (f.toFormat mux h.2).content = (f.addressee mux, f.payload) := by
    rw [Format.Frame.content, Frame.toFormat, announce_of_fits h.2]
  rw [← hc]
  exact Format.feed_frame _ _ hne

theorem reported_map (fs : List Frame) :
    reported (fs.map fun f ↦ (f.addressee mux, f.payload)) =
      fs.filterMap fun f ↦ (f.addressee mux).map fun id ↦ (id, f.payload) :=
  List.filterMap_map

/-- However the packets are cut into chunks, each of them is reported once, in order and as a
whole, to the connection with its addresses if that has its reads turned on. -/
theorem demultiplexing_independent_of_chunking (mux : HttpUdpMultiplexer)
    (hidle : mux.recvConnection = {}) (frames : List Frame)
    (hlength : ∀ f ∈ frames, Admissible f.length) (chunks : List (ℕ × List UInt8))
    (hcut : chunks.flatMap Prod.snd = frames.flatMap Frame.bytes) :
    (processChunks mux chunks).recvConnection = {} ∧
    reads (processChunks mux chunks).trace = reads mux.trace ++
      frames.filterMap fun f ↦ (f.addressee mux).map fun id ↦ (id, f.payload) := by
  obtain ⟨-, ht, hr⟩ := processChunks_tracks (tracks_start hidle) chunks
  rw [hcut, Format.feed_flatMap _ fun f hf ↦ feed_bytes (hlength f hf)] at ht hr
  exact ⟨ht.1, by rw [hr, reported_map]⟩

def client : SocketAddress := ⟨.inet, 0x0a000001, 4000⟩

def server : SocketAddress := ⟨.inet, 0x08080808, 53⟩

def listening : HttpUdpMultiplexer :=
  let addr : TunnelAddressPair := ⟨client, .socketAddress server⟩
  { state := .established
    addrToId := AList.singleton addr 9
    connections := AList.singleton 9
      { readEnabled := true, addr, appName := [], timeout := 0, openTask := false } }

def answer : Frame :=
  .compose (putIpPadded server ++ putU16 server.port ++ putIpPadded client ++ putU16 client.port)
    [1, 2, 3] (by decide) (by decide)

def stranger : Frame :=
  .compose (putIpPadded client ++ putU16 client.port ++ putIpPadded server ++ putU16 server.port)
    [4] (by decide) (by decide)

def cutStream : List (ℕ × List UInt8) :=
  [(0, answer.bytes.take 7), (1, answer.bytes.drop 7 ++ stranger.bytes ++ answer.bytes.take 41),
    (2, answer.bytes.drop 41)]

/-- The packet in the middle is for nobody. -/
theorem demultiplexing_of_three_packets :
    (processChunks listening cutStream).recvConnection = {} ∧
    reads (processChunks listening cutStream).trace = [(9, [1, 2, 3]), (9, [1, 2, 3])] := by
  have h := demultiplexing_independent_of_chunking listening rfl [answer, stranger, answer]
    (by decide) cutStream (by decide)
  exact ⟨h.1, h.2.trans (by decide)⟩

/-- After any number of the packets, in any chunks, the next byte begins a packet. -/
def InStep (mux : HttpUdpMultiplexer) (frames : List Frame) : Prop :=
  ∀ k chunks, chunks.flatMap Prod.snd = (frames.take k).flatMap Frame.bytes →
    (processChunks mux chunks).recvConnection = {} ∧
    reads (processChunks mux chunks).trace =
      reads mux.trace ++ (frames.take k).filterMap fun f ↦ f.report mux

theorem report_of_admissible (h : Admissible f.length) :
    f.report mux = (f.addressee mux).map fun id ↦ (id, f.payload) := if_pos h.2

theorem inStep_of_admissible (he : mux.recvConnection = {}) {frames : List Frame}
    (h : ∀ f ∈ frames, Admissible f.length) : InStep mux frames := by
  intro k cs hc
  have hk : ∀ f ∈ frames.take k, Admissible f.length := fun f hf ↦ h f (List.mem_of_mem_take hf)
  obtain ⟨-, ht, hr⟩ := processChunks_tracks (tracks_start he) cs
  rw [hc, Format.feed_flatMap _ fun f hf ↦ feed_bytes (hk f hf)] at ht hr
  refine ⟨ht.1, ?_⟩
  rw [hr, reported_map]
  congr 1
  exact List.filterMap_congr fun f hf ↦ (report_of_admissible (hk f hf)).symm

def Lost (p : Position UInt8 (Option ℕ)) : Prop :=
  (∃ verdict read, p = .body verdict 0 read) ∨
    ∃ n, p = .header (List.replicate (n + 1) 0) ∧ n + 1 < udppktInPrefixSize

theorem Lost.recvConnection_ne {r : RecvConnection} {p : Position UInt8 (Option ℕ)} (h : Lost p)
    (ht : Tracks r p) : r ≠ {} := by
  intro hr
  subst hr
  rcases h with ⟨_ | id, read, rfl⟩ | ⟨n, rfl, -⟩
  · cases ht
  · cases ht
  · cases ht.1

theorem announce_zeros :
    (format mux).announce (List.replicate udppktInPrefixSize 0) = (none, 0) := by
  have hg : getU32 (List.replicate udppktInPrefixSize 0) =
      some (0, List.replicate (udppktInPrefixSize - udppktLengthSize) 0) := by decide
  simp only [format, HttpUdpMultiplexer.readPrefix, hg]
  rfl

theorem Lost.feed_zeros {p : Position UInt8 (Option ℕ)} (h : Lost p) (n : ℕ) :
    Lost ((format mux).feed p (List.replicate n 0)).1 := by
  have hp : ∀ n, n < udppktInPrefixSize →
      Lost ((format mux).pushHeader (List.replicate n 0) 0) := by
    intro n hn
    have hz : List.replicate n (0 : UInt8) ++ [0] = List.replicate (n + 1) 0 :=
      List.replicate_succ'.symm
    rw [Format.pushHeader, List.length_replicate, hz]
    split
    · next hl => exact .inr ⟨n, rfl, hl⟩
    · next hl =>
      have hn1 : n + 1 = udppktInPrefixSize := by
        have hs : (format mux).size = udppktInPrefixSize := rfl
        omega
      rw [hn1, announce_zeros]
      exact .inl ⟨none, [], rfl⟩
  induction n generalizing p with
  | zero => exact h
  | succ n ih =>
    rw [List.replicate_succ, Format.feed]
    refine ih ?_
    rcases h with ⟨v, r, rfl⟩ | ⟨m, rfl, hm⟩
    · exact hp 0 (by decide)
    · exact hp (m + 1) hm

def zeros (length : ℕ) (h : udppktInPrefixSize - udppktLengthSize ≤ length ∧ length < 2 ^ 32) :
    Frame :=
  .compose (List.replicate (udppktInPrefixSize - udppktLengthSize) 0)
    (List.replicate (length - (udppktInPrefixSize - udppktLengthSize)) 0) (by simp)
    (by rw [List.length_replicate]; omega)

@[simp] theorem length_zeros {length : ℕ}
    (h : udppktInPrefixSize - udppktLengthSize ≤ length ∧ length < 2 ^ 32) :
    (zeros length h).length = length := by
  have hl := (zeros length h).payload_length
  have hp : (zeros length h).payload.length =
      length - (udppktInPrefixSize - udppktLengthSize) := List.length_replicate
  rw [Frame.length, hl, hp]
  omega

theorem lost_after_zeros {length : ℕ}
    (h : udppktInPrefixSize - udppktLengthSize ≤ length ∧ length < 2 ^ 32)
    (hd : ¬ Admissible length) :
    Lost ((format mux).feed (.header []) (zeros length h).bytes).1 := by
  have hn : (zeros length h).length = length := length_zeros h
  have ha : ((format mux).announce (zeros length h).header).2 = 0 := by
    by_cases hmax : length ≤ maxUdpInPacketLength
    · have hp : (zeros length h).payload.length =
          length - (udppktInPrefixSize - udppktLengthSize) := List.length_replicate
      have hm : ¬ udppktInPrefixSize - udppktLengthSize < length := fun hl ↦ hd ⟨hl, hmax⟩
      rw [announce_of_fits (by rwa [hn]), hp]
      omega
    · rw [announce_of_oversized (by rw [hn]; omega)]
  have hh : ([] : List UInt8).length + (zeros length h).header.length = (format mux).size :=
    (Nat.zero_add _).trans (zeros length h).header_length
  rw [Frame.bytes, Format.feed_append, Format.feed_header_full _ hh (format mux).size_pos,
    List.nil_append, ha]
  exact Lost.feed_zeros (.inl ⟨_, [], rfl⟩) _

/-- A frame with an inadmissible length leaves the receiver inside it. -/
theorem recvConnection_after_zeros {l : ℕ} (he : mux.recvConnection = {})
    (h : udppktInPrefixSize - udppktLengthSize ≤ l ∧ l < 2 ^ 32) (hd : ¬ Admissible l) :
    (processChunks mux [(0, (zeros l h).bytes)]).recvConnection ≠ {} := by
  obtain ⟨-, ht, -⟩ := processChunks_tracks (tracks_start he) [(0, (zeros l h).bytes)]
  rw [List.flatMap_singleton] at ht
  exact (lost_after_zeros h hd).recvConnection_ne ht

theorem exists_zeros {ls : List ℕ}
    (h : ∀ l ∈ ls, udppktInPrefixSize - udppktLengthSize ≤ l ∧ l < 2 ^ 32) :
    ∃ fs : List Frame, fs.map Frame.length = ls ∧ ∀ f ∈ fs, ∃ l hl, f = zeros l hl := by
  induction ls with
  | nil => exact ⟨[], rfl, by simp⟩
  | cons l ls ih =>
    obtain ⟨fs, hm, hz⟩ := ih fun k hk ↦ h k (List.mem_cons_of_mem l hk)
    have hl := h l List.mem_cons_self
    refine ⟨zeros l hl :: fs, ?_, ?_⟩
    · rw [List.map_cons, hm, length_zeros]
    · intro f hf
      rcases List.mem_cons.1 hf with rfl | hf
      · exact ⟨l, hl, rfl⟩
      · exact hz f hf

theorem processChunks_append (mux : HttpUdpMultiplexer) (a b : List (ℕ × List UInt8)) :
    processChunks mux (a ++ b) = processChunks (processChunks mux a) b := List.foldl_append

/-- Packets of these lengths always keep the receiver in step exactly when each of them carries
something and none is too long. -/
theorem stays_in_step_iff (lengths : List ℕ)
    (h : ∀ l ∈ lengths, udppktInPrefixSize - udppktLengthSize ≤ l ∧ l < 2 ^ 32) :
    (∀ (mux : HttpUdpMultiplexer) (frames : List Frame), mux.state = .established →
      mux.recvConnection = {} → frames.map Frame.length = lengths → InStep mux frames) ↔
    ∀ l ∈ lengths, Admissible l := by
  constructor
  · intro hs l hl
    by_contra hbad
    obtain ⟨frames, hm, hz⟩ := exists_zeros h
    have hin := hs { state := .established } frames rfl rfl hm
    rw [← hm, List.mem_map] at hl
    obtain ⟨f, hf, rfl⟩ := hl
    obtain ⟨before, a, rfl⟩ := List.append_of_mem hf
    obtain ⟨n, hn, rfl⟩ := hz f hf
    rw [length_zeros] at hbad
    -- in step before the bad packet, and hence not after it
    have hb := hin before.length [(0, before.flatMap Frame.bytes)] (by simp)
    have hg : before.take (before.length + 1) = before := List.take_of_length_le (Nat.le_succ _)
    have ha := hin (before.length + 1)
      ([(0, before.flatMap Frame.bytes)] ++ [(0, (zeros n hn).bytes)])
      (by simp [List.take_append, hg])
    rw [processChunks_append] at ha
    exact recvConnection_after_zeros hb.1 hn hbad ha.1
  · intro hal mux frames _ hi hm
    refine inStep_of_admissible hi fun f hf ↦ hal _ ?_
    rw [← hm]
    exact List.mem_map_of_mem hf

theorem stays_in_step_with_three_packets : InStep listening [answer, stranger, answer] :=
  (stays_in_step_iff [39, 37, 39] (by decide)).2 (by decide) listening _ rfl rfl (by decide)

/-- After a packet without payload, and after one that is too long, the receiver is inside of a
packet. -/
theorem out_of_step_after_empty_and_oversized :
    (∃ f : Frame, f.length = 36 ∧ (processChunks listening [(0, f.bytes)]).recvConnection ≠ {}) ∧
    ∃ f : Frame, f.length = maxUdpInPacketLength + 1 ∧
      (processChunks listening [(0, f.bytes)]).recvConnection ≠ {} :=
  ⟨⟨zeros 36 (by decide), length_zeros _, recvConnection_after_zeros rfl _ (by decide)⟩,
    ⟨zeros (maxUdpInPacketLength + 1) (by decide), length_zeros _,
      recvConnection_after_zeros rfl _ (by decide)⟩⟩

end TrustTunnel.Upstream.Udp.Demultiplexing

import TrustTunnel.Upstream.Udp.Multiplexer

namespace TrustTunnel.Upstream.Udp.Packets

open Udp.Multiplexer Net.Address Net.Wire List

/-- A packet as the endpoint reads it. The addresses are the bytes of their fields. -/
structure OutgoingPacket where
  length : ℕ
  source : List UInt8
  sourcePort : ℕ
  destination : List UInt8
  destinationPort : ℕ
  appName : List UInt8
  payload : List UInt8
deriving DecidableEq, Repr

def readOutgoing (packet : List UInt8) : Option OutgoingPacket := do
  let (length, rest) ← getU32 packet
  let (source, rest) ← getBytes udppktAddrSize rest
  let (sourcePort, rest) ← getU16 rest
  let (destination, rest) ← getBytes udppktAddrSize rest
  let (destinationPort, rest) ← getU16 rest
  let (appNameLength, rest) ← getU8 rest
  let (appName, payload) ← getBytes appNameLength rest
  return { length, source, sourcePort, destination, destinationPort, appName, payload }

variable {src dst : SocketAddress} {appName data : List UInt8} (hsrc : src.valid = true)
  (hdst : dst.valid = true)

include hsrc hdst

/-- The fields of a packet. Zeros follow the payload in the place of what is cut from the name. -/
theorem composeUdpPacket_eq : composeUdpPacket src dst appName data =
    putU32 (37 + appName.length + data.length) ++ (putIpPadded src ++ (putU16 src.port ++
      (putIpPadded dst ++ (putU16 dst.port ++ (putU8 (appName.take 255).length ++
        (appName.take 255 ++ (data ++ replicate (appName.length - 255) 0))))))) := by
  have hs : udppktInPrefixSize = 40 ∧ udppktApplenSize = 1 ∧ udppktLengthSize = 4 ∧
      ipv6AddrSize = 16 := by decide
  have hl : udppktInPrefixSize + udppktApplenSize + appName.length + data.length -
      udppktLengthSize = 37 + appName.length + data.length := by
    omega
  simp only [composeUdpPacket, hl, append_assoc, append_cancel_left_eq]
  refine congrArg (replicate · 0) ?_
  simp only [length_append, length_putIpPadded hsrc, length_putIpPadded hdst, putU32, putU16,
    putU8, length_spell, length_take]
  omega

theorem length_composeUdpPacket :
    (composeUdpPacket src dst appName data).length = 37 + appName.length + data.length + 4 := by
  have hs : ipv6AddrSize = 16 := rfl
  simp only [composeUdpPacket_eq hsrc hdst, length_append, length_putIpPadded hsrc,
    length_putIpPadded hdst, putU32, putU16, putU8, length_spell, length_take,
    length_replicate]
  omega

theorem readOutgoing_compose : readOutgoing (composeUdpPacket src dst appName data) = some
    { length := (37 + appName.length + data.length) % 2 ^ 32
      source := putIpPadded src
      sourcePort := src.port % 2 ^ 16
      destination := putIpPadded dst
      destinationPort := dst.port % 2 ^ 16
      appName := appName.take 255
      payload := data ++ replicate (appName.length - 255) 0 } := by
  have hn : (appName.take 255).length = (appName.take 255).length % 256 ^ 1 := by
    rw [length_take]
    omega
  have hs : ipv6AddrSize = udppktAddrSize := rfl
  rw [composeUdpPacket_eq hsrc hdst]
  simp only [readOutgoing, getU32, getU16, getU8, putU32, putU16, putU8, getNumber_spell_append,
    getBytes_append ((length_putIpPadded hsrc).trans hs), getBytes_append hn,
    getBytes_append ((length_putIpPadded hdst).trans hs), Option.bind_eq_bind, Option.bind_some]
  rfl

/-- The endpoint reads what is sent, exactly if the name is not cut and the length is a number of
32 bits. -/
theorem readOutgoing_compose_iff (hsrcPort : src.port < 2 ^ 16) (hdstPort : dst.port < 2 ^ 16) :
    readOutgoing (composeUdpPacket src dst appName data) = some
        { length := (composeUdpPacket src dst appName data).length - udppktLengthSize
          source := putIpPadded src
          sourcePort := src.port
          destination := putIpPadded dst
          destinationPort := dst.port
          appName := appName.take 255
          payload := data } ↔
      appName.length ≤ 255 ∧ 37 + appName.length + data.length < 2 ^ 32 := by
  rw [readOutgoing_compose hsrc hdst, length_composeUdpPacket hsrc hdst,
    Nat.mod_eq_of_lt hsrcPort, Nat.mod_eq_of_lt hdstPort, udppktLengthSize, Nat.add_sub_cancel]
  simp only [Option.some.injEq, OutgoingPacket.mk.injEq, true_and, append_right_eq_self,
    replicate_eq_nil_iff, Nat.mod_eq_iff_lt (show 2 ^ 32 ≠ 0 by decide)]
  omega

omit hsrc hdst

theorem readOutgoing_compose_of_short :
    readOutgoing (composeUdpPacket ⟨.inet, 1, 53⟩ ⟨.inet6, 2, 54⟩ [97] [5, 6]) =
      some ⟨40, spell 16 1, 53, spell 16 2, 54, [97], [5, 6]⟩ :=
  (readOutgoing_compose_iff (by decide) (by decide) (by decide) (by decide)).2 (by decide)

/-- A byte follows the payload after a name of 256 bytes. -/
theorem payload_of_long_name : (readOutgoing (composeUdpPacket ⟨.inet, 1, 53⟩ ⟨.inet, 2, 54⟩
    (List.replicate 256 97) [5, 6])).map (·.payload) = some [5, 6, 0] := by
  rw [readOutgoing_compose (by decide) (by decide), length_replicate]
  rfl

end TrustTunnel.Upstream.Udp.Packets

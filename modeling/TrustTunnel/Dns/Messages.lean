import Mathlib.Algebra.Group.Nat.Defs

namespace TrustTunnel.Dns.Messages

abbrev Message := List UInt8

def connMaxBuffered : ℕ := 128 * 1024

def maxUdpQueueSize : ℕ := 10

def writeDnsMessage (message : Message) : List UInt8 :=
  let size := message.length % 2 ^ 16
  [UInt8.ofNat (size / 256), UInt8.ofNat (size % 256)] ++ message.take size

/-- The loop of `send` for TCP, with what is left. The first argument bounds the messages. -/
def readMessages : ℕ → List UInt8 → List Message × List UInt8
  | fuel + 1, hi :: lo :: rest =>
    let size := hi.toNat * 256 + lo.toNat
    if rest.length < size then ([], hi :: lo :: rest)
    else
      let (messages, left) := readMessages fuel (rest.drop size)
      (rest.take size :: messages, left)
  | _, buf => ([], buf)

end TrustTunnel.Dns.Messages

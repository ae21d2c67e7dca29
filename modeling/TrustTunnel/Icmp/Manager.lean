import Mathlib.Data.List.Sort
import TrustTunnel.Lib.Assoc
import TrustTunnel.Net.Address

namespace TrustTunnel.Icmp.Manager

open Net.Address

structure IcmpEchoRequest where
  peer : SocketAddress
  id : UInt16
  seqno : UInt16
deriving DecidableEq, Repr

structure IcmpEchoReply where
  peer : SocketAddress
  id : UInt16
  seqno : UInt16
  type : UInt8
  code : UInt8
deriving DecidableEq, Repr

def icmpMtEchoReply : UInt8 := 0

def icmpv6MtEchoReply : UInt8 := 129

def icmpMtDrop : UInt8 := 84

inductive MessageStatus
  | pass
  | drop
deriving DecidableEq, Repr

structure RequestAttempt where
  seqno : UInt16
  timeoutTs : ℕ
deriving DecidableEq, Repr

structure RequestInfo where
  originalPeer : SocketAddress
  tries : List RequestAttempt := []
deriving DecidableEq, Repr

def defaultPingRequestTimeout : ℕ := 3000

structure IcmpManager where
  requestTimeout : ℕ
  requests : AList (fun _ : UInt16 ↦ RequestInfo) := ∅
  timer : Option ℕ := none

namespace IcmpManager

variable (m : IcmpManager)

def init (requestTimeout : Option ℕ) : IcmpManager where
  requestTimeout := requestTimeout.getD defaultPingRequestTimeout

def deinit : IcmpManager := { m with timer := none, requests := ∅ }

def registerRequest (now : ℕ) (request : IcmpEchoRequest) : IcmpManager × MessageStatus :=
  let info := (m.requests.lookup request.id).getD { originalPeer := request.peer }
  let m := { m with requests := m.requests.insert request.id info }
  if info.tries.any (·.seqno == request.seqno) then (m, .drop)
  else
    let attempt := { seqno := request.seqno, timeoutTs := now + m.requestTimeout }
    ({ m with
      requests := m.requests.insert request.id { info with tries := info.tries ++ [attempt] }
      timer := m.timer.or (some (m.requestTimeout / 10)) }, .pass)

/-- A reply that is an echo, or that has no address family, names its attempt. -/
def namesAttempt (reply : IcmpEchoReply) : Bool :=
  !(reply.peer.isIpv4 && reply.type != icmpMtEchoReply) &&
    !(reply.peer.isIpv6 && reply.type != icmpv6MtEchoReply)

def findTry (reply : IcmpEchoReply) (tries : List RequestAttempt) : Option RequestAttempt :=
  if namesAttempt reply then tries.find? (·.seqno == reply.seqno) else tries.head?

def registerReply (reply : IcmpEchoReply) : IcmpManager × IcmpEchoReply × MessageStatus :=
  match m.requests.lookup reply.id with
  | none => (m, reply, .drop)
  | some info =>
    match findTry reply info.tries with
    | none => (m, reply, .drop)
    | some attempt =>
      let tries := info.tries.erase attempt
      ({ m with
        requests :=
          if tries.isEmpty then m.requests.erase reply.id
          else m.requests.replace reply.id { info with tries } },
        { reply with seqno := attempt.seqno }, .pass)

def makeReplyOnTimeout (id : UInt16) (peer : SocketAddress) (seqno : UInt16) : IcmpEchoReply where
  peer := peer
  id := id
  seqno := seqno
  type := icmpMtDrop
  code := 0

def timeOut (now : ℕ) (id : UInt16) : IcmpManager × List IcmpEchoReply :=
  match m.requests.lookup id with
  | none => (m, [])
  | some info =>
    let tries := info.tries.filter fun attempt ↦ now < attempt.timeoutTs
    ({ m with
      requests :=
        if tries.isEmpty then m.requests.erase id else m.requests.replace id { info with tries } },
      (info.tries.filter fun attempt ↦ !(now < attempt.timeoutTs)).map fun attempt ↦
        makeReplyOnTimeout id info.originalPeer attempt.seqno)

/-- The loop of `timer_callback`, over the ids in their order. -/
def timeOutAll (now : ℕ) : List UInt16 → IcmpManager → IcmpManager × List IcmpEchoReply
  | [], m => (m, [])
  | id :: ids, m =>
    let r := timeOutAll now ids (m.timeOut now id).1
    (r.1, (m.timeOut now id).2 ++ r.2)

def timerCallback (now : ℕ) : IcmpManager × List IcmpEchoReply :=
  timeOutAll now (m.requests.keys.insertionSort (· ≤ ·)) m

end IcmpManager

end TrustTunnel.Icmp.Manager

import Mathlib.Algebra.Group.Nat.Defs

namespace TrustTunnel.Net.Address

inductive AddressFamily
  | unspec
  | inet
  | inet6
deriving DecidableEq, Repr

/-- A socket address; `host` is the number its address bytes spell in network order. -/
structure SocketAddress where
  family : AddressFamily := .unspec
  host : ℕ := 0
  port : ℕ := 0
deriving DecidableEq, Repr

def SocketAddress.valid (a : SocketAddress) : Bool := a.family != .unspec

def SocketAddress.isIpv4 (a : SocketAddress) : Bool := a.family == .inet

def SocketAddress.isIpv6 (a : SocketAddress) : Bool := a.family == .inet6

def SocketAddress.isLoopback (a : SocketAddress) : Bool :=
  match a.family with
  | .unspec => false
  | .inet => a.host / 2 ^ 24 == 127
  | .inet6 => a.host == 1

structure NamePort where
  name : String
  port : ℕ := 0
deriving DecidableEq, Repr

inductive TunnelAddress
  | socketAddress (a : SocketAddress)
  | namePort (n : NamePort)
deriving DecidableEq, Repr

structure TunnelAddressPair where
  src : SocketAddress
  dst : TunnelAddress
deriving DecidableEq, Repr

def TunnelAddressPair.dstport (p : TunnelAddressPair) : ℕ :=
  match p.dst with
  | .socketAddress a => a.port
  | .namePort n => n.port

end TrustTunnel.Net.Address

import TrustTunnel.Net.Wire

namespace TrustTunnel.Socks5.Messages

open Net.Address Net.Wire

def socks5Ver : UInt8 := 0x05

def usernamePasswordVer : UInt8 := 0x01

def noAuthenticationRequired : UInt8 := 0x00

def usernamePassword : UInt8 := 0x02

/-- The difference between a method and its `_APPNAME` form. -/
def appname : UInt8 := 0x80

def noAcceptableMethods : UInt8 := 0xff

def cmdConnect : UInt8 := 0x01

def cmdUdpAssociate : UInt8 := 0x03

inductive Socks5AddressType
  | ipv4
  | domainname
  | ipv6
  | ipv4Appname
  | domainnameAppname
  | ipv6Appname
deriving DecidableEq, Repr

namespace Socks5AddressType

def ofByte? : UInt8 → Option Socks5AddressType
  | 0x01 => some .ipv4
  | 0x03 => some .domainname
  | 0x04 => some .ipv6
  | 0xf1 => some .ipv4Appname
  | 0xf3 => some .domainnameAppname
  | 0xf4 => some .ipv6Appname
  | _ => none

def toByte : Socks5AddressType → UInt8
  | .ipv4 => 0x01
  | .domainname => 0x03
  | .ipv6 => 0x04
  | .ipv4Appname => 0xf1
  | .domainnameAppname => 0xf3
  | .ipv6Appname => 0xf4

def hasAppname : Socks5AddressType → Bool
  | .ipv4Appname => true
  | .domainnameAppname => true
  | .ipv6Appname => true
  | _ => false

def plain : Socks5AddressType → Socks5AddressType
  | .ipv4Appname => .ipv4
  | .domainnameAppname => .domainname
  | .ipv6Appname => .ipv6
  | type => type

end Socks5AddressType

inductive Socks5ReplyStatus
  | succeeded
  | socksServerFailure
  | connectionRefused
  | ttlExpired
  | hostUnreachable
  | commandNotSupported
  | addressTypeNotSupported
deriving DecidableEq, Repr

def Socks5ReplyStatus.toByte : Socks5ReplyStatus → UInt8
  | .succeeded => 0
  | .socksServerFailure => 1
  | .hostUnreachable => 4
  | .connectionRefused => 5
  | .ttlExpired => 6
  | .commandNotSupported => 7
  | .addressTypeNotSupported => 8

inductive Socks5ConnectionAddress
  | sockaddr (ip : SocketAddress)
  | domainName (name : List UInt8) (port : ℕ)
deriving DecidableEq, Repr

def socksAtypByAddr : Socks5ConnectionAddress → Socks5AddressType
  | .sockaddr ip => if ip.isIpv4 then .ipv4 else .ipv6
  | .domainName _ _ => .domainname

def byteAt (data : List UInt8) (offset : ℕ) : UInt8 := data.getD offset 0

def addrLengthFromRequest (type : Option Socks5AddressType) (data : List UInt8) : ℤ :=
  let name := (byteAt data 0).toNat
  match type with
  | some .ipv4 => ipv4AddrSize
  | some .domainname => if data.length = 0 then -1 else 1 + name
  | some .ipv6 => ipv6AddrSize
  | some .ipv4Appname => if data.length = 0 then -1 else 1 + name + ipv4AddrSize
  | some .domainnameAppname =>
    if data.length = 0 ∨ data.length < name + 2 then -1
    else 1 + name + 1 + (byteAt data (name + 1)).toNat
  | some .ipv6Appname => if data.length = 0 then -1 else 1 + name + ipv6AddrSize
  | none => 0

def appNameFromRequest (type : Socks5AddressType) (data : List UInt8) : List UInt8 :=
  if type.hasAppname then (data.drop 1).take (byteAt data 0).toNat else []

def dstAddrFromRequest (type : Socks5AddressType) (data : List UInt8) : Socks5ConnectionAddress :=
  let data := if type.hasAppname then data.drop ((byteAt data 0).toNat + 1) else data
  let port := fun offset ↦ number ((data.drop offset).take 2)
  match type.plain with
  | .domainname =>
    let length := (byteAt data 0).toNat
    .domainName ((data.drop 1).take length) (port (length + 1))
  | .ipv4 => .sockaddr ⟨.inet, number (data.take ipv4AddrSize), port ipv4AddrSize⟩
  | _ => .sockaddr ⟨.inet6, number (data.take ipv6AddrSize), port ipv6AddrSize⟩

structure Socks5UsernamePasswordRequest where
  ver : UInt8
  uname : List UInt8
  passwd : List UInt8
deriving DecidableEq, Repr

/-- The request with the number of its bytes, unless more data is needed. -/
def readUsernamePasswordRequest (data : List UInt8) : Option (Socks5UsernamePasswordRequest × ℕ) :=
  if data.length < 2 then none
  else
    let ulen := (byteAt data 1).toNat
    let rest := data.drop 2
    if rest.length ≤ ulen then none
    else
      let plen := (byteAt rest ulen).toNat
      let passwd := rest.drop (ulen + 1)
      if passwd.length < plen then none
      else some (⟨byteAt data 0, rest.take ulen, passwd.take plen⟩, 3 + ulen + plen)

/-- The loop over the methods of a client; the `_APPNAME` form of the supported one is preferred. -/
def chooseMethod (supported : UInt8) : Option UInt8 → List UInt8 → Option UInt8
  | chosen, [] => chosen
  | chosen, method :: rest =>
    if method = supported then chooseMethod supported (some method) rest
    else if method = supported + appname then some method
    else chooseMethod supported chosen rest

end TrustTunnel.Socks5.Messages

import TrustTunnel.Dns.ClientListener
import TrustTunnel.Dns.ServerUpstream

namespace TrustTunnel.Dns.Handler

open Net.Address Traffic.Types Messages ServerUpstream
open ClientListener (ListenerBase)

inductive Decoded
  | error
  | request (name : String)
  | other
deriving DecidableEq, Repr

inductive DnsClient
  | user
  | system
  | systemIpv6
deriving DecidableEq, Repr

inductive Destination
  | client (client : DnsClient)
  | listener (listenerConnId : Option ℕ) (bypass : Bool)
deriving DecidableEq, Repr

/-- One message that was handed over, under its place among the received ones. -/
structure Routing where
  seq : ℕ
  name : Option String
  excluded : Bool
  destination : Destination
deriving DecidableEq, Repr

structure Env where
  decode : Message → Decoded := fun _ ↦ .error
  endpointUpstreamConnected : Bool := true
  killSwitchOn : Bool := false
  exclusionsMode : VpnMode := .general
  /-- `match_domain` answers `DFMS_EXCLUSION`; its only other answer is `DFMS_DEFAULT`. -/
  matchesDomain : String → Bool := fun _ ↦ false
  checkAppRequestDomain : String → Bool := fun _ ↦ false
  /-- How many ids of listener connections others got in the meantime. -/
  skipped : ℕ := 0

/-- A call of `send` that has messages left to pass on, and how many calls of the listener were
under way when it began. -/
structure Sending where
  upstreamConnId : ℕ
  info : Connection
  messages : List Message
  depth : ℕ
deriving DecidableEq

structure DnsHandler where
  upstream : UpstreamBase := {}
  listener : ListenerBase := {}
  altExclusionsRoute : Bool := false
  clients : DnsClient → Bool := fun _ ↦ false
  sendings : List Sending := []
  received : ℕ := 0
  routings : List Routing := []

/-- A domain exclusion in the general mode, or no domain exclusion in the selective mode. -/
def isExcludedName (env : Env) (name : String) : Bool :=
  match env.exclusionsMode with
  | .general => env.matchesDomain name
  | .selective => !env.matchesDomain name

/-- The purpose of the routing: which names are to be treated as `EXCLUDED`. -/
def treatedAsExcluded (env : Env) (name : String) : Bool :=
  if env.endpointUpstreamConnected then isExcludedName env name
  else !env.killSwitchOn || env.checkAppRequestDomain name

def bypassFor (id : ℕ) : ClientListener.Event → Option Bool
  | .connectRequest id' _ _ bypass => if id' = id then some bypass else none
  | _ => none

/-- Whether a listener connection was requested with `CCRF_DNS_HANDLER_BYPASS`. -/
def requestedBypass (trace : List ClientListener.Event) (id : ℕ) : Bool :=
  (trace.reverse.findSome? (bypassFor id)).getD false

namespace DnsHandler

variable (h : DnsHandler) (env : Env)

def route (name : Option String) (destination : Destination) : DnsHandler :=
  { h with
    routings := h.routings ++
      [{ seq := h.received - 1
         name
         excluded := name.any (treatedAsExcluded env)
         destination }] }

def clientFor (systemProxy ipv6 : Bool) : DnsClient :=
  if !systemProxy then .user
  else if ipv6 && h.clients .systemIpv6 then .systemIpv6 else .system

def sendRequest (systemProxy ipv6 : Bool) (name : String) : DnsHandler :=
  let client := h.clientFor systemProxy ipv6
  if !h.clients client then h else h.route env (some name) (.client client)

def sendRequestAsListener (upstreamConnId : ℕ) (info : Connection) (message : Message)
    (name : Option String) (forceBypass : Bool) : DnsHandler :=
  let listener := h.listener.sendAsListener env.skipped ⟨upstreamConnId, info.proto, info.addrs⟩
    message forceBypass
  let id := listener.connIdByUpstreamConnId.lookup upstreamConnId
  { h with listener }.route env name (.listener id (id.any (requestedBypass listener.trace)))

def isIpv6 (addrs : TunnelAddressPair) : Bool :=
  match addrs.dst with
  | .socketAddress address => address.isIpv6
  | .namePort _ => false

def sendDirectly (upstreamConnId : ℕ) (info : Connection) (message : Message) (name : String) :
    DnsHandler :=
  if h.altExclusionsRoute then h.sendRequestAsListener env upstreamConnId info message name true
  else h.sendRequest env true (isIpv6 info.addrs) name

def sendByInclusion (upstreamConnId : ℕ) (info : Connection) (message : Message) (name : String)
    (included : Bool) : DnsHandler :=
  if included && h.clients .user then h.sendRequest env false (isIpv6 info.addrs) name
  else if !included && !h.altExclusionsRoute then
    h.sendRequest env true (isIpv6 info.addrs) name
  else h.sendRequestAsListener env upstreamConnId info message name !included

def onDnsRequest (upstreamConnId : ℕ) (info : Connection) (message : Message) : DnsHandler :=
  let h := { h with received := h.received + 1 }
  match env.decode message with
  | .error => h
  | .other => h.sendRequestAsListener env upstreamConnId info message none false
  | .request name =>
    if !env.endpointUpstreamConnected then
      if !env.killSwitchOn then h.sendDirectly env upstreamConnId info message name
      else if env.checkAppRequestDomain name then
        h.sendDirectly env upstreamConnId info message name
      else h
    else
      h.sendByInclusion env upstreamConnId info message name
        (if env.exclusionsMode = .general then !env.matchesDomain name else env.matchesDomain name)

/-- `send` of the upstream, up to its first call of `on_dns_request`. -/
def send (upstreamConnId : ℕ) (data : List UInt8) : DnsHandler :=
  match h.upstream.connections.lookup upstreamConnId with
  | none => h
  | some info =>
    { h with
      upstream := (h.upstream.send upstreamConnId data).1
      sendings :=
        ⟨upstreamConnId, info, (UpstreamBase.receive data info).2, h.listener.frames.length⟩ ::
          h.sendings }

/-- `send` goes on when the listener is done with the last message. -/
def goOn : Option DnsHandler :=
  match h.sendings with
  | [] => none
  | ⟨_, _, [], _⟩ :: sendings => some { h with sendings }
  | ⟨id, info, message :: messages, depth⟩ :: sendings =>
    if h.listener.frames.length = depth then
      some ({ h with sendings := ⟨id, info, messages, depth⟩ :: sendings }.onDnsRequest env id info
        message)
    else none

def onUpstreamEvent (listener : ListenerBase) : ServerUpstream.Event → ListenerBase
  | .upstreamConnectionClosed id => listener.closeListenerConnectionByUpstreamConnId id
  | _ => listener

def upstreamStep (input : ServerUpstream.Input) : Option DnsHandler :=
  (ServerUpstream.step h.upstream input).map fun upstream ↦
    { h with
      upstream
      listener := (upstream.trace.drop h.upstream.trace.length).foldl onUpstreamEvent h.listener }

def restartSystemDnsProxy (system systemIpv6 : Bool) : DnsHandler :=
  { h with
    clients := fun
      | .user => h.clients .user
      | .system => system
      | .systemIpv6 => systemIpv6 }

end DnsHandler

inductive Input
  | send (upstreamConnId : ℕ) (data : List UInt8)
  | goOn
  | upstream (input : ServerUpstream.Input)
  | listener (input : ClientListener.Input)
  | updateParameters (altExclusionsRoute : Bool) (clients : DnsClient → Bool)
  | restartSystemDnsProxy (system systemIpv6 : Bool)

/-- What the two bases call in each other is not an input of its own. -/
def step (h : DnsHandler) (label : Env × Input) : Option DnsHandler :=
  match label.2 with
  | .send id data => some (h.send id data)
  | .goOn => h.goOn label.1
  | .upstream (.send _ _) => none
  | .upstream input => h.upstreamStep input
  | .listener (.sendAsListener _ _ _ _) => none
  | .listener (.upstreamConnectionClosed _) => none
  | .listener input =>
    (ClientListener.step h.listener input).map fun listener ↦ { h with listener }
  | .updateParameters altExclusionsRoute clients => some { h with altExclusionsRoute, clients }
  | .restartSystemDnsProxy system systemIpv6 => some (h.restartSystemDnsProxy system systemIpv6)

end TrustTunnel.Dns.Handler

import TrustTunnel.Lib.Assoc
import TrustTunnel.Lib.Words
import TrustTunnel.Traffic.Types

namespace TrustTunnel.Filter.Domains

open Lib.Words Net.Address Traffic.Types

def wwwPrefix : List Char := ['w', 'w', 'w', '.']

def wildcardPrefix : List Char := ['*', '.']

def startsWith (str start : List Char) : Bool := str.take start.length == start

structure MatchFlagsSet where
  exact : Bool := false
  /-- Only subdomains match, `www.` before the domain included. -/
  subdomains : Bool := false
deriving DecidableEq, Repr

def MatchFlagsSet.union (a b : MatchFlagsSet) : MatchFlagsSet :=
  ⟨a.exact || b.exact, a.subdomains || b.subdomains⟩

structure DomainEntryInfo where
  text : List Char
  flags : MatchFlagsSet
deriving DecidableEq, Repr

inductive ParseResult (Cidr : Type)
  | addr (addr : SocketAddress)
  | cidr (range : Cidr)
  | domain (info : DomainEntryInfo)
  | portOnly (port : ℕ)
  | malformed
deriving DecidableEq, Repr

structure Parsers (Cidr : Type) where
  splitHostPort : List Char → Option (List Char × List Char)
  toInteger : List Char → Option ℕ
  socketAddress : List Char → ℕ → SocketAddress
  cidrRange : List Char → Option Cidr

def isSpace (ch : Char) : Bool :=
  ch == ' ' || ch == '\t' || ch == '\n' || ch == '\x0b' || ch == '\x0c' || ch == '\r'

def wellFormed (lastCh : Char) : List Char → Bool
  | [] => true
  | ch :: rest =>
    if !ch.isAlphanum && ch != '-' && ch != '_' && ch != '.' then false
    else if ch == '.' && lastCh == '.' then false
    else wellFormed ch rest

section Parse

variable {Cidr : Type} (parsers : Parsers Cidr)

def parseHostPort (entry : List Char) : Option (ParseResult Cidr) :=
  match parsers.splitHostPort entry with
  | none => none
  | some split =>
    match if split.2.isEmpty then none else parsers.toInteger split.2 with
    | some port =>
      if 0 < port ∧ port ≤ 65535 then
        if split.1 = ['*'] then some (.portOnly port)
        else
          let addr := parsers.socketAddress split.1 port
          if addr.valid then some (.addr addr) else none
      else none
    | none =>
      let addr := parsers.socketAddress split.1 0
      if addr.valid then some (.addr addr) else none

def parseDomain (entry : List Char) : ParseResult Cidr :=
  let domain := if startsWith entry wildcardPrefix then entry.drop wildcardPrefix.length else entry
  if domain.isEmpty then .malformed
  else if !wellFormed '.' domain then .malformed
  else if startsWith entry wildcardPrefix then
    .domain ⟨entry.drop wildcardPrefix.length, { subdomains := true }⟩
  else if startsWith entry wwwPrefix then
    .domain ⟨entry.drop wwwPrefix.length, { exact := true }⟩
  else .domain ⟨entry, { exact := true }⟩

def parseEntry (entry : List Char) : ParseResult Cidr :=
  match parseHostPort parsers entry with
  | some result => result
  | none =>
    match parsers.cidrRange entry with
    | some range => .cidr range
    | none => parseDomain entry

end Parse

/-- The tables of exclusions; those other than the domains are sets. -/
structure DomainFilter (Cidr : Type) where
  mode : VpnMode := .general
  domains : AList (fun _ : List Char ↦ MatchFlagsSet) := ∅
  addresses : List SocketAddress := []
  portsOnly : List ℕ := []
  cidrRanges : List Cidr := []
  exclusionSuspects : List SocketAddress := []
  /-- The names that connections were resolved to; they outlive the exclusions. -/
  resolvedTags : List (SocketAddress × String × List Char) := []

namespace DomainFilter

variable {Cidr : Type} (parsers : Parsers Cidr) (filter : DomainFilter Cidr)

def addEntry (entry : List Char) : DomainFilter Cidr :=
  match parseEntry parsers entry with
  | .addr addr => { filter with addresses := addr :: filter.addresses }
  | .domain info =>
    { filter with
      domains := filter.domains.insert info.text
        (((filter.domains.lookup info.text).getD {}).union info.flags) }
  | .cidr range => { filter with cidrRanges := range :: filter.cidrRanges }
  | .portOnly port => { filter with portsOnly := port :: filter.portsOnly }
  | .malformed => filter

def updateExclusions (mode : VpnMode) (exclusions : List Char) : DomainFilter Cidr :=
  foldWords isSpace (addEntry parsers) exclusions []
    { filter with
      mode, domains := ∅, addresses := [], portsOnly := [], exclusionSuspects := [],
      cidrRanges := [] }

def found (domain seek : List Char) : Bool :=
  match filter.domains.lookup seek with
  | none => false
  | some flags =>
    flags.exact && (seek.length == domain.length ||
      startsWith domain wwwPrefix && seek.length + wwwPrefix.length == domain.length) ||
    flags.subdomains && decide (seek.length < domain.length)

def matchDomain (domain : List Char) : DomainFilterMatchStatus :=
  let seek :=
    if !startsWith domain wwwPrefix then domain else domain.drop wwwPrefix.length
  if anyTail '.' (filter.found domain) seek then .exclusion else .default

def isListed (includes : Cidr → SocketAddress → Bool) (addr : SocketAddress) : Bool :=
  filter.addresses.contains addr || filter.addresses.contains { addr with port := 0 } ||
    filter.cidrRanges.any (includes · addr) || filter.portsOnly.contains addr.port

/-- The caches hold what has not expired. -/
def matchTag (includes : Cidr → SocketAddress → Bool) (addr : SocketAddress) (appname : String) :
    DomainFilterMatchStatus × Option (List Char) :=
  if filter.isListed includes addr then (.exclusion, none)
  else
    match filter.resolvedTags.find? fun tag ↦ tag.1 = addr ∧ tag.2.1 = appname with
    | some tag => (filter.matchDomain tag.2.2, some tag.2.2)
    | none =>
      if filter.exclusionSuspects.contains { addr with port := 0 } then (.suspectExclusion, none)
      else (.default, none)

end DomainFilter

end TrustTunnel.Filter.Domains

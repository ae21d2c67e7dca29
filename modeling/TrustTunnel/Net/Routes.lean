import Mathlib.Data.List.Chain

namespace TrustTunnel.Net.Routes

open List

inductive Family
  | inet
  | inet6
  deriving DecidableEq

def Family.bits : Family → ℕ
  | .inet => 32
  | .inet6 => 128

/-- The addresses that begin with these bits. -/
abbrev CidrRange := List Bool

/-- `DEFAULT_IPV4_ROUTE` and `DEFAULT_IPV6_ROUTE_UNICAST`. -/
def Family.defaultRoute : Family → CidrRange
  | .inet => []
  | .inet6 => [false, false, true]

def familyOf (text : String) : Family := if ':' ∈ text.toList then .inet6 else .inet

/-- A valid route, with the range that it stands for. -/
structure Route where
  text : String
  range : CidrRange
  valid : range.length ≤ (familyOf text).bits

def Overlap (r e : CidrRange) : Prop := r <+: e ∨ e <+: r

/-- What `CidrRange::exclude` leaves of a range, with what is assumed of it. -/
structure Exclusion where
  difference : CidrRange → CidrRange → List CidrRange
  valid : ∀ (f : Family) r e, r.length ≤ f.bits → e.length ≤ f.bits →
    ∀ p ∈ difference r e, p.length ≤ f.bits
  covers : ∀ (f : Family) r e a, e.length ≤ f.bits → a.length = f.bits →
    ((∃ p ∈ difference r e, p <+: a) ↔ r <+: a ∧ ¬e <+: a)
  disjoint : ∀ r e, ¬Overlap r e → difference r e = [r]

def Exclusion.exclude (x : Exclusion) (ranges : List CidrRange) (e : CidrRange) :
    List CidrRange :=
  ranges.flatMap (x.difference · e)

variable {f : Family} {route r e : CidrRange} {routes : List CidrRange} {idx : ℕ} {a : List Bool}

def Route.read (r : Route) : CidrRange :=
  if r.text = "::/0" then Family.inet6.defaultRoute else r.range

def routesOf (f : Family) (routes : List Route) : List Route :=
  routes.filter fun r ↦ familyOf r.text = f

def includedRanges (f : Family) (included : List Route) : List CidrRange :=
  (routesOf f included).map Route.read

def excludedRanges (f : Family) (excluded : List Route) : List CidrRange :=
  (routesOf f excluded).map Route.range

/-- The list of a family in `get_setup_routes`, before the default route is split. -/
def remaining (x : Exclusion) (included excluded : List Route) (f : Family) : List CidrRange :=
  (excludedRanges f excluded).foldl x.exclude (includedRanges f included)

/-- What all exclusions leave of a range. -/
def pieces (x : Exclusion) : List CidrRange → CidrRange → List CidrRange
  | [], r => [r]
  | e :: es, r => (x.difference r e).flatMap (pieces x es)

variable {x : Exclusion} {es : List CidrRange}

/-- All addresses of the range are excluded. -/
def Excluded (f : Family) (es : List CidrRange) (r : CidrRange) : Prop :=
  ∀ a, a.length = f.bits → r <+: a → ∃ e ∈ es, e <+: a

section Split

variable {d : CidrRange} {g : CidrRange → List CidrRange} {l : List CidrRange}

end Split

end TrustTunnel.Net.Routes

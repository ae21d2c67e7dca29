import Mathlib.Data.Nat.ModEq
import TrustTunnel.Net.Address

namespace TrustTunnel.Net.Wire

open Address List

variable {buffer : List UInt8}

def ipv4AddrSize : ℕ := 4

def ipv6AddrSize : ℕ := 16

def ipv46SizeDiff : ℕ := ipv6AddrSize - ipv4AddrSize

def number (bytes : List UInt8) : ℕ := bytes.foldl (fun n b ↦ 256 * n + b.toNat) 0

/-- The last `width` bytes of a number in network order. -/
def spell : ℕ → ℕ → List UInt8
  | 0, _ => []
  | width + 1, n => spell width (n / 256) ++ [UInt8.ofNat n]

def putU8 (value : ℕ) : List UInt8 := spell 1 value

def putU16 (value : ℕ) : List UInt8 := spell 2 value

def putU32 (value : ℕ) : List UInt8 := spell 4 value

def putIp (a : SocketAddress) : List UInt8 :=
  match a.family with
  | .unspec => []
  | .inet => spell ipv4AddrSize a.host
  | .inet6 => spell ipv6AddrSize a.host

def putIpPadded (a : SocketAddress) : List UInt8 :=
  (if a.isIpv4 then List.replicate ipv46SizeDiff 0 else []) ++ putIp a

abbrev Reader (α : Type) := List UInt8 → Option (α × List UInt8)

def getBytes (size : ℕ) : Reader (List UInt8) := fun buffer ↦
  if buffer.length < size then none else some (buffer.take size, buffer.drop size)

def getNumber (size : ℕ) : Reader ℕ := fun buffer ↦
  (getBytes size buffer).map fun r ↦ (number r.1, r.2)

def getU8 : Reader ℕ := getNumber 1

def getU16 : Reader ℕ := getNumber 2

def getU32 : Reader ℕ := getNumber 4

def getIp (family : AddressFamily) : Reader SocketAddress := fun buffer ↦
  (getNumber (if family = .inet then ipv4AddrSize else ipv6AddrSize) buffer).map fun r ↦
    (⟨family, r.1, 0⟩, r.2)

def in6addrLoopback : List UInt8 := spell ipv6AddrSize 1

def getIpPadded : Reader SocketAddress := fun buffer ↦
  if buffer.length < ipv6AddrSize then none
  else if (buffer.take ipv46SizeDiff).all (· == 0) &&
      buffer.take ipv6AddrSize != in6addrLoopback then
    getIp .inet (buffer.drop ipv46SizeDiff)
  else getIp .inet6 buffer

def getEndpoint : Reader SocketAddress := fun buffer ↦ do
  let (address, buffer) ← getIpPadded buffer
  let (port, buffer) ← getU16 buffer
  return ({ address with port }, buffer)

@[simp] theorem length_spell (width n : ℕ) : (spell width n).length = width := by
  induction width generalizing n with
  | zero => rfl
  | succ width ih => rw [spell, length_append, ih, length_singleton]

theorem number_append (a : List UInt8) (b : UInt8) :
    number (a ++ [b]) = 256 * number a + b.toNat := by
  rw [number, foldl_append]
  rfl

theorem number_spell (width n : ℕ) : number (spell width n) = n % 256 ^ width := by
  induction width generalizing n with
  | zero => simp [spell, number, Nat.mod_one]
  | succ width ih =>
    have hb : (UInt8.ofNat n).toNat = n % 256 := UInt8.toNat_ofNat'
    rw [spell, number_append, ih, hb, Nat.pow_succ', Nat.mod_mul, Nat.add_comm]

theorem getBytes_append {a : List UInt8} {size : ℕ} (h : a.length = size) (b : List UInt8) :
    getBytes size (a ++ b) = some (a, b) := by
  have hl : ¬ (a ++ b).length < size := by
    rw [length_append]
    omega
  rw [getBytes, if_neg hl, take_left' h, drop_left' h]

/-- A number is read back modulo its width. -/
theorem getNumber_spell_append (w n : ℕ) (b : List UInt8) :
    getNumber w (spell w n ++ b) = some (n % 256 ^ w, b) := by
  rw [getNumber, getBytes_append (length_spell w n), Option.map_some, number_spell]

theorem length_putIpPadded {a : SocketAddress} (h : a.valid = true) :
    (putIpPadded a).length = ipv6AddrSize := by
  cases hf : a.family with
  | unspec => simp [SocketAddress.valid, hf] at h
  | inet => simp [putIpPadded, putIp, SocketAddress.isIpv4, hf, ipv46SizeDiff, ipv6AddrSize,
      ipv4AddrSize]
  | inet6 => simp [putIpPadded, putIp, SocketAddress.isIpv4, hf]

theorem getNumber_of_le {s : ℕ} (h : s ≤ buffer.length) :
    getNumber s buffer = some (number (buffer.take s), buffer.drop s) := by
  rw [getNumber, getBytes, if_neg (Nat.not_lt.2 h), Option.map_some]

/-- Four bytes that follow twelve zeros are an address of IPv4, apart from the loopback address. -/
def paddedAddress (bytes : List UInt8) : SocketAddress :=
  if (bytes.take ipv46SizeDiff).all (· == 0) && bytes != in6addrLoopback then
    ⟨.inet, number (bytes.drop ipv46SizeDiff), 0⟩
  else ⟨.inet6, number bytes, 0⟩

theorem getIpPadded_of_le (h : ipv6AddrSize ≤ buffer.length) :
    getIpPadded buffer =
      some (paddedAddress (buffer.take ipv6AddrSize), buffer.drop ipv6AddrSize) := by
  have h4 : ipv4AddrSize ≤ (buffer.drop ipv46SizeDiff).length := by
    simp only [length_drop, ipv46SizeDiff, ipv6AddrSize, ipv4AddrSize] at h ⊢
    omega
  have ht : (buffer.take ipv6AddrSize).take ipv46SizeDiff = buffer.take ipv46SizeDiff := by
    rw [take_take]
    rfl
  rw [getIpPadded, if_neg (Nat.not_lt.2 h), paddedAddress, ht]
  split
  · rw [getIp, if_pos rfl, getNumber_of_le h4, drop_take, Option.map_some, drop_drop]
    rfl
  · rw [getIp, if_neg (by decide), getNumber_of_le h]
    rfl

theorem exists_getEndpoint (h : ipv6AddrSize + 2 ≤ buffer.length) :
    ∃ a, getEndpoint buffer = some (a, buffer.drop (ipv6AddrSize + 2)) := by
  have ha := getIpPadded_of_le ((Nat.le_add_right _ 2).trans h)
  have hp : 2 ≤ (buffer.drop ipv6AddrSize).length := by
    rw [length_drop]
    omega
  refine ⟨{ paddedAddress (buffer.take ipv6AddrSize) with
    port := number ((buffer.drop ipv6AddrSize).take 2) }, ?_⟩
  simp [getEndpoint, ha, getU16, getNumber_of_le hp]

theorem spell_inj {w n m : ℕ} (hn : n < 256 ^ w) (hm : m < 256 ^ w) :
    spell w n = spell w m ↔ n = m := by
  refine ⟨fun h ↦ ?_, fun h ↦ h ▸ rfl⟩
  have h := congrArg number h
  rwa [number_spell, number_spell, Nat.mod_eq_of_lt hn, Nat.mod_eq_of_lt hm] at h

/-- The family of a padded address is told by its zeros. -/
theorem getIpPadded_append {p : List UInt8} (h : p.length = ipv6AddrSize) (r : List UInt8) :
    getIpPadded (p ++ r) =
      if (p.take ipv46SizeDiff).all (· == 0) && p != in6addrLoopback then
        getIp .inet (p.drop ipv46SizeDiff ++ r)
      else getIp .inet6 (p ++ r) := by
  have hle : ipv46SizeDiff ≤ p.length := by rw [h]; decide
  have hl : ¬(p ++ r).length < ipv6AddrSize := by
    rw [length_append, h]
    omega
  rw [getIpPadded, if_neg hl, take_left' h, take_append_of_le_length hle,
    drop_append_of_le_length hle]

def addrSize (a : SocketAddress) : ℕ := if a.isIpv4 then ipv4AddrSize else ipv6AddrSize

/-- A padded address takes sixteen bytes both ways. It is read back as it was written unless it is
0.0.0.1, or begins with twelve zero bytes and is not the loopback address of IPv6. -/
theorem padded_address_round_trip (a : SocketAddress) (r : List UInt8) (hv : a.valid = true)
    (hs : a.host < 256 ^ addrSize a) :
    (putIpPadded a).length = ipv6AddrSize ∧
      ∃ b, getIpPadded (putIpPadded a ++ r) = some (b, r) ∧
        (b = { a with port := 0 } ↔ a.isIpv4 = true ∧ a.host ≠ 1 ∨
          a.isIpv6 = true ∧ (a.host = 1 ∨ ¬∀ x ∈ (putIp a).take ipv46SizeDiff, x = 0)) := by
  have hl := length_putIpPadded hv
  refine ⟨hl, ?_⟩
  rw [getIpPadded_append hl]
  obtain ⟨f, n, p⟩ := a
  cases f with
  | unspec => cases hv
  | inet =>
    replace hs : n < 256 ^ ipv4AddrSize := hs
    have hp : putIpPadded ⟨.inet, n, p⟩ = replicate ipv46SizeDiff 0 ++ spell ipv4AddrSize n := rfl
    have hz : in6addrLoopback = replicate ipv46SizeDiff 0 ++ spell ipv4AddrSize 1 := by decide
    have hlo : putIpPadded ⟨.inet, n, p⟩ = in6addrLoopback ↔ n = 1 := by
      rw [hp, hz, append_cancel_left_eq, spell_inj hs (by decide)]
    by_cases h1 : n = 1
    · rw [hlo.2 h1]
      exact ⟨⟨.inet6, 1, 0⟩, rfl, by simp [SocketAddress.isIpv4, SocketAddress.isIpv6, h1]⟩
    · rw [if_pos (by rw [bne_iff_ne.2 (hlo.not.2 h1), hp, take_left' length_replicate]; rfl), hp,
        drop_left' length_replicate]
      refine ⟨⟨.inet, n, 0⟩, ?_, by simp [SocketAddress.isIpv4, h1]⟩
      rw [getIp, if_pos rfl, getNumber_spell_append, Nat.mod_eq_of_lt hs]
      rfl
  | inet6 =>
    replace hs : n < 256 ^ ipv6AddrSize := hs
    have hp : putIpPadded ⟨.inet6, n, p⟩ = spell ipv6AddrSize n := by
      simp [putIpPadded, putIp, SocketAddress.isIpv4]
    have hlo : spell ipv6AddrSize n = in6addrLoopback ↔ n = 1 := spell_inj hs (by decide)
    have hb : getIp .inet6 (spell ipv6AddrSize n ++ r) = some (⟨.inet6, n, 0⟩, r) := by
      rw [getIp, if_neg (by decide), getNumber_spell_append, Nat.mod_eq_of_lt hs, Option.map_some]
    have hd : ((spell ipv6AddrSize n).drop ipv46SizeDiff).length = ipv4AddrSize := by
      rw [length_drop, length_spell]
      rfl
    have hz : ((spell ipv6AddrSize n).take ipv46SizeDiff).all (· == 0) = true ∧
        spell ipv6AddrSize n ≠ in6addrLoopback ↔
          ¬(n = 1 ∨ ¬∀ x ∈ (spell ipv6AddrSize n).take ipv46SizeDiff, x = 0) := by
      simp only [all_eq_true, beq_iff_eq, ne_eq, hlo, not_or, not_not, and_comm]
    rw [hp]
    split
    · next h =>
      rw [Bool.and_eq_true, bne_iff_ne, hz] at h
      rw [getIp, if_pos rfl, getNumber, getBytes_append hd]
      refine ⟨_, rfl, fun hb ↦ (by cases hb), fun ha ↦ absurd ?_ h⟩
      exact (ha.resolve_left fun hf ↦ (by cases hf.1)).2
    · next h =>
      rw [Bool.and_eq_true, bne_iff_ne, hz, not_not] at h
      exact ⟨_, hb, fun _ ↦ .inr ⟨rfl, h⟩, fun _ ↦ rfl⟩

/-- The one address whose zeros are not padding. -/
theorem padded_address_round_trip_of_loopback :
    (putIpPadded ⟨.inet6, 1, 443⟩).length = ipv6AddrSize ∧
      ∃ b, getIpPadded (putIpPadded ⟨.inet6, 1, 443⟩ ++ [7]) = some (b, [7]) := by
  obtain ⟨hl, b, hb, -⟩ := padded_address_round_trip ⟨.inet6, 1, 443⟩ [7] rfl (by decide)
  exact ⟨hl, b, hb⟩

end TrustTunnel.Net.Wire

import TrustTunnel.Net.Quic

namespace TrustTunnel.Net.Varint

open Wire List

/-- The word that a little-endian machine loads. -/
def load (bytes : List UInt8) : ℕ := bytes.foldr (fun b n ↦ b.toNat + 256 * n) 0

/-- The `width` low bytes of a word, as they lie in memory. -/
def store : ℕ → ℕ → List UInt8
  | 0, _ => []
  | width + 1, n => UInt8.ofNat n :: store width (n / 256)

def ntohs (n : ℕ) : ℕ := number (store 2 n)

def ntohl (n : ℕ) : ℕ := number (store 4 n)

def getVarint (b : UInt8) (rest : List UInt8) : ℕ :=
  let masked := b &&& 0x3f
  match 1 <<< (b >>> 6).toNat with
  | 1 => b.toNat
  | 2 => ntohs (load (masked :: rest.take 1))
  | 4 => ntohl (load (masked :: rest.take 3))
  | 8 =>
    let n := load (masked :: rest.take 7)
    ntohl n <<< 32 ||| ntohl (n >>> 32)
  | _ => 0

def readVarintAdvance : List UInt8 → Int × List UInt8
  | [] => (-1, [])
  | b :: rest =>
    let len := 1 <<< (b >>> 6).toNat
    if len > rest.length + 1 then (-1, b :: rest)
    else (Int.bmod (getVarint b rest) (2 ^ 64), (b :: rest).drop len)

/-- The bytes that the first byte announces, in network order and without its two top bits. -/
def announced (b : UInt8) (rest : List UInt8) : ℕ :=
  b.toNat % 64 * 256 ^ (2 ^ (b.toNat / 64) - 1) + number (rest.take (2 ^ (b.toNat / 64) - 1))

theorem store_load (l : List UInt8) : store l.length (load l) = l := by
  induction l with
  | nil => rfl
  | cons b l ih =>
    have hlt := b.toNat_lt
    have hd : (b.toNat + 256 * load l) / 256 = load l := by omega
    have hb : UInt8.ofNat (b.toNat + 256 * load l) = b := by
      rw [← UInt8.toNat_inj, UInt8.toNat_ofNat']
      omega
    change UInt8.ofNat (b.toNat + 256 * load l) ::
      store l.length ((b.toNat + 256 * load l) / 256) = _
    rw [hb, hd, ih]

theorem store_add (w v n : ℕ) : store (w + v) n = store w n ++ store v (n / 256 ^ w) := by
  induction w generalizing n with
  | zero => simp [store]
  | succ w ih =>
    rw [Nat.succ_add, store, ih, Nat.div_div_eq_div_mul, ← Nat.pow_succ', store, cons_append]

theorem foldl_number (n : ℕ) (l : List UInt8) :
    l.foldl (fun n b ↦ 256 * n + b.toNat) n = n * 256 ^ l.length + number l := by
  induction l generalizing n with
  | nil => simp [number]
  | cons b l ih =>
    have hn : number (b :: l) = _ := ih (256 * 0 + b.toNat)
    rw [foldl_cons, ih, hn, length_cons, Nat.pow_succ, Nat.add_mul, Nat.add_mul, ← Nat.mul_assoc n,
      Nat.mul_assoc 256 n]
    omega

theorem number_append (a c : List UInt8) :
    number (a ++ c) = number a * 256 ^ c.length + number c := by
  rw [number, foldl_append]
  exact foldl_number _ _

theorem number_lt (l : List UInt8) : number l < 256 ^ l.length := by
  induction l with
  | nil => exact Nat.one_pos
  | cons b l ih =>
    have hb := Nat.mul_le_mul_right (256 ^ l.length) (Nat.le_of_lt_succ b.toNat_lt)
    rw [number, foldl_cons, foldl_number, length_cons, Nat.pow_succ, Nat.mul_zero, Nat.zero_add]
    omega

theorem ntohl_pair (n : ℕ) : ntohl n <<< 32 ||| ntohl (n >>> 32) = number (store 8 n) := by
  have hlt := number_lt (store 4 (n / 256 ^ 4))
  have hl : (store 4 (n / 256 ^ 4)).length = 4 := rfl
  rw [hl] at hlt
  rw [store_add 4 4, number_append, hl, Nat.shiftRight_eq_div_pow, ntohl, ntohl,
    ← Nat.shiftLeft_add_eq_or_of_lt (by exact hlt), Nat.shiftLeft_eq]
  rfl

theorem shift_eq (b : UInt8) : 1 <<< (b >>> 6).toNat = 2 ^ (b.toNat / 64) := by
  rw [UInt8.toNat_shiftRight, Nat.one_shiftLeft]
  exact congrArg _ (Nat.shiftRight_eq_div_pow _ 6)

theorem getVarint_eq {b : UInt8} {rest : List UInt8} (h : 2 ^ (b.toNat / 64) ≤ rest.length + 1) :
    getVarint b rest = announced b rest := by
  have hm : (b &&& 0x3f).toNat = b.toNat % 64 := by
    rw [UInt8.toNat_and]
    exact Nat.and_two_pow_sub_one_eq_mod _ 6
  have hn : ∀ k ≤ rest.length, number ((b &&& 0x3f) :: rest.take k) =
      b.toNat % 64 * 256 ^ k + number (rest.take k) := by
    intro k hk
    rw [number, foldl_cons, foldl_number, Nat.mul_zero, Nat.zero_add, hm, length_take_of_le hk]
  have hs : ∀ k ≤ rest.length, store (k + 1) (load ((b &&& 0x3f) :: rest.take k)) =
      (b &&& 0x3f) :: rest.take k := by
    intro k hk
    have := store_load ((b &&& 0x3f) :: rest.take k)
    rwa [length_cons, length_take_of_le hk] at this
  have hlt := b.toNat_lt
  rw [getVarint, announced, shift_eq]
  have hw : b.toNat / 64 = 0 ∨ b.toNat / 64 = 1 ∨ b.toNat / 64 = 2 ∨ b.toNat / 64 = 3 := by omega
  rcases hw with hw | hw | hw | hw
  · rw [hw]
    change b.toNat = b.toNat % 64 * 1 + 0
    omega
  · rw [hw] at h ⊢
    change ntohs _ = _
    rw [ntohs, hs 1 (by omega)]
    exact hn 1 (by omega)
  · rw [hw] at h ⊢
    change ntohl _ = _
    rw [ntohl, hs 3 (by omega)]
    exact hn 3 (by omega)
  · rw [hw] at h ⊢
    change ntohl _ <<< 32 ||| ntohl (_ >>> 32) = _
    rw [ntohl_pair, hs 7 (by omega)]
    exact hn 7 (by omega)

theorem announced_lt (b : UInt8) (rest : List UInt8) : announced b rest < 2 ^ 62 := by
  have hb := b.toNat_lt
  have hlt := number_lt (rest.take (2 ^ (b.toNat / 64) - 1))
  have hw : 2 ^ (b.toNat / 64) - 1 ≤ 2 ^ 3 - 1 :=
    Nat.sub_le_sub_right (Nat.pow_le_pow_right (by decide) (by omega)) 1
  rw [announced]
  generalize 2 ^ (b.toNat / 64) - 1 = k at *
  have hp := Nat.pow_le_pow_right (n := 256) (by decide) (length_take_le k rest)
  have hk : 256 ^ k ≤ 256 ^ 7 := Nat.pow_le_pow_right (by decide) hw
  have hm : b.toNat % 64 * 256 ^ k ≤ 63 * 256 ^ k := Nat.mul_le_mul_right _ (by omega)
  generalize 256 ^ k = p at *
  omega

theorem readVarintAdvance_cons (b : UInt8) (rest : List UInt8) : readVarintAdvance (b :: rest) =
    if rest.length + 1 < 2 ^ (b.toNat / 64) then (-1, b :: rest)
    else (↑(announced b rest), (b :: rest).drop (2 ^ (b.toNat / 64))) := by
  have hlt := announced_lt b rest
  simp only [readVarintAdvance, shift_eq, gt_iff_lt]
  split
  · rfl
  · next h =>
    rw [getVarint_eq (Nat.not_lt.1 h), Int.bmod_eq_of_le (by omega) (by omega)]

/-- The decoder of the machine reads the varints as the RFC defines them. -/
theorem varint_decoded :
    readVarintAdvance [] = (-1, []) ∧
    (∀ b rest, announced b rest < 2 ^ 62 ∧ readVarintAdvance (b :: rest) =
      if rest.length + 1 < 2 ^ (b.toNat / 64) then (-1, b :: rest)
      else (↑(announced b rest), (b :: rest).drop (2 ^ (b.toNat / 64)))) ∧
    ∀ w n r, Quic.Fits w n → readVarintAdvance (Quic.varint w n ++ r) = (↑n, r) := by
  refine ⟨rfl, fun b rest ↦ ⟨announced_lt b rest, readVarintAdvance_cons b rest⟩, fun w n r h ↦ ?_⟩
  have hq := Quic.readVarintAdvance_varint h r
  rw [Quic.varint, cons_append] at hq ⊢
  rw [readVarintAdvance_cons]
  simp only [Quic.readVarintAdvance] at hq
  split at hq
  · cases hq
  · next hl =>
    obtain ⟨hn, hr⟩ := Prod.mk.inj (Option.some.inj hq)
    rw [if_neg hl, announced, hn, ← Nat.succ_pred_eq_of_pos (Nat.two_pow_pos _), drop_succ_cons]
    exact congrArg _ hr

end TrustTunnel.Net.Varint

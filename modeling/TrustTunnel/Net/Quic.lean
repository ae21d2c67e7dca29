import Mathlib.Data.List.Range
import Mathlib.Data.List.Sort
import TrustTunnel.Net.Wire

namespace TrustTunnel.Net.Quic

open Wire List

def readVarintAdvance : List UInt8 → Option (ℕ × List UInt8)
  | [] => none
  | b :: rest =>
    let len := 2 ^ (b.toNat / 64)
    if rest.length + 1 < len then none
    else
      some (b.toNat % 64 * 256 ^ (len - 1) + number (rest.take (len - 1)), rest.drop (len - 1))

/-- `emplace` of a set of links that are compared by their offsets. -/
def emplace {α : Type} (link : ℕ × α) : List (ℕ × α) → List (ℕ × α)
  | [] => [link]
  | l :: ls =>
    if link.1 < l.1 then link :: l :: ls
    else if link.1 = l.1 then l :: ls
    else l :: emplace link ls

/-- Each round of the loop takes a byte at least, so that the bytes are fuel enough. -/
def readFrames : ℕ → List UInt8 → List (ℕ × List UInt8) → Option (List (ℕ × List UInt8))
  | 0, _, fragments => some fragments
  | fuel + 1, payload, fragments =>
    match readVarintAdvance payload with
    | some (0x00, rest) => readFrames fuel rest fragments
    | some (0x01, rest) => readFrames fuel rest fragments
    | some (0x06, rest) => do
      let (offset, rest) ← readVarintAdvance rest
      let (len, rest) ← readVarintAdvance rest
      if rest.length < len then none
      else readFrames fuel (rest.drop len) (emplace (offset, rest.take len) fragments)
    | _ => some fragments

def reassembleInitialCryptoFrames (payload : List UInt8) : Option (List UInt8) := do
  let fragments ← readFrames payload.length payload []
  if fragments.isEmpty then none else some (fragments.flatMap (·.2))

/-- The varint of `2 ^ w` bytes. -/
def varint (w n : ℕ) : List UInt8 :=
  UInt8.ofNat (64 * w + n / 256 ^ (2 ^ w - 1)) :: spell (2 ^ w - 1) n

def Fits (w n : ℕ) : Prop := w < 4 ∧ n < 64 * 256 ^ (2 ^ w - 1)

/-- The frames, each with the widths of its numbers. -/
inductive Frame
  | padding (w : ℕ)
  | ping (w : ℕ)
  | crypto (w wo wl offset len : ℕ)

namespace Frame

def fits : Frame → Prop
  | padding w => Fits w 0
  | ping w => Fits w 1
  | crypto w wo wl offset len => Fits w 6 ∧ Fits wo offset ∧ Fits wl len

/-- A CRYPTO frame carries the bytes of the stream at its offset. -/
def encode (stream : ℕ → UInt8) : Frame → List UInt8
  | padding w => varint w 0
  | ping w => varint w 1
  | crypto w wo wl offset len =>
    varint w 6 ++ (varint wo offset ++ (varint wl len ++ (range' offset len).map stream))

def piece : Frame → Option (ℕ × ℕ)
  | crypto _ _ _ offset len => some (offset, len)
  | _ => none

end Frame

variable {fs : List Frame} {stream : ℕ → UInt8}

def payload (stream : ℕ → UInt8) (fs : List Frame) : List UInt8 := fs.flatMap (Frame.encode stream)

def pieces (fs : List Frame) : List (ℕ × ℕ) := fs.filterMap Frame.piece

def positions (p : ℕ × ℕ) : List ℕ := range' p.1 p.2

/-- The frames cover the first `c` positions, and not the next one. -/
def CoversPrefix (fs : List Frame) (c : ℕ) : Prop :=
  (∀ i < c, ∃ p ∈ pieces fs, i ∈ positions p) ∧ ∀ p ∈ pieces fs, c ∉ positions p

def kept (ps : List (ℕ × ℕ)) : List (ℕ × ℕ) := ps.foldl (fun ls p ↦ emplace p ls) []

/-- The first piece of each offset, in the order of the offsets. -/
structure FirstPieces (ps ls : List (ℕ × ℕ)) : Prop where
  sorted : ls.Pairwise fun p q ↦ p.1 < q.1
  mem_iff : ∀ p, p ∈ ls ↔ ps.find? (·.1 = p.1) = some p

/-- The pieces that are not empty follow one another from `c` to `d`. -/
def Adjacent : ℕ → List (ℕ × ℕ) → ℕ → Prop
  | c, [], d => c = d
  | c, p :: ps, d => if p.2 = 0 then Adjacent c ps d else p.1 = c ∧ Adjacent (c + p.2) ps d

/-- A number is read back, and what follows it is left. -/
theorem readVarintAdvance_varint {w n : ℕ} (h : Fits w n) (r : List UInt8) :
    readVarintAdvance (varint w n ++ r) = some (n, r) := by
  obtain ⟨hw, hn⟩ := h
  have hf : ∀ q < 64, (UInt8.ofNat (64 * w + q)).toNat = 64 * w + q ∧
      (64 * w + q) / 64 = w ∧ (64 * w + q) % 64 = q := fun q hq ↦ by
    rw [UInt8.toNat_ofNat']
    omega
  obtain ⟨hb, hd, hm⟩ := hf (n / 256 ^ (2 ^ w - 1)) (Nat.div_lt_of_lt_mul (by rwa [Nat.mul_comm]))
  have hp : 0 < 2 ^ w := Nat.two_pow_pos w
  have hl : ¬(spell (2 ^ w - 1) n ++ r).length + 1 < 2 ^ w := by
    rw [length_append, length_spell]
    omega
  rw [varint, cons_append, readVarintAdvance]
  simp only [hb, hd, hm, if_neg hl]
  rw [take_left' (length_spell _ _), drop_left' (length_spell _ _), number_spell, Nat.mul_comm,
    Nat.div_add_mod]

theorem readFrames_payload {fl : ℕ} {l : List (ℕ × List UInt8)} (hf : ∀ f ∈ fs, f.fits)
    (h : (payload stream fs).length ≤ fl) :
    readFrames fl (payload stream fs) l = some ((pieces fs).foldl
      (fun ls p ↦ emplace (p.1, (positions p).map stream) ls) l) := by
  induction fs generalizing fl l with
  | nil => cases fl <;> rfl
  | cons f fs ih =>
    obtain ⟨hf, hs⟩ := forall_mem_cons.1 hf
    obtain ⟨fl, rfl⟩ : ∃ n, fl = n + 1 := ⟨fl - 1, by
      have hp : 0 < (f.encode stream).length := by cases f <;> simp [Frame.encode, varint]
      simp only [payload, flatMap_cons, length_append] at h
      omega⟩
    simp only [payload, flatMap_cons, length_append] at h ⊢
    cases f with
    | padding w =>
      simp only [Frame.encode, varint, length_cons] at h
      rw [readFrames, Frame.encode, readVarintAdvance_varint hf]
      exact ih hs (by rw [payload]; omega)
    | ping w =>
      simp only [Frame.encode, varint, length_cons] at h
      rw [readFrames, Frame.encode, readVarintAdvance_varint hf]
      exact ih hs (by rw [payload]; omega)
    | crypto w wo wl o len =>
      simp only [Frame.encode, varint, length_cons, length_append] at h
      have hl : ((range' o len).map stream).length = len := by simp
      rw [readFrames, Frame.encode, append_assoc, append_assoc, append_assoc,
        readVarintAdvance_varint hf.1]
      simp only [readVarintAdvance_varint hf.2.1, readVarintAdvance_varint hf.2.2,
        Option.bind_eq_bind, Option.bind_some]
      rw [if_neg (by rw [length_append, hl]; omega), drop_left' hl, take_left' hl]
      exact ih hs (by rw [payload]; omega)

theorem emplace_map {α β : Type} (f : ℕ × α → β) (p : ℕ × α) (ls : List (ℕ × α)) :
    emplace (p.1, f p) (ls.map fun q ↦ (q.1, f q)) = (emplace p ls).map fun q ↦ (q.1, f q) := by
  induction ls with
  | nil => rfl
  | cons q ls ih =>
    simp only [emplace, map_cons]
    split
    · rfl
    · split
      · rfl
      · rw [ih, map_cons]

theorem foldl_emplace {α β : Type} (f : ℕ × α → β) (ps ls : List (ℕ × α)) :
    ps.foldl (fun ls p ↦ emplace (p.1, f p) ls) (ls.map fun q ↦ (q.1, f q)) =
      (ps.foldl (fun ls p ↦ emplace p ls) ls).map fun q ↦ (q.1, f q) := by
  induction ps generalizing ls with
  | nil => rfl
  | cons p ps ih => rw [foldl_cons, emplace_map, ih, foldl_cons]

theorem emplace_ne_nil {α : Type} (p : ℕ × α) (ls : List (ℕ × α)) : emplace p ls ≠ [] := by
  fun_cases emplace p ls <;> exact cons_ne_nil _ _

theorem kept_eq_nil {ps : List (ℕ × ℕ)} : kept ps = [] ↔ ps = [] := by
  rcases eq_nil_or_concat ps with rfl | ⟨ps, p, rfl⟩
  · exact Iff.rfl
  · rw [concat_eq_append, kept, foldl_append]
    exact iff_of_false (emplace_ne_nil _ _) (by simp)

theorem mem_emplace {p q : ℕ × ℕ} {ls : List (ℕ × ℕ)} (h : ls.Pairwise fun p q ↦ p.1 < q.1) :
    q ∈ emplace p ls ↔ q ∈ ls ∨ q = p ∧ ∀ r ∈ ls, r.1 ≠ p.1 := by
  induction ls with
  | nil => simp [emplace]
  | cons l ls ih =>
    obtain ⟨hl, hs⟩ := pairwise_cons.1 h
    simp only [emplace]
    split
    · grind
    · split
      · grind
      · simp only [mem_cons, ih hs]
        grind

theorem sorted_emplace (p : ℕ × ℕ) {ls : List (ℕ × ℕ)} (h : ls.Pairwise fun p q ↦ p.1 < q.1) :
    (emplace p ls).Pairwise fun p q ↦ p.1 < q.1 := by
  induction ls with
  | nil => exact pairwise_singleton _ _
  | cons l ls ih =>
    obtain ⟨hl, hs⟩ := pairwise_cons.1 h
    simp only [emplace]
    split
    · next hp => exact pairwise_cons.2 ⟨forall_mem_cons.2 ⟨hp, fun q hq ↦ hp.trans (hl q hq)⟩, h⟩
    · split
      · exact h
      · refine pairwise_cons.2 ⟨fun q hq ↦ ?_, ih hs⟩
        rcases (mem_emplace hs).1 hq with hq | ⟨rfl, -⟩
        · exact hl q hq
        · omega

theorem firstPieces_kept (ps : List (ℕ × ℕ)) : FirstPieces ps (kept ps) := by
  induction ps using reverseRecOn with
  | nil => exact ⟨.nil, by simp [kept]⟩
  | append_singleton ps p ih =>
    rw [kept, foldl_append]
    refine ⟨sorted_emplace p ih.sorted, fun q ↦ ?_⟩
    have hn : (∀ r ∈ kept ps, r.1 ≠ p.1) ↔ ps.find? (·.1 = p.1) = none := by
      refine ⟨fun h ↦ Option.eq_none_iff_forall_ne_some.2 fun r hr ↦ ?_, fun h r hr he ↦ ?_⟩
      · have he : r.1 = p.1 := by simpa using find?_some hr
        exact h r ((ih.mem_iff r).2 (he ▸ hr)) he
      · have hr := (ih.mem_iff r).1 hr
        rw [he, h] at hr
        cases hr
    refine (mem_emplace ih.sorted).trans ?_
    rw [hn, ih.mem_iff, find?_append]
    cases hq : ps.find? (·.1 = q.1) with
    | some x =>
      refine ⟨fun h ↦ ?_, .inl⟩
      rcases h with h | ⟨rfl, h⟩
      · exact h
      · cases hq.symm.trans h
    | none =>
      rw [Option.none_or, find?_singleton]
      refine ⟨fun h ↦ ?_, fun h ↦ ?_⟩
      · rcases h with h | ⟨rfl, -⟩
        · cases h
        · simp
      · split at h
        · cases h
          exact .inr ⟨rfl, hq⟩
        · cases h

/-- The pieces that the loop keeps are determined by the frames. -/
theorem FirstPieces.eq_kept {ps ls : List (ℕ × ℕ)} (h : FirstPieces ps ls) : ls = kept ps := by
  have hk := firstPieces_kept ps
  refine h.sorted.eq_of_mem_iff hk.sorted fun p ↦ ?_
  rw [h.mem_iff, hk.mem_iff]

/-- The result as the bytes at the positions of the kept pieces. -/
theorem reassemble_eq (hf : ∀ f ∈ fs, f.fits) :
    reassembleInitialCryptoFrames (payload stream fs) =
      if pieces fs = [] then none
      else some (((kept (pieces fs)).flatMap positions).map stream) := by
  have hl : (pieces fs).foldl (fun ls p ↦ emplace (p.1, (positions p).map stream) ls) [] =
      (kept (pieces fs)).map fun p ↦ (p.1, (positions p).map stream) :=
    foldl_emplace (fun p ↦ (positions p).map stream) (pieces fs) []
  rw [reassembleInitialCryptoFrames, readFrames_payload hf (Nat.le_refl _), hl]
  simp only [Option.bind_eq_bind, Option.bind_some, List.isEmpty_iff, map_eq_nil_iff, kept_eq_nil,
    flatMap_map, map_flatMap]

theorem adjacent_iff {c d : ℕ} {ps : List (ℕ × ℕ)} :
    Adjacent c ps d ↔ c ≤ d ∧ ps.flatMap positions = range' c (d - c) := by
  induction ps generalizing c with
  | nil =>
    rw [Adjacent, flatMap_nil, eq_comm (a := []), range'_eq_nil_iff]
    omega
  | cons p ps ih =>
    obtain ⟨o, l⟩ := p
    rw [Adjacent, flatMap_cons]
    cases l with
    | zero => simpa [positions] using ih
    | succ l =>
      rw [if_neg (Nat.succ_ne_zero l), ih]
      constructor
      · rintro ⟨rfl, hle, he⟩
        refine ⟨by omega, ?_⟩
        rw [he, positions, range'_append_1]
        congr 1
        omega
      · rintro ⟨hle, he⟩
        have hl := congrArg length he
        simp only [positions, length_append, length_range'] at hl
        obtain ⟨n, hn⟩ : ∃ n, d - c = l + 1 + n := ⟨d - c - (l + 1), by omega⟩
        rw [hn, ← range'_append_1] at he
        obtain ⟨hf, hr⟩ := append_inj he (by simp [positions])
        rw [positions, range'_succ, range'_succ] at hf
        exact ⟨(cons.inj hf).1, by omega, hr.trans (by congr 1; omega)⟩

/-- The covered prefix is unique. -/
theorem CoversPrefix.eq {c d : ℕ} (hc : CoversPrefix fs c) (hd : CoversPrefix fs d) : c = d := by
  have hl : ∀ {c d}, CoversPrefix fs c → CoversPrefix fs d → c ≤ d := fun hc hd ↦
    Nat.le_of_not_lt fun ht ↦ by
      obtain ⟨p, hp, hi⟩ := hc.1 _ ht
      exact hd.2 p hp hi
  exact Nat.le_antisymm (hl hc hd) (hl hd hc)

theorem eq_of_forall_map {l l' : List ℕ} (h : ∀ s : ℕ → UInt8, l.map s = l'.map s) : l = l' := by
  have hl : l.length = l'.length := by simpa using congrArg length (h fun _ ↦ 0)
  refine ext_getElem hl fun i hi hi' ↦ ?_
  have hs := congrArg (·[i]?) (h fun j ↦ if j = l'[i] then 1 else 0)
  simpa [hi, hi'] using hs

/-- What is returned is made of the first piece of each offset, in the order of the offsets.
Whatever stream the frames carry, that is the longest prefix that they cover exactly if these pieces
follow one another from 0 to a position that no frame covers. -/
theorem covered_prefix_returned_iff (hf : ∀ f ∈ fs, f.fits) {ls : List (ℕ × ℕ)}
    (hls : FirstPieces (pieces fs) ls) :
    (∀ stream, reassembleInitialCryptoFrames (payload stream fs) =
      if pieces fs = [] then none else some ((ls.flatMap positions).map stream)) ∧
    ((∀ stream, if pieces fs = [] then reassembleInitialCryptoFrames (payload stream fs) = none
      else ∃ c, CoversPrefix fs c ∧
        reassembleInitialCryptoFrames (payload stream fs) = some ((range c).map stream)) ↔
    pieces fs = [] ∨ ∃ d, Adjacent 0 ls d ∧ ∀ p ∈ pieces fs, d ∉ positions p) := by
  have hr : ∀ stream, reassembleInitialCryptoFrames (payload stream fs) =
      if pieces fs = [] then none else some ((ls.flatMap positions).map stream) :=
    fun _ ↦ hls.eq_kept ▸ reassemble_eq hf
  refine ⟨hr, ?_⟩
  by_cases hnil : pieces fs = []
  · simp [hnil, hr]
  simp only [hr, hnil, if_false, false_or, Option.some.injEq, adjacent_iff,
    Nat.zero_le, true_and, Nat.sub_zero, ← range_eq_range']
  constructor
  · intro h
    obtain ⟨c, hc, -⟩ := h fun _ ↦ 0
    refine ⟨c, eq_of_forall_map fun s ↦ ?_, hc.2⟩
    obtain ⟨d, hd, hs⟩ := h s
    rw [hs, hd.eq hc]
  · rintro ⟨d, hd, hn⟩ stream
    refine ⟨d, ⟨fun i hi ↦ ?_, hn⟩, by rw [hd]⟩
    obtain ⟨p, hp, hi⟩ := mem_flatMap.1 (hd ▸ mem_range.2 hi)
    exact ⟨p, mem_of_find?_eq_some ((hls.mem_iff p).1 hp), hi⟩

/-- Two frames in the wrong order. -/
theorem covered_prefix_returned_of_two :
    reassembleInitialCryptoFrames
      (payload UInt8.ofNat [.crypto 0 0 0 2 3, .padding 0, .crypto 0 0 0 0 2]) =
        some [0, 1, 2, 3, 4] := by
  obtain ⟨c, hc, h⟩ := ((@covered_prefix_returned_iff
    [.crypto 0 0 0 2 3, .padding 0, .crypto 0 0 0 0 2] (by simp [Frame.fits, Fits]) [(0, 2), (2, 3)]
      (firstPieces_kept _)).2.2 (.inr ⟨5, adjacent_iff.2 (by decide), by decide⟩)) UInt8.ofNat
  obtain rfl : c = 5 := hc.eq ⟨by decide, by decide⟩
  exact h

/-- A hole is closed up: the bytes of the positions 0 and 2 are returned as if they were one
prefix. -/
theorem hole_closed_up :
    (∀ f ∈ [Frame.crypto 0 0 0 0 1, .crypto 0 0 0 2 1], f.fits) ∧
    CoversPrefix [.crypto 0 0 0 0 1, .crypto 0 0 0 2 1] 1 ∧
    reassembleInitialCryptoFrames
      (payload UInt8.ofNat [.crypto 0 0 0 0 1, .crypto 0 0 0 2 1]) = some [0, 2] := by
  refine ⟨by simp [Frame.fits, Fits], ⟨?_, ?_⟩, ?_⟩ <;> decide

section Decryption

structure QuicPacketHeader where
  version : ℕ
  dcidLen : ℕ
  scidLen : ℕ
  tokenLen : ℕ

/-- Whether the keys are derived, the mask for the sample, and the overhead of a decrypted
payload. -/
structure Crypto where
  keys : Bool
  hpMask : Option (List UInt8)
  maxOverhead : Option ℕ

/-- The ranges and subtractions that are used, and the range that is decrypted. -/
structure Report where
  uses : List (ℕ × ℕ) := []
  subtractions : List (ℕ × ℕ) := []
  decrypted : Option (ℕ × ℕ) := none

def sub (a b : ℕ) : ℕ := if b ≤ a then a - b else a + 2 ^ 64 - b

variable (packet : List UInt8) (hd : QuicPacketHeader) (c : Crypto)

def varintSize (offset : ℕ) : ℕ := 2 ^ ((packet.getD offset 0).toNat / 64)

def getVarint (offset : ℕ) : ℕ := ((readVarintAdvance (packet.drop offset)).map (·.1)).getD 0

def tokenLengthOffset : ℕ := 1 + 4 + 1 + hd.dcidLen + 1 + hd.scidLen

def payloadLengthOffset : ℕ :=
  tokenLengthOffset hd + varintSize packet (tokenLengthOffset hd) + hd.tokenLen

def pnOffset : ℕ :=
  7 + hd.dcidLen + hd.scidLen + varintSize packet (payloadLengthOffset packet hd) +
    varintSize packet (tokenLengthOffset hd) + hd.tokenLen

def pnLength (hpMask : List UInt8) : ℕ :=
  ((packet.getD 0 0 ^^^ (hpMask.getD 0 0 &&& 0x0f)) &&& 0x03).toNat + 1

/-- The oldest of the known versions is 1. -/
def decryptInitial : Report :=
  if packet.length < 1200 ∨ hd.version < 1 ∨ !c.keys then {}
  else
    let pnOffset := pnOffset packet hd
    let uses := [(tokenLengthOffset hd, 1), (payloadLengthOffset packet hd, 1), (pnOffset + 4, 16)]
    match c.hpMask with
    | none => { uses }
    | some hpMask =>
      let pnLength := pnLength packet hpMask
      let payloadOffset := pnOffset + pnLength
      let length := getVarint packet (payloadLengthOffset packet hd)
      let payloadLen := sub length pnLength
      let uses := uses ++ [(pnOffset, pnLength),
        (payloadLengthOffset packet hd, varintSize packet (payloadLengthOffset packet hd))]
      let subtractions := [(length, pnLength), (packet.length, payloadOffset)]
      if sub packet.length payloadOffset < payloadLen then { uses, subtractions }
      else
        let uses := uses ++ [(payloadOffset, payloadLen)]
        match c.maxOverhead with
        | none => { uses, subtractions }
        | some maxOverhead =>
          if payloadLen + payloadOffset < maxOverhead then { uses, subtractions }
          else
            { uses
              subtractions := subtractions ++ [(payloadLen + payloadOffset, maxOverhead)]
              decrypted := some (payloadOffset, payloadLen) }

/-- The ranges lie within the packet, nothing wraps around, and the rest of it is decrypted. -/
def Sound (r : Report) : Prop :=
  (∀ u ∈ r.uses, u.1 + u.2 ≤ packet.length) ∧ (∀ s ∈ r.subtractions, s.2 ≤ s.1) ∧
    ∀ d ∈ r.decrypted, ∀ hpMask ∈ c.hpMask, d = (pnOffset packet hd + pnLength packet hpMask,
      getVarint packet (payloadLengthOffset packet hd) - pnLength packet hpMask)

variable {packet hd c}

theorem pnLength_le (hm : List UInt8) : pnLength packet hm ≤ 4 := by
  rw [pnLength, UInt8.toNat_and]
  exact Nat.succ_le_succ Nat.and_le_right

/-- Where the packet number is, and that the offsets before it ascend. -/
theorem pnOffset_eq : pnOffset packet hd =
      payloadLengthOffset packet hd + varintSize packet (payloadLengthOffset packet hd) ∧
    tokenLengthOffset hd < payloadLengthOffset packet hd ∧
    payloadLengthOffset packet hd < pnOffset packet hd := by
  have hs : ∀ o, 0 < varintSize packet o := fun _ ↦ Nat.two_pow_pos _
  have ht := hs (tokenLengthOffset hd)
  have hp := hs (payloadLengthOffset packet hd)
  unfold pnOffset
  unfold payloadLengthOffset tokenLengthOffset at *
  omega

/-- The decryption reads within the packet exactly if the sample for the header protection does and
the announced length has room for the packet number. -/
theorem decryptInitial_sound_iff : Sound packet hd c (decryptInitial packet hd c) ↔
    (1200 ≤ packet.length → 1 ≤ hd.version → c.keys →
      pnOffset packet hd + 20 ≤ packet.length ∧ ∀ hpMask ∈ c.hpMask,
        pnLength packet hpMask ≤ getVarint packet (payloadLengthOffset packet hd)) := by
  obtain ⟨he, ht, hp⟩ := @pnOffset_eq packet hd
  unfold decryptInitial
  split
  · rename_i h
    refine iff_of_true (by simp [Sound]) fun hl hv hk ↦ absurd h ?_
    simp [hk]
    omega
  · rename_i h
    simp only [not_or, Nat.not_lt, Bool.not_eq_true, Bool.not_eq_false'] at h
    simp only [h.1, h.2.1, h.2.2, true_imp_iff]
    cases hm : c.hpMask with
    | none =>
      simp [Sound, hm]
      omega
    | some hpMask =>
      have hle := @pnLength_le packet hpMask
      simp only [Option.mem_some_iff, forall_eq', Sound, hm]
      generalize pnOffset packet hd = pn at *
      generalize pnLength packet hpMask = l at *
      generalize getVarint packet (payloadLengthOffset packet hd) = n at *
      generalize tokenLengthOffset hd = t at *
      generalize payloadLengthOffset packet hd = q at *
      generalize varintSize packet q = v at *
      refine ⟨fun hs ↦ ?_, fun hs ↦ ?_⟩
      · repeat' split at hs
        all_goals
          have ha := hs.1 (pn + 4, 16) (by simp)
          exact ⟨by omega, hs.2.1 (n, l) (by simp)⟩
      · obtain ⟨hen, hn⟩ := hs
        have hy : sub n l = n - l := if_pos hn
        have hr : sub packet.length (pn + l) = packet.length - (pn + l) := if_pos (by omega)
        rw [hy, hr]
        repeat' split
        all_goals
          simp
          omega

/-- The header is what the packet says, and ends within it. -/
def Decoded (packet : List UInt8) (hd : QuicPacketHeader) : Prop :=
  (packet.getD 5 0).toNat = hd.dcidLen ∧ (packet.getD (6 + hd.dcidLen) 0).toNat = hd.scidLen ∧
    getVarint packet (tokenLengthOffset hd) = hd.tokenLen ∧ pnOffset packet hd ≤ packet.length

/-- The token takes all of the packet but the last byte, so that no byte is left for the sample. -/
def tokenPacket : List UInt8 := [0xc0, 0, 0, 0, 1, 0, 0, 0x44, 0xa6] ++ replicate 1191 0

/-- A long token puts the sample behind the end of the packet. -/
theorem sample_outside_packet :
    Decoded tokenPacket ⟨1, 0, 0, 1190⟩ ∧ tokenPacket.length = 1200 ∧
      (1204, 16) ∈ (decryptInitial tokenPacket ⟨1, 0, 0, 1190⟩ ⟨true, none, none⟩).uses := by
  unfold Decoded
  decide +kernel

end Decryption

end TrustTunnel.Net.Quic

import TrustTunnel.Lib.Transition
import TrustTunnel.Buffer.Memfile

namespace TrustTunnel.Buffer.Queue

open Lib.Transition Memory Memfile MemfileBuffer List

variable {b : MemfileBuffer} {data : List UInt8} {source : List UInt8} {n : ℕ}

theorem readOut_zero (t : ℕ → Transfer) (f i : ℕ) (s : List UInt8) :
    readOut t f i s 0 = ([], none) := by
  cases f <;> rfl

theorem readOut_full {w : ℕ} (h : w ≤ source.length) :
    readOut (fun _ ↦ .full) w 0 source w = (source.take w, none) := by
  cases w with
  | zero => rfl
  | succ n =>
    have hm : min source.length (n + 1) = n + 1 := Nat.min_eq_right h
    simp [readOut, Transfer.amount, hm, readOut_zero]

theorem fillBuffer_done (t : ℕ → Transfer) (f i : ℕ) (s : List UInt8) {buf : List UInt8}
    {ps : ℕ} (h : buf.length ≤ ps) : fillBuffer t f i s buf ps = .ok buf := by
  cases f with
  | zero => rfl
  | succ f => simp only [fillBuffer, if_pos h]

theorem fillBuffer_step {t : ℕ → Transfer} {f i p n : ℕ} {s b : List UInt8}
    (hs : p < b.length) (hn : (t i).amount (b.length - p) = some (n + 1))
    (hl : n + 1 ≤ s.length) :
    fillBuffer t (f + 1) i s b p = fillBuffer t f (i + 1)
      (s.drop (n + 1)) (s.take (n + 1) ++ b.drop (n + 1)) (p + (n + 1)) := by
  have hm : min s.length (n + 1) = n + 1 := Nat.min_eq_right hl
  simp only [fillBuffer, if_neg (Nat.not_le.2 hs), hn, Option.map_some, hm]

theorem writeOut_done (t : ℕ → Transfer) (f i : ℕ) {b : List UInt8} {p : ℕ}
    (h : b.length ≤ p) (d : List UInt8) : writeOut t f i b p d = .ok d := by
  cases f with
  | zero => rfl
  | succ f => simp only [writeOut, if_pos h]

theorem writeOut_step {t : ℕ → Transfer} {f i p n : ℕ} {b d : List UInt8}
    (hs : p < b.length) (hn : (t i).amount (b.length - p) = some (n + 1)) :
    writeOut t (f + 1) i b p d =
      writeOut t f (i + 1) b (p + (n + 1)) (d ++ b.take (n + 1)) := by
  simp only [writeOut, if_neg (Nat.not_le.2 hs), hn]

theorem fillBuffer_whole {t : ℕ → Transfer} (ht : (t 0).amount (n + 1) = some (n + 1))
    (h : source.length = n + 1) :
    fillBuffer t (n + 1) 0 source (replicate (n + 1) 0) 0 = .ok source := by
  have hl : (replicate (n + 1) (0 : UInt8)).length = n + 1 := length_replicate
  rw [fillBuffer_step (by omega) (by rwa [hl]) (by omega), drop_of_length_le (by omega),
    drop_of_length_le (by omega), append_nil, take_of_length_le (by omega),
    fillBuffer_done _ _ _ _ (by omega)]

theorem writeOut_whole {t : ℕ → Transfer} (ht : (t 0).amount (n + 1) = some (n + 1))
    (h : source.length = n + 1) : writeOut t (n + 1) 0 source 0 [] = .ok source := by
  rw [writeOut_step (by omega) (by rwa [h]), take_of_length_le (by omega),
    writeOut_done _ _ _ (by omega)]
  rfl

/-- The first transfer of an operation moves all of the `n` bytes it is asked for. -/
def Whole (fs : FileSystem) (op : FileOperation) (n : ℕ) : Prop :=
  (fs.transfer op 0).amount n = some n

theorem transferFile2File_whole {fs : FileSystem} (hd : Whole fs .stripRead source.length)
    (hw : Whole fs .stripWrite source.length) :
    transferFile2File fs source source.length = .ok source := by
  simp only [transferFile2File]
  split
  · next h => rw [length_eq_zero_iff.1 h]
  · next h =>
    obtain ⟨n, hn⟩ := Nat.exists_eq_add_one_of_ne_zero h
    rw [Whole, hn] at hd hw
    rw [hn, fillBuffer_whole hd hn]
    exact writeOut_whole hw hn

theorem unreadFile_length : b.unreadFile.length = b.file.length - b.readOffset := length_drop

theorem copyUnread_full : b.copyUnread {} = .ok b.unreadFile := by
  have hw : ∀ op n, Whole {} op n := fun _ _ ↦ rfl
  simp only [copyUnread, Bool.false_eq_true, if_false, ← unreadFile_length]
  rw [transferFile2File_whole (hw _ _) (hw _ _)]

structure Sound (b : MemfileBuffer) : Prop where
  closed : b.opened = false → b.file = []
  offset_le : b.readOffset ≤ b.file.length
  file_le : b.file.length ≤ b.maxFileSize
  mem_le : b.memBuffer.size ≤ b.threshold

structure Valid (b : MemfileBuffer) : Prop extends Sound b where
  full : b.unreadFile ≠ [] → b.memBuffer.size = b.threshold

theorem valid_empty (threshold maxFileSize : ℕ) : Valid { threshold, maxFileSize } where
  closed := fun _ ↦ rfl
  offset_le := Nat.le_refl 0
  file_le := Nat.zero_le _
  mem_le := Nat.zero_le _
  full := fun h ↦ absurd rfl h

theorem Sound.size_eq (h : Sound b) : b.size {} = b.bytes.length := by
  have hf : (if b.opened && !false then b.file.length else 0) = b.file.length := by
    cases ho : b.opened with
    | true => rfl
    | false => simp [h.closed ho]
  simp only [size, hf, bytes, length_append, unreadFile_length, MemoryBuffer.size_eq]

theorem transferFile2Mem_full (h : Sound b) :
    b.transferFile2Mem {} =
      ({ b with
          readOffset := b.readOffset + min b.getFreeMemSpace b.unreadFile.length
          memBuffer := b.memBuffer.push (b.unreadFile.take b.getFreeMemSpace) }, none) := by
  have hn : b.getFreeMemSpace = 0 ∨ b.unreadFile = [] →
      ({ b with
          readOffset := b.readOffset + min b.getFreeMemSpace b.unreadFile.length
          memBuffer := b.memBuffer.push (b.unreadFile.take b.getFreeMemSpace) } :
        MemfileBuffer) = b := by
    rintro (hfree | hunr)
    · simp [hfree, MemoryBuffer.push]
    · simp [hunr, MemoryBuffer.push]
  simp only [transferFile2Mem, Bool.false_eq_true, if_false]
  split
  · next hs =>
    rw [hn]
    rcases Bool.or_eq_true_iff.1 hs with hc | hfree
    · have hf := h.closed (by simpa using hc)
      exact .inr (by rw [unreadFile, hf, drop_nil])
    · exact .inl (of_decide_eq_true hfree)
  split
  · next he =>
    rw [hn]
    refine .inr (length_eq_zero_iff.1 ?_)
    rw [unreadFile_length]
    simp only [Bool.or_eq_true, decide_eq_true_eq] at he
    omega
  · have hl : min b.getFreeMemSpace b.unreadFile.length ≤ b.unreadFile.length :=
      Nat.min_le_right _ _
    have ht : b.unreadFile.take (min b.getFreeMemSpace b.unreadFile.length) =
        b.unreadFile.take b.getFreeMemSpace := by
      rw [← take_take, take_length]
    rw [← unreadFile_length, readOut_full hl, ht, moveToMem]
    simp

theorem getFreeMemSpace_add (h : Sound b) : b.memBuffer.size + b.getFreeMemSpace = b.threshold :=
  Nat.add_sub_cancel' h.mem_le

theorem Sound.refill (h : Sound b) : ∃ t, b.transferFile2Mem {} = (t, none) ∧ Valid t ∧
    t.bytes = b.bytes ∧ t.threshold = b.threshold ∧ t.maxFileSize = b.maxFileSize := by
  have hf := getFreeMemSpace_add h
  have he := h.offset_le
  have hl : b.unreadFile.length = b.file.length - b.readOffset := unreadFile_length
  have hu : b.file.drop (b.readOffset + min b.getFreeMemSpace b.unreadFile.length) =
      b.unreadFile.drop b.getFreeMemSpace := by
    rw [← drop_drop]
    change b.unreadFile.drop (min _ _) = _
    rcases Nat.le_total b.getFreeMemSpace b.unreadFile.length with hmin | hmin
    · rw [Nat.min_eq_left hmin]
    · rw [Nat.min_eq_right hmin, drop_length, drop_eq_nil_of_le hmin]
  refine ⟨_, transferFile2Mem_full h, ⟨⟨h.closed, ?_, h.file_le, ?_⟩, ?_⟩, ?_, rfl, rfl⟩
  · change b.readOffset + min _ _ ≤ b.file.length
    omega
  · change (b.memBuffer.push _).size ≤ b.threshold
    rw [MemoryBuffer.size_push, length_take]
    omega
  · intro hn
    change (b.memBuffer.push _).size = b.threshold
    have hm : b.getFreeMemSpace < b.unreadFile.length := by
      refine Nat.lt_of_not_le fun ha ↦ hn ?_
      change b.file.drop _ = []
      rw [hu, drop_eq_nil_of_le ha]
    rw [MemoryBuffer.size_push, length_take]
    omega
  · change (b.memBuffer.push _).bytes ++ b.file.drop _ = b.memBuffer.bytes ++ b.unreadFile
    rw [MemoryBuffer.bytes_push, hu, append_assoc, take_append_drop]

theorem Sound.reopen (h : Sound b) : Sound { b with opened := true } where
  closed := fun hc ↦ by cases hc
  offset_le := h.offset_le
  file_le := h.file_le
  mem_le := h.mem_le

theorem stripFile_full (h : Sound b) :
    b.stripFile {} = ({ b with opened := true, file := b.unreadFile, readOffset := 0 }, none) := by
  have hl : ¬ b.file.length < b.readOffset := Nat.not_lt.2 h.offset_le
  simp only [stripFile, Bool.false_eq_true, if_false, if_neg hl, copyUnread_full]

theorem Sound.stripIfNeeded (h : Sound b) (hn : b.opened = true) (n : ℕ) :
    ∃ t, b.stripIfNeeded {} n = (t, none) ∧ Sound t ∧ t.opened = true ∧
      t.unreadFile = b.unreadFile ∧ t.memBuffer = b.memBuffer ∧ t.threshold = b.threshold ∧
      t.maxFileSize = b.maxFileSize ∧
      (t.file.length + n ≤ t.maxFileSize ∨ t.file = b.unreadFile) := by
  have hl : b.unreadFile.length = b.file.length - b.readOffset := unreadFile_length
  simp only [MemfileBuffer.stripIfNeeded]
  split
  · refine ⟨_, stripFile_full h, ⟨fun hc ↦ (by cases hc), Nat.zero_le _, ?_, h.mem_le⟩,
      rfl, ?_, rfl,
      rfl, rfl, .inr rfl⟩
    · have hf := h.file_le
      change b.unreadFile.length ≤ b.maxFileSize
      omega
    · exact drop_zero
  · next ho =>
    refine ⟨b, rfl, h, hn, rfl, rfl, rfl, rfl, .inl ?_⟩
    simp only [needToStripFile, Bool.or_eq_true, decide_eq_true_eq, not_or] at ho
    omega

theorem appendToFile_full (h : b.file.length < b.maxFileSize) (ha : d ≠ []) :
    b.appendToFile {} d =
      ({ b with file := b.file ++ d.take (b.maxFileSize - b.file.length) }, none) := by
  have hl : ¬ b.maxFileSize ≤ b.file.length := Nat.not_le.2 h
  have hp : 0 < d.length := length_pos_of_ne_nil ha
  obtain ⟨n, hn⟩ : ∃ n, (d.take (b.maxFileSize - b.file.length)).length = n + 1 := by
    refine Nat.exists_eq_add_one_of_ne_zero ?_
    rw [length_take]
    omega
  have ht : (d.take (b.maxFileSize - b.file.length)).take (n + 1) =
      d.take (b.maxFileSize - b.file.length) := take_of_length_le (by omega)
  simp only [appendToFile, Bool.false_eq_true, if_false, if_neg hl, Transfer.amount, hn, ht]

theorem Sound.writeInFile (h : Sound b) (ha : data ≠ [])
    (hr : b.unreadFile.length < b.maxFileSize) :
    ∃ t, b.writeInFile {} data = (t, none) ∧ Sound t ∧ t.memBuffer = b.memBuffer ∧
      t.threshold = b.threshold ∧ t.maxFileSize = b.maxFileSize ∧
      t.unreadFile = b.unreadFile ++ data.take (b.maxFileSize - b.unreadFile.length) := by
  obtain ⟨t, hs, ht, ho, hu, hme, hh, hm, hfits⟩ := h.reopen.stripIfNeeded rfl data.length
  change t.unreadFile = b.unreadFile at hu
  change t.maxFileSize = b.maxFileSize at hm
  change t.file.length + data.length ≤ t.maxFileSize ∨ t.file = b.unreadFile at hfits
  have hp : 0 < data.length := length_pos_of_ne_nil ha
  have hn : t.unreadFile.length = t.file.length - t.readOffset := unreadFile_length
  have hl := ht.offset_le
  have he : t.file.length < t.maxFileSize := by
    rcases hfits with hfits | hfits
    · omega
    · rw [hfits]
      omega
  have hta : data.take (t.maxFileSize - t.file.length) =
      data.take (b.maxFileSize - b.unreadFile.length) := by
    rcases hfits with hfits | hfits
    · rw [take_of_length_le (by omega), take_of_length_le (by rw [← hu]; omega)]
    · rw [hfits, hm]
  have hb : (t.file ++ data.take (t.maxFileSize - t.file.length)).length ≤ t.maxFileSize := by
    rw [length_append, length_take]
    omega
  refine ⟨{ t with file := t.file ++ data.take (t.maxFileSize - t.file.length) }, ?_,
    ⟨fun hc ↦ ?_, ?_, hb, ht.mem_le⟩, hme, hh, hm, ?_⟩
  · simp only [MemfileBuffer.writeInFile, if_neg ha, Bool.and_false, Bool.false_eq_true,
      if_false, hs]
    exact appendToFile_full he ha
  · rw [show t.opened = false from hc] at ho
    cases ho
  · change t.readOffset ≤ (t.file ++ _).length
    rw [length_append]
    omega
  · change (t.file ++ _).drop t.readOffset = _
    rw [drop_append, Nat.sub_eq_zero_of_le hl, drop_zero, hta, ← hu]
    rfl

theorem Sound.writeInFile_capacity (h : Sound b) (ha : data ≠ [])
    (hr : b.maxFileSize ≤ b.unreadFile.length) :
    ∃ t, b.writeInFile {} data = (t, some .capacity) ∧ Sound t ∧ t.memBuffer = b.memBuffer ∧
      t.threshold = b.threshold := by
  obtain ⟨t, hs, ht, _, hu, he, hh, hm, _⟩ := h.reopen.stripIfNeeded rfl data.length
  change t.unreadFile = b.unreadFile at hu
  change t.maxFileSize = b.maxFileSize at hm
  have hl : t.unreadFile.length = t.file.length - t.readOffset := unreadFile_length
  have hf : t.maxFileSize ≤ t.file.length := by
    rw [hu] at hl
    omega
  refine ⟨t, ?_, ht, he, hh⟩
  simp only [MemfileBuffer.writeInFile, if_neg ha, Bool.and_false, Bool.false_eq_true, if_false,
    hs, appendToFile, if_pos hf]

def overflow (b : MemfileBuffer) (data : List UInt8) : List UInt8 := data.drop b.getFreeMemSpace

def Fits (b : MemfileBuffer) (data : List UInt8) : Prop :=
  b.unreadFile.length + (overflow b data).length ≤ b.maxFileSize

instance : Decidable (Fits b data) := inferInstanceAs (Decidable (_ ≤ _))

theorem transferMem2Mem_eq : b.transferMem2Mem data =
    ({ b with memBuffer := b.memBuffer.push (data.take b.getFreeMemSpace) }, overflow b data) := by
  simp only [transferMem2Mem, overflow]
  split
  · next h =>
    rw [h]
    simp [MemoryBuffer.push]
  · rw [length_take]
    rcases Nat.le_total b.getFreeMemSpace data.length with hle | hle
    · rw [Nat.min_eq_left hle]
    · rw [Nat.min_eq_right hle, drop_length, drop_eq_nil_of_le hle]

theorem Sound.fillMem (h : Sound b) :
    Sound { b with memBuffer := b.memBuffer.push (data.take b.getFreeMemSpace) } := by
  have hf := getFreeMemSpace_add h
  refine ⟨h.closed, h.offset_le, h.file_le, ?_⟩
  change (b.memBuffer.push _).size ≤ b.threshold
  rw [MemoryBuffer.size_push, length_take]
  omega

theorem size_fillMem (h : Sound b) (hr : overflow b data ≠ []) :
    (b.memBuffer.push (data.take b.getFreeMemSpace)).size = b.threshold := by
  have hf := getFreeMemSpace_add h
  have ht : b.getFreeMemSpace < data.length := by
    refine Nat.lt_of_not_le fun hl ↦ hr ?_
    rw [overflow, drop_eq_nil_of_le hl]
  rw [MemoryBuffer.size_push, length_take]
  omega

theorem Valid.bytes_fillMem (h : Valid b) :
    (b.memBuffer.push (data.take b.getFreeMemSpace)).bytes ++ (b.unreadFile ++ overflow b data) =
      b.bytes ++ data := by
  have hd : data.take b.getFreeMemSpace ++ overflow b data = data := take_append_drop _ _
  rw [MemoryBuffer.bytes_push, bytes]
  by_cases hunr : b.unreadFile = []
  · rw [hunr, nil_append, append_nil, append_assoc, hd]
  · have hz : b.getFreeMemSpace = 0 := by
      rw [getFreeMemSpace, h.full hunr, Nat.sub_self]
    rw [overflow, hz, take_zero, drop_zero, append_nil, append_assoc]

/-- A push that finds room keeps the buffer valid and stores all but what exceeds the file. -/
theorem Valid.push (h : Valid b)
    (hr : overflow b data = [] ∨ b.unreadFile.length < b.maxFileSize) :
    ∃ t, b.push {} data = (t, none) ∧ Valid t ∧ t.threshold = b.threshold ∧
      t.maxFileSize = b.maxFileSize ∧
      t.bytes ++ (overflow b data).drop (b.maxFileSize - b.unreadFile.length) =
          b.bytes ++ data := by
  have he : Sound { b with memBuffer := b.memBuffer.push (data.take b.getFreeMemSpace) } :=
    h.toSound.fillMem
  simp only [MemfileBuffer.push, transferMem2Mem_eq]
  by_cases hover : overflow b data = []
  · refine ⟨_, by rw [hover]; rfl, ⟨he, fun hn ↦ ?_⟩, rfl, rfl, ?_⟩
    · have hz : b.getFreeMemSpace = 0 := by
        rw [getFreeMemSpace, h.full hn, Nat.sub_self]
      change (b.memBuffer.push _).size = _
      rw [hz, take_zero, MemoryBuffer.size_push]
      exact h.full hn
    · rw [hover, drop_nil, append_nil, ← h.bytes_fillMem, hover, append_nil]
      rfl
  · obtain ⟨t, hw, ht, hm, hh, hx, hu⟩ :=
      he.writeInFile hover (hr.resolve_left hover)
    change t.unreadFile = b.unreadFile ++ (overflow b data).take _ at hu
    refine ⟨t, hw, ⟨ht, fun _ ↦ ?_⟩, hh, hx, ?_⟩
    · rw [hm, hh]
      exact size_fillMem h.toSound hover
    · rw [← h.bytes_fillMem, bytes, hm, hu]
      change _ ++ (_ ++ (overflow b data).take (b.maxFileSize - b.unreadFile.length)) ++ _ = _
      rw [append_assoc, append_assoc, take_append_drop]

theorem Valid.push_fits (h : Valid b) (hs : Fits b data) :
    ∃ t, b.push {} data = (t, none) ∧ Valid t ∧ t.threshold = b.threshold ∧
      t.maxFileSize = b.maxFileSize ∧ t.bytes = b.bytes ++ data := by
  have hr : overflow b data = [] ∨ b.unreadFile.length < b.maxFileSize := by
    by_cases hover : overflow b data = []
    · exact .inl hover
    · have ho : 0 < (overflow b data).length := length_pos_of_ne_nil hover
      rw [Fits] at hs
      exact .inr (by omega)
  obtain ⟨t, hp, ht, hh, hm, hb⟩ := h.push hr
  have hn : (overflow b data).drop (b.maxFileSize - b.unreadFile.length) = [] := by
    refine drop_eq_nil_of_le ?_
    rw [Fits] at hs
    omega
  rw [hn, append_nil] at hb
  exact ⟨t, hp, ht, hh, hm, hb⟩

/-- With a full file, data that does not fit in memory is refused. -/
theorem Valid.push_capacity (h : Valid b) (hr : overflow b data ≠ [])
    (hm : b.maxFileSize ≤ b.unreadFile.length) :
    ∃ t, b.push {} data = (t, some .capacity) ∧ Valid t ∧ t.threshold = b.threshold := by
  have he : Sound { b with memBuffer := b.memBuffer.push (data.take b.getFreeMemSpace) } :=
    h.toSound.fillMem
  obtain ⟨t, hw, ht, hme, hh⟩ := he.writeInFile_capacity hr hm
  refine ⟨t, ?_, ⟨ht, fun _ ↦ ?_⟩, hh⟩
  · rw [MemfileBuffer.push, transferMem2Mem_eq]
    exact hw
  · rw [hme, hh]
    exact size_fillMem h.toSound hr

theorem Valid.of_push (h : Valid b) :
    Valid (b.push {} data).1 ∧ (b.push {} data).1.threshold = b.threshold := by
  by_cases hroom : overflow b data = [] ∨ b.unreadFile.length < b.maxFileSize
  · obtain ⟨t, hp, ht, hh, _⟩ := h.push hroom
    rw [hp]
    exact ⟨ht, hh⟩
  · obtain ⟨ho, hf⟩ := not_or.1 hroom
    obtain ⟨t, hp, ht, hh⟩ := h.push_capacity ho (Nat.not_lt.1 hf)
    rw [hp]
    exact ⟨ht, hh⟩

theorem Valid.peek (h : Valid b) : ∃ t, b.peek {} = (t, .ok t.memBuffer.peek) ∧ Valid t ∧
    t.bytes = b.bytes ∧ t.threshold = b.threshold := by
  obtain ⟨t, hr, ht, hb, hh, _⟩ := h.toSound.refill
  exact ⟨t, by rw [MemfileBuffer.peek, hr], ht, hb, hh⟩

theorem Valid.peek_length_le (h : Valid b) : b.memBuffer.peek.length ≤ b.threshold := by
  refine Nat.le_trans b.memBuffer.peek_isPrefix.length_le ?_
  rw [← MemoryBuffer.size_eq]
  exact h.mem_le

theorem Valid.mem_ne_nil (h : Valid b) (ht : 1 ≤ b.threshold) (hn : b.bytes ≠ []) :
    b.memBuffer.bytes ≠ [] := by
  intro hm
  have hu : b.unreadFile ≠ [] := by
    rwa [bytes, hm, nil_append] at hn
  have hs := h.full hu
  rw [MemoryBuffer.size_eq, hm, length_nil] at hs
  omega

theorem Valid.length_le_mem (h : Valid b) (ht : n ≤ b.threshold) (hn : n ≤ b.bytes.length) :
    n ≤ b.memBuffer.bytes.length := by
  rw [← MemoryBuffer.size_eq]
  by_cases hunr : b.unreadFile = []
  · rwa [bytes, hunr, append_nil, ← MemoryBuffer.size_eq] at hn
  · rw [h.full hunr]
    exact ht

theorem Valid.drain (h : Valid b) (hth : n ≤ b.threshold) (hn : n ≤ b.bytes.length) :
    Valid (b.drain {} n) ∧ (b.drain {} n).bytes = b.bytes.drop n ∧
      (b.drain {} n).threshold = b.threshold := by
  have hs : Sound { b with memBuffer := b.memBuffer.drain n } :=
    ⟨h.closed, h.offset_le, h.file_le, Nat.le_trans (Nat.sub_le _ _) h.mem_le⟩
  obtain ⟨t, hr, ht, hb, hh, _⟩ := hs.refill
  rw [MemfileBuffer.drain, hr]
  refine ⟨ht, hb.trans ?_, hh⟩
  change (b.memBuffer.drain n).bytes ++ b.unreadFile = _
  have hl := h.length_le_mem hth hn
  rw [MemoryBuffer.bytes_drain, bytes, drop_append, Nat.sub_eq_zero_of_le hl, drop_zero]

inductive Operation
  | push (data : List UInt8)
  | peek
  | drain (length : ℕ)
deriving DecidableEq, Repr

def applyTo (queue : List UInt8) : Operation → List UInt8
  | .push data => queue ++ data
  | .peek => queue
  | .drain length => queue.drop length

def contents (operations : List Operation) : List UInt8 := operations.foldl applyTo []

structure Usage where
  buffer : MemfileBuffer
  peeked : ℕ := 0

def start (threshold maxFileSize : ℕ) : Usage := { buffer := { threshold, maxFileSize } }

def perform (u : Usage) : Operation → Usage
  | .push data => { u with buffer := (u.buffer.push {} data).1 }
  | .peek =>
    { buffer := (u.buffer.peek {}).1
      peeked := ((u.buffer.peek {}).2.toOption.map List.length).getD 0 }
  | .drain length => { u with buffer := u.buffer.drain {} length }

def step (u : Usage) (operation : Operation) : Option Usage := some (perform u operation)

def Proper (u : Usage) : Operation → Prop
  | .drain length => length ≤ u.peeked ∧ length ≤ u.buffer.bytes.length
  | _ => True

def Roomy (u : Usage) : Operation → Prop
  | .push data => Fits u.buffer data
  | operation => Proper u operation

instance (u : Usage) (operation : Operation) : Decidable (Proper u operation) := by
  cases operation <;> simp only [Proper] <;> infer_instance

instance (u : Usage) (operation : Operation) : Decidable (Roomy u operation) := by
  cases operation <;> simp only [Roomy] <;> infer_instance

structure Kept (threshold : ℕ) (u : Usage) : Prop where
  valid : Valid u.buffer
  threshold_eq : u.buffer.threshold = threshold
  peeked_le : u.peeked ≤ threshold

variable {threshold maxFileSize : ℕ} {u : Usage}

theorem kept_start : Kept threshold (start threshold maxFileSize) :=
  ⟨valid_empty threshold maxFileSize, rfl, Nat.zero_le threshold⟩

theorem Kept.push (h : Kept threshold u) : Kept threshold (perform u (.push data)) where
  valid := h.valid.of_push.1
  threshold_eq := h.valid.of_push.2.trans h.threshold_eq
  peeked_le := h.peeked_le

theorem Kept.peek (h : Kept threshold u) : Kept threshold (perform u .peek) ∧
    (perform u .peek).buffer.bytes = u.buffer.bytes := by
  obtain ⟨t, hp, ht, hb, hh⟩ := h.valid.peek
  have hd := hh.trans h.threshold_eq
  simp only [perform, hp]
  refine ⟨⟨ht, hd, ?_⟩, hb⟩
  exact hd ▸ ht.peek_length_le

theorem Kept.drain (h : Kept threshold u) (ho : Proper u (.drain n)) :
    Kept threshold (perform u (.drain n)) ∧
      (perform u (.drain n)).buffer.bytes = u.buffer.bytes.drop n := by
  have hn : n ≤ u.buffer.threshold := h.threshold_eq ▸ Nat.le_trans ho.1 h.peeked_le
  obtain ⟨hv, hb, ht⟩ := h.valid.drain hn ho.2
  exact ⟨⟨hv, ht.trans h.threshold_eq, h.peeked_le⟩, hb⟩

/-- One proper operation keeps the buffer valid. -/
theorem Kept.step (h : Kept threshold u) {o : Operation} (ho : Proper u o) :
    Kept threshold (perform u o) := by
  cases o with
  | push d => exact h.push
  | peek => exact h.peek.1
  | drain n => exact (h.drain ho).1

/-- One operation that fits acts on the bytes as on a queue. -/
theorem Kept.step_queue (h : Kept threshold u) {operation : Operation}
    (ho : Roomy u operation) : Kept threshold (perform u operation) ∧
      (perform u operation).buffer.bytes = applyTo u.buffer.bytes operation := by
  cases operation with
  | push d =>
    obtain ⟨t, hp, _, _, _, hb⟩ := h.valid.push_fits ho
    refine ⟨h.push, ?_⟩
    simp only [perform, hp]
    exact hb
  | peek => exact h.peek
  | drain n => exact h.drain ho

/-- The buffer is a queue of bytes: it has its length, shows its front, takes what has a place, and
is full in memory while there is something in the file. -/
theorem refines_queue {operations : List Operation} (hth : 1 ≤ threshold)
    (hrun : Run step Roomy (start threshold maxFileSize) operations u) :
    u.buffer.bytes = contents operations ∧
      u.buffer.size {} = (contents operations).length ∧
      (∃ shown, (u.buffer.peek {}).2 = .ok shown ∧ shown <+: contents operations ∧
        (contents operations ≠ [] → shown ≠ [])) ∧
      (∀ data, Fits u.buffer data → (u.buffer.push {} data).2 = none) ∧
      (u.buffer.unreadFile ≠ [] → u.buffer.memBuffer.size = threshold) := by
  have hst : ∀ s l t, Kept threshold s → Roomy s l → step s l = some t →
      Kept threshold t ∧ t.buffer.bytes = applyTo s.buffer.bytes l := by
    intro s l t hs ho he
    simp only [step, Option.some.injEq] at he
    exact he ▸ hs.step_queue ho
  have hk : Kept threshold u :=
    hrun.invariant kept_start fun s l t hs ho he ↦ (hst s l t hs ho he).1
  have hb : u.buffer.bytes = contents operations := hrun.foldl_eq kept_start hst
  refine ⟨hb, ?_, ?_, ?_, ?_⟩
  · rw [hk.valid.size_eq, hb]
  · obtain ⟨t, hp, ht, htb, htt⟩ := hk.valid.peek
    rw [hb] at htb
    rw [hp, ← htb]
    refine ⟨_, rfl, ?_, fun hn ↦ t.memBuffer.peek_ne_nil (ht.mem_ne_nil ?_ hn)⟩
    · exact t.memBuffer.peek_isPrefix.trans (prefix_append _ _)
    · rw [htt, hk.threshold_eq]
      exact hth
  · intro data hf
    obtain ⟨t, hh, _⟩ := hk.valid.push_fits hf
    rw [hh]
  · intro hn
    rw [hk.valid.full hn, hk.threshold_eq]

/-- A use that spills to the file, refills the memory and strips the file. -/
theorem refines_queue_of_spill : ∃ u, Run step Roomy (start 2 8)
    [.push [1, 2, 3, 4, 5], .peek, .drain 2, .push [6, 7], .peek, .drain 1] u ∧
      u.buffer.bytes = [4, 5, 6, 7] ∧ u.buffer.size {} = 4 :=
  exists_run_imp (P := fun _ ↦ True) (by decide) fun _ hr _ ↦
    have h := refines_queue (by decide) hr
    ⟨h.1, h.2.1⟩

/-- A vector is taken as a view is, exactly if it is not emptied before a part of it is erased. -/
theorem pushVector_eq_push_iff {fs : FileSystem} : b.pushVector fs data = some (b.push fs data) ↔
    data = [] ∨ b.getFreeMemSpace = 0 ∨ b.getFreeMemSpace < data.length := by
  simp only [pushVector, transferMem2MemVector, MemfileBuffer.push]
  by_cases hfree : b.getFreeMemSpace = 0
  · simp [hfree, transferMem2Mem]
  by_cases hle : data.length ≤ b.getFreeMemSpace
  · by_cases hnil : data = []
    · simp [hnil, hfree, transferMem2Mem, MemoryBuffer.push]
    · simp [hfree, hle, hnil]
  · simp [hfree, hle, Nat.lt_of_not_le hle]

/-- Three bytes are put into a memory of four: the vector is erased past its end. -/
theorem pushVector_undefined : (start 4 8).buffer.pushVector {} [1, 2, 3] = none ∧
    ((start 4 8).buffer.push {} [1, 2, 3]).2 = none := by
  decide

end TrustTunnel.Buffer.Queue

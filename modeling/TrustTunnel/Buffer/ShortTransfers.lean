import TrustTunnel.Buffer.Queue

namespace TrustTunnel.Buffer.ShortTransfers

open List Memfile MemfileBuffer Queue

variable {fs : FileSystem} {b t : MemfileBuffer} {data : List UInt8}

/-- No operation fails, and every transfer moves something. -/
structure Successful (fs : FileSystem) : Prop where
  fails : ∀ op, fs.fails op = false
  moves : ∀ op i, fs.transfer op i = .full ∨ ∃ k, fs.transfer op i = .short (k + 1)

theorem Successful.amount_pos (h : Successful fs) (op : FileOperation) (i a : ℕ) :
    ∃ n ≤ a, (fs.transfer op i).amount (a + 1) = some (n + 1) := by
  rcases h.moves op i with hf | ⟨k, hk⟩
  · exact ⟨a, Nat.le_refl a, by rw [hf]; rfl⟩
  · refine ⟨min k a, Nat.min_le_right k a, ?_⟩
    rw [hk]
    exact congrArg some (Nat.succ_min_succ k a)

theorem Successful.amount_le (h : Successful fs) {op : FileOperation} {i a n : ℕ}
    (hn : (fs.transfer op i).amount a = some n) : n ≤ a := by
  rcases h.moves op i with hf | ⟨k, hk⟩
  · rw [hf] at hn
    exact Nat.le_of_eq (Option.some.inj hn).symm
  · rw [hk] at hn
    rw [← Option.some.inj hn]
    exact Nat.min_le_right _ a

theorem Successful.amount_of_lt (h : Successful fs) (op : FileOperation) (i : ℕ) {p l : ℕ}
    (hs : p < l) : ∃ n, n + 1 ≤ l - p ∧ (fs.transfer op i).amount (l - p) = some (n + 1) := by
  obtain ⟨a, ha⟩ := Nat.exists_eq_add_one_of_ne_zero (Nat.sub_ne_zero_of_lt hs)
  obtain ⟨n, hn, ho⟩ := h.amount_pos op i a
  rw [ha]
  exact ⟨n, Nat.succ_le_succ hn, ho⟩

theorem Successful.whole_zero (h : Successful fs) (op : FileOperation) : Whole fs op 0 := by
  rcases h.moves op 0 with hf | ⟨k, hk⟩
  · rw [Whole, hf]
    rfl
  · rw [Whole, hk]
    rfl

/-- The head of the buffer is one of the bytes that the loop reads. -/
theorem Successful.fillBuffer_ok (h : Successful fs) (op : FileOperation) (f i p : ℕ)
    {s b : List UInt8} (hs : b.length - p ≤ s.length) :
    ∃ r, fillBuffer (fs.transfer op) f i s b p = .ok r ∧ r.length = b.length ∧
      (p < b.length → 0 < f → ∃ x ∈ s, r.head? = some x) := by
  induction f generalizing i p s b with
  | zero => exact ⟨b, rfl, rfl, fun _ hf ↦ absurd hf (Nat.lt_irrefl 0)⟩
  | succ f ih =>
    by_cases hdone : b.length ≤ p
    · exact ⟨b, fillBuffer_done _ _ _ _ hdone, rfl, fun hl ↦ absurd hl (Nat.not_lt.2 hdone)⟩
    · have hlt := Nat.lt_of_not_le hdone
      obtain ⟨n, hn, ha⟩ := h.amount_of_lt op i hlt
      have hc : (s.take (n + 1) ++ b.drop (n + 1)).length = b.length := by
        rw [length_append, length_take, length_drop]
        omega
      obtain ⟨r, hr, hl, hh⟩ := ih (i + 1) (p + (n + 1)) (s := s.drop (n + 1))
        (b := s.take (n + 1) ++ b.drop (n + 1)) (by rw [hc, length_drop]; omega)
      refine ⟨r, (fillBuffer_step hlt ha (by omega)).trans hr, hl.trans hc, fun _ _ ↦ ?_⟩
      by_cases hm : p + (n + 1) < b.length ∧ 0 < f
      · obtain ⟨x, hx, he⟩ := hh (by rw [hc]; exact hm.1) hm.2
        exact ⟨x, mem_of_mem_drop hx, he⟩
      · -- this is the last read
        have he : fillBuffer (fs.transfer op) f (i + 1) (s.drop (n + 1))
            (s.take (n + 1) ++ b.drop (n + 1)) (p + (n + 1)) =
              .ok (s.take (n + 1) ++ b.drop (n + 1)) := by
          rcases Nat.eq_zero_or_pos f with rfl | hf
          · rfl
          · exact fillBuffer_done _ _ _ _ (by rw [hc]; exact Nat.not_lt.1 fun hp ↦ hm ⟨hp, hf⟩)
        cases hr.symm.trans he
        cases s with
        | nil => simp at hs; omega
        | cons x s => exact ⟨x, mem_cons_self, rfl⟩

/-- What a loop writes has the head of the buffer, and the length that was left of it. -/
theorem Successful.writeOut_ok (h : Successful fs) (op : FileOperation) (f i p : ℕ)
    {b : List UInt8} (d : List UInt8) (hf : b.length - p ≤ f) :
    ∃ e, writeOut (fs.transfer op) f i b p d = .ok (d ++ e) ∧ e.length = b.length - p ∧
      (p < b.length → e.head? = b.head?) := by
  induction f generalizing i p d with
  | zero =>
    refine ⟨[], by rw [append_nil]; rfl, (Nat.le_zero.1 hf).symm, fun hl ↦ ?_⟩
    omega
  | succ f ih =>
    by_cases hdone : b.length ≤ p
    · refine ⟨[], by rw [append_nil, writeOut_done _ _ _ hdone], ?_, fun hl ↦ ?_⟩
      · exact (Nat.sub_eq_zero_of_le hdone).symm
      · exact absurd hl (Nat.not_lt.2 hdone)
    · have hlt := Nat.lt_of_not_le hdone
      obtain ⟨n, hn, ha⟩ := h.amount_of_lt op i hlt
      obtain ⟨e, he, hl, _⟩ := ih (i + 1) (p + (n + 1)) (d ++ b.take (n + 1)) (by omega)
      refine ⟨b.take (n + 1) ++ e, ?_, ?_, fun _ ↦ ?_⟩
      · rw [writeOut_step hlt ha, he, append_assoc]
      · rw [length_append, length_take, hl]
        omega
      · cases b with
        | nil => exact absurd hlt (Nat.not_lt_zero p)
        | cons x b => rfl

/-- The first byte does not come again. -/
def Unrepeated (bytes : List UInt8) : Prop := ∀ x rest, bytes = x :: rest → x ∉ rest

/-- A copy of `source` that is right if the first transfers are whole, and wrong if they are not
and the first byte of `source`, which comes in the place of another, does not come again. -/
structure Copied (fs : FileSystem) (source copy : List UInt8) : Prop where
  length_eq : copy.length = source.length
  eq_of_whole : Whole fs .stripRead source.length → Whole fs .stripWrite source.length →
    copy = source
  whole_of_eq : Unrepeated source → copy = source →
    Whole fs .stripRead source.length ∧ Whole fs .stripWrite source.length

theorem Successful.copied_of_short_read (h : Successful fs) {x : UInt8} {rest : List UInt8} {n : ℕ}
    (hn : n < rest.length)
    (ha : (fs.transfer .stripRead 0).amount (rest.length + 1) = some (n + 1)) :
    ∃ copy, transferFile2File fs (x :: rest) (rest.length + 1) = .ok copy ∧
      Copied fs (x :: rest) copy := by
  have hb : (replicate (rest.length + 1) (0 : UInt8)).length = rest.length + 1 := length_replicate
  have hc : ((x :: rest).take (n + 1) ++ (replicate (rest.length + 1) 0).drop (n + 1)).length =
      rest.length + 1 := by
    rw [length_append, length_take, length_drop, hb, length_cons]
    omega
  obtain ⟨buf, hf, hl, hh⟩ := h.fillBuffer_ok .stripRead rest.length 1 (n + 1)
    (s := (x :: rest).drop (n + 1))
    (b := (x :: rest).take (n + 1) ++ (replicate (rest.length + 1) 0).drop (n + 1))
    (Nat.le_of_eq (by rw [hc, length_drop, length_cons]))
  obtain ⟨y, hy, hd⟩ := hh (by omega) (by omega)
  obtain ⟨copy, hw, hcl, hch⟩ := h.writeOut_ok .stripWrite (rest.length + 1) 0 0 (b := buf) []
    (by omega)
  refine ⟨copy, ?_, ?_, fun hr _ ↦ ?_, fun hu he ↦ ?_⟩
  · have hs := fillBuffer_step (t := fs.transfer .stripRead) (f := rest.length) (i := 0) (p := 0)
      (s := x :: rest) (b := replicate (rest.length + 1) 0) (n := n) (by omega)
      (by rwa [hb]) (by rw [length_cons]; omega)
    rw [Nat.zero_add (n + 1)] at hs
    rw [transferFile2File, if_neg (Nat.add_one_ne_zero _), hs, hf]
    exact hw
  · rw [hcl, hl, hc]
    rfl
  · have he := Option.some.inj (hr.symm.trans ha)
    rw [length_cons] at he
    omega
  · -- the head of the copy is from a later read
    have hx : some x = some y := by
      rw [← hd, ← hch (by omega), he]
      rfl
    rw [Option.some.inj hx] at hu
    exact absurd (mem_of_mem_drop (drop_succ_cons ▸ hy)) (hu y rest rfl)

theorem Successful.copied_of_whole_read (h : Successful fs) {x : UInt8} {rest : List UInt8}
    (hr : Whole fs .stripRead (rest.length + 1)) :
    ∃ copy, transferFile2File fs (x :: rest) (rest.length + 1) = .ok copy ∧
      Copied fs (x :: rest) copy := by
  obtain ⟨n, hn, ha⟩ := h.amount_pos .stripWrite 0 rest.length
  obtain ⟨e, he, hl, hh⟩ := h.writeOut_ok .stripWrite rest.length 1 (n + 1) (b := x :: rest)
    ((x :: rest).take (n + 1)) (by rw [length_cons]; omega)
  rw [length_cons] at hl hh
  refine ⟨(x :: rest).take (n + 1) ++ e, ?_, ?_, fun _ hw ↦ ?_, fun hu hc ↦ ⟨hr, ?_⟩⟩
  · have hs := writeOut_step (t := fs.transfer .stripWrite) (f := rest.length) (i := 0) (p := 0)
      (b := x :: rest) (d := []) (n := n) (Nat.succ_pos _) ha
    rw [Nat.zero_add (n + 1), nil_append] at hs
    rw [transferFile2File, if_neg (Nat.add_one_ne_zero _), fillBuffer_whole hr rfl]
    exact hs.trans he
  · rw [length_append, length_take, hl, length_cons]
    omega
  · have hw := Option.some.inj (hw.symm.trans ha)
    rw [length_cons] at hw
    have hz : e = [] := length_eq_zero_iff.1 (by omega)
    rw [hz, append_nil, take_of_length_le (by rw [length_cons]; omega)]
  · -- after a short write the first byte comes once more
    rcases Nat.lt_or_ge n rest.length with hlt | hge
    · cases e with
      | nil => simp at hl; omega
      | cons y e =>
        obtain rfl : y = x := Option.some.inj (hh (by omega))
        rw [take_succ_cons, cons_append] at hc
        have hm : y ∈ rest := by
          rw [← (cons.inj hc).2]
          simp
        exact absurd hm (hu y rest rfl)
    · rw [Whole, length_cons, ha, Nat.le_antisymm hn hge]

theorem Successful.copied (h : Successful fs) (source : List UInt8) :
    ∃ copy, transferFile2File fs source source.length = .ok copy ∧ Copied fs source copy := by
  cases source with
  | nil =>
    exact ⟨[], rfl, rfl, fun _ _ ↦ rfl, fun _ _ ↦
      ⟨h.whole_zero .stripRead, h.whole_zero .stripWrite⟩⟩
  | cons x rest =>
    obtain ⟨n, hn, ha⟩ := h.amount_pos .stripRead 0 rest.length
    rcases Nat.lt_or_ge n rest.length with hlt | hge
    · exact h.copied_of_short_read hlt ha
    · rw [Nat.le_antisymm hn hge] at ha
      exact h.copied_of_whole_read ha

theorem Successful.of_stripFile (h : Successful fs) (hp : b.stripFile fs = (t, none)) :
    ∃ file, Copied fs b.unreadFile file ∧
      t = { b with opened := true, file, readOffset := 0 } := by
  obtain ⟨file, hf, hc⟩ := h.copied b.unreadFile
  by_cases hle : b.readOffset ≤ b.file.length
  · simp only [MemfileBuffer.stripFile, copyUnread, h.fails, Bool.false_eq_true, if_false,
      if_neg (Nat.not_lt.2 hle), ← unreadFile_length, hf] at hp
    cases hp
    exact ⟨file, hc, rfl⟩
  · simp [MemfileBuffer.stripFile, h.fails, Nat.lt_of_not_le hle] at hp

theorem Successful.of_appendToFile (h : Successful fs) (hp : b.appendToFile fs data = (t, none)) :
    ∃ n, (fs.transfer .write 0).amount (data.take (b.maxFileSize - b.file.length)).length = some n ∧
      t = { b with file := b.file ++ (data.take (b.maxFileSize - b.file.length)).take n } := by
  simp only [appendToFile, h.fails, Bool.false_eq_true, if_false] at hp
  split at hp
  · cases hp
  split at hp
  · cases hp
  · cases hp
  · next hn =>
    cases hp
    exact ⟨_, hn, rfl⟩

/-- What an append to the file has room for. -/
def fitting (b : MemfileBuffer) (data : List UInt8) : List UInt8 :=
  data.take (b.maxFileSize - b.unreadFile.length)

theorem Successful.of_writeInFile (h : Successful fs) (he : b.readOffset ≤ b.file.length)
    (hd : data ≠ []) (hw : b.writeInFile fs data = (t, none)) :
    ∃ file n, t.unreadFile = file ++ (fitting b data).take n ∧
      (fs.transfer .write 0).amount (fitting b data).length = some n ∧
      (b.needToStripFile b.file.length data.length = true ∧ Copied fs b.unreadFile file ∨
        b.needToStripFile b.file.length data.length = false ∧ file = b.unreadFile) := by
  have hl : b.unreadFile.length = b.file.length - b.readOffset := unreadFile_length
  simp only [MemfileBuffer.writeInFile, h.fails, Bool.and_false, Bool.false_eq_true, if_false,
    stripIfNeeded, if_neg hd] at hw
  split at hw
  · cases hw
  · next u hu =>
    obtain ⟨n, hn, rfl⟩ := h.of_appendToFile hw
    split at hu
    · next hs =>
      obtain ⟨file, hc, rfl⟩ := h.of_stripFile hu
      have hf : data.take (b.maxFileSize - file.length) = fitting b data := by
        rw [hc.length_eq]
        rfl
      refine ⟨file, n, ?_, hf ▸ hn, .inl ⟨hs, hc⟩⟩
      rw [← hf]
      exact drop_zero
    · next hs =>
      cases hu
      have hq := (Bool.not_eq_true _).mp hs
      simp only [needToStripFile, Bool.or_eq_true, decide_eq_true_eq, not_or] at hs
      have hf : data.take (b.maxFileSize - b.file.length) = fitting b data := by
        rw [fitting, take_of_length_le (by omega), take_of_length_le (by omega)]
      refine ⟨b.unreadFile, n, ?_, hf ▸ hn, .inr ⟨hq, rfl⟩⟩
      rw [← hf]
      exact drop_append_of_le_length he

/-- The transfers of a compaction that bring wrong bytes if they are short. -/
def StripsWhole (fs : FileSystem) (b : MemfileBuffer) : Prop :=
  Whole fs .stripRead b.unreadFile.length ∧ Whole fs .stripWrite b.unreadFile.length

def AppendsWhole (fs : FileSystem) (b : MemfileBuffer) (data : List UInt8) : Prop :=
  Whole fs .write (fitting b data).length ∧
    (data ≠ [] → b.needToStripFile b.file.length data.length = true → StripsWhole fs b)

/-- If the transfers were whole, the file holds what was to be appended. -/
theorem Successful.appends_of_whole (h : Successful fs) (he : b.readOffset ≤ b.file.length)
    (hw : b.writeInFile fs data = (t, none)) (ha : AppendsWhole fs b data) :
    t.unreadFile = b.unreadFile ++ fitting b data := by
  by_cases hd : data = []
  · subst hd
    cases hw
    rw [fitting, take_nil, append_nil]
  · obtain ⟨file, n, ht, hn, hf⟩ := h.of_writeInFile he hd hw
    rw [ht, ← Option.some.inj (ha.1.symm.trans hn), take_length]
    rcases hf with ⟨hs, hc⟩ | ⟨_, rfl⟩
    · rw [hc.eq_of_whole (ha.2 hd hs).1 (ha.2 hd hs).2]
    · rfl

/-- Conversely, a file that holds it was written by whole transfers. -/
theorem Successful.whole_of_appends (h : Successful fs) (he : b.readOffset ≤ b.file.length)
    (hw : b.writeInFile fs data = (t, none))
    (hu : b.needToStripFile b.file.length data.length = true → Unrepeated b.unreadFile)
    (ht : t.unreadFile = b.unreadFile ++ fitting b data) : AppendsWhole fs b data := by
  by_cases hd : data = []
  · subst hd
    refine ⟨?_, fun hn ↦ absurd rfl hn⟩
    rw [fitting, take_nil]
    exact h.whole_zero .write
  · obtain ⟨file, n, hf, hn, hc⟩ := h.of_writeInFile he hd hw
    have hl : file.length = b.unreadFile.length := by
      rcases hc with ⟨_, hc⟩ | ⟨_, rfl⟩
      · exact hc.length_eq
      · rfl
    obtain ⟨hfe, hta⟩ := append_inj (hf.symm.trans ht) hl
    refine ⟨?_, fun _ hs ↦ ?_⟩
    · have hle := h.amount_le hn
      have hk : ((fitting b data).take n).length = (fitting b data).length := by rw [hta]
      rw [length_take, Nat.min_eq_left hle] at hk
      rw [Whole, hn, hk]
    · rcases hc with ⟨_, hc⟩ | ⟨hq, _⟩
      · exact hc.whole_of_eq (hu hs) hfe
      · rw [hq] at hs
        cases hs

/-- Compaction keeps what is unread and an append adds what fits if the first read and the first
write of the compaction and the write of the append move all they are asked for. If one of them
does not, the result is wrong, unless what is compacted has its first byte again. -/
theorem shortTransfers_iff (h : Successful fs) (b t : MemfileBuffer) (data : List UInt8) :
    (b.stripFile fs = (t, none) → t.readOffset = 0 ∧
      (StripsWhole fs b → t.file = b.unreadFile) ∧
      (Unrepeated b.unreadFile → t.file = b.unreadFile → StripsWhole fs b)) ∧
    (b.readOffset ≤ b.file.length → b.writeInFile fs data = (t, none) →
      (AppendsWhole fs b data → t.unreadFile = b.unreadFile ++ fitting b data) ∧
      ((b.needToStripFile b.file.length data.length = true → Unrepeated b.unreadFile) →
        t.unreadFile = b.unreadFile ++ fitting b data → AppendsWhole fs b data)) := by
  refine ⟨fun hs ↦ ?_, fun he hw ↦ ⟨h.appends_of_whole he hw, h.whole_of_appends he hw⟩⟩
  obtain ⟨file, hc, rfl⟩ := h.of_stripFile hs
  exact ⟨rfl, fun hw ↦ hc.eq_of_whole hw.1 hw.2, hc.whole_of_eq⟩

/-- A transfer of up to five bytes is whole for two. -/
theorem shortTransfers_of_whole :
    ∃ b t : MemfileBuffer, b.unreadFile = [2, 3] ∧
      b.stripFile { transfer := fun _ i ↦ if i = 0 then .short 5 else .short 1 } = (t, none) ∧
      t.file = b.unreadFile ∧ t.readOffset = 0 := by
  have h : Successful { transfer := fun _ i ↦ if i = 0 then .short 5 else .short 1 } :=
    ⟨fun _ ↦ rfl, fun _ i ↦ by cases i <;> simp⟩
  have hs := (shortTransfers_iff h
    { threshold := 0, maxFileSize := 3, file := [1, 2, 3], readOffset := 1 } _ []).1 rfl
  exact ⟨_, _, rfl, rfl, hs.2.1 ⟨rfl, rfl⟩, hs.1⟩

/-- The first read and the first write move one byte of three, and the others what is left. -/
theorem stripFile_short_transfers :
    ∃ b : MemfileBuffer, b = ((start 0 3).buffer.push {} [1, 2, 3]).1 ∧ b.unreadFile = [1, 2, 3] ∧
      (b.stripFile { transfer := fun _ i ↦ if i = 0 then .short 1 else .full }).2 = none ∧
      (b.stripFile { transfer := fun _ i ↦ if i = 0 then .short 1 else .full }).1.file =
        [2, 2, 3] :=
  ⟨_, rfl, by decide⟩

end TrustTunnel.Buffer.ShortTransfers

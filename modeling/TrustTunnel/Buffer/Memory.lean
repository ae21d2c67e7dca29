import Mathlib.Data.List.Basic

namespace TrustTunnel.Buffer.Memory

open List

/-- The size is counted along with the chunks, and no chunk is empty. -/
structure MemoryBuffer where
  totalSize : ℕ := 0
  chunks : List (List UInt8) := []
  totalSize_eq : totalSize = chunks.flatten.length := by rfl
  chunk_ne_nil : ∀ chunk ∈ chunks, chunk ≠ [] := by simp

/-- The loop of `drain`: whole chunks are dropped, the last one is cut. -/
def drainChunks : ℕ → List (List UInt8) → List (List UInt8)
  | _, [] => []
  | length, front :: chunks =>
    if length = 0 then front :: chunks
    else if front.length ≤ length then drainChunks (length - front.length) chunks
    else front.drop length :: chunks

theorem flatten_drainChunks (length : ℕ) (cs : List (List UInt8)) :
    (drainChunks length cs).flatten = cs.flatten.drop length := by
  induction cs generalizing length with
  | nil => simp [drainChunks]
  | cons f cs ih =>
    simp only [drainChunks, flatten_cons]
    split
    · next h => rw [h, drop_zero, flatten_cons]
    split
    · next h => rw [ih, drop_append, drop_eq_nil_of_le h, nil_append]
    · next h =>
      have hz : length - f.length = 0 := by omega
      rw [drop_append, hz, drop_zero, flatten_cons]

theorem drainChunks_ne_nil {l : ℕ} {cs : List (List UInt8)}
    (h : ∀ ck ∈ cs, ck ≠ []) : ∀ ck ∈ drainChunks l cs, ck ≠ [] := by
  induction cs generalizing l with
  | nil => simp [drainChunks]
  | cons f cs ih =>
    have hr : ∀ ck ∈ cs, ck ≠ [] := fun c hc ↦ h c (mem_cons_of_mem f hc)
    simp only [drainChunks]
    split
    · exact h
    split
    · exact ih hr
    · next hl =>
      intro ck hc
      rcases mem_cons.1 hc with rfl | hc
      · exact fun hn ↦ hl (drop_eq_nil_iff.1 hn)
      · exact hr ck hc

namespace MemoryBuffer

variable (b : MemoryBuffer)

def size : ℕ := b.totalSize

def push (data : List UInt8) : MemoryBuffer :=
  if h : data = [] then b
  else
    { totalSize := b.totalSize + data.length
      chunks := b.chunks ++ [data]
      totalSize_eq := by simp [b.totalSize_eq]
      chunk_ne_nil := by
        intro chunk hc
        rcases List.mem_append.1 hc with hc | hc
        · exact b.chunk_ne_nil chunk hc
        · exact List.mem_singleton.1 hc ▸ h }

def peek : List UInt8 := b.chunks.head?.getD []

def drain (length : ℕ) : MemoryBuffer where
  totalSize := b.totalSize - length
  chunks := drainChunks length b.chunks
  totalSize_eq := by rw [flatten_drainChunks, List.length_drop, b.totalSize_eq]
  chunk_ne_nil := drainChunks_ne_nil b.chunk_ne_nil

def bytes : List UInt8 := b.chunks.flatten

theorem size_eq : b.size = b.bytes.length := b.totalSize_eq

@[simp] theorem bytes_push (data : List UInt8) : (b.push data).bytes = b.bytes ++ data := by
  simp only [push]
  split
  · next h => rw [h, append_nil]
  · simp [bytes]

@[simp] theorem bytes_drain (length : ℕ) : (b.drain length).bytes = b.bytes.drop length :=
  flatten_drainChunks length b.chunks

@[simp] theorem size_push (d : List UInt8) : (b.push d).size = b.size + d.length := by
  rw [size_eq, bytes_push, length_append, size_eq]

theorem peek_isPrefix : b.peek <+: b.bytes := by
  simp only [peek, bytes]
  cases b.chunks with
  | nil => exact prefix_rfl
  | cons f cs => exact ⟨cs.flatten, rfl⟩

theorem peek_ne_nil (h : b.bytes ≠ []) : b.peek ≠ [] := by
  have hn := b.chunk_ne_nil
  simp only [peek, bytes] at h ⊢
  cases hc : b.chunks with
  | nil => simp [hc] at h
  | cons f cs => exact hn f (by rw [hc]; exact mem_cons_self)

end MemoryBuffer

end TrustTunnel.Buffer.Memory

import Mathlib.Algebra.Group.Nat.Defs
import TrustTunnel.Buffer.Memory

namespace TrustTunnel.Buffer.Memfile

open Memory

inductive FileOperation
  | size
  | memSize
  | memPosition
  | memRead
  | writeOpen
  | writeSize
  | writeSizeAgain
  | write
  | stripSize
  | stripRename
  | stripOpen
  | stripOpenTemp
  | stripPosition
  | stripRead
  | stripWrite
  | stripRestore
  | stripReopen
deriving DecidableEq, Repr

inductive Transfer
  | full
  | short (n : ℕ)
  | failed
deriving DecidableEq, Repr

def Transfer.amount (asked : ℕ) : Transfer → Option ℕ
  | .full => some asked
  | .short n => some (min n asked)
  | .failed => none

/-- What the file system does during a call. By default no operation fails or falls short. -/
structure FileSystem where
  fails : FileOperation → Bool := fun _ ↦ false
  transfer : FileOperation → ℕ → Transfer := fun _ _ ↦ .full

inductive Error
  | getFileSize
  | setFileOffset
  | unexpectedEof
  | readFile
  | transfer
  | sizeBelowOffset
  | renameFile
  | openFile
  | openTempFile
  | transferContent (error : Error)
  | stripFile (error : Error)
  | capacity
  | writeData
deriving DecidableEq, Repr

def Error.text : Error → String
  | .getFileSize => "Failed to get file size: "
  | .setFileOffset => "Failed to set file offset: "
  | .unexpectedEof => "Unexpected EOF while reading file content"
  | .readFile => "Failed to read file content: "
  | .transfer => ""
  | .sizeBelowOffset => "File size is less than the read offset"
  | .renameFile => "Failed to rename file: "
  | .openFile => "Failed to open file: "
  | .openTempFile => "Failed to open temp file: "
  | .transferContent error => "Failed to transfer file content: " ++ error.text
  | .stripFile error => "Failed to strip file: " ++ error.text
  | .capacity => "File reached its capacity"
  | .writeData => "Failed to write data: "

/-- The reading loop of `transfer_file2mem`: the next bytes of a file. -/
def readOut (transfer : ℕ → Transfer) : ℕ → ℕ → List UInt8 → ℕ → List UInt8 × Option Error
  | 0, _, _, _ => ([], none)
  | fuel + 1, i, source, wanted =>
    if wanted = 0 then ([], none)
    else
      match ((transfer i).amount wanted).map (min source.length) with
      | none => ([], some .readFile)
      | some 0 => ([], some .unexpectedEof)
      | some (n + 1) =>
        let r := readOut transfer fuel (i + 1) (source.drop (n + 1)) (wanted - (n + 1))
        (source.take (n + 1) ++ r.1, r.2)

/-- The reading loop of `transfer_file2file`. Each `read` goes to the front of the buffer. -/
def fillBuffer (transfer : ℕ → Transfer) :
    ℕ → ℕ → List UInt8 → List UInt8 → ℕ → Except Error (List UInt8)
  | 0, _, _, buf, _ => .ok buf
  | fuel + 1, i, source, buf, pos =>
    if buf.length ≤ pos then .ok buf
    else
      match ((transfer i).amount (buf.length - pos)).map (min source.length) with
      | none => .error .transfer
      | some 0 => .error .unexpectedEof
      | some (n + 1) =>
        fillBuffer transfer fuel (i + 1) (source.drop (n + 1))
          (source.take (n + 1) ++ buf.drop (n + 1)) (pos + (n + 1))

/-- The writing loop of `transfer_file2file`. Each `write` takes from the front of the buffer. -/
def writeOut (transfer : ℕ → Transfer) :
    ℕ → ℕ → List UInt8 → ℕ → List UInt8 → Except Error (List UInt8)
  | 0, _, _, _, dst => .ok dst
  | fuel + 1, i, buf, pos, dst =>
    if buf.length ≤ pos then .ok dst
    else
      match (transfer i).amount (buf.length - pos) with
      | none | some 0 => .error .transfer
      | some (n + 1) =>
        writeOut transfer fuel (i + 1) buf (pos + (n + 1)) (dst ++ buf.take (n + 1))

def transferFile2File (fs : FileSystem) (source : List UInt8) (size : ℕ) :
    Except Error (List UInt8) :=
  if size = 0 then .ok []
  else
    match fillBuffer (fs.transfer .stripRead) size 0 source (List.replicate size 0) 0 with
    | .error e => .error e
    | .ok buf => writeOut (fs.transfer .stripWrite) size 0 buf 0 []

structure MemfileBuffer where
  memBuffer : MemoryBuffer := {}
  threshold : ℕ
  maxFileSize : ℕ
  opened : Bool := false
  file : List UInt8 := []
  readOffset : ℕ := 0

namespace MemfileBuffer

variable (fs : FileSystem) (b : MemfileBuffer)

def unreadFile : List UInt8 := b.file.drop b.readOffset

def bytes : List UInt8 := b.memBuffer.bytes ++ b.unreadFile

def size : ℕ :=
  b.memBuffer.size + ((if b.opened && !fs.fails .size then b.file.length else 0) - b.readOffset)

def getFreeMemSpace : ℕ := b.threshold - b.memBuffer.size

/-- What was read is passed over even if a later `read` fails. -/
def moveToMem (r : List UInt8 × Option Error) : MemfileBuffer × Option Error :=
  let b := { b with readOffset := b.readOffset + r.1.length }
  match r.2 with
  | some e => (b, some e)
  | none => ({ b with memBuffer := b.memBuffer.push r.1 }, none)

def transferFile2Mem : MemfileBuffer × Option Error :=
  if !b.opened || b.getFreeMemSpace = 0 then (b, none)
  else if fs.fails .memSize then (b, some .getFileSize)
  else if b.file.length = 0 || b.file.length = b.readOffset then (b, none)
  else if fs.fails .memPosition then (b, some .setFileOffset)
  else
    let toRead := min b.getFreeMemSpace (b.file.length - b.readOffset)
    b.moveToMem (readOut (fs.transfer .memRead) toRead 0 b.unreadFile toRead)

/-- `transfer_mem2mem` of a view, with the rest of the data. -/
def transferMem2Mem (data : List UInt8) : MemfileBuffer × List UInt8 :=
  if b.getFreeMemSpace = 0 then (b, data)
  else
    let chunk := data.take b.getFreeMemSpace
    ({ b with memBuffer := b.memBuffer.push chunk }, data.drop chunk.length)

/-- `transfer_mem2mem` of a vector. If all of the data fit in the memory, the vector is emptied
before a part of it is erased; there is no result in this case. -/
def transferMem2MemVector (data : List UInt8) : Option (MemfileBuffer × List UInt8) :=
  if b.getFreeMemSpace = 0 then some (b, data)
  else if data.length ≤ b.getFreeMemSpace then
    if data = [] then some (b, data) else none
  else some (b.transferMem2Mem data)

/-- The comparisons are made with products of `size_t`. -/
def needToStripFile (fsize dataSize : ℕ) : Bool :=
  b.maxFileSize < fsize + dataSize ||
    (0 < b.readOffset &&
      (b.maxFileSize * 3 % 2 ^ 64 / 10 < b.readOffset || fsize * 3 % 2 ^ 64 / 10 < b.readOffset ||
        b.maxFileSize * 8 % 2 ^ 64 / 10 < fsize))

def copyUnread : Except Error (List UInt8) :=
  if fs.fails .stripOpen then .error .openFile
  else if fs.fails .stripOpenTemp then .error .openTempFile
  else if fs.fails .stripPosition then .error .setFileOffset
  else
    match transferFile2File fs b.unreadFile (b.file.length - b.readOffset) with
    | .error e => .error (.transferContent e)
    | .ok file => .ok file

/-- The old file gets its name back; if it does not, it is removed. -/
def restoreFile : MemfileBuffer :=
  if fs.fails .stripRestore then { b with opened := false, file := [] }
  else { b with opened := !fs.fails .stripReopen }

def stripFile : MemfileBuffer × Option Error :=
  if fs.fails .stripSize then (b, some .getFileSize)
  else if b.file.length < b.readOffset then (b, some .sizeBelowOffset)
  else if fs.fails .stripRename then ({ b with opened := false }, some .renameFile)
  else
    match b.copyUnread fs with
    | .error e => (b.restoreFile fs, some e)
    | .ok file => ({ b with opened := true, file, readOffset := 0 }, none)

def appendToFile (data : List UInt8) : MemfileBuffer × Option Error :=
  if fs.fails .writeSizeAgain then (b, some .getFileSize)
  else if b.maxFileSize ≤ b.file.length then (b, some .capacity)
  else
    let data := data.take (b.maxFileSize - b.file.length)
    match (fs.transfer .write 0).amount data.length with
    | none | some 0 => (b, some .writeData)
    | some n => ({ b with file := b.file ++ data.take n }, none)

def stripIfNeeded (dataSize : ℕ) : MemfileBuffer × Option Error :=
  if b.needToStripFile b.file.length dataSize then b.stripFile fs else (b, none)

def writeInFile (data : List UInt8) : MemfileBuffer × Option Error :=
  if data = [] then (b, none)
  else if !b.opened && fs.fails .writeOpen then (b, some .openFile)
  else
    let b := { b with opened := true }
    if fs.fails .writeSize then (b, some .getFileSize)
    else
      match b.stripIfNeeded fs data.length with
      | (b, some e) => (b, some (.stripFile e))
      | (b, none) => b.appendToFile fs data

def push (data : List UInt8) : MemfileBuffer × Option Error :=
  let r := b.transferMem2Mem data
  r.1.writeInFile fs r.2

def pushVector (data : List UInt8) : Option (MemfileBuffer × Option Error) :=
  (b.transferMem2MemVector data).map fun r ↦ r.1.writeInFile fs r.2

def peek : MemfileBuffer × Except Error (List UInt8) :=
  match b.transferFile2Mem fs with
  | (b, some e) => (b, .error e)
  | (b, none) => (b, .ok b.memBuffer.peek)

def drain (length : ℕ) : MemfileBuffer :=
  ({ b with memBuffer := b.memBuffer.drain length }.transferFile2Mem fs).1

end MemfileBuffer

end TrustTunnel.Buffer.Memfile

import SqliteMc.Lib.FileImage
import SqliteMc.Model.CodecInvariant

/-!
# The file layer

The I/O methods between SQLite and the files: `mcIoRead` and `mcIoWrite` for the main database,
the rollback journal, the subjournal and the write-ahead log. The files under them are buffers
that reads fill up with zeros and writes extend.
-/

namespace SqliteMc

namespace Native

open Buffer ChaCha20

-- ---------------------------------------------------------------------------
-- The files underneath
-- ---------------------------------------------------------------------------

/-- `xRead`: what the file does not have is filled up with zeros. -/
def xRead (file : Bytes) (count offset : Nat) : Rc × Bytes :=
  if offset + count ≤ file.length then (.ok, slice file offset count)
  else (.ioerrShortRead, slice file offset count ++ zeros (count - (slice file offset count).length))

/-- `xWrite`: a file that is too short is extended first. -/
def xWrite (file data : Bytes) (offset : Nat) : Bytes := FileImage.write file data offset

/-- `xTruncate`, which extends a file that is shorter. -/
def xTruncate (file : Bytes) (size : Nat) : Bytes :=
  file.take size ++ zeros (size - file.length)

/-- `sqlite3Get4byte`. -/
def get4byte (b : Bytes) : Nat := (load32BE b 0).toNat

/-- The files of a database connection, by their `openFlags`. -/
inductive FileKind where
  | mainDb
  | mainJournal
  | subJournal
  | wal
  | other
  deriving DecidableEq, Repr

/-- `sqlite3mc_file`: the real file, the page number of a journal, and whether the main database
that a journal belongs to is known. -/
structure McFile where
  file : Bytes
  pageNo : Nat
  pMainDb : Bool
  deriving DecidableEq

/-- The files of a connection, the codec of its main database and the random numbers. -/
structure Vfs where
  codec : Option Codec
  files : FileKind → McFile
  rng : Rng

namespace Vfs

/-- The codec for a file, if there is one and it encrypts. A journal has the codec of its main
database. -/
def active (v : Vfs) (k : FileKind) : Option Codec :=
  if k = .mainDb ∨ (v.files k).pMainDb then v.codec.filter fun c => c.isEncrypted else none

def setFile (v : Vfs) (k : FileKind) (f : McFile) : Vfs :=
  { v with files := Function.update v.files k f }

/-- `mcIoTruncate`. -/
def mcIoTruncate (v : Vfs) (k : FileKind) (size : Nat) : Vfs :=
  v.setFile k { v.files k with file := xTruncate (v.files k).file size }

-- ---------------------------------------------------------------------------
-- Reading
-- ---------------------------------------------------------------------------

/-- The loop over the pages of a buffer that `mcReadMainDb` decrypts in place; the result is the
one of the last page. -/
def loadPages (d : Digests) : Nat → Codec → Bytes → Nat → Bytes × Codec
  | 0, c, _, _ => ([], c)
  | n + 1, c, buffer, pageNo =>
    let page := c.load d (buffer.take c.pageSize) pageNo
    let rest := loadPages d n page.2 (buffer.drop c.pageSize) (pageNo + 1)
    (page.1 ++ rest.1, rest.2)

/-- `mcReadMainDb` after the buffer was read from the file. Of a partial page at most the rest of this
page is returned; the code copies `count` bytes of its page buffer, but SQLite does not read across
the end of a page. -/
def readMainDb (d : Digests) (v : Vfs) (buffer : Bytes) (count offset : Nat) : Rc × Bytes × Vfs :=
  -- 16 bytes from the beginning of the file are the salt
  if offset = 0 ∧ count = 16 then (.ok, buffer, v)
  else
    match v.active .mainDb with
    | none => (.ok, buffer, v)
    | some c =>
      let deltaOffset := offset % c.pageSize
      if deltaOffset ≠ 0 ∨ count % c.pageSize ≠ 0 then
        let prevOffset := offset - deltaOffset
        let pageBuffer := xRead (v.files .mainDb).file c.pageSize prevOffset
        if pageBuffer.1 = .ioerrShortRead then (.ioerrShortRead, buffer, v)
        else
          let page := c.load d pageBuffer.2 (prevOffset / c.pageSize + 1)
          (page.2.lastError, slice page.1 deltaOffset count, { v with codec := some page.2 })
      else
        let nPages := count / c.pageSize
        let pages := loadPages d nPages c buffer (offset / c.pageSize + 1)
        (if nPages = 0 then .ok else pages.2.lastError, pages.1, { v with codec := some pages.2 })

/-- `mcReadMainJournal`, and `mcReadSubJournal`, which keeps the page number. -/
def readJournal (d : Digests) (v : Vfs) (k : FileKind) (buffer : Bytes) (count : Nat) :
    Rc × Bytes × Vfs :=
  match v.active k with
  | none => (.ok, buffer, v)
  | some c =>
    let f := v.files k
    if count = c.pageSize ∧ f.pageNo ≠ 0 then
      let page := c.load d buffer f.pageNo
      let v := { v with codec := some page.2 }
      (page.2.lastError, page.1,
        if k = .mainJournal then v.setFile k { f with pageNo := 0 } else v)
    else if count = 4 then (.ok, buffer, v.setFile k { f with pageNo := get4byte buffer })
    else (.ok, buffer, v)

/-- `mcReadWal`: the page number stands in the header of the frame. -/
def readWal (d : Digests) (v : Vfs) (buffer : Bytes) (count offset : Nat) : Rc × Bytes × Vfs :=
  match v.active .wal with
  | none => (.ok, buffer, v)
  | some c =>
    if count = c.pageSize then
      let ac := xRead (v.files .wal).file 4 (offset - 24)
      let pageNo := if ac.1 = .ok then get4byte ac.2 else 0
      if pageNo ≠ 0 then
        let page := c.load d buffer pageNo
        (page.2.lastError, page.1, { v with codec := some page.2 })
      else (ac.1, buffer, v)
    else if c.walLegacy ≠ 0 ∧ count = c.pageSize + 24 then
      let pageNo := get4byte buffer
      if pageNo ≠ 0 then
        let page := c.load d (buffer.drop 24) pageNo
        (page.2.lastError, buffer.take 24 ++ page.1, { v with codec := some page.2 })
      else (.ok, buffer, v)
    else (.ok, buffer, v)

/-- `mcIoRead`. -/
def mcIoRead (d : Digests) (v : Vfs) (k : FileKind) (count offset : Nat) : Rc × Bytes × Vfs :=
  let buffer := xRead (v.files k).file count offset
  if buffer.1 = .ioerrShortRead then (.ioerrShortRead, buffer.2, v)
  else
    match k with
    | .mainDb => v.readMainDb d buffer.2 count offset
    | .mainJournal => v.readJournal d .mainJournal buffer.2 count
    | .subJournal => v.readJournal d .subJournal buffer.2 count
    | .wal => v.readWal d buffer.2 count offset
    | .other => (.ok, buffer.2, v)

-- ---------------------------------------------------------------------------
-- Writing
-- ---------------------------------------------------------------------------

/-- The buffer written to the real file as it is. -/
def writeReal (v : Vfs) (k : FileKind) (data : Bytes) (offset : Nat) : Vfs :=
  v.setFile k { v.files k with file := xWrite (v.files k).file data offset }

/-- A page encrypted by the codec and written. -/
def writePage (d : Digests) (v : Vfs) (c : Codec) (k : FileKind) (data : Bytes) (pageNo offset : Nat)
    (useWriteKey : Bool) : Vfs :=
  let page := c.store d data pageNo useWriteKey v.rng
  { v with codec := some page.2.1, rng := page.2.2 }.writeReal k page.1 offset

/-- The loop over the pages of a buffer in `mcWriteMainDb`. -/
def storePages (d : Digests) : Nat → Vfs → Bytes → Nat → Nat → Vfs
  | 0, v, _, _, _ => v
  | n + 1, v, data, pageNo, offset =>
    match v.codec with
    | none => v
    | some c =>
      storePages d n (v.writePage d c .mainDb (data.take c.pageSize) pageNo offset true)
        (data.drop c.pageSize) (pageNo + 1) (offset + c.pageSize)

/-- `mcWriteMainDb`. -/
def writeMainDb (d : Digests) (v : Vfs) (data : Bytes) (offset : Nat) : Vfs :=
  match v.active .mainDb with
  | none => v.writeReal .mainDb data offset
  | some c =>
    if offset % c.pageSize ≠ 0 ∨ data.length % c.pageSize ≠ 0 then v.writeReal .mainDb data offset
    else storePages d (data.length / c.pageSize) v data (offset / c.pageSize + 1) offset

/-- `mcWriteMainJournal` and `mcWriteSubJournal`: a page is encrypted if a page number was
written before it. -/
def writeJournal (d : Digests) (v : Vfs) (k : FileKind) (data : Bytes) (offset : Nat) : Vfs :=
  match v.active k with
  | none => v.writeReal k data offset
  | some c =>
    let f := v.files k
    if data.length = c.pageSize ∧ f.pageNo ≠ 0 then v.writePage d c k data f.pageNo offset false
    else
      let v := v.writeReal k data offset
      if data.length = 4 then v.setFile k { v.files k with pageNo := get4byte data } else v

/-- `mcWriteWal`: pages are encrypted here for the legacy format only. -/
def writeWal (d : Digests) (v : Vfs) (data : Bytes) (offset : Nat) : Vfs :=
  match v.active .wal with
  | none => v.writeReal .wal data offset
  | some c =>
    if c.walLegacy = 0 then v.writeReal .wal data offset
    else if data.length = c.pageSize then
      let ac := xRead (v.files .wal).file 4 (offset - 24)
      let pageNo := if ac.1 = .ok then get4byte ac.2 else 0
      if pageNo ≠ 0 then v.writePage d c .wal data pageNo offset false
      else v.writeReal .wal data offset
    else if data.length = c.pageSize + 24 then
      let pageNo := get4byte data
      if pageNo ≠ 0 then
        let page := c.store d (data.drop 24) pageNo false v.rng
        let v := { v with codec := some page.2.1, rng := page.2.2 }
        (v.writeReal .wal (data.take 24) offset).writeReal .wal page.1 (offset + 24)
      else v.writeReal .wal data offset
    else v.writeReal .wal data offset

/-- `mcIoWrite`. Its result code is the one of the real `xWrite`, which does not fail here: an error of
the codec is left in the codec and in the pager, and the state is all that a write returns. -/
def mcIoWrite (d : Digests) (v : Vfs) (k : FileKind) (data : Bytes) (offset : Nat) : Vfs :=
  match k with
  | .mainDb => v.writeMainDb d data offset
  | .mainJournal => v.writeJournal d .mainJournal data offset
  | .subJournal => v.writeJournal d .subJournal data offset
  | .wal => v.writeWal d data offset
  | .other => v.writeReal .other data offset

/-- `sqlite3mcPagerCodec`: the content of a page on its way into the log. -/
def pagerCodec (d : Digests) (v : Vfs) (data : Bytes) (pgno : Nat) : Bytes × Vfs :=
  match v.active .mainDb with
  | some c =>
    if c.walLegacy = 0 then
      let page := c.store d data pgno true v.rng
      (page.1, { v with codec := some page.2.1, rng := page.2.2 })
    else (data, v)
  | none => (data, v)

end Vfs

end Native

end SqliteMc

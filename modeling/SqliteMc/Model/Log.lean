import SqliteMc.Model.Storage

/-!
# Files that entries are appended to

The rollback journal and the write-ahead log: entries of one size stand one after the other, each
where it was appended, whatever else is done to the files of the connection in between.

* `Vfs.Appended`: the entries of a file.
* `Vfs.Appends.run`: the entries, and the pages of the database, after every sequence of events.
-/

namespace SqliteMc

namespace Native

open Buffer ChaCha20

/-- A number is read as it was stored. -/
theorem get4byte_store32BE (w : BitVec 32) : get4byte (store32BE w) = w.toNat := by
  rw [get4byte, load32BE_store32BE]

/-- A page number fits into four bytes. -/
theorem get4byte_pgno {pgno : Nat} (h : pgno < 2 ^ 32) :
    get4byte (store32BE (BitVec.ofNat 32 pgno)) = pgno := by
  rw [get4byte_store32BE, BitVec.toNat_ofNat, Nat.mod_eq_of_lt h]

namespace Vfs

variable {α : Type} {d : Digests} {v : Vfs} {c : Codec} {k : FileKind}
  {At : Bytes → Nat → α → Prop} {size : Nat}

/-- A log of a database under this codec. -/
structure Logs (c : Codec) (k : FileKind) (v : Vfs) : Prop where
  uses : v.Uses c
  pMainDb : (v.files k).pMainDb = true

/-- The codec that a log is written with is the one its database has. -/
theorem Logs.exists_active (h : Logs c k v) (henc : c.isEncrypted = true) :
    ∃ c', v.active k = some c' ∧ c'.settings = c.settings := by
  obtain ⟨c', hcodec, hs⟩ := h.uses.exists_codec
  obtain ⟨-, -, henc', -⟩ := Codec.fields_congr hs
  exact ⟨c', active_of_codec hcodec (henc'.trans henc) (Or.inr h.pMainDb), hs⟩

-- ---------------------------------------------------------------------------
-- Entries
-- ---------------------------------------------------------------------------

/-- The entries stand in the file from the offset on. -/
def Appended (At : Bytes → Nat → α → Prop) (size : Nat) (file : Bytes) : Nat → List α → Prop
  | _, [] => True
  | offset, a :: l => At file offset a ∧ Appended At size file (offset + size) l

/-- One more entry behind the others. -/
theorem Appended.concat {file : Bytes} {o : Nat} {l : List α} {a : α}
    (h : Appended At size file o l) (ha : At file (o + l.length * size) a) :
    Appended At size file o (l ++ [a]) := by
  induction l generalizing o with
  | nil =>
    rw [List.length_nil, Nat.zero_mul, Nat.add_zero] at ha
    exact ⟨ha, trivial⟩
  | cons b l ih =>
    rw [List.length_cons, Nat.succ_mul, Nat.add_comm (l.length * _), ← Nat.add_assoc] at ha
    exact ⟨h.1, ih h.2 ha⟩

/-- The entry with a given index stands behind the entries before it. -/
theorem Appended.get {file : Bytes} {o j : Nat} {l : List α} {a : α}
    (h : Appended At size file o l) (ha : l[j]? = some a) : At file (o + j * size) a := by
  induction l generalizing o j with
  | nil => simp at ha
  | cons b l ih =>
    cases j with
    | zero =>
      rw [List.getElem?_cons_zero] at ha
      rw [Nat.zero_mul, Nat.add_zero, ← Option.some_inj.mp ha]
      exact h.1
    | succ j =>
      rw [List.getElem?_cons_succ] at ha
      rw [Nat.succ_mul, Nat.add_comm (j * size), ← Nat.add_assoc]
      exact ih h.2 ha

/-- A function that appends entries to a log: an entry stands where it was written, and later writes
leave it alone. -/
structure Appends (c : Codec) (k : FileKind) (size : Nat) (At : Bytes → Nat → α → Prop)
    (fits : α → Prop) (add : Vfs → Nat → α → Vfs) : Prop where
  stands : ∀ {v a} offset, Logs c k v → fits a → At ((add v offset a).files k).file offset a
  logs : ∀ {v a} offset, Logs c k v → fits a → Logs c k (add v offset a)
  writes : ∀ {v a} offset, Logs c k v → fits a → ∃ bytes,
    ((add v offset a).files k).file = FileImage.write (v.files k).file bytes offset
  mainDb : ∀ {v a} offset, Logs c k v → fits a → (add v offset a).files .mainDb = v.files .mainDb
  keeps : ∀ {file data o offset a}, At file o a → o + size ≤ offset →
    At (FileImage.write file data offset) o a

/-- A write behind all entries leaves each of them in its place. -/
theorem Appends.keeps_all {fits : α → Prop} {add : Vfs → Nat → α → Vfs}
    (hadd : Appends c k size At fits add) {file data : Bytes} {o offset : Nat} {l : List α}
    (h : Appended At size file o l) (ho : o + l.length * size ≤ offset) :
    Appended At size (FileImage.write file data offset) o l := by
  induction l generalizing o with
  | nil => trivial
  | cons a l ih =>
    rw [List.length_cons, Nat.succ_mul] at ho
    exact ⟨hadd.keeps h.1 (by omega), ih h.2 (by omega)⟩

-- ---------------------------------------------------------------------------
-- Runs
-- ---------------------------------------------------------------------------

/-- What happens to the files: an entry is appended to the log, or something else is done. -/
inductive Event (α : Type) where
  | append (a : α)
  | op (op : FileOp)

def Event.entry? : Event α → Option α
  | .append a => some a
  | .op _ => none

def Event.op? : Event α → Option FileOp
  | .append _ => none
  | .op fileOp => some fileOp

/-- The files, and the end of the log. -/
def Event.step (d : Digests) (size : Nat) (add : Vfs → Nat → α → Vfs) (s : Vfs × Nat) :
    Event α → Vfs × Nat
  | .append a => (add s.1 s.2 a, s.2 + size)
  | .op fileOp => (apply d s.1 fileOp, s.2)

/-- The log is written when entries are appended only. -/
def Spares (k : FileKind) : FileOp → Prop
  | .write j _ _ => j ≠ k
  | .truncate j _ => j ≠ k
  | _ => True

def Event.Fits (c : Codec) (k : FileKind) (fits : α → Prop) : Event α → Prop
  | .append a => fits a
  | .op fileOp => Whole c.pageSize fileOp ∧ Spares k fileOp

/-- An operation that does not concern the log leaves it ready and its bytes as they were. -/
theorem logs_apply {fileOp : FileOp} (h : Logs c k v) (hop : Spares k fileOp) :
    Logs c k (apply d v fileOp) ∧
      ((apply d v fileOp).files k).file = (v.files k).file := by
  have hs := settings_apply d v fileOp
  have hsame : ((apply d v fileOp).files k).file = (v.files k).file ∧
      ((apply d v fileOp).files k).pMainDb = (v.files k).pMainDb := by
    -- one case for each kind of operation: none of them writes to the file of the log
    cases fileOp with
    | read j count offset =>
      have hread := readFrame_read d v j count offset
      exact ⟨hread.file _, hread.pMainDb _⟩
    | write j data offset =>
      have hfiles := (frame_write d v j data offset).files k (Ne.symm hop)
      exact ⟨congrArg McFile.file hfiles, congrArg McFile.pMainDb hfiles⟩
    | truncate j count =>
      have hfiles : (mcIoTruncate v j count).files k = v.files k := setFile_of_ne (Ne.symm hop) _
      exact ⟨congrArg McFile.file hfiles, congrArg McFile.pMainDb hfiles⟩
    | pagerCodec data pgno =>
      have hfiles : (pagerCodec d v data pgno).2.files = v.files := by
        unfold pagerCodec
        split
        · split_ifs <;> rfl
        · rfl
      exact ⟨congrArg (fun f => (f k).file) hfiles, congrArg (fun f => (f k).pMainDb) hfiles⟩
  exact ⟨⟨h.uses.congr hs, hsame.2.trans h.pMainDb⟩, hsame.1⟩

/-- The log has grown by its new entries. -/
theorem end_run {add : Vfs → Nat → α → Vfs} (es : List (Event α)) (s : Vfs × Nat) :
    (es.foldl (Event.step d size add) s).2 = s.2 + (es.filterMap Event.entry?).length * size := by
  induction es generalizing s with
  | nil => rw [List.filterMap_nil, List.length_nil, Nat.zero_mul, Nat.add_zero, List.foldl_nil]
  | cons e es ih =>
    rw [List.foldl_cons, ih]
    -- an appended entry moves the end, any other event does not
    cases e with
    | append a =>
      have hentries : (Event.append a :: es).filterMap Event.entry? =
          a :: es.filterMap Event.entry? := rfl
      have hend : (Event.step d size add s (.append a)).2 = s.2 + size := rfl
      rw [hentries, hend, List.length_cons, Nat.succ_mul]
      omega
    | op fileOp => rfl

/-- Whatever is done in between, the entries stand in the log, and the database holds the pages that
were written to it. -/
theorem Appends.run {fits : α → Prop} {add : Vfs → Nat → α → Vfs}
    (hadd : Appends c k size At fits add) (hc : c.AtRest) {m : Pages} {o : Nat} {l : List α}
    (es : List (Event α)) {s : Vfs × Nat} (h : Logs c k s.1)
    (hl : Appended At size (s.1.files k).file o l) (hend : s.2 = o + l.length * size)
    (hm : Represents d c s.1 m) (hes : ∀ e ∈ es, e.Fits c k fits) :
    let s' := es.foldl (Event.step d size add) s
    Logs c k s'.1 ∧ Appended At size (s'.1.files k).file o (l ++ es.filterMap Event.entry?) ∧
      Represents d c s'.1 ((es.filterMap Event.op?).foldl (effect c.pageSize (c.key true)) m) := by
  induction es generalizing s m l with
  | nil =>
    rw [List.filterMap_nil, List.append_nil]
    exact ⟨h, hl, hm⟩
  | cons e es ih =>
    obtain ⟨he, hrest⟩ := List.forall_mem_cons.mp hes
    -- an entry is added behind the others; an operation leaves the log as it is
    cases e with
    | append a =>
      obtain ⟨bytes, hfile⟩ := hadd.writes s.2 h he
      have hat := hadd.stands s.2 h he
      have hkept : Appended At size ((add s.1 s.2 a).files k).file o l := by
        rw [hfile]
        exact hadd.keeps_all hl (Nat.le_of_eq hend.symm)
      have hnext : s.2 + size = o + (l ++ [a]).length * size := by
        rw [hend, List.length_append, List.length_singleton, Nat.succ_mul, Nat.add_assoc]
      have hdb := congrArg McFile.file (hadd.mainDb s.2 h he)
      have hrun := ih (s := Event.step d size add s (.append a)) (hadd.logs s.2 h he)
        (hkept.concat (hend ▸ hat)) hnext (hm.congr hdb) hrest
      rw [List.append_assoc] at hrun
      exact hrun
    | op fileOp =>
      obtain ⟨hlogs, hfile⟩ := logs_apply (d := d) h he.2
      have hkept : Appended At size ((apply d s.1 fileOp).files k).file o l := by
        rw [hfile]
        exact hl
      have hpages := represents_apply hc.toConsistent hc.isEncrypted h.uses hm he.1
      exact ih (s := Event.step d size add s (.op fileOp)) hlogs hkept hend hpages hrest

end Vfs

end Native

end SqliteMc

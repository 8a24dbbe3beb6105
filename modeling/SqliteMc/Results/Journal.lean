import SqliteMc.Model.Journal

/-!
# Recovery from the rollback journal

What is found after a transaction that did not end, when another connection plays the rollback
journal back.

* `recovery_restores` — the database is what it was before the transaction.
* `rollback_writes_key` — under which key the pages are that a rollback puts back, and when a
  database that is rekeyed is written under its old key again.
-/

namespace SqliteMc

namespace Native

open Buffer ChaCha20

namespace Pager

/-- The pages that the events of a transaction put into the journal. -/
def journalled (es : List (Vfs.Event Record)) : List Record := es.filterMap Vfs.Event.entry?

/-- What the pager does in a transaction on these pages: each of them that is changed is journalled
once, as it was before. The database may grow, by pages that are not journalled. -/
structure Transaction (c : Codec) (p : Pager) (m : Vfs.Pages) (es : List (Vfs.Event Record)) : Prop where
  fits : ∀ e ∈ es, e.Fits c .mainJournal (Fits c p)
  distinct : ((journalled es).map Record.pgno).Nodup
  original : ∀ r ∈ journalled es, m (r.pgno - 1) = some ⟨c.key false, r.data⟩
  unchanged : ∀ i page, m i = some page → (∀ r ∈ journalled es, r.pgno ≠ i + 1) →
    (es.filterMap Vfs.Event.op?).foldl (Vfs.effect c.pageSize (c.key true)) m i = some page

/-- The files that a process left behind, opened by another one. -/
def reopened (v : Vfs) (codec : Codec) (g : Rng) : Vfs where
  codec := some codec
  files k := ⟨(v.files k).file, 0, decide (k = .mainJournal ∨ k = .wal)⟩
  rng := g

/-- Another codec is set for the files. -/
theorem Ready.setCodec {c : Codec} {v : Vfs} (h : Ready c v) (c' : Codec) (g : Rng) :
    Ready c' ⟨some c', v.files, g⟩ := ⟨rfl, h.pMainDb⟩

/-- What is journalled fits into the journal. -/
theorem fits_of_mem_journalled {c : Codec} {p : Pager} {es : List (Vfs.Event Record)} {r : Record}
    (h : ∀ e ∈ es, e.Fits c .mainJournal (Fits c p)) (hr : r ∈ journalled es) : Fits c p r := by
  obtain ⟨e, he, her⟩ := List.mem_filterMap.mp hr
  cases e with
  | append r' =>
    cases her
    exact h _ he
  | op fileOp => cases her

/-- The journal and the database when a transaction has come so far. -/
theorem Transaction.recorded {d : Digests} {v : Vfs} {c : Codec} {p : Pager} {m : Vfs.Pages}
    {es : List (Vfs.Event Record)} (hes : Transaction c p m es) (o : Nat) (hc : c.AtRest)
    (hp : p.pageSize = c.pageSize) (hv : Ready c v) (hm : Vfs.Represents d c v m) :
    let changed := (es.foldl (step d p) (v, o)).1
    Ready c changed ∧ Recorded d c p (changed.files .mainJournal).file o (journalled es) ∧
      Vfs.Represents d c changed
        ((es.filterMap Vfs.Event.op?).foldl (Vfs.effect c.pageSize (c.key true)) m) := by
  have hnone : Recorded d c p (v.files .mainJournal).file o [] := trivial
  have hend : o = o + ([] : List Record).length * (c.pageSize + 8) := by
    rw [List.length_nil, Nat.zero_mul, Nat.add_zero]
  -- the run of `Appends`, for records of the journal
  have hrun := (appends_addRecord d hc hp).run hc es (s := (v, o)) hv hnone hend hm hes.fits
  have hstep : step d p = Vfs.Event.step d (c.pageSize + 8) (p.addRecord d) := by rw [step, hp]
  rw [← hstep] at hrun
  exact hrun

/-! ## A page under RC4 that is journalled and changed -/

def rc4Cipher (key : Octet) : PageCipher := .rc4 ⟨1, 512, [key]⟩

def rc4Codec : Codec := Codec.attach 512 1 0 (rc4Cipher 0x2a)

def rc4Pager : Pager := ⟨512, 2, 0, 0, true, 2097153⟩

def rc4Write (data : Bytes) : Vfs.FileOp := .write .mainDb data (1 * 512)

/-- The connection before the transaction, with its second page written. -/
def rc4Files : Vfs :=
  Vfs.apply default ⟨some rc4Codec, fun _ => ⟨[], 0, true⟩, default⟩ (rc4Write (zeros 512))

def rc4Pages : Vfs.Pages := Function.update (fun _ => none) 1 (some ⟨rc4Codec.key true, zeros 512⟩)

/-- The page is journalled as it is, and written with other content. -/
def rc4Events : List (Vfs.Event Record) :=
  [.append ⟨2, zeros 512⟩, .op (rc4Write (List.replicate 512 0x51))]

theorem atRest_rc4Codec : rc4Codec.AtRest := (Codec.attach_spec (Nat.le_refl 512)).1

theorem whole_rc4Write {data : Bytes} (h : data.length = 512) :
    Vfs.Whole 512 (rc4Write data) := by
  refine ⟨rfl, ?_, fun hzero => absurd hzero (by decide)⟩
  rw [h]

/-- The write replaces the second page. -/
theorem effect_rc4Write (key : Option PageCipher) (m : Vfs.Pages) {data : Bytes}
    (h : data.length = 512) :
    Vfs.effect 512 key m (rc4Write data) = Function.update m 1 (some ⟨key, data⟩) :=
  Vfs.effect_page (by decide) h

/-- The file holds the page as the codec encrypted it. -/
theorem represents_rc4Files : Vfs.Represents default rc4Codec rc4Files rc4Pages := by
  have hwrite := Vfs.represents_apply (d := default)
    (v := ⟨some rc4Codec, fun _ => ⟨[], 0, true⟩, default⟩) atRest_rc4Codec.toConsistent rfl rfl
    (FileImage.holds_none _) (whole_rc4Write (FileImage.length_zeros 512))
  rwa [show rc4Codec.pageSize = 512 from rfl,
    effect_rc4Write _ _ (FileImage.length_zeros 512)] at hwrite

theorem spares_rc4Write (data : Bytes) : Vfs.Spares .mainJournal (rc4Write data) :=
  fun h => by cases h

theorem ready_rc4Files : Ready rc4Codec rc4Files :=
  (Vfs.logs_apply (v := ⟨some rc4Codec, fun _ => ⟨[], 0, true⟩, default⟩) ⟨rfl, rfl⟩
    (spares_rc4Write _)).1

theorem journalled_rc4Events : journalled rc4Events = [⟨2, zeros 512⟩] := rfl

/-- A codec that reads as the one the page was written with. -/
theorem transaction_rc4 {c : Codec} (hps : c.pageSize = 512)
    (hread : c.key false = rc4Codec.key true) : Transaction c rc4Pager rc4Pages rc4Events where
  fits := by
    -- a page is journalled, and then written
    refine List.forall_mem_cons.mpr ⟨?_, List.forall_mem_cons.mpr ⟨?_, by simp⟩⟩
    · exact ⟨(FileImage.length_zeros 512).trans hps.symm, by decide, by decide,
        fun h => absurd h (by decide), by decide, by decide⟩
    · exact ⟨hps.symm ▸ whole_rc4Write List.length_replicate, spares_rc4Write _⟩
  distinct := List.nodup_singleton _
  original r hr := by
    rw [journalled_rc4Events] at hr
    rw [List.mem_singleton.mp hr, hread]
    exact Function.update_self ..
  unchanged i page hi hnot := by
    -- page 2 was journalled, and no other page was written
    have hi1 : i ≠ 1 := by
      rintro rfl
      exact hnot ⟨2, zeros 512⟩ (journalled_rc4Events ▸ List.mem_singleton_self _) rfl
    have hops : rc4Events.filterMap Vfs.Event.op? = [rc4Write (List.replicate 512 0x51)] := rfl
    rw [hops, List.foldl_cons, List.foldl_nil, hps, effect_rc4Write _ _ List.length_replicate,
      Function.update_of_ne hi1, hi]

/-! ## Recovery -/

/--
**A transaction that was cut off is undone.** Pages are journalled and written in any order, with
any other operations on the files in between, until the process ends at any point, be it in the
middle of a record. A connection with the same key that plays the records of the journal back reads
every page of the database as it was before the transaction, but for its reserved bytes: no
checksum fails, and no page is left under another key.
-/
theorem recovery_restores (d : Digests) {v : Vfs} {c c' : Codec} {p : Pager} {m : Vfs.Pages}
    {es : List (Vfs.Event Record)} {o : Nat} (g : Rng) (hc : c.AtRest) (hsettled : c.Settled)
    (hreserved : c.reserved < 200) (hsame : c'.settings = c.settings)
    (hp : p.pageSize = c.pageSize) (hv : Ready c v) (hm : Vfs.Represents d c v m)
    (hkeys : ∀ i page, m i = some page → page.key = c.key false) (hes : Transaction c p m es)
    (hsynced : p.noSync = true ∨
      o + (journalled es).length * (c.pageSize + 8) ≤ p.journalHdr) (n : Nat) (part : Record) :
    let reached := es.foldl (step d p) (v, o)
    let crashed := p.addRecordPart d n reached.1 reached.2 part
    let recovered := p.playback d (journalled es).length (reopened crashed c' g) o
    recovered.1 = .rc .ok ∧ ∀ i page, m i = some page →
      let read := Vfs.mcIoRead d recovered.2 .mainDb c.pageSize (i * c.pageSize)
      read.1 = .ok ∧ read.2.1.take (c.pageSize - c.reserved) =
        page.data.take (c.pageSize - c.reserved) := by
  intro reached crashed recovered
  obtain ⟨-, hrec, hafter⟩ := hes.recorded (d := d) o hc hp hv hm
  have hend : reached.2 = o + (journalled es).length * (c.pageSize + 8) :=
    (Vfs.end_run es (v, o)).trans (by rw [hp]; rfl)
  -- what stands behind the records is not played back
  obtain ⟨hrec, hdb⟩ := recorded_addRecordPart hc hp hrec (Nat.le_of_eq hend.symm) n part
  have hpages : Vfs.Represents d c (reopened crashed c' g) _ :=
    hafter.congr (show (crashed.files .mainDb).file = _ from congrArg McFile.file hdb)
  have hready : Ready c (reopened crashed c' g) := ⟨congrArg some hsame, rfl⟩
  obtain ⟨v', m', hplay, hready', hm', hother, hback⟩ :=
    playback_spec hc hp hreserved hready (fun r hr => fits_of_mem_journalled hes.fits hr)
      hes.distinct hrec hpages hsynced
  have hrecovered : recovered = (.rc .ok, v') := hplay
  rw [hrecovered]
  refine ⟨rfl, fun i page hi => ?_⟩
  dsimp only
  -- the page is read under the key that all pages are under again
  by_cases hjournalled : ∃ r ∈ journalled es, r.pgno = i + 1
  · obtain ⟨r, hr, hpgno⟩ := hjournalled
    obtain ⟨data, hdata, htake⟩ := hback r hr
    have horiginal := hes.original r hr
    rw [hpgno, Nat.add_sub_cancel] at hdata horiginal
    rw [hi] at horiginal
    obtain rfl := Option.some_inj.mp horiginal
    have hread := Vfs.read_page hc.toConsistent hc.isEncrypted hready'.uses hm' hdata hsettled
    exact ⟨hread.rc, hread.take.trans htake⟩
  · have hnot : ∀ r ∈ journalled es, r.pgno ≠ i + 1 := fun r hr heq => hjournalled ⟨r, hr, heq⟩
    have hi' : m' i = some page := by rw [hother i hnot, hes.unchanged i page hi hnot]
    have hread :=
      Vfs.read_page hc.toConsistent hc.isEncrypted hready'.uses hm' hi' (hkeys i page hi)
    exact ⟨hread.rc, hread.take⟩

/-- The page under RC4, when the process ends before the checksum of a second record. -/
theorem recovery_restores_rc4 :
    let reached := rc4Events.foldl (step default rc4Pager) (rc4Files, 512)
    let crashed := rc4Pager.addRecordPart default 2 reached.1 reached.2 ⟨1, zeros 512⟩
    let recovered := rc4Pager.playback default (journalled rc4Events).length
      (reopened crashed rc4Codec default) 512
    recovered.1 = .rc .ok ∧ ∀ i page, rc4Pages i = some page →
      let read := Vfs.mcIoRead default recovered.2 .mainDb rc4Codec.pageSize (i * rc4Codec.pageSize)
      read.1 = .ok ∧ read.2.1.take (rc4Codec.pageSize - rc4Codec.reserved) =
        page.data.take (rc4Codec.pageSize - rc4Codec.reserved) := by
  -- the only page that is known is stored under the codec's key
  have hkeys (i : Nat) (page : Vfs.Page) (hi : rc4Pages i = some page) :
      page.key = rc4Codec.key false := by
    by_cases hi1 : i = 1
    · subst hi1
      rw [rc4Pages, Function.update_self] at hi
      cases hi
      rfl
    · rw [rc4Pages, Function.update_of_ne hi1] at hi
      cases hi
  exact recovery_restores default default atRest_rc4Codec rfl (Codec.sized_attach _ _ _ _).lt rfl rfl
    ready_rc4Files represents_rc4Files hkeys (transaction_rc4 rfl rfl) (Or.inl rfl) 2 ⟨1, zeros 512⟩

/-! ## Rollback -/

/--
**A rollback writes under the write key.** The pages that a rollback of the same process puts back
stand in the journal under the read key, and in the database file afterwards under the write key.
While the pages of an encrypted database are rewritten by `sqlite3_rekey_v2` the first is the old
key and the second the new one. The rollback leaves both as they are: the codec writes under its old
key again only when the rekeying ends after it.
-/
theorem rollback_writes_key (d : Digests) {v : Vfs} {c : Codec} {p : Pager} {m : Vfs.Pages}
    {es : List (Vfs.Event Record)} {o : Nat} (hc : c.AtRest) (hreserved : c.reserved < 200)
    (hp : p.pageSize = c.pageSize) (hv : Ready c v) (hm : Vfs.Represents d c v m)
    (hes : Transaction c p m es)
    (hsynced : p.noSync = true ∨
      o + (journalled es).length * (c.pageSize + 8) ≤ p.journalHdr) :
    let changed := (es.foldl (step d p) (v, o)).1
    let rolledBack := p.playback d (journalled es).length changed o
    Recorded d c p (changed.files .mainJournal).file o (journalled es) ∧
      rolledBack.1 = .rc .ok ∧
      (∀ r ∈ journalled es, ∃ data,
        data.take (c.pageSize - c.reserved) = r.data.take (c.pageSize - c.reserved) ∧
          Encrypted d (c.key true) c.reserved r.pgno data
            (slice (rolledBack.2.files .mainDb).file ((r.pgno - 1) * c.pageSize) c.pageSize)) ∧
      ∃ c', rolledBack.2.codec = some c' ∧ (∀ useWriteKey, c'.key useWriteKey = c.key useWriteKey) ∧
        ∀ {pageSize nReserved : Nat} {old : Codec} {key : Option Codec.NewKey}, old.AtRest →
          Codec.beginRekey pageSize nReserved (some old) key = some c →
          c.key false = old.key false ∧ c.key true = key.map Codec.NewKey.cipher ∧
            Codec.keyOf (c'.endRekey false) true = key.bind fun _ => old.key false := by
  intro changed rolledBack
  obtain ⟨hready, hrec, hafter⟩ := hes.recorded (d := d) o hc hp hv hm
  obtain ⟨v', m', hplay, hready', hm', -, hpages⟩ :=
    playback_spec hc hp hreserved hready (fun r hr => fits_of_mem_journalled hes.fits hr)
      hes.distinct hrec hafter hsynced
  have hrolledBack : rolledBack = (.rc .ok, v') := hplay
  obtain ⟨c', hcodec, hs⟩ := hready'.uses.exists_codec
  rw [hrolledBack]
  refine ⟨hrec, rfl, fun r hr => ?_, c', hcodec, Codec.key_congr hs, fun hold hbegin => ?_⟩
  -- a page that was journalled is back, and encrypted under the write key
  · obtain ⟨data, hdata, htake⟩ := hpages r hr
    have hpos := (fits_of_mem_journalled hes.fits hr).pos
    have hencrypted := (hm' _ _ hdata).2.encrypted
    rw [Nat.sub_add_cancel hpos] at hencrypted
    exact ⟨data, htake, hencrypted⟩
  -- ending the rekey as not committed copies the old key over the new one
  · obtain ⟨hread, hwrite⟩ := Codec.key_beginRekey hold hbegin
    exact ⟨hread, hwrite, Codec.key_endRekey hold hbegin hs⟩

/-- The new key of the database under RC4. -/
def rc4NewKey : Codec.NewKey := ⟨1, 0, rc4Cipher 0x2b⟩

/-- The codec in the middle of the rekeying. -/
def rc4Rekeyed : Codec := { rc4Codec with writeCipher := some rc4NewKey.cipher }

/-- The rekey to the new key begins. -/
theorem beginRekey_rc4 : Codec.beginRekey 512 0 (some rc4Codec) (some rc4NewKey) = some rc4Rekeyed :=
  rfl

theorem atRest_rc4Rekeyed : rc4Rekeyed.AtRest := by
  obtain ⟨c, hbegin, hc⟩ : ∃ c, Codec.beginRekey 512 rc4Codec.reserved (some rc4Codec)
      (some rc4NewKey) = some c ∧ c.AtRest := Codec.atRest_beginRekey atRest_rc4Codec rfl
  obtain rfl := Option.some_inj.mp (beginRekey_rc4.symm.trans hbegin)
  exact hc

/-- The connection at that time. -/
def rc4RekeyFiles : Vfs := ⟨some rc4Rekeyed, rc4Files.files, default⟩

theorem ready_rc4RekeyFiles : Ready rc4Rekeyed rc4RekeyFiles := ready_rc4Files.setCodec rc4Rekeyed _

/-- The file is still the one under the old key. -/
theorem represents_rc4RekeyFiles : Vfs.Represents default rc4Rekeyed rc4RekeyFiles rc4Pages := by
  have hfiles : Vfs.Represents default rc4Codec rc4RekeyFiles rc4Pages :=
    represents_rc4Files.congr (by rw [rc4RekeyFiles])
  exact hfiles.layout rfl rfl

/-- The page under RC4 is rolled back while the database is rekeyed. -/
theorem rollback_writes_key_rc4 :
    let changed := (rc4Events.foldl (step default rc4Pager) (rc4RekeyFiles, 512)).1
    let rolledBack := rc4Pager.playback default (journalled rc4Events).length changed 512
    rc4Rekeyed.key true ≠ rc4Rekeyed.key false ∧ rolledBack.1 = .rc .ok ∧
      (∀ r ∈ journalled rc4Events, ∃ data,
        data.take (rc4Rekeyed.pageSize - rc4Rekeyed.reserved) =
            r.data.take (rc4Rekeyed.pageSize - rc4Rekeyed.reserved) ∧
          Encrypted default (some (rc4Cipher 0x2b)) rc4Rekeyed.reserved r.pgno data
            (slice (rolledBack.2.files .mainDb).file ((r.pgno - 1) * rc4Rekeyed.pageSize)
              rc4Rekeyed.pageSize)) ∧
      ∃ c', rolledBack.2.codec = some c' ∧ c'.key true = some (rc4Cipher 0x2b) ∧
        Codec.keyOf (c'.endRekey false) true = some (rc4Cipher 0x2a) := by
  have hreserved : rc4Rekeyed.reserved < 200 :=
    ((Codec.sized_attach _ _ _ _).beginRekey rfl beginRekey_rc4).lt
  obtain ⟨-, hok, hpages, c', hcodec, hkey, hrekey⟩ := rollback_writes_key (o := 512) default
    atRest_rc4Rekeyed hreserved rfl ready_rc4RekeyFiles represents_rc4RekeyFiles
    (transaction_rc4 rfl rfl) (Or.inl rfl)
  obtain ⟨-, -, hback⟩ := hrekey atRest_rc4Codec beginRekey_rc4
  -- the two keys differ, so that the page is rewritten under another one
  have hnew : rc4Rekeyed.key true = some (rc4Cipher 0x2b) := if_pos ⟨rfl, rfl⟩
  have hold : rc4Rekeyed.key false = some (rc4Cipher 0x2a) := if_pos ⟨rfl, rfl⟩
  rw [hnew] at hpages
  dsimp only
  refine ⟨?_, hok, hpages, c', hcodec, (hkey true).trans hnew, hback⟩
  rw [hnew, hold]
  intro hsame
  injection hsame with hsame
  injection hsame with hsame
  exact absurd (congrArg RC4Cipher.key hsame) (by decide)

end Pager

end Native

end SqliteMc

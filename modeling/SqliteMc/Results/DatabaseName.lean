import SqliteMc.Model.DatabaseName

/-!
# Names, files and URIs

Whether what is opened is what the name says, for the names that `FactoryConfig.Builder`
accepts.

* `file_name_iff` — the file name that is cut out of the URL is the directory joined with
  the name, unless the name ends in whitespace or in a colon; and names that differ in the
  whitespace at their end alone share a file.
* `named_uri_iff` — the URI of a named ephemeral database is read as the name and the two
  parameters, unless the name has a `#`, a NUL or an octet written as `%HH` in it.
-/

namespace SqliteMc

open FilePath

/-- What the builder's checks leave of the names. -/
structure DbName (name : Text) : Prop where
  notBlank : name.isBlank = false
  singleLine : ∀ c ∈ name, c ≠ 0x0A ∧ c ≠ 0x0D
  slash : slash ∉ name
  backslash : 0x5C ∉ name
  questionMark : 0x3F ∉ name

/-- The check passes the names that are a `DbName`, and no other. -/
theorem checkDbName_eq_ok_iff (name : Text) :
    FactoryConfig.checkDbName name = .ok () ↔ DbName name := by
  unfold FactoryConfig.checkDbName
  simp only [bind_eq_ok, require_eq_ok, exists_const, Text.length_lines_eq_one_iff,
    Bool.not_eq_true]
  constructor
  · exact fun ⟨hblank, hline, ⟨hslash, hback⟩, hmark⟩ => ⟨hblank, hline, hslash, hback, hmark⟩
  · exact fun ⟨hblank, hline, hslash, hback, hmark⟩ => ⟨hblank, hline, ⟨hslash, hback⟩, hmark⟩

/-- A database name is not empty. -/
theorem DbName.ne_nil {name : Text} (h : DbName name) : name ≠ [] := by
  rintro rfl
  exact Bool.false_ne_true h.notBlank.symm

/-! ## Files -/

namespace JDBCMC

/-- What begins with the prefix is a URL of the driver. -/
theorem isValidURL_append (t : Text) : isValidURL (PREFIX ++ t) = true := by
  have hlower : Text.lowerAscii PREFIX = PREFIX := by decide
  unfold isValidURL
  rw [Text.lowerAscii, List.map_append, List.isPrefixOf_iff_prefix]
  exact ⟨_, congrArg (· ++ _) hlower.symm⟩

/-- `trim` takes nothing from the front of a URL. -/
theorem trim_append {t : Text} (h : t.isBlank = false) :
    (PREFIX ++ t).trim = PREFIX ++ t.trimEnd := by
  have hfront : (PREFIX ++ t).dropWhile Text.isWhitespace = PREFIX ++ t := rfl
  rw [Text.trim, hfront, Text.trimEnd_append _ h]

end JDBCMC

/-- What is behind the prefix is the file name, without the whitespace at its end. -/
theorem JDBCMC4Connection.fileName_append {t : Text} (h : t.isBlank = false) :
    fileName (JDBCMC.PREFIX ++ t) = some t.trimEnd := by
  unfold fileName
  rw [JDBCMC.isValidURL_append, JDBCMC.trim_append h, List.drop_left]
  rfl

/-- A file name that stands for an entry directly in a directory. -/
def IsEntry (directory fileName : Text) : Prop :=
  ∃ entry, fileName = join directory entry ∧ entry ≠ [] ∧ entry ≠ Text.lit "." ∧
    entry ≠ Text.lit ".." ∧ slash ∉ entry ∧ 0 ∉ entry

/-- The file name that is opened is the directory joined with the name, and stands for an
entry of it. -/
def RoundTrips (directory name : Text) : Prop :=
  JDBCMC4Connection.fileName (JDBCMC.fileUrl directory name) =
      some (join (DatabasesDir.path directory) name) ∧
    IsEntry (DatabasesDir.path directory) (join (DatabasesDir.path directory) name)

/-- A name that stands neither for the directory nor for its parent, ends neither in
whitespace nor like a drive, and has no NUL. -/
structure PlainFileName (name : Text) : Prop where
  lastNotWhitespace : ∀ c ∈ name.getLast?, Text.isWhitespace c = false
  lastNotColon : name.getLast? ≠ some colon
  notSelf : name ≠ Text.lit "."
  notParent : name ≠ Text.lit ".."
  noNul : 0 ∉ name

/-- A name without a slash lies in the directory, or is a root of its own when it ends in a colon.
-/
theorem DatabasesDir.resolve_eq {directory name : Text} (habsolute : directory.head? = some slash)
    (hname : DbName name) :
    DatabasesDir.resolve directory name =
      if name.getLast? = some colon then name else join (DatabasesDir.path directory) name := by
  have hnormal := normal_normalize directory
  unfold DatabasesDir.resolve DatabasesDir.path
  rw [normalize_eq_self hnormal]
  exact resolve_name hnormal (head?_normalize habsolute) hname.ne_nil hname.slash

/-- Of a path that ends in a name only the name can lose white space at its end. -/
theorem trimEnd_join (directory : Text) {name : Text} (h : name.isBlank = false) :
    (join directory name).trimEnd = join directory name.trimEnd := by
  unfold join
  split
  · exact Text.trimEnd_append [slash] h
  · have hsplit : ∀ t : Text, directory ++ slash :: t = (directory ++ [slash]) ++ t := by simp
    rw [hsplit, Text.trimEnd_append _ h, ← hsplit]

/-- A path into a directory is not blank. -/
theorem isBlank_join (directory name : Text) : (join directory name).isBlank = false := by
  have hslash : ∃ c ∈ join directory name, ¬ Text.isWhitespace c = true := by
    refine ⟨slash, ?_, by decide⟩
    unfold join
    split
    · exact List.mem_cons_self
    · exact List.mem_append_right _ List.mem_cons_self
  rw [← Bool.not_eq_true, Text.isBlank, List.all_eq_true]
  intro hall
  obtain ⟨c, hc, hnot⟩ := hslash
  exact hnot (hall c hc)

/-- What is opened for a name. -/
theorem fileName_fileUrl {directory name : Text} (habsolute : directory.head? = some slash)
    (hname : DbName name) :
    JDBCMC4Connection.fileName (JDBCMC.fileUrl directory name) =
      some (if name.getLast? = some colon then name
        else join (DatabasesDir.path directory) name.trimEnd) := by
  unfold JDBCMC.fileUrl
  rw [DatabasesDir.resolve_eq habsolute hname]
  split
  -- a name like a drive is not resolved, and ends in no whitespace
  · rename_i hcolon
    have htrim : name.trimEnd = name := by
      rw [Text.trimEnd_eq_self_iff, hcolon]
      rintro c ⟨⟩
      decide
    rw [JDBCMC4Connection.fileName_append hname.notBlank, htrim]
  · rw [JDBCMC4Connection.fileName_append (isBlank_join _ _), trimEnd_join _ hname.notBlank]

/-- A name is an entry of the directory unless it means the directory itself or its parent. -/
theorem isEntry_join_iff (directory : Text) {name : Text} (hname : DbName name) :
    IsEntry directory (join directory name) ↔
      name ≠ Text.lit "." ∧ name ≠ Text.lit ".." ∧ 0 ∉ name := by
  constructor
  · rintro ⟨entry, hjoin, -, hself, hparent, -, hnul⟩
    rw [join_injective directory hjoin]
    exact ⟨hself, hparent, hnul⟩
  · exact fun ⟨hself, hparent, hnul⟩ =>
      ⟨name, rfl, hname.ne_nil, hself, hparent, hname.slash, hnul⟩

/-- A joined path is absolute, a name is not. -/
theorem join_ne_name {directory name entry : Text} (hslash : slash ∉ name) :
    join directory entry ≠ name := by
  rintro rfl
  apply hslash
  unfold join
  split
  · exact List.mem_cons_self
  · exact List.mem_append_right _ List.mem_cons_self

/-- A name round-trips exactly when it is a plain file name. -/
theorem roundTrips_iff {directory name : Text} (habsolute : directory.head? = some slash)
    (hname : DbName name) : RoundTrips directory name ↔ PlainFileName name := by
  unfold RoundTrips
  rw [fileName_fileUrl habsolute hname, isEntry_join_iff _ hname, Option.some_inj]
  -- the file that is opened has the name, or lost something on the way
  constructor
  · rintro ⟨hfile, hself, hparent, hnul⟩
    split_ifs at hfile with hcolon
    · -- a name like a drive is a path of its own
      exact absurd hfile.symm (join_ne_name hname.slash)
    · -- the name is opened without the whitespace at its end
      have htrim := join_injective _ hfile
      rw [Text.trimEnd_eq_self_iff] at htrim
      exact ⟨htrim, hcolon, hself, hparent, hnul⟩
  · rintro ⟨hlast, hcolon, hself, hparent, hnul⟩
    rw [if_neg hcolon, (Text.trimEnd_eq_self_iff name).mpr hlast]
    exact ⟨rfl, hself, hparent, hnul⟩

/-- Which names share a file. -/
theorem fileName_eq_iff {directory name other : Text} (habsolute : directory.head? = some slash)
    (hname : DbName name) (hother : DbName other) (hne : name ≠ other) :
    JDBCMC4Connection.fileName (JDBCMC.fileUrl directory name) =
        JDBCMC4Connection.fileName (JDBCMC.fileUrl directory other) ↔
      name.getLast? ≠ some colon ∧ other.getLast? ≠ some colon ∧ name.trimEnd = other.trimEnd := by
  rw [fileName_fileUrl habsolute hname, fileName_fileUrl habsolute hother, Option.some_inj]
  -- a name like a drive comes to itself, any other to an entry of the directory
  by_cases hcolon : name.getLast? = some colon
  · rw [if_pos hcolon]
    refine iff_of_false (fun h => ?_) (fun h => h.1 hcolon)
    split_ifs at h
    · exact hne h
    · exact join_ne_name hname.slash h.symm
  · by_cases hcolon' : other.getLast? = some colon
    · rw [if_neg hcolon, if_pos hcolon']
      exact iff_of_false (join_ne_name hother.slash) (fun h => h.2.1 hcolon')
    · rw [if_neg hcolon, if_neg hcolon']
      constructor
      · exact fun h => ⟨hcolon, hcolon', join_injective _ h⟩
      · exact fun ⟨_, _, h⟩ => congrArg _ h

/--
**File names.** For two accepted names and an absolute directory: the file name cut out of
the URL is the directory joined with the name, and stands for an entry of it, if and only if
the name does not end in whitespace or a colon, is no `.` or `..` and has no NUL. Two
different names come to the same file if and only if neither ends in a colon and they are the
same up to the whitespace at their ends.
-/
theorem file_name_iff (directory name other : Text) (habsolute : directory.head? = some slash)
    (hname : FactoryConfig.checkDbName name = .ok ())
    (hother : FactoryConfig.checkDbName other = .ok ()) :
    (RoundTrips directory name ↔ PlainFileName name) ∧
      (name ≠ other →
        (JDBCMC4Connection.fileName (JDBCMC.fileUrl directory name) =
            JDBCMC4Connection.fileName (JDBCMC.fileUrl directory other) ↔
          name.getLast? ≠ some colon ∧ other.getLast? ≠ some colon ∧
            name.trimEnd = other.trimEnd)) := by
  rw [checkDbName_eq_ok_iff] at hname hother
  exact ⟨roundTrips_iff habsolute hname, fileName_eq_iff habsolute hname hother⟩

/-- `a` and `a` with a space behind it. -/
theorem file_name_iff_trailingSpace :
    FactoryConfig.checkDbName (Text.lit "a ") = .ok () ∧
      FactoryConfig.checkDbName (Text.lit "a") = .ok () ∧
      (RoundTrips (Text.lit "/d") (Text.lit "a ") ↔ PlainFileName (Text.lit "a ")) := by
  have hname : FactoryConfig.checkDbName (Text.lit "a ") = .ok () := rfl
  have hother : FactoryConfig.checkDbName (Text.lit "a") = .ok () := rfl
  exact ⟨hname, hother, (file_name_iff (Text.lit "/d") _ _ rfl hname hother).1⟩

/-- Both names are accepted and come to one file. -/
theorem file_name_fails_trailingSpace :
    FactoryConfig.checkDbName (Text.lit "a ") = .ok () ∧
      FactoryConfig.checkDbName (Text.lit "a") = .ok () ∧ Text.lit "a " ≠ Text.lit "a" ∧
      JDBCMC4Connection.fileName (JDBCMC.fileUrl (Text.lit "/d") (Text.lit "a ")) =
        some (Text.lit "/d/a") ∧
      JDBCMC4Connection.fileName (JDBCMC.fileUrl (Text.lit "/d") (Text.lit "a")) =
        some (Text.lit "/d/a") ∧
      ¬ RoundTrips (Text.lit "/d") (Text.lit "a ") := by
  refine ⟨rfl, rfl, by decide, by decide, by decide, fun h => ?_⟩
  exact absurd h.1 (by decide)

/-! ## URIs -/

namespace Sqlite3

/-- The octet that is written with the two characters a text starts with. -/
def frontOctet? : Text → Option Nat
  | h :: l :: _ => escaped? h l
  | _ => none

/-- A question mark is not part of an escape. -/
theorem escaped?_questionMark (c : Char16) : escaped? 0x3F c = none ∧ escaped? c 0x3F = none := by
  have hnone : Base16.value 0x3F = none := by decide
  refine ⟨by rw [escaped?, hnone], ?_⟩
  rw [escaped?, hnone]
  match Base16.value c with
  | some x => rfl
  | none => rfl

/-- A question mark is no digit. -/
theorem frontOctet?_append (rest w : Text) (hw : ∀ c ∈ w.head?, c = 0x3F) :
    frontOctet? (rest ++ w) = frontOctet? rest := by
  match rest, w with
  | h :: l :: rest, w => rfl
  | [h], [] => rfl
  -- a digit of the name and the mark behind it
  | [h], c :: t =>
    have hc : c = 0x3F := hw c rfl
    rw [hc]
    exact (escaped?_questionMark h).2
  | [], [] => rfl
  | [], [c] => rfl
  | [], c :: d :: t =>
    have hc : c = 0x3F := hw c rfl
    rw [hc]
    exact (escaped?_questionMark d).1

/-- A character without a meaning in a path is copied. -/
theorem copyUri_path_cons {c : Char16} {u : Text} (last : Char16) (hnul : c ≠ 0) (hhash : c ≠ 0x23)
    (hmark : c ≠ 0x3F) (hescape : c = 0x25 → frontOctet? u = none) :
    copyUri .path last .nothing (c :: u) = c :: copyUri .path c .nothing u := by
  -- not the end of the text, of what is skipped or of the path, and no escaped octet
  have hend : UriState.endedBy c .path = false := by simpa [UriState.endedBy] using hmark
  rw [copyUri.eq_def]
  dsimp only
  rw [if_neg (fun h => h.elim hnul hhash), if_neg (by decide),
    if_neg (fun h => absurd h.1 (by decide)), hend]
  by_cases hpercent : c = 0x25
  · rw [if_pos hpercent]
    match u with
    | h :: l :: u' =>
      have hnone : escaped? h l = none := hescape hpercent
      simp only [hnone]
    | [h] => rfl
    | [] => rfl
  · rw [if_neg hpercent, if_neg (fun h => absurd h.1 (by decide)), if_neg Bool.false_ne_true]

/-- What the name of a file is read from behind a `%00` is skipped. -/
theorem cString_copyUri_text (last : Char16) (u : Text) :
    (copyUri .path last .text u).cString = [] := by
  induction u with
  | nil => rfl
  | cons c rest ih =>
    rw [copyUri.eq_def]
    dsimp only
    -- up to the end or the question mark, where the path is closed with nothing in it
    by_cases hend : c = 0 ∨ c = 0x23
    · rw [if_pos hend]
      rfl
    · rw [if_neg hend, if_neg (by decide)]
      by_cases hmark : UriState.endedBy c .path = true
      · have hc : c = 0x3F := by simpa [UriState.endedBy] using hmark
        rw [if_neg (fun h => h.2 hmark), hc]
        rfl
      · rw [if_pos ⟨rfl, hmark⟩]
        exact ih

end Sqlite3

/-- A name without what has a meaning in the path of a URI: fragments, NULs and octets in
hexadecimal digits. -/
structure PlainUriName (name : Text) : Prop where
  noNul : 0 ∉ name
  noFragment : 0x23 ∉ name
  noEscape : ∀ s rest, name = s ++ 0x25 :: rest → Sqlite3.frontOctet? rest = none

namespace Sqlite3

theorem plainUriName_nil : PlainUriName [] := by
  refine ⟨List.not_mem_nil, List.not_mem_nil, fun s rest h => ?_⟩
  have hlen := congrArg List.length h
  rw [List.length_nil, List.length_append, List.length_cons] at hlen
  omega

/-- A plain name has no character that ends the path, and no escape. -/
theorem plainUriName_cons {c : Char16} {rest : Text} :
    PlainUriName (c :: rest) ↔
      c ≠ 0 ∧ c ≠ 0x23 ∧ (c = 0x25 → frontOctet? rest = none) ∧ PlainUriName rest := by
  constructor
  · rintro ⟨hnul, hhash, hescape⟩
    rw [List.mem_cons, not_or] at hnul hhash
    refine ⟨Ne.symm hnul.1, Ne.symm hhash.1, fun hc => hescape [] rest ?_, hnul.2, hhash.2, ?_⟩
    · rw [hc]
      rfl
    · rintro s t rfl
      exact hescape (c :: s) t rfl
  · rintro ⟨hnul, hhash, hescape, hrest⟩
    refine ⟨?_, ?_, ?_⟩
    · exact fun h => (List.mem_cons.mp h).elim (fun h => hnul h.symm) hrest.noNul
    · exact fun h => (List.mem_cons.mp h).elim (fun h => hhash h.symm) hrest.noFragment
    · intro s t hsplit
      -- an escape at the front, or in the rest
      match s with
      | [] =>
        obtain ⟨hc, ht⟩ := List.cons.inj hsplit
        rw [← ht]
        exact hescape hc
      | d :: s => exact hrest.noEscape s t (List.cons.inj hsplit).2

/-- A plain name is copied as it is. -/
theorem copyUri_plain {name : Text} (hplain : PlainUriName name) (hmark : 0x3F ∉ name)
    (last : Char16) (t : Text) :
    copyUri .path last .nothing (name ++ 0x3F :: t) = name ++ 0 :: copyUri .name 0 .nothing t := by
  induction name generalizing last with
  | nil =>
    rw [List.nil_append, copyUri.eq_def]
    rfl
  | cons c rest ih =>
    obtain ⟨hnul, hhash, hescape, hrest⟩ := plainUriName_cons.mp hplain
    rw [List.mem_cons, not_or] at hmark
    -- what follows the name does not complete an escape
    have hfront : c = 0x25 → frontOctet? (rest ++ 0x3F :: t) = none := by
      intro hc
      rw [frontOctet?_append rest _ (by rintro d ⟨⟩; rfl)]
      exact hescape hc
    rw [List.cons_append, copyUri_path_cons last hnul hhash (Ne.symm hmark.1) hfront,
      ih hrest hmark.2, List.cons_append]

/-- A text with an octet in it that is written with digits. -/
theorem copyUri_path_escape {h l : Char16} {octet : Nat} (hoctet : escaped? h l = some octet)
    (last : Char16) (u : Text) :
    copyUri .path last .nothing (0x25 :: h :: l :: u) =
      if octet = 0 then copyUri .path last .text u
      else BitVec.ofNat 16 octet :: copyUri .path (BitVec.ofNat 16 octet) .nothing u := by
  rw [copyUri.eq_def]
  dsimp only
  rw [if_neg (by decide), if_neg (by decide), if_neg (by decide), if_pos rfl, hoctet]
  match octet with
  | 0 => rfl
  | n + 1 => rfl

/-- What is read of a name as the path is not longer than the name, and shorter if the name
is not plain. -/
theorem length_cString_copyUri (n : Nat) {name w : Text} (hlen : name.length = n)
    (hmark : 0x3F ∉ name) (hw : ∀ c ∈ w.head?, c = 0x3F) (last : Char16) :
    (copyUri .path last .nothing (name ++ w)).cString.length ≤ n ∧
      ((copyUri .path last .nothing (name ++ w)).cString.length = n → PlainUriName name) := by
  induction n using Nat.strong_induction_on generalizing name last with
  | h n ih =>
    cases name with
    | nil =>
      refine ⟨?_, fun _ => plainUriName_nil⟩
      cases w with
      | nil => exact Nat.zero_le _
      | cons c t =>
        have hc : c = 0x3F := hw c rfl
        rw [List.nil_append, hc, copyUri.eq_def]
        exact Nat.zero_le _
    | cons c rest =>
      rw [List.mem_cons, not_or] at hmark
      rw [List.length_cons] at hlen
      rw [List.cons_append]
      by_cases hend : c = 0 ∨ c = 0x23
      · -- nothing is read from here on
        rw [copyUri.eq_def]
        dsimp only
        rw [if_pos hend]
        exact ⟨Nat.zero_le _, fun h => absurd (h.trans hlen.symm) (Nat.succ_ne_zero _).symm⟩
      · rw [not_or] at hend
        by_cases hescape : c = 0x25 → frontOctet? rest = none
        · have hfront : c = 0x25 → frontOctet? (rest ++ w) = none := by
            rwa [frontOctet?_append rest w hw]
          -- copied: the induction goes on behind it
          obtain ⟨hle, hplain⟩ := ih rest.length (by omega) rfl hmark.2 c
          have hne : (c != 0) = true := by simpa using hend.1
          rw [copyUri_path_cons last hend.1 hend.2 (Ne.symm hmark.1) hfront, Text.cString,
            List.takeWhile_cons, if_pos hne, List.length_cons, ← hlen]
          refine ⟨Nat.succ_le_succ hle, fun h => plainUriName_cons.mpr ?_⟩
          exact ⟨hend.1, hend.2, hescape, hplain (Nat.succ.inj h)⟩
        · -- three characters are read as one, or as none
          rw [Classical.not_imp] at hescape
          obtain ⟨hpercent, hoctet⟩ := hescape
          rcases rest with _ | ⟨h, _ | ⟨l, rest'⟩⟩
          · exact absurd rfl hoctet
          · exact absurd rfl hoctet
          · obtain ⟨octet, hoctet⟩ := Option.ne_none_iff_exists'.mp hoctet
            rw [List.mem_cons, List.mem_cons, not_or, not_or] at hmark
            rw [List.length_cons, List.length_cons] at hlen
            rw [hpercent, List.cons_append, List.cons_append, copyUri_path_escape hoctet]
            split
            · -- a NUL, behind which the path is skipped
              rw [cString_copyUri_text, List.length_nil]
              exact ⟨Nat.zero_le _, fun h => by omega⟩
            · -- any other octet
              obtain ⟨hle, -⟩ := ih rest'.length (by omega) rfl hmark.2.2.2 (BitVec.ofNat 16 octet)
              have hle' := Text.length_cString_cons_le (BitVec.ofNat 16 octet)
                (copyUri .path (BitVec.ofNat 16 octet) .nothing (rest' ++ w))
              exact ⟨by omega, fun h => by omega⟩

/-- The path ends at the first zero. -/
theorem path_readUri (zFile : Text) : (readUri zFile).path = zFile.cString := by
  have hhead := Text.head?_splitOn 0 zFile
  unfold readUri
  split
  · rename_i hnil
    rw [hnil] at hhead
    cases hhead
  · rename_i path parameters hcons
    rw [hcons] at hhead
    exact Option.some_inj.mp hhead

/-- Path and parameters are divided by the first zero. -/
theorem readUri_append {path : Text} (hnul : 0 ∉ path) (zParameters : Text) :
    readUri (path ++ 0 :: zParameters) = ⟨path, uriParameters (zParameters.splitOn 0)⟩ := by
  rw [readUri, Text.splitOn_append_cons hnul]

/-- A URI without an authority. -/
theorem parseUri_file {t : Text} (hslash : t.head? ≠ some slash) :
    parseUri (Text.lit "file:" ++ t) = .ok (readUri (copyUri .path 0 .nothing t.cString)) := by
  have huri : (Text.lit "file:" ++ t).cString = Text.lit "file:" ++ t.cString := rfl
  have hfile : (Text.lit "file:").isPrefixOf (Text.lit "file:" ++ t.cString) = true := rfl
  have hdrop : (Text.lit "file:" ++ t.cString).drop 5 = t.cString := rfl
  -- without two slashes there is no authority
  have hauthority : (Text.lit "//").isPrefixOf t.cString = false := by
    match t with
    | [] => rfl
    | c :: rest =>
      have hc : c ≠ slash := fun hc => hslash (congrArg some hc)
      rw [Text.cString, List.takeWhile_cons]
      split
      · have hbeq : ((0x2F : Char16) == c) = false := beq_eq_false_iff_ne.mpr (Ne.symm hc)
        show (((0x2F : Char16) == c) && _) = false
        rw [hbeq, Bool.false_and]
      · rfl
  unfold parseUri
  dsimp only
  rw [huri, hfile, hdrop, hauthority]
  rfl

end Sqlite3

/-- The parameters of a database in memory that connections share. -/
def memoryParameters : List (Text × Text) :=
  [(Text.lit "mode", Text.lit "memory"), (Text.lit "cache", Text.lit "shared")]

/-- What `create` opens for the name is read by SQLite as `uri`. -/
def OpensNamed (name : Text) (uri : Sqlite3.Uri) : Prop :=
  ∃ fileName, JDBCMC4Connection.fileName (JDBCMC.PREFIX ++ JDBCMC.namedUri name) = some fileName ∧
    Sqlite3.parseUri fileName = .ok uri

/-- The URI's part behind the name. -/
def JDBCMC.query : Text := Text.lit "mode=memory&cache=shared"

/-- The URI of a named in-memory database, part by part. -/
theorem JDBCMC.namedUri_eq (name : Text) :
    namedUri name = Text.lit "file:" ++ (name ++ 0x3F :: query) := by
  rw [namedUri, List.append_assoc]
  rfl

/-- The URI comes out of the URL as it went in. -/
theorem opensNamed_iff {name : Text} (hname : DbName name) (uri : Sqlite3.Uri) :
    OpensNamed name uri ↔
      Sqlite3.readUri (Sqlite3.copyUri .path 0 .nothing (name ++ 0x3F :: JDBCMC.query).cString) =
        uri := by
  have hblank : (JDBCMC.namedUri name).isBlank = false :=
    Text.isBlank_cons_of_not_whitespace (by decide) _
  -- the URI ends in a letter, so nothing is trimmed
  have htrim : (JDBCMC.namedUri name).trimEnd = JDBCMC.namedUri name := by
    have hlast : Text.trimEnd (Text.lit "?mode=memory&cache=shared") =
        Text.lit "?mode=memory&cache=shared" := rfl
    unfold JDBCMC.namedUri
    rw [Text.trimEnd_append _ rfl, hlast]
  -- the name has a first character, and it is no slash
  have hhead : (name ++ 0x3F :: JDBCMC.query).head? ≠ some slash := by
    obtain ⟨c, rest, hcons⟩ := List.exists_cons_of_ne_nil hname.ne_nil
    have hslash := hname.slash
    rw [hcons] at hslash ⊢
    intro hc
    exact hslash (Option.some_inj.mp hc ▸ List.mem_cons_self)
  have hparse := Sqlite3.parseUri_file hhead
  rw [← JDBCMC.namedUri_eq] at hparse
  unfold OpensNamed
  rw [JDBCMC4Connection.fileName_append hblank, htrim]
  constructor
  · rintro ⟨fileName, hfile, huri⟩
    rw [← Option.some_inj.mp hfile, hparse] at huri
    exact Except.ok.inj huri
  · exact fun huri => ⟨_, rfl, hparse.trans (congrArg _ huri)⟩

/-- The URI of a plain name is read as the name and the two parameters. -/
theorem opensNamed_of_plain {name : Text} (hname : DbName name) (hplain : PlainUriName name) :
    OpensNamed name ⟨name, memoryParameters⟩ := by
  have hnul : 0 ∉ name ++ 0x3F :: JDBCMC.query := by
    rw [List.mem_append, not_or]
    exact ⟨hplain.noNul, by decide⟩
  have hparameters : Sqlite3.uriParameters
      ((Sqlite3.copyUri .name 0 .nothing JDBCMC.query).splitOn 0) = memoryParameters := by
    decide +kernel
  rw [opensNamed_iff hname, Text.cString_eq_self hnul,
    Sqlite3.copyUri_plain hplain hname.questionMark, Sqlite3.readUri_append hplain.noNul,
    hparameters]

/-- A URI that is read as a path of its name is a plain name's. -/
theorem plainUriName_of_opensNamed {name : Text} (hname : DbName name) {uri : Sqlite3.Uri}
    (huri : OpensNamed name uri) (hpath : uri.path = name) : PlainUriName name := by
  rw [opensNamed_iff hname] at huri
  rw [← huri, Sqlite3.path_readUri] at hpath
  by_cases hnul : 0 ∈ name
  · -- what is behind the NUL is not read at all
    have hmark : 0x3F ∉ name.cString := fun h =>
      hname.questionMark ((List.takeWhile_prefix _).subset h)
    have hle := (Sqlite3.length_cString_copyUri (name.cString.length) (w := []) rfl hmark
      (fun c hc => nomatch hc) 0).1
    have hlt := Text.length_cString_lt hnul
    rw [Text.cString_append hnul] at hpath
    rw [List.append_nil, hpath] at hle
    omega
  -- the whole URI is read, and a shorter path would not be the name
  · have hnul' : 0 ∉ name ++ 0x3F :: JDBCMC.query := by
      rw [List.mem_append, not_or]
      exact ⟨hnul, by decide⟩
    rw [Text.cString_eq_self hnul'] at hpath
    exact (Sqlite3.length_cString_copyUri name.length rfl hname.questionMark
      (by rintro c ⟨⟩; rfl) 0).2 (congrArg List.length hpath)

/--
**Named databases.** The URI that is opened for an accepted name is read as the name and the
parameters of a shared database in memory if and only if the name has no NUL, no `#` and no
`%` followed by two hexadecimal digits in it; two different names without these are read as
different databases.
-/
theorem named_uri_iff (name : Text) (hname : FactoryConfig.checkDbName name = .ok ()) :
    (OpensNamed name ⟨name, memoryParameters⟩ ↔ PlainUriName name) ∧
      ∀ other, FactoryConfig.checkDbName other = .ok () → PlainUriName name → PlainUriName other →
        name ≠ other → ∀ uri, ¬ (OpensNamed name uri ∧ OpensNamed other uri) := by
  rw [checkDbName_eq_ok_iff] at hname
  refine ⟨⟨fun h => plainUriName_of_opensNamed hname h rfl, opensNamed_of_plain hname⟩, ?_⟩
  rintro other hother hplain hplain' hne uri ⟨huri, huri'⟩
  rw [checkDbName_eq_ok_iff] at hother
  have hopens := opensNamed_of_plain hname hplain
  have hopens' := opensNamed_of_plain hother hplain'
  rw [opensNamed_iff hname] at huri hopens
  rw [opensNamed_iff hother] at huri' hopens'
  exact hne (congrArg Sqlite3.Uri.path (hopens.symm.trans (huri.trans (huri'.symm.trans hopens'))))

/-- A name of one letter. -/
theorem named_uri_iff_oneLetter :
    FactoryConfig.checkDbName (Text.lit "a") = .ok () ∧
      (OpensNamed (Text.lit "a") ⟨Text.lit "a", memoryParameters⟩ ↔
        PlainUriName (Text.lit "a")) := by
  have hname : FactoryConfig.checkDbName (Text.lit "a") = .ok () := rfl
  exact ⟨hname, (named_uri_iff (Text.lit "a") hname).1⟩

/-- With a `#` in the name, a file is opened: no parameter is read. -/
theorem named_uri_fails_fragment :
    FactoryConfig.checkDbName (Text.lit "a#b") = .ok () ∧
      OpensNamed (Text.lit "a#b") ⟨Text.lit "a", []⟩ ∧
      ¬ OpensNamed (Text.lit "a#b") ⟨Text.lit "a#b", memoryParameters⟩ := by
  have hok : FactoryConfig.checkDbName (Text.lit "a#b") = .ok () := rfl
  have hname := (checkDbName_eq_ok_iff _).mp hok
  have hread : Sqlite3.readUri (Sqlite3.copyUri .path 0 .nothing
      (Text.lit "a#b" ++ 0x3F :: JDBCMC.query).cString) = ⟨Text.lit "a", []⟩ := by decide +kernel
  refine ⟨hok, (opensNamed_iff hname _).mpr hread, fun h => ?_⟩
  have hpath := hread.symm.trans ((opensNamed_iff hname _).mp h)
  exact absurd hpath (by decide)

end SqliteMc

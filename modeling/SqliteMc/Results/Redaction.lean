import SqliteMc.Model.Logger

/-!
# Redaction

What of a key gets to the user's logger.

* `logged_eq_iff` — a text with an argument in it is logged alike for all arguments when it
  is executed, starts with `PRAGMA`, has an equals sign in front of the argument and `key =`
  in front of it or behind it.
* `redaction_iff` — what that makes of the statements that set a key: one space in front of
  the equals sign, and nothing in front of the keyword.
-/

namespace SqliteMc

open FactoryConfig

/-! ## The filter -/

/-- `key =`, in any letter case. -/
def keyEquals : Text := Text.lit "key ="

/-- The filter takes the statement for one that sets a key. -/
def Recognised (submission : Submission) (sql : Text) : Prop :=
  submission = .execute ∧ sql.startsWithIgnoreCase (Text.lit "PRAGMA") = true ∧
    sql.containsIgnoreCase keyEquals = true

/-- Nothing of the pattern is found in `EXECUTE` or starts there. -/
theorem contains_log_execute (sql : Text) :
    (LogSqliteDriver.log .execute sql).containsIgnoreCase keyEquals =
      sql.containsIgnoreCase keyEquals := by
  have hlog : LogSqliteDriver.log .execute sql = Text.lit "EXECUTE" ++ 0x0A :: 0x20 :: sql := rfl
  have hkey : keyEquals = 0x6B :: Text.lit "ey =" := rfl
  have hne : keyEquals ≠ [] := by
    rw [hkey]
    exact List.cons_ne_nil _ _
  -- `EXECUTE`, the break behind it and the space have no part in a match
  have hexecute : (Text.lit "EXECUTE").containsIgnoreCase keyEquals = false := by decide
  have hbreak : keyEquals.any (Text.charEqualsIgnoreCase 0x0A) = false := by decide
  have hspace : Text.startsWithIgnoreCase (0x20 :: sql) keyEquals = false := by
    rw [hkey]
    exact Text.startsWith_cons_eq_false (by decide) sql (Text.lit "ey =")
  rw [hlog, Text.contains_split hbreak hne, hexecute, Bool.false_or,
    Text.containsIgnoreCase, hspace, Bool.false_or]

/-- Whatever has `rekey =` in it has `key =` in it. -/
theorem contains_reKey_or (t : Text) :
    (t.containsIgnoreCase (MCPragma.reKey.name ++ Text.lit " =") ||
        t.containsIgnoreCase (MCPragma.key.name ++ Text.lit " =")) =
      t.containsIgnoreCase keyEquals := by
  have hrekey : MCPragma.reKey.name ++ Text.lit " =" = Text.lit "re" ++ keyEquals := rfl
  have hkey : MCPragma.key.name ++ Text.lit " =" = keyEquals := rfl
  rw [hrekey, hkey, Bool.eq_iff_iff, Bool.or_eq_true]
  exact ⟨fun h => h.elim Text.contains_of_contains_append id, Or.inr⟩

/-- A statement that is recognised is cut off behind its first equals sign. -/
theorem cleansed_log (submission : Submission) (sql : Text) :
    (Recognised submission sql ∧ cleansed true (LogSqliteDriver.log submission sql) =
        (LogSqliteDriver.log submission sql).replaceAfter 0x3D ++ Text.lit " [REDACTED];") ∨
      ¬ Recognised submission sql ∧
        cleansed true (LogSqliteDriver.log submission sql) = LogSqliteDriver.log submission sql := by
  match submission with
  | .executeQuery =>
    have hstart : (LogSqliteDriver.log .executeQuery sql).startsWithIgnoreCase
        (Text.lit "EXECUTE\n PRAGMA") = false :=
      @Text.startsWith_cons_eq_false 0x51 0x45 (by decide) (Text.lit "UERY\n " ++ sql)
        (Text.lit "XECUTE\n PRAGMA")
    have hnot : ¬ Recognised .executeQuery sql := fun h => nomatch h.1
    refine Or.inr ⟨hnot, ?_⟩
    unfold cleansed
    rw [hstart, Bool.and_false, Bool.false_and, if_neg Bool.false_ne_true]
  | .execute =>
    have hstart : (LogSqliteDriver.log .execute sql).startsWithIgnoreCase
        (Text.lit "EXECUTE\n PRAGMA") = sql.startsWithIgnoreCase (Text.lit "PRAGMA") :=
      Text.startsWith_append_append (Text.lit "EXECUTE\n ") sql (Text.lit "PRAGMA")
    unfold cleansed
    rw [hstart, contains_reKey_or, contains_log_execute, Bool.true_and]
    -- the header is the filter's own, so the statement decides
    by_cases h : sql.startsWithIgnoreCase (Text.lit "PRAGMA") = true ∧
        sql.containsIgnoreCase keyEquals = true
    · rw [if_pos (by rw [h.1, h.2]; rfl)]
      exact Or.inl ⟨⟨rfl, h⟩, rfl⟩
    · rw [if_neg (by rwa [Bool.and_eq_true])]
      exact Or.inr ⟨fun hrec => h hrec.2, rfl⟩

/-! ## Two arguments -/

/-- The text that is handed to the logger does not depend on the argument of the statement. -/
def LoggedAlike (submission : Submission) (dbName : Text) (sql : Text → Text) : Prop :=
  ∀ argument argument' value value', SqlLiteral.argument? argument = some value →
    SqlLiteral.argument? argument' = some value' →
    logged true dbName (LogSqliteDriver.log submission (sql argument)) =
      logged true dbName (LogSqliteDriver.log submission (sql argument'))

theorem LogSqliteDriver.log_append (submission : Submission) (s t : Text) :
    log submission (s ++ t) = log submission s ++ t := by
  cases submission <;> exact (List.append_assoc _ _ _).symm

/-- An equals sign in the log is one in the statement. -/
theorem mem_log_iff (submission : Submission) (sql : Text) :
    0x3D ∈ LogSqliteDriver.log submission sql ↔ 0x3D ∈ sql := by
  cases submission <;>
  · rw [LogSqliteDriver.log, List.mem_append]
    exact or_iff_right (by decide)

/-- What is behind the equals sign is not logged. -/
theorem loggedAlike_of_recognised {submission : Submission} {front : Text} (hequals : 0x3D ∈ front)
    (tail : Text) (h : ∀ argument, Recognised submission (front ++ (argument ++ tail)))
    (dbName : Text) : LoggedAlike submission dbName (fun argument => front ++ (argument ++ tail)) := by
  -- the equals sign stands in front of the argument, and nothing behind it is kept
  have hmem := (mem_log_iff submission front).mpr hequals
  have hcut : ∀ argument, cleansed true
      (LogSqliteDriver.log submission (front ++ (argument ++ tail))) =
        (LogSqliteDriver.log submission front).replaceAfter 0x3D ++ Text.lit " [REDACTED];" := by
    intro argument
    obtain ⟨-, hcleansed⟩ | ⟨hnot, -⟩ := cleansed_log submission (front ++ (argument ++ tail))
    · rw [hcleansed, LogSqliteDriver.log_append, Text.replaceAfter_of_mem hmem]
    · exact absurd (h argument) hnot
  intro argument argument' value value' _ _
  rw [logged, logged, hcut, hcut]

/-- A quote ends what is found of the pattern, on both sides. -/
theorem recognised_iff {c : Char16} (hc : Text.containsIgnoreCase [c] keyEquals = false)
    (submission : Submission) (front tail : Text) :
    Recognised submission (front ++ ([SqlLiteral.quote, c, SqlLiteral.quote] ++ tail)) ↔
      submission = .execute ∧ front.startsWithIgnoreCase (Text.lit "PRAGMA") = true ∧
        (front.containsIgnoreCase keyEquals = true ∨ tail.containsIgnoreCase keyEquals = true) := by
  -- the quotes are in neither of the texts that are looked for
  have hpragma : (Text.lit "PRAGMA").any (Text.charEqualsIgnoreCase SqlLiteral.quote) = false := by
    decide
  have hkey : keyEquals.any (Text.charEqualsIgnoreCase SqlLiteral.quote) = false := by decide
  have hne : keyEquals ≠ [] := by decide
  have hsplit : front ++ ([SqlLiteral.quote, c, SqlLiteral.quote] ++ tail) =
      front ++ SqlLiteral.quote :: ([c] ++ SqlLiteral.quote :: tail) := rfl
  unfold Recognised
  rw [hsplit, Text.startsWith_append_cons hpragma, Text.contains_split hkey hne,
    Text.contains_split hkey hne, hc, Bool.false_or, Bool.or_eq_true]

/-- A statement that is not cut off in front of its argument shows it. -/
theorem cleansed_shows {submission : Submission} {front tail : Text} {c : Char16}
    (hequals : c ≠ 0x3D)
    (h : Recognised submission (front ++ ([SqlLiteral.quote, c, SqlLiteral.quote] ++ tail)) →
      0x3D ∉ front) :
    ∃ rest, cleansed true (LogSqliteDriver.log submission
        (front ++ ([SqlLiteral.quote, c, SqlLiteral.quote] ++ tail))) =
      LogSqliteDriver.log submission front ++ SqlLiteral.quote :: c :: rest := by
  -- what is logged is the front, the argument and the tail, one after the other
  have hlog : LogSqliteDriver.log submission
      (front ++ ([SqlLiteral.quote, c, SqlLiteral.quote] ++ tail)) =
        LogSqliteDriver.log submission (front ++ [SqlLiteral.quote, c]) ++
          SqlLiteral.quote :: tail := by
    rw [← LogSqliteDriver.log_append, List.append_assoc]
    rfl
  have hshown : LogSqliteDriver.log submission (front ++ [SqlLiteral.quote, c]) =
      LogSqliteDriver.log submission front ++ [SqlLiteral.quote, c] :=
    LogSqliteDriver.log_append _ _ _
  obtain ⟨hrec, hcleansed⟩ | ⟨-, hcleansed⟩ := cleansed_log submission
    (front ++ ([SqlLiteral.quote, c, SqlLiteral.quote] ++ tail))
  · -- cut off, but behind the argument
    have hnot : 0x3D ∉ LogSqliteDriver.log submission (front ++ [SqlLiteral.quote, c]) := by
      rw [mem_log_iff, List.mem_append, not_or]
      refine ⟨h hrec, ?_⟩
      rw [List.mem_cons, List.mem_singleton, not_or]
      exact ⟨by decide, Ne.symm hequals⟩
    rw [hcleansed, hlog, Text.replaceAfter_append hnot, hshown]
    exact ⟨_, by simp only [List.append_assoc, List.cons_append, List.nil_append]; rfl⟩
  · -- not cut off at all
    rw [hcleansed, hlog, hshown]
    exact ⟨_, by simp only [List.append_assoc, List.cons_append, List.nil_append]; rfl⟩

/-- **Which texts are logged alike** for all arguments. -/
theorem logged_eq_iff (submission : Submission) (dbName front tail : Text) :
    LoggedAlike submission dbName (fun argument => front ++ (argument ++ tail)) ↔
      submission = .execute ∧ front.startsWithIgnoreCase (Text.lit "PRAGMA") = true ∧
        0x3D ∈ front ∧
        (front.containsIgnoreCase keyEquals = true ∨ tail.containsIgnoreCase keyEquals = true) := by
  constructor
  · intro h
    by_contra hcond
    have hshows : ∀ c : Char16, Text.containsIgnoreCase [c] keyEquals = false → c ≠ 0x3D →
        ∃ rest, cleansed true (LogSqliteDriver.log submission
            (front ++ ([SqlLiteral.quote, c, SqlLiteral.quote] ++ tail))) =
          LogSqliteDriver.log submission front ++ SqlLiteral.quote :: c :: rest := by
      intro c hc hequals
      refine cleansed_shows hequals fun hrec hmem => hcond ?_
      obtain ⟨hexecute, hpragma, hkey⟩ := (recognised_iff hc submission front tail).mp hrec
      exact ⟨hexecute, hpragma, hmem, hkey⟩
    -- the keys `a` and `b`
    obtain ⟨rest, ha⟩ := hshows 0x61 (by decide) (by decide)
    obtain ⟨rest', hb⟩ := hshows 0x62 (by decide) (by decide)
    have heq := h [SqlLiteral.quote, 0x61, SqlLiteral.quote] [SqlLiteral.quote, 0x62, SqlLiteral.quote]
      [0x61] [0x62] rfl rfl
    rw [logged, logged, ha, hb] at heq
    have hcons := List.append_cancel_left (List.append_cancel_left heq)
    exact absurd (List.cons.inj (List.cons.inj hcons).2).1 (by decide)
  · rintro ⟨hexecute, hpragma, hequals, hkey⟩
    refine loggedAlike_of_recognised hequals tail (fun argument => ⟨hexecute, ?_, ?_⟩) dbName
    · -- whatever the argument is, the statement is recognised by what stands around it
      exact Text.startsWith_append hpragma _
    · rcases hkey with hkey | hkey
      · exact Text.contains_append_append hkey [] _
      · have hcontains := Text.contains_append_append hkey (front ++ argument) []
        rwa [List.append_nil, List.append_assoc] at hcontains

/-! ## Statements that set a key -/

namespace Sqlite3

/-- SQLite's white space. -/
theorem isSpace_cases {c : Char16} (h : isSpace c = true) :
    c = 0x09 ∨ c = 0x0A ∨ c = 0x0B ∨ c = 0x0C ∨ c = 0x0D ∨ c = 0x20 := by
  have hvalue : ∀ n : Nat, c.toNat = n → c = BitVec.ofNat 16 n := by
    rintro n rfl
    rw [BitVec.ofNat_toNat, BitVec.setWidth_eq]
  unfold isSpace at h
  rw [Bool.or_eq_true, beq_iff_eq, Bool.and_eq_true, decide_eq_true_eq, decide_eq_true_eq] at h
  rcases h with ⟨hge, hle⟩ | h
  -- the five control characters, and the blank
  · obtain h | h | h | h | h : c.toNat = 9 ∨ c.toNat = 10 ∨ c.toNat = 11 ∨ c.toNat = 12 ∨
        c.toNat = 13 := by omega
    · exact Or.inl (hvalue 9 h)
    · exact Or.inr (Or.inl (hvalue 10 h))
    · exact Or.inr (Or.inr (Or.inl (hvalue 11 h)))
    · exact Or.inr (Or.inr (Or.inr (Or.inl (hvalue 12 h))))
    · exact Or.inr (Or.inr (Or.inr (Or.inr (Or.inl (hvalue 13 h)))))
  · exact Or.inr (Or.inr (Or.inr (Or.inr (Or.inr h))))

/-- White space matches no letter. -/
theorem isSpace_not_letter {c : Char16} (h : isSpace c = true) :
    Text.charEqualsIgnoreCase c 0x50 = false ∧ Text.charEqualsIgnoreCase c 0x79 = false := by
  rcases isSpace_cases h with rfl | rfl | rfl | rfl | rfl | rfl <;> decide

/-- White space has no equals sign in it. -/
theorem IsSpaces.not_mem {t : Text} (h : IsSpaces t) : 0x3D ∉ t := fun hmem =>
  absurd (h.1 _ hmem) (by decide)

/-- A word without an equals sign has none in any case. -/
theorem not_mem_of_lowerAscii {t word : Text} (hword : 0x3D ∉ word) (h : t.lowerAscii = word) :
    0x3D ∉ t := by
  intro hmem
  apply hword
  rw [← h]
  exact List.mem_map.mpr ⟨0x3D, hmem, by decide⟩

/-- The name of a schema has no equals sign in it. -/
theorem SchemaPrefix.not_mem (s : SchemaPrefix) : 0x3D ∉ s.text := by
  unfold text
  rw [List.mem_append, List.mem_append, List.mem_cons]
  rintro ((h | h) | h | h)
  · exact absurd (s.isId.chars _ h) (by decide)
  · exact s.isSpaces.not_mem h
  · exact absurd h (by decide)
  · exact s.isSpaces'.not_mem h

namespace KeyPragma

/-- There is no equals sign in front of the one that sets the key. -/
theorem not_mem_head (p : KeyPragma) : 0x3D ∉ p.head := by
  have hschema : 0x3D ∉ (p.schema.map SchemaPrefix.text).getD [] := by
    match p.schema with
    | none => exact List.not_mem_nil
    | some s => exact s.not_mem
  have hname : 0x3D ∉ p.name :=
    p.name_eq.elim (not_mem_of_lowerAscii (by decide)) (not_mem_of_lowerAscii (by decide))
  unfold head
  simp only [List.mem_append, not_or]
  -- each part of the head is white space, a keyword or a name
  exact ⟨⟨⟨⟨⟨p.lead_isSpaces.not_mem, not_mem_of_lowerAscii (by decide) p.keyword_eq⟩,
    p.gap_isSpaces.not_mem⟩, hschema⟩, hname⟩, p.before_isSpaces.not_mem⟩

/-- In front of the argument an equals sign stands only in that form. -/
theorem mem_front_iff (p : KeyPragma) :
    0x3D ∈ p.head ++ p.form.opening :: p.after ↔ p.form = .equals := by
  rw [List.mem_append, or_iff_right p.not_mem_head, List.mem_cons,
    or_iff_left p.after_isSpaces.not_mem]
  match p.form with
  | .equals => exact iff_of_true rfl rfl
  | .parenthesised space h =>
    have hopening : (0x3D : Char16) ≠ 0x28 := by decide
    exact iff_of_false hopening (by rintro ⟨⟩)

/-- The keyword is matched unless there is white space in front of it. -/
theorem startsWith_front_iff (p : KeyPragma) (rest : Text) :
    (p.head ++ rest).startsWithIgnoreCase (Text.lit "PRAGMA") = true ↔ p.lead = [] := by
  unfold head
  constructor
  · intro h
    -- white space in front of the keyword is in its place
    match hlead : p.lead with
    | [] => rfl
    | c :: lead =>
      have hspace : isSpace c = true := p.lead_isSpaces.1 c (by rw [hlead]; exact List.mem_cons_self)
      rw [hlead] at h
      simp only [List.cons_append] at h
      have hnot := @Text.startsWith_cons_eq_false c 0x50 (isSpace_not_letter hspace).1
      exact absurd (h.symm.trans (hnot _ (Text.lit "RAGMA"))) (by decide)
  · intro h
    rw [h, Text.startsWith_iff]
    simp only [List.nil_append, List.append_assoc]
    exact ⟨p.keyword, _, rfl, Text.matches_of_lowerAscii (p.keyword_eq.trans (by decide))⟩

/-- The name ends in `key`. -/
theorem name_ends (p : KeyPragma) : ∃ start key, p.name = start ++ key ∧
    key.lowerAscii = Text.lit "key" := by
  rcases p.name_eq with h | h
  · exact ⟨[], p.name, rfl, h⟩
  · have hsplit : p.name.lowerAscii = Text.lit "re" ++ Text.lit "key" := h
    obtain ⟨start, key, hname, -, hkey⟩ := List.map_eq_append_iff.mp hsplit
    exact ⟨start, key, hname, hkey⟩

/-- A text that ends in a name and white space ends in `key` and a space when the white space
is one space. -/
theorem ends_iff (base : Text) {key space : Text} (hkey : key.lowerAscii = Text.lit "key")
    (hspace : IsSpaces space) :
    (∃ front m, base ++ key ++ space = front ++ m ∧ Text.Matches m (Text.lit "key" ++ [0x20])) ↔
      space = [0x20] := by
  constructor
  · rintro ⟨front, m, hsplit, hm⟩
    obtain ⟨word, last, rfl, hword, hlast⟩ := hm.split
    obtain ⟨c, r, hc, hr, rfl⟩ := List.forall₂_cons_right_iff.mp hlast
    have hc' := (Text.charEqualsIgnoreCase_iff_eq (by decide) c).mp hc
    rw [List.forall₂_nil_right_iff.mp hr, hc', ← List.append_assoc] at hsplit
    -- the last character, then the one in front of it
    rcases space.eq_nil_or_concat with rfl | ⟨space, d, rfl⟩
    · -- the name does not end in a space
      have hkeys : key.lowerAscii = Text.lit "ke" ++ [0x79] := hkey
      obtain ⟨k, last, rfl, -, hlast⟩ := List.map_eq_append_iff.mp hkeys
      obtain ⟨y, r', rfl, hy, hr'⟩ := List.map_eq_cons_iff.mp hlast
      rw [List.map_eq_nil_iff.mp hr', List.append_nil, ← List.append_assoc] at hsplit
      have hspace := (List.cons.inj (List.append_inj' hsplit rfl).2).1
      rw [hspace] at hy
      exact absurd hy (by decide)
    · rw [List.concat_eq_append, ← List.append_assoc] at hsplit
      obtain ⟨hfront, hd⟩ := List.append_inj' hsplit rfl
      rcases space.eq_nil_or_concat with rfl | ⟨space, e, rfl⟩
      · exact hd
      · -- the last letter of `key` is no white space
        have hkeys : Text.Matches word (Text.lit "ke" ++ [0x79]) := hword
        obtain ⟨start, last, rfl, -, hlast⟩ := hkeys.split
        obtain ⟨y, r, hy, hr, rfl⟩ := List.forall₂_cons_right_iff.mp hlast
        rw [List.forall₂_nil_right_iff.mp hr, List.concat_eq_append, ← List.append_assoc,
          ← List.append_assoc] at hfront
        have hey := (List.cons.inj (List.append_inj' hfront rfl).2).1
        have hisSpace : isSpace e = true := hspace.1 e (by simp)
        rw [← hey, (isSpace_not_letter hisSpace).2] at hy
        exact absurd hy Bool.false_ne_true
  · rintro rfl
    refine ⟨base, key ++ [0x20], List.append_assoc _ _ _, ?_⟩
    have hletters := Text.matches_of_lowerAscii (t := Text.lit "key") (hkey.trans (by decide))
    exact hletters.append (.cons (by decide) .nil)

/-- `key =` is in front of the argument when there is one space in front of the equals sign. -/
theorem contains_front_iff (p : KeyPragma) (hform : p.form = .equals) :
    (p.head ++ p.form.opening :: p.after).containsIgnoreCase keyEquals = true ↔
      p.before = [0x20] := by
  have hkeyEquals : keyEquals = (Text.lit "key" ++ [0x20]) ++ [0x3D] := rfl
  have hopening : p.form.opening = 0x3D := by rw [hform]; rfl
  obtain ⟨start, key, hname, hkey⟩ := p.name_ends
  have hhead : p.head = p.lead ++ p.keyword ++ p.gap ++
      (p.schema.map SchemaPrefix.text).getD [] ++ start ++ key ++ p.before := by
    rw [head, hname, ← List.append_assoc]
  rw [hopening, hkeyEquals,
    Text.contains_last_iff (by decide) p.not_mem_head p.after_isSpaces.not_mem, hhead]
  exact ends_iff _ hkey p.before_isSpaces

/-- The statement is its front, the argument and what closes it. -/
theorem text_eq (p : KeyPragma) (argument : Text) :
    p.text argument =
      (p.head ++ p.form.opening :: p.after) ++ (argument ++ (p.form.closing ++ p.tail)) := by
  unfold text
  simp only [List.append_assoc]

end KeyPragma

end Sqlite3

/-- A key pragma is logged alike for all keys exactly when its spelling is redacted. -/
theorem Sqlite3.KeyPragma.loggedAlike_iff (p : KeyPragma) (submission : Submission)
    (dbName : Text) :
    LoggedAlike submission dbName p.text ↔
      submission = .execute ∧ p.lead = [] ∧ p.form = .equals ∧
        (p.before = [0x20] ∨ p.tail.containsIgnoreCase keyEquals = true) := by
  have htext : p.text = fun argument =>
      (p.head ++ p.form.opening :: p.after) ++ (argument ++ (p.form.closing ++ p.tail)) :=
    funext p.text_eq
  rw [htext, logged_eq_iff, p.startsWith_front_iff, p.mem_front_iff]
  refine and_congr_right' (and_congr_right' (and_congr_right fun hform => ?_))
  have hclosing : p.form.closing = [] := by
    rw [hform]
    rfl
  rw [p.contains_front_iff hform, hclosing, List.nil_append]

/--
**Redaction.** What is logged of a statement that sets the key is the same for all keys if
and only if the statement is submitted through `execute`, nothing stands in front of its
keyword, it has an equals sign, and exactly one space stands between the name and the equals
sign, or else the statements behind it have `key =` in them. Whatever is written around the
argument, quoted names and comments included: it takes `PRAGMA` at the start, an equals sign
in front of the argument and `key =` on one side of it.
-/
theorem redaction_iff (submission : Submission) (dbName : Text) :
    (∀ p : Sqlite3.KeyPragma, LoggedAlike submission dbName p.text ↔
      submission = .execute ∧ p.lead = [] ∧ p.form = .equals ∧
        (p.before = [0x20] ∨ p.tail.containsIgnoreCase keyEquals = true)) ∧
    ∀ front tail : Text, LoggedAlike submission dbName (fun argument => front ++ (argument ++ tail)) ↔
      submission = .execute ∧ front.startsWithIgnoreCase (Text.lit "PRAGMA") = true ∧
        0x3D ∈ front ∧
        (front.containsIgnoreCase keyEquals = true ∨ tail.containsIgnoreCase keyEquals = true) :=
  ⟨fun p => p.loggedAlike_iff submission dbName, logged_eq_iff submission dbName⟩

/-- `PRAGMA key=`, without spaces. -/
def Sqlite3.KeyPragma.unspaced : KeyPragma where
  lead := []
  keyword := Text.lit "PRAGMA"
  gap := [0x20]
  schema := none
  name := Text.lit "key"
  before := []
  form := .equals
  after := []
  tail := []
  lead_isSpaces := isSpaces_nil
  keyword_eq := by decide
  gap_isSpaces := isSpaces_singleton (by decide) (by decide)
  gap_ne_nil := by decide
  name_eq := Or.inl (by decide)
  before_isSpaces := isSpaces_nil
  after_isSpaces := isSpaces_nil
  tail_ends := ⟨[], [], rfl, isSpaces_nil, Or.inl rfl⟩

/-- Two keys that are set in this way are logged as they are. -/
theorem redaction_fails_unspaced :
    Sqlite3.KeyPragma.unspaced.text (Text.lit "'a'") = Text.lit "PRAGMA key='a'" ∧
      logged true (Text.lit "db")
          (LogSqliteDriver.log .execute (Sqlite3.KeyPragma.unspaced.text (Text.lit "'a'"))) =
        Text.lit "db: EXECUTE\n PRAGMA key='a'" ∧
      ¬ LoggedAlike .execute (Text.lit "db") Sqlite3.KeyPragma.unspaced.text := by
  refine ⟨by decide, by decide +kernel, fun h => ?_⟩
  have heq := h (Text.lit "'a'") (Text.lit "'b'") (Text.lit "a") (Text.lit "b") rfl rfl
  exact absurd heq (by decide +kernel)

end SqliteMc

import SqliteMc.Model.Pragma

/-!
# The password transport

On the JVM the statements of a connection travel in its "password" property. They are base
64 encoded, each closed by a dot, behind an identifier of 64 characters; lines are broken
after 64 characters. The JDBC driver executes the property as `pragma key = '…'`, and
`JDBCMC4Statement.execute` catches that text and decodes the statements.

On the way in a character is cut to its low byte, on the way out a byte is sign-extended:
`carried` is what that makes of a text.

* `execute_passwordPragma` — what is executed are the carried texts, in order.
* `carriedChar_eq_iff` — the characters that come through unchanged.
-/

namespace SqliteMc

/-- `c.code.toByte()`. -/
def toByte (c : Char16) : Octet := c.setWidth 8

/-- `b.toInt().toChar()`. -/
def toChar (b : Octet) : Char16 := b.signExtend 16

/-- What arrives of a text. -/
def carried (t : Text) : Text := t.map fun c => toChar (toByte c)

/-- `KEY_IDENTIFIER`: 32 random bytes in base 16. -/
structure KeyIdentifier where
  bytes : List Octet
  length_bytes : bytes.length = 32

def KeyIdentifier.text (keyIdentifier : KeyIdentifier) : Text := Base16.encode keyIdentifier.bytes

def dot : Char16 := 0x2E

/-- The text that `packMCSqlStatements` puts under "password". -/
def packedPassword (B : Base64) (keyIdentifier : KeyIdentifier) (statements : List Text) : Text :=
  Text.breakLines 64 0
    (keyIdentifier.text ++ Text.terminated dot (statements.map fun st => B.encode (st.map toByte)))

/-- The statement that the JDBC driver executes for a password: `pragma key = '%s'`, the
quotes in the password doubled. -/
def passwordPragma (password : Text) : Text :=
  Text.lit "pragma key = '" ++ SqlLiteral.escape password ++ Text.lit "'"

namespace JDBCMC4Statement

/-- One step of `mapNotNull`: what is blank before or after decoding is dropped. -/
def decodeStatement (B : Base64) (encodedStatement : Text) : Except Throwable (Option Text) :=
  if encodedStatement.isBlank then .ok none
  else
    match B.decode encodedStatement with
    | none =>
      .error (.sql (Text.lit "Failed to apply cipher parameters")
        (some (.other (Text.lit "EncodingException"))))
    | some bytes =>
      let statement : Text := bytes.map toChar
      .ok (if statement.isBlank then none else some statement)

/-- The texts that `execute` passes on to `super.execute`, in order. Whatever is not the
password pragma of this connection class is passed on as it is. -/
def execute (B : Base64) (keyIdentifier : KeyIdentifier) (sql : Option Text) :
    Except Throwable (List (Option Text)) :=
  match sql with
  | none => .ok [sql]
  | some text =>
    if !text.startsWithIgnoreCase (Text.lit "pragma " ++ MCPragma.key.name ++ Text.lit " =") then
      .ok [sql]
    else
      let value := text.substringAfter SqlLiteral.quote
      if !keyIdentifier.text.isPrefixOf value then .ok [sql]
      else do
        -- what is between the identifier of the class and the closing quote
        let rest : Text := value.drop keyIdentifier.text.length
        let encoded := (rest.substringBeforeLast SqlLiteral.quote).splitOn dot
        let statements ← encoded.mapM (decodeStatement B)
        return (statements.filterMap id).map some

end JDBCMC4Statement

-- ---------------------------------------------------------------------------
-- Characters
-- ---------------------------------------------------------------------------

/-- A character comes through when its high byte is the sign of its low byte. -/
theorem carriedChar_eq_iff (c : Char16) :
    toChar (toByte c) = c ↔ c.toNat < 0x80 ∨ 0xFF80 ≤ c.toNat := by
  have hlt := c.isLt
  unfold toChar toByte
  rw [← BitVec.toNat_inj, BitVec.toNat_signExtend]
  simp only [BitVec.msb_eq_decide, BitVec.toNat_setWidth]
  simp only [decide_eq_true_eq]
  norm_num
  split <;> omega

/-- A text arrives as it is when each character keeps its value as a sign-extended byte. -/
theorem carried_eq_self_iff (t : Text) :
    carried t = t ↔ ∀ c ∈ t, c.toNat < 0x80 ∨ 0xFF80 ≤ c.toNat := by
  have hmap : carried t = t ↔ ∀ c ∈ t, toChar (toByte c) = c := by
    unfold carried
    induction t with
    | nil => simp
    | cons c rest ih => simp [ih]
  rw [hmap]
  exact forall_congr' fun c => forall_congr' fun _ => carriedChar_eq_iff c

/-- ASCII arrives as it is. -/
theorem carried_of_isAscii {t : Text} (h : t.IsAscii) : carried t = t :=
  (carried_eq_self_iff t).mpr fun c hc => Or.inl (h c hc)

-- ---------------------------------------------------------------------------
-- Packing
-- ---------------------------------------------------------------------------

theorem KeyIdentifier.length_text (keyIdentifier : KeyIdentifier) : keyIdentifier.text.length = 64 := by
  rw [text, Base16.length_encode, keyIdentifier.length_bytes]

/-- The identifier fills the first line. -/
theorem packedPassword_eq (B : Base64) (keyIdentifier : KeyIdentifier) (statements : List Text) :
    packedPassword B keyIdentifier statements = keyIdentifier.text ++ Text.breakLines 64 64
      (Text.terminated dot (statements.map fun st => B.encode (st.map toByte))) := by
  rw [packedPassword, Text.breakLines_append (by rw [keyIdentifier.length_text]), keyIdentifier.length_text]

/-- What is neither a symbol nor the dot does not occur in the encoded statements. -/
private theorem not_mem_terminated (B : Base64) {c : Char16} (hsymbol : ¬ IsBase64Symbol c)
    (hdot : c ≠ dot) (statements : List Text) :
    c ∉ Text.terminated dot (statements.map fun st => B.encode (st.map toByte)) := by
  intro h
  rcases Text.mem_terminated h with h | ⟨s, hs, hc⟩
  · exact hdot h
  · obtain ⟨st, -, rfl⟩ := List.mem_map.mp hs
    exact B.ne_of_mem_encode hc hsymbol rfl

/-- There is no quote in a packed password. -/
theorem quote_not_mem_packedPassword (B : Base64) (keyIdentifier : KeyIdentifier) (statements : List Text) :
    SqlLiteral.quote ∉ packedPassword B keyIdentifier statements := by
  intro h
  -- the breaks are newlines, the identifier is hexadecimal, and the rest is symbols and dots
  rcases Text.mem_breakLines h with h | h
  · exact absurd h (by decide)
  · rcases List.mem_append.mp h with h | h
    · have hdigit := Base16.isDigit_of_mem_encode h
      revert hdigit
      unfold Base16.IsDigit
      decide
    · refine not_mem_terminated B ?_ (by decide) statements h
      unfold IsBase64Symbol
      decide

-- ---------------------------------------------------------------------------
-- Decoding
-- ---------------------------------------------------------------------------

namespace JDBCMC4Statement

/-- Taking out the line breaks takes no character that is not white space. -/
private theorem isBlank_withoutBreaks (t : Text) : t.withoutBreaks.isBlank = t.isBlank := by
  induction t with
  | nil => rfl
  | cons c rest ih =>
    by_cases hc : c = Text.newline
    · rw [hc, Text.withoutBreaks_cons_newline, ih]
      rfl
    · rw [Text.withoutBreaks_cons hc]
      show (_ && Text.isBlank _) = (_ && Text.isBlank _)
      rw [ih]

/-- The symbols of the alphabet are no white space. -/
private theorem not_whitespace_of_symbol {c : Char16} (h : IsBase64Symbol c) :
    Text.isWhitespace c = false := by
  unfold IsBase64Symbol at h
  unfold Text.isWhitespace
  simp only [Bool.or_eq_false_iff, Bool.and_eq_false_iff, decide_eq_false_iff_not, beq_eq_false_iff_ne]
  omega

/-- Decoding an encoded statement that may have been broken into lines. -/
theorem decodeStatement_eq (B : Base64) {encodedStatement : Text} {bytes : List Octet}
    (h : encodedStatement.withoutBreaks = B.encode bytes) :
    decodeStatement B encodedStatement =
      .ok (if Text.isBlank (bytes.map toChar) then none else some (bytes.map toChar)) := by
  unfold decodeStatement
  rw [← isBlank_withoutBreaks, h]
  cases bytes with
  | nil => rw [B.encode_nil]; rfl
  | cons b rest =>
    obtain ⟨c, t, hct⟩ := List.exists_cons_of_ne_nil (B.encode_ne_nil (List.cons_ne_nil b rest))
    -- the encoding of some bytes starts with a symbol, which is not blank
    have hsymbol : IsBase64Symbol c :=
      B.isSymbol_of_mem (b :: rest) c (by rw [hct]; exact List.mem_cons_self)
    have hblank : (B.encode (b :: rest)).isBlank = false := by
      rw [hct]
      exact Text.isBlank_cons_of_not_whitespace (not_whitespace_of_symbol hsymbol) t
    rw [hblank, if_neg Bool.false_ne_true, B.decode_of_withoutBreaks _ _ h]

/-- Statements that were encoded are decoded one by one, but for the blank ones. -/
theorem mapM_decodeStatement (B : Base64) {encoded : List Text} {statements : List (List Octet)}
    (h : encoded.map Text.withoutBreaks = statements.map B.encode) :
    encoded.mapM (decodeStatement B) = .ok (statements.map fun bytes =>
      if Text.isBlank (bytes.map toChar) then none else some (bytes.map toChar)) := by
  induction statements generalizing encoded with
  | nil =>
    rw [List.map_nil, List.map_eq_nil_iff] at h
    rw [h]
    rfl
  | cons bytes rest ih =>
    obtain ⟨first, others, rfl, hfirst, hothers⟩ := List.map_eq_cons_iff.mp h
    rw [List.mapM_cons, decodeStatement_eq B hfirst, ih hothers]
    rfl

/-- Dropping what is blank after decoding. -/
private theorem filterMap_notBlank (statements : List Text) :
    (statements.map ((fun bytes : List Octet =>
      if Text.isBlank (bytes.map toChar) then none else some (bytes.map toChar)) ∘
        fun st : Text => st.map toByte)).filterMap id =
      (statements.map carried).filter fun t => !t.isBlank := by
  induction statements with
  | nil => rfl
  | cons st rest ih =>
    have hst : (st.map toByte).map toChar = carried st := List.map_map
    rw [List.map_cons, List.map_cons, List.filter_cons, ← ih, Function.comp_apply, hst]
    cases hblank : (carried st).isBlank <;> rfl

/-- The password pragma of packed statements executes what was carried of each of them, in
order; blank texts are dropped. -/
theorem execute_passwordPragma (B : Base64) (keyIdentifier : KeyIdentifier) (statements : List Text) :
    execute B keyIdentifier (some (passwordPragma (packedPassword B keyIdentifier statements))) =
      .ok (((statements.map carried).filter fun t => !t.isBlank).map some) := by
  have hquote := quote_not_mem_packedPassword B keyIdentifier statements
  have htext : passwordPragma (packedPassword B keyIdentifier statements) =
      Text.lit "pragma key = " ++ SqlLiteral.quote ::
        (packedPassword B keyIdentifier statements ++ [SqlLiteral.quote]) := by
    rw [passwordPragma, SqlLiteral.escape_eq_self hquote]
    rfl
  have hstarts : (passwordPragma (packedPassword B keyIdentifier statements)).startsWithIgnoreCase
      (Text.lit "pragma " ++ MCPragma.key.name ++ Text.lit " =") = true :=
    Text.startsWithIgnoreCase_append _ _
  have hvalue :
      (passwordPragma (packedPassword B keyIdentifier statements)).substringAfter SqlLiteral.quote =
        packedPassword B keyIdentifier statements ++ [SqlLiteral.quote] := by
    rw [htext, Text.substringAfter_append (by decide)]
  have hprefix : keyIdentifier.text.isPrefixOf
      (packedPassword B keyIdentifier statements ++ [SqlLiteral.quote]) = true := by
    rw [packedPassword_eq, List.append_assoc, List.isPrefixOf_iff_prefix]
    exact List.prefix_append _ _
  -- what stands behind the identifier, without its line breaks
  have hdrop : Text.substringBeforeLast SqlLiteral.quote
      ((packedPassword B keyIdentifier statements ++ [SqlLiteral.quote]).drop
        keyIdentifier.text.length) =
      Text.breakLines 64 64
        (Text.terminated dot (statements.map fun st => B.encode (st.map toByte))) := by
    rw [packedPassword_eq, List.append_assoc, List.drop_left]
    exact Text.substringBeforeLast_append _ (by simp)
  have hnewline : Text.newline ∉
      Text.terminated dot (statements.map fun st => B.encode (st.map toByte)) := by
    refine not_mem_terminated B ?_ (by decide) statements
    unfold IsBase64Symbol
    decide
  have hdot : ∀ s ∈ statements.map (fun st => B.encode (st.map toByte)), dot ∉ s := by
    intro s hs hmem
    obtain ⟨st, -, rfl⟩ := List.mem_map.mp hs
    refine B.ne_of_mem_encode hmem ?_ rfl
    unfold IsBase64Symbol
    decide
  have hsplit : ((Text.breakLines 64 64 (Text.terminated dot
      (statements.map fun st => B.encode (st.map toByte)))).splitOn dot).map Text.withoutBreaks =
        (statements.map (fun st : Text => st.map toByte) ++ [[]]).map B.encode := by
    rw [Text.map_withoutBreaks_splitOn (by decide), Text.withoutBreaks_breakLines hnewline,
      Text.splitOn_terminated hdot, List.map_append, List.map_map, List.map_cons, B.encode_nil]
    rfl
  unfold execute
  simp only [hstarts, hvalue, hprefix, hdrop, Bool.not_true, if_neg Bool.false_ne_true]
  refine bind_eq_ok.mpr ⟨_, mapM_decodeStatement B hsplit, ?_⟩
  show Except.ok _ = Except.ok _
  congr 2
  rw [List.map_append, List.filterMap_append, List.map_map]
  have hlast : (List.map (fun bytes : List Octet => if Text.isBlank (bytes.map toChar) then none
      else some (bytes.map toChar)) [[]]).filterMap id = [] := rfl
  rw [hlast, List.append_nil]
  exact filterMap_notBlank statements

/-- No statement is blank when it arrives, so each is executed. -/
theorem execute_statements (B : Base64) (keyIdentifier : KeyIdentifier)
    (statements : List Statement) :
    execute B keyIdentifier
        (some (passwordPragma (packedPassword B keyIdentifier (statements.map Statement.text)))) =
      .ok ((statements.map fun st => carried st.text).map some) := by
  rw [execute_passwordPragma, List.map_map, List.filter_eq_self.mpr]
  · rfl
  · intro t ht
    obtain ⟨st, -, rfl⟩ := List.mem_map.mp ht
    -- the first letter of each of the statements is carried over
    have hfirst : ∃ c rest, st.text = c :: rest ∧ Text.isWhitespace (toChar (toByte c)) = false := by
      cases st <;> exact ⟨_, _, rfl, by decide⟩
    obtain ⟨c, rest, hst, hc⟩ := hfirst
    have hblank : (carried st.text).isBlank = false := by
      rw [hst]
      exact Text.isBlank_cons_of_not_whitespace hc (carried rest)
    show (!(carried st.text).isBlank) = true
    rw [hblank]
    rfl

end JDBCMC4Statement

end SqliteMc

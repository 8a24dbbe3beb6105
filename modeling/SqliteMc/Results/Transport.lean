import SqliteMc.Model.Transport
import SqliteMc.Results.Faithful

/-!
# What survives the password transport

* `survivesTransport_iff` — the statements of a key and an optional rekey arrive as they were
  made, and SQLite reads the passphrases out of them, if and only if each passphrase has no
  NUL and only characters that are below `0x80` or from `0xFF80` on. Raw keys always survive.
* `password_framing` — whatever the statements are, their frames survive: they arrive one by
  one and in order, each as it was carried. Only what arrives blank is dropped.

Besides the passphrases the statements are ASCII (`isAscii_of_plain`), so everything depends
on the characters of the passphrases (`carriedChar_eq_iff`) and on the string literal that
is read back from the formatted key (`SqlLiteral.value?_append_literal`).
-/

namespace SqliteMc

/-- The statements of the two maps of an opening, before they are packed: those of the key
map and those of the rekey map. -/
def openingStatements (c : EncryptionConfig) (key : Key)
    (rekey : Option (EncryptionConfig × Key)) :
    Except Throwable (List Statement × List Statement) := do
  let keyPragma ← c.pragmas false key false
  let keyStatements ← keyPragma.toMCSQLStatements
  match rekey with
  | none => return (keyStatements, [])
  | some r => do
    let rekeyPragma ← r.1.pragmas false r.2 true
    let rekeyStatements ← rekeyPragma.toMCSQLStatements
    return (keyStatements, rekeyStatements)

/-- SQLite reads the passphrase out of each executed key and rekey statement. -/
def ReadsPassphrase (statements : List Statement) (executed : List Text) (key : Key) : Prop :=
  key.isRaw = false → ∀ (i : Nat) (st : Statement), statements[i]? = some st →
    (st.isKey = true ∨ st.isRekey = true) → (executed[i]?).bind SqlLiteral.value? = some key.value

/-- What is executed on the other side of the transport is, character for character and in
order, what was packed, and the passphrases are read out of it. -/
def SurvivesTransport (B : Base64) (keyIdentifier : KeyIdentifier) (c : EncryptionConfig)
    (key : Key) (rekey : Option (EncryptionConfig × Key)) : Prop :=
  ∃ sts executed, openingStatements c key rekey = .ok sts ∧
    JDBCMC4Statement.execute B keyIdentifier (some (passwordPragma
      (packedPassword B keyIdentifier ((sts.1 ++ sts.2).map Statement.text)))) =
        .ok (executed.map some) ∧
    executed = (sts.1 ++ sts.2).map Statement.text ∧
    ReadsPassphrase sts.1 (executed.take sts.1.length) key ∧
    ∀ r ∈ rekey, ReadsPassphrase sts.2 (executed.drop sts.1.length) r.2

/-- The passphrase has no NUL and only characters that come through. -/
def Key.Transportable (key : Key) : Prop :=
  key.isRaw = false → ∀ c ∈ key.value, c ≠ 0 ∧ (c.toNat < 0x80 ∨ 0xFF80 ≤ c.toNat)

/-- An ASCII passphrase without NUL. -/
theorem Key.transportable_passphrase {value : Text} (hascii : value.IsAscii) (hzero : 0 ∉ value) :
    (Key.passphrase value).Transportable := by
  intro _ c hc
  refine ⟨?_, Or.inl (hascii c hc)⟩
  rintro rfl
  exact hzero hc

/-! ## The statements of a key -/

/-- A statement that holds no key. -/
def Statement.Plain (st : Statement) : Prop :=
  st.isKey = false ∧ st.isRekey = false ∧ st.text.IsAscii

theorem MCPragma.isAscii_name (p : MCPragma) : p.name.IsAscii := by
  cases p <;> exact Text.isAscii_of_all rfl

/-- Each setting is written with ASCII only. -/
theorem EncryptionConfig.plain_configStatements (c : EncryptionConfig) (addAll : Bool)
    (schema : Schema) : ∀ st ∈ c.configStatements addAll schema, st.Plain := by
  have hschema : ∀ s : Schema, s.name.IsAscii := by
    intro s
    cases s <;> exact Text.isAscii_of_all rfl
  have hpragma : (Text.lit "PRAGMA ").IsAscii := Text.isAscii_of_all rfl
  have hdot : (Text.lit ".").IsAscii := Text.isAscii_of_all rfl
  have heq : (Text.lit " = ").IsAscii := Text.isAscii_of_all rfl
  intro st hst
  -- the statement for the cipher, then those for its parameters
  rcases List.mem_cons.mp hst with rfl | hst
  · refine ⟨rfl, rfl, ?_⟩
    simp only [Statement.text, Text.isAscii_append]
    exact ⟨⟨⟨⟨⟨hpragma, hschema schema⟩, hdot⟩, MCPragma.cipher.isAscii_name⟩, heq⟩,
      c.cipherConfig.cipher.isAscii_name⟩
  · obtain ⟨s, -, rfl⟩ := List.mem_map.mp hst
    refine ⟨rfl, rfl, ?_⟩
    simp only [Statement.text, Text.isAscii_append]
    exact ⟨⟨⟨⟨⟨hpragma, hschema schema⟩, hdot⟩, s.1.isAscii_name⟩, heq⟩, Text.isAscii_ofInt32 s.2⟩

/-- The statements of a key: each is plain or holds the formatted key, and one is the key
statement. -/
structure KeyedBy (statements : List Statement) (value : Text) : Prop where
  kinds : ∀ st ∈ statements, st.Plain ∨ st = .key value ∨ st = .rekey value
  mem : .key value ∈ statements

/-- The statements for a key are plain but for the key itself. -/
theorem EncryptionConfig.keyedBy_keyStatements (c : EncryptionConfig) (addAll : Bool)
    (value : Text) : KeyedBy (c.keyStatements addAll value) value where
  kinds := by
    intro st hst
    rcases List.mem_append.mp hst with hst | hst
    · exact Or.inl (c.plain_configStatements addAll .main st hst)
    · exact Or.inr (Or.inl (List.mem_singleton.mp hst))
  mem := List.mem_append.mpr (Or.inr List.mem_cons_self)

/-- The statements for a rekey are plain but for the two that carry the key. -/
theorem EncryptionConfig.keyedBy_rekeyStatements (c : EncryptionConfig) (addAll : Bool)
    (value : Text) : KeyedBy (c.rekeyStatements addAll value) value where
  kinds := by
    intro st hst
    rcases List.mem_append.mp hst with hst | hst
    -- the two statements in front, the settings for `temp`, and the rekey
    · rcases List.mem_append.mp hst with hst | hst
      · left
        rcases List.mem_cons.mp hst with rfl | hst
        · exact ⟨rfl, rfl, Text.isAscii_of_all rfl⟩
        · rw [List.mem_singleton.mp hst]
          exact ⟨rfl, rfl, Text.isAscii_of_all rfl⟩
      · rcases List.mem_append.mp hst with hst | hst
        · exact Or.inl (c.plain_configStatements addAll .temp st hst)
        · exact Or.inr (Or.inr (List.mem_singleton.mp hst))
    · exact (c.keyedBy_keyStatements addAll value).kinds st hst
  mem := List.mem_append.mpr (Or.inr (c.keyedBy_keyStatements addAll value).mem)

/-! ## When they survive -/

/-- The literal in the statement of a formatted passphrase. -/
theorem value?_formatted {cipher : Cipher} {key : Key} {value pre : Text}
    (hraw : key.isRaw = false) (hvalue : key.retrieveFormatted cipher = .ok value)
    (hpre : SqlLiteral.quote ∉ pre) :
    SqlLiteral.value? (pre ++ value) = if 0 ∈ key.value then none else some key.value := by
  rw [Key.retrieveFormatted_of_not_raw hraw] at hvalue
  cases hvalue
  exact SqlLiteral.value?_append_literal hpre key.value

/-- The formatted key comes through just when its passphrase does. -/
theorem carried_formatted_iff {cipher : Cipher} {key : Key} {value : Text}
    (hvalue : key.retrieveFormatted cipher = .ok value) :
    carried value = value ↔
      (key.isRaw = false → ∀ c ∈ key.value, c.toNat < 0x80 ∨ 0xFF80 ≤ c.toNat) := by
  rw [carried_eq_self_iff]
  cases hraw : key.isRaw with
  | true =>
    -- a raw key is written in base 16
    have hkey := Key.isAscii_of_isRaw hraw
    have hascii : value.IsAscii := by
      have h1 : (Text.lit "\"x'").IsAscii := Text.isAscii_of_all rfl
      have h2 : (Text.lit "'\"").IsAscii := Text.isAscii_of_all rfl
      have h3 : (Text.lit "'raw:").IsAscii := Text.isAscii_of_all rfl
      have h4 : (Text.lit "'").IsAscii := Text.isAscii_of_all rfl
      unfold Key.retrieveFormatted at hvalue
      rw [hraw] at hvalue
      cases cipher <;> cases hvalue
      · exact (Text.isAscii_append _ _).mpr ⟨(Text.isAscii_append _ _).mpr ⟨h3, hkey⟩, h4⟩
      · exact (Text.isAscii_append _ _).mpr ⟨(Text.isAscii_append _ _).mpr ⟨h1, hkey⟩, h2⟩
    exact ⟨fun _ h => (Bool.false_ne_true h.symm).elim, fun _ c hc => Or.inl (hascii c hc)⟩
  | false =>
    rw [Key.retrieveFormatted_of_not_raw hraw] at hvalue
    cases hvalue
    simp only [forall_const, List.mem_append, List.mem_cons, List.not_mem_nil, or_false,
      SqlLiteral.mem_escape]
    have hquote : SqlLiteral.quote.toNat < 0x80 := by decide
    constructor
    · exact fun h c hc => h c (Or.inl (Or.inr hc))
    · rintro h c ((rfl | hc) | rfl)
      · exact Or.inl hquote
      · exact h c hc
      · exact Or.inl hquote

/-- What is put in front of a carried text does not change whether it is carried. -/
private theorem carried_append_iff {pre : Text} (hpre : pre.IsAscii) (t : Text) :
    carried (pre ++ t) = pre ++ t ↔ carried t = t := by
  have happend : carried (pre ++ t) = pre ++ carried t := by
    show List.map _ (pre ++ t) = _
    rw [List.map_append]
    exact congrArg (· ++ carried t) (carried_of_isAscii hpre)
  rw [happend, List.append_cancel_left_eq]

private theorem isAscii_keyPre (p : MCPragma) :
    (Text.lit "PRAGMA " ++ p.name ++ Text.lit " = ").IsAscii := by
  simp only [Text.isAscii_append]
  exact ⟨⟨Text.isAscii_of_all rfl, p.isAscii_name⟩, Text.isAscii_of_all rfl⟩

/-- The statements come through just when the formatted key does. -/
theorem KeyedBy.carried_iff {statements : List Statement} {value : Text}
    (h : KeyedBy statements value) :
    (statements.map fun st => carried st.text) = statements.map Statement.text ↔
      carried value = value := by
  rw [List.map_inj_left]
  constructor
  · intro hall
    exact (carried_append_iff (isAscii_keyPre .key) value).mp (hall _ h.mem)
  · intro hvalue st hst
    rcases h.kinds st hst with ⟨-, -, hascii⟩ | rfl | rfl
    · exact carried_of_isAscii hascii
    · exact (carried_append_iff (isAscii_keyPre .key) value).mpr hvalue
    · exact (carried_append_iff (isAscii_keyPre .reKey) value).mpr hvalue

/-- The passphrase is read out of the statements just when it has no NUL. -/
theorem KeyedBy.readsPassphrase_iff {statements : List Statement} {value : Text}
    (h : KeyedBy statements value) {cipher : Cipher} {key : Key}
    (hvalue : key.retrieveFormatted cipher = .ok value) :
    ReadsPassphrase statements (statements.map Statement.text) key ↔
      (key.isRaw = false → 0 ∉ key.value) := by
  have hkey : key.isRaw = false → SqlLiteral.value? (Statement.key value).text =
      if 0 ∈ key.value then none else some key.value :=
    fun hraw => value?_formatted hraw hvalue (by decide)
  have hrekey : key.isRaw = false → SqlLiteral.value? (Statement.rekey value).text =
      if 0 ∈ key.value then none else some key.value :=
    fun hraw => value?_formatted hraw hvalue (by decide)
  unfold ReadsPassphrase
  refine forall_congr' fun hraw => ?_
  constructor
  -- a NUL: the statement with the key is one that is not read
  · intro hall hzero
    obtain ⟨i, hi⟩ := List.mem_iff_getElem?.mp h.mem
    have hread := hall i _ hi (Or.inl rfl)
    rw [List.getElem?_map, hi, Option.map_some, Option.bind_some, hkey hraw, if_pos hzero] at hread
    cases hread
  · intro hzero i st hi hkind
    rw [List.getElem?_map, hi, Option.map_some, Option.bind_some]
    rcases h.kinds st (List.mem_iff_getElem?.mpr ⟨i, hi⟩) with ⟨hnokey, hnorekey, -⟩ | rfl | rfl
    · rw [hnokey, hnorekey] at hkind
      exact absurd hkind (by decide)
    · rw [hkey hraw, if_neg hzero]
    · rw [hrekey hraw, if_neg hzero]

/-- The statements of one key survive just when it is transportable. -/
theorem KeyedBy.survives_iff {statements : List Statement} {value : Text}
    (h : KeyedBy statements value) {cipher : Cipher} {key : Key}
    (hvalue : key.retrieveFormatted cipher = .ok value) :
    ((statements.map fun st => carried st.text) = statements.map Statement.text ∧
        ReadsPassphrase statements (statements.map Statement.text) key) ↔ key.Transportable := by
  rw [h.carried_iff, h.readsPassphrase_iff hvalue, carried_formatted_iff hvalue]
  unfold Key.Transportable
  -- a key is transportable character by character
  constructor
  · rintro ⟨hchars, hzero⟩ hraw c hc
    refine ⟨?_, hchars hraw c hc⟩
    rintro rfl
    exact hzero hraw hc
  · intro hall
    exact ⟨fun hraw c hc => (hall hraw c hc).2, fun hraw hzero => (hall hraw 0 hzero).1 rfl⟩

/-! ## What survives -/

/-- Statements that follow each other are taken apart where they were put together. -/
private theorem take_append_text (a b : List Statement) :
    ((a ++ b).map Statement.text).take a.length = a.map Statement.text ∧
      ((a ++ b).map Statement.text).drop a.length = b.map Statement.text := by
  have hlen : (a.map Statement.text).length = a.length := List.length_map _
  rw [List.map_append, ← hlen]
  exact ⟨List.take_left, List.drop_left⟩

/-- Survival in terms of the two lists of statements. -/
theorem survivesTransport_iff_of_statements {B : Base64} {keyIdentifier : KeyIdentifier}
    {c : EncryptionConfig} {key : Key} {rekey : Option (EncryptionConfig × Key)}
    {sts : List Statement × List Statement} (hsts : openingStatements c key rekey = .ok sts) :
    SurvivesTransport B keyIdentifier c key rekey ↔
      ((sts.1.map fun st => carried st.text) = sts.1.map Statement.text ∧
        ReadsPassphrase sts.1 (sts.1.map Statement.text) key) ∧
      (sts.2.map fun st => carried st.text) = sts.2.map Statement.text ∧
        ∀ r ∈ rekey, ReadsPassphrase sts.2 (sts.2.map Statement.text) r.2 := by
  have hexecute := JDBCMC4Statement.execute_statements B keyIdentifier (sts.1 ++ sts.2)
  obtain ⟨htake, hdrop⟩ := take_append_text sts.1 sts.2
  have hinj : ∀ {a b : List Text}, a.map some = b.map some → a = b := fun h =>
    List.map_injective_iff.mpr (Option.some_injective _) h
  -- both lists are packed as one, and told apart by the length of the first
  have hlists : ((sts.1 ++ sts.2).map fun st => carried st.text) =
      (sts.1 ++ sts.2).map Statement.text ↔
        (sts.1.map fun st => carried st.text) = sts.1.map Statement.text ∧
          (sts.2.map fun st => carried st.text) = sts.2.map Statement.text := by
    rw [List.map_append, List.map_append]
    constructor
    · exact fun h => List.append_inj h (by rw [List.length_map, List.length_map])
    · rintro ⟨h1, h2⟩
      rw [h1, h2]
  constructor
  · rintro ⟨sts', executed, hsts', hexec, rfl, hread, hrereadd⟩
    rw [hsts] at hsts'
    cases hsts'
    rw [hexecute, Except.ok.injEq] at hexec
    obtain ⟨h1, h2⟩ := hlists.mp (hinj hexec)
    rw [htake] at hread
    rw [hdrop] at hrereadd
    exact ⟨⟨h1, hread⟩, h2, hrereadd⟩
  · rintro ⟨⟨h1, hread⟩, h2, hreread⟩
    refine ⟨sts, _, hsts, ?_, rfl, ?_, ?_⟩
    · rw [hexecute, hlists.mpr ⟨h1, h2⟩]
    · rw [htake]
      exact hread
    · rw [hdrop]
      exact hreread

/--
**Which keys survive the password transport.** For every key configuration and accepted key,
with or without a rekey configuration and an accepted rekey key: the packed statements are
executed as they were made, and the passphrases are read out of them, if and only if each
passphrase has no NUL and only characters below `0x80` or from `0xFF80` on.
-/
theorem survivesTransport_iff (B : Base64) (keyIdentifier : KeyIdentifier)
    (c : BuiltEncryptionConfig) (key : Key) (rekey : Option (BuiltEncryptionConfig × Key))
    (hkey : c.1.cipherConfig.cipher.accepts key = true)
    (hrekey : ∀ r ∈ rekey, r.1.1.cipherConfig.cipher.accepts r.2 = true) :
    SurvivesTransport B keyIdentifier c.1 key (rekey.map fun r => (r.1.1, r.2)) ↔
      key.Transportable ∧ ∀ r ∈ rekey, r.2.Transportable := by
  obtain ⟨m, hm⟩ := EncryptionConfig.pragmas_of_accepts hkey false false
  obtain ⟨value, hvalue, hholds⟩ := EncryptionConfig.pragmas_eq_ok hm
  have hstatements : m.toMCSQLStatements = .ok (c.1.keyStatements false value) :=
    MCPragmas.toMCSQLStatements_of_holds hholds
  have hkeyed := (c.1.keyedBy_keyStatements false value).survives_iff hvalue
  -- both keys are taken, so both maps give statements
  cases rekey with
  | none =>
    have hsts : openingStatements c.1 key none = .ok (c.1.keyStatements false value, []) :=
      bind_eq_ok.mpr ⟨m, hm, bind_eq_ok.mpr ⟨_, hstatements, rfl⟩⟩
    rw [Option.map_none, survivesTransport_iff_of_statements hsts, hkeyed]
    simp
  | some r =>
    obtain ⟨m', hm'⟩ := EncryptionConfig.pragmas_of_accepts (hrekey r rfl) false true
    obtain ⟨revalue, hrevalue, hholds'⟩ := EncryptionConfig.pragmas_eq_ok hm'
    have hstatements' : m'.toMCSQLStatements = .ok (r.1.1.rekeyStatements false revalue) :=
      MCPragmas.toMCSQLStatements_of_holds hholds'
    have hrekeyed := (r.1.1.keyedBy_rekeyStatements false revalue).survives_iff hrevalue
    have hsts : openingStatements c.1 key (some (r.1.1, r.2)) =
        .ok (c.1.keyStatements false value, r.1.1.rekeyStatements false revalue) :=
      bind_eq_ok.mpr ⟨m, hm, bind_eq_ok.mpr ⟨_, hstatements,
        bind_eq_ok.mpr ⟨m', hm', bind_eq_ok.mpr ⟨_, hstatements', rfl⟩⟩⟩⟩
    rw [Option.map_some, survivesTransport_iff_of_statements hsts, hkeyed]
    simp only [Option.mem_some_iff, forall_eq']
    rw [hrekeyed]

/-- The identifier of 32 zero bytes. -/
def zeroIdentifier : KeyIdentifier := ⟨List.replicate 32 0, rfl⟩

/-- The default configuration, rekeyed to the passphrase `a'b`, whose quote is escaped. -/
def quotedRekey : BuiltEncryptionConfig × Key :=
  (⟨EncryptionConfig.Default, EncryptionConfig.built_Default⟩, Key.passphrase (Text.lit "a'b"))

/-- A passphrase and a raw key, both of them ASCII, survive the transport. -/
theorem survivesTransport_abcd :
    SurvivesTransport Base64.rfc4648 zeroIdentifier EncryptionConfig.Default
      (Key.passphrase (Text.lit "abcd")) ((some quotedRekey).map fun r => (r.1.1, r.2)) := by
  have habcd : (Key.passphrase (Text.lit "abcd")).Transportable :=
    Key.transportable_passphrase (Text.isAscii_of_all rfl) (by decide)
  have hquoted : quotedRekey.2.Transportable :=
    Key.transportable_passphrase (Text.isAscii_of_all rfl) (by decide)
  have haccepts : ∀ r ∈ some quotedRekey, r.1.1.cipherConfig.cipher.accepts r.2 = true := by
    rintro r ⟨⟩
    rfl
  exact (survivesTransport_iff Base64.rfc4648 zeroIdentifier
    ⟨EncryptionConfig.Default, EncryptionConfig.built_Default⟩ (Key.passphrase (Text.lit "abcd"))
    (some quotedRekey) rfl haccepts).mpr ⟨habcd, by rintro r ⟨⟩; exact hquoted⟩

/-- The passphrase `é` arrives as another one. -/
theorem survivesTransport_fails_eacute :
    ¬ SurvivesTransport Base64.rfc4648 zeroIdentifier EncryptionConfig.Default
      (Key.passphrase [0xE9]) none := by
  have hsts : openingStatements EncryptionConfig.Default (Key.passphrase [0xE9]) none =
      .ok (EncryptionConfig.Default.keyStatements false [0x27, 0xE9, 0x27], []) := by
    rfl
  rw [survivesTransport_iff_of_statements hsts]
  rintro ⟨⟨hcarried, -⟩, -⟩
  exact absurd hcarried (by decide)

/-! ## Framing -/

/--
Whatever the lengths of the statements, the frames between them are found again: the
statements of a key and an optional rekey arrive one by one and in order, each as it was
carried, if nothing that was carried of a statement is blank.
-/
theorem password_framing (B : Base64) (keyIdentifier : KeyIdentifier)
    (keyStatements : List Text) (rekeyStatements : Option (List Text))
    (hblank : ∀ st ∈ keyStatements ++ rekeyStatements.getD [], (carried st).isBlank = false) :
    JDBCMC4Statement.execute B keyIdentifier (some (passwordPragma
        (packedPassword B keyIdentifier (keyStatements ++ rekeyStatements.getD [])))) =
      .ok (((keyStatements ++ rekeyStatements.getD []).map carried).map some) := by
  -- what arrives are the carried texts that are not blank: all of them
  rw [JDBCMC4Statement.execute_passwordPragma, List.filter_eq_self.mpr]
  intro t ht
  obtain ⟨st, hst, rfl⟩ := List.mem_map.mp ht
  rw [hblank st hst]
  rfl

/-- One statement of a length that is no multiple of three, and a shorter one for the rekey. -/
theorem password_framing_twoStatements :
    JDBCMC4Statement.execute Base64.rfc4648 zeroIdentifier (some (passwordPragma
        (packedPassword Base64.rfc4648 zeroIdentifier
          ([Text.lit "PRAGMA key = 'ab'"] ++ [Text.lit "x"])))) =
      .ok [some (Text.lit "PRAGMA key = 'ab'"), some (Text.lit "x")] :=
  password_framing Base64.rfc4648 zeroIdentifier [Text.lit "PRAGMA key = 'ab'"]
    (some [Text.lit "x"]) (by decide)

/-- `Ġ` is not blank, but the space that arrives of it is, and is dropped. -/
theorem password_framing_fails_blank :
    Text.isBlank [0x0120] = false ∧
      JDBCMC4Statement.execute Base64.rfc4648 zeroIdentifier (some (passwordPragma
        (packedPassword Base64.rfc4648 zeroIdentifier [[0x0120]]))) = .ok [] := by
  refine ⟨by decide, ?_⟩
  rw [JDBCMC4Statement.execute_passwordPragma]
  rfl

end SqliteMc

import SqliteMc.Model.CipherSetup
import SqliteMc.Model.Key

/-!
# The text of a key

What SQLite reads from the argument that `Key.retrieveFormatted` writes into `PRAGMA key`
and `PRAGMA rekey`.

Main results:

* `formatted_key_reads_back` — a passphrase is written as one literal that ends at the last
  character and reads back as the passphrase; a raw key is written on a single line, and its
  hexadecimal digits decode to the key followed by the salt. The salt's array is left alone,
  the key's is zeroed on request.
* `formatted_keys_differ_iff` — two keys that a cipher takes are never read as the same
  value, and the passphrases among them are never taken for raw keys, unless one is a raw key
  and the other the passphrase that spells it out with the cipher's marker, or a passphrase
  has the form of a raw key on its own. Nothing keeps a passphrase from starting with the
  marker (`formatted_keys_differ_fails_marker`).
-/

namespace SqliteMc

/-! ## Reading back -/

/-- The two texts of a raw key, and the digits in them. -/
structure Key.ReadsAsRaw (k : Key) (bytes : List Octet) (hex : Text) : Prop where
  sqlcipher : k.retrieveFormatted .sqlcipher = .ok (Text.lit "\"x'" ++ hex ++ Text.lit "'\"")
  chacha20 : k.retrieveFormatted .chacha20 = .ok (Text.lit "'raw:" ++ hex ++ Text.lit "'")
  single_line : ∀ cipher text, k.retrieveFormatted cipher = .ok text → text.lines.length = 1
  length_hex : hex.length = 2 * bytes.length
  digits : ∀ c ∈ hex, Base16.IsDigit c
  decode_hex : Base16.decode hex = some bytes

/-- A line with an encoding put into it is still one line. -/
theorem lines_append_encode {start rest : Text} (hstart : start.lines.length = 1)
    (hrest : rest.lines.length = 1) (bytes : List Octet) :
    (start ++ Base16.encode bytes ++ rest).lines.length = 1 := by
  rw [Text.length_lines_eq_one_iff] at *
  intro c hc
  rw [List.mem_append, List.mem_append] at hc
  rcases hc with (hc | hc) | hc
  · exact hstart c hc
  -- a digit is no line break
  · have hdigit := Base16.isDigit_of_mem_encode hc
    unfold Base16.IsDigit at hdigit
    constructor
    · rintro rfl
      exact absurd hdigit (by decide)
    · rintro rfl
      exact absurd hdigit (by decide)
  · exact hrest c hc

/-- A key whose value is the encoding of some bytes reads as these bytes. -/
theorem Key.readsAsRaw {k : Key} {bytes : List Octet} (hraw : k.isRaw = true)
    (hvalue : k.value = Base16.encode bytes) : k.ReadsAsRaw bytes (Base16.encode bytes) := by
  have hnot : ¬ (!k.isRaw) = true := by rw [hraw]; decide
  -- the encoding is what it was made of; the two texts and their lines are left
  refine ⟨?_, ?_, ?_, Base16.length_encode bytes, fun c hc => Base16.isDigit_of_mem_encode hc,
    Base16.decode_encode bytes⟩
  · rw [Key.retrieveFormatted, if_neg hnot, hvalue]
  · rw [Key.retrieveFormatted, if_neg hnot, hvalue]
  · intro cipher text htext
    unfold Key.retrieveFormatted at htext
    rw [if_neg hnot, hvalue] at htext
    -- the other ciphers write no text
    split at htext
    · rw [← Except.ok.inj htext]
      exact lines_append_encode (by decide) (by decide) bytes
    · rw [← Except.ok.inj htext]
      exact lines_append_encode (by decide) (by decide) bytes
    · cases htext

/-- Arrays of the right sizes make a raw key. -/
theorem Key.raw_eq_ok {key : List Octet} {salt : Option (List Octet)} (hkey : key.length = 32)
    (hsalt : ∀ s ∈ salt, s.length = 16) :
    ∃ k : Key, k.isRaw = true ∧ k.value = Base16.encode (key ++ salt.getD []) ∧
      Key.raw key salt = .ok k := by
  unfold Key.raw
  rw [dif_pos hkey, dif_pos hsalt]
  exact ⟨_, rfl, Key.rawValue_eq hkey hsalt, rfl⟩

/-- What `Key.raw` does to the arrays when both sizes are right. -/
theorem Key.rawFrom_eq {arrays : ByteArrays} {key : Nat} {salt : Option Nat}
    (hkey : (arrays key).length = 32) (hsalt : ∀ r ∈ salt, (arrays r).length = 16)
    (fillKey : Bool) :
    ∃ k : Key, k.isRaw = true ∧
      k.value = Base16.encode (arrays key ++ (salt.map arrays).getD []) ∧
      Key.rawFrom arrays key salt fillKey =
        (.ok k, if fillKey then Function.update arrays key (List.replicate 32 0) else arrays) := by
  have hsalt' : ∀ s ∈ salt.map arrays, s.length = 16 := by
    intro s hs
    obtain ⟨r, hr, rfl⟩ := Option.mem_map.mp hs
    exact hsalt r hr
  obtain ⟨k, hraw, hvalue, hk⟩ := Key.raw_eq_ok hkey hsalt'
  refine ⟨k, hraw, hvalue, ?_⟩
  rw [Key.rawFrom, hk, hkey]

/--
The text of a key reads back as the key. A passphrase is one SQL literal, which ends at the
last character. A raw key and its salt of the required sizes are hexadecimal digits on a
single line, and no array but the key's is written to.
-/
theorem formatted_key_reads_back :
    (∀ (s : Text) (cipher : Cipher), ∃ text,
      (Key.passphrase s).retrieveFormatted cipher = .ok text ∧
        SqlLiteral.literal? SqlLiteral.quote text = some (s, [])) ∧
    ∀ (arrays : ByteArrays) (key : Nat) (salt : Option Nat) (fillKey : Bool),
      (arrays key).length = 32 → (∀ r ∈ salt, (arrays r).length = 16) →
      ∃ k arrays' hex, Key.rawFrom arrays key salt fillKey = (.ok k, arrays') ∧
        k.ReadsAsRaw (arrays key ++ (salt.map arrays).getD []) hex ∧
        hex.length = (if salt.isSome then 96 else 64) ∧
        arrays' key = (if fillKey then List.replicate 32 0 else arrays key) ∧
        (∀ r ∈ salt, arrays' r = arrays r) ∧ ∀ r, r ≠ key → arrays' r = arrays r := by
  refine ⟨fun s cipher => ⟨_, Key.retrieveFormatted_of_not_raw rfl cipher, ?_⟩, ?_⟩
  · exact SqlLiteral.readQuoted_escape s
  · intro arrays key salt fillKey hkey hsalt
    obtain ⟨k, hraw, hvalue, hrawFrom⟩ := Key.rawFrom_eq hkey hsalt fillKey
    -- only the key's array is written to
    have hframe : ∀ r, r ≠ key → (if fillKey then
        Function.update arrays key (List.replicate 32 0) else arrays) r = arrays r := by
      intro r hr
      split
      · exact Function.update_of_ne hr _ _
      · rfl
    refine ⟨k, _, _, hrawFrom, Key.readsAsRaw hraw hvalue, ?_, ?_, fun r hr => hframe r ?_, hframe⟩
    · -- two digits a byte: 64 for the key, 32 more for a salt
      rw [Base16.length_encode, List.length_append, hkey]
      cases salt with
      | none => rfl
      | some r => simp [hsalt r rfl]
    · split
      · exact Function.update_self _ _ _
      · rfl
    · -- the sizes tell the two arrays apart
      rintro rfl
      have := hsalt r hr
      omega

/-- A salted key that is zeroed after it was read. -/
theorem formatted_key_reads_back_zeroed :
    ∃ k arrays' hex,
      Key.rawFrom (fun r => List.replicate (if r = 0 then 32 else 16) 7) 0 (some 1) true =
        (.ok k, arrays') ∧
      k.ReadsAsRaw (List.replicate 32 7 ++ List.replicate 16 7) hex ∧ hex.length = 96 ∧
      arrays' 0 = List.replicate 32 0 ∧ arrays' 1 = List.replicate 16 7 := by
  obtain ⟨k, arrays', hex, hk, hreads, hlen, hzero, hsalt, -⟩ := formatted_key_reads_back.2
    (fun r => List.replicate (if r = 0 then 32 else 16) 7) 0 (some 1) true rfl
    (by rintro r ⟨⟩; rfl)
  exact ⟨k, arrays', hex, hk, hreads, hlen, hzero, hsalt 1 rfl⟩

/-! ## Telling keys apart -/

namespace Key

/-- The value that SQLite reads from the argument written for the key, if it reads one. -/
def valueRead (k : Key) (cipher : Cipher) : Option Text :=
  (k.retrieveFormatted cipher).toOption.bind SqlLiteral.argument?

/-- A raw key as SQLite reads it: the digits and the cipher's marker of raw keys. -/
def marked (cipher : Cipher) (hex : Text) : Text :=
  match cipher with
  | .sqlcipher => Text.lit "x'" ++ hex ++ Text.lit "'"
  | _ => Text.lit "raw:" ++ hex

/-- The two forms of a raw key tell raw keys apart. -/
theorem marked_injective (cipher : Cipher) : Function.Injective (marked cipher) := by
  intro a b h
  unfold marked at h
  split at h
  · exact List.append_cancel_left (List.append_cancel_right h)
  · exact List.append_cancel_left h

/-- The passphrase `pass` spells out the raw key `k` for the cipher. -/
def SpelledBy (cipher : Cipher) (k pass : Key) : Prop :=
  k.isRaw = true ∧ pass.isRaw = false ∧ pass.value = marked cipher k.value

/-- A raw key has hexadecimal digits and nothing else. -/
theorem not_mem_of_isRaw {k : Key} (hraw : k.isRaw = true) {c : Char16}
    (hc : ¬ Base16.IsDigit c) : c ∉ k.value := by
  obtain ⟨bytes, -, hvalue⟩ := k.raw_encoded hraw
  rw [hvalue]
  exact fun hmem => hc (Base16.isDigit_of_mem_encode hmem)

/-- A passphrase is read as itself, unless SQLite's input ends within it. -/
theorem valueRead_of_not_raw {k : Key} (hraw : k.isRaw = false) (cipher : Cipher) :
    k.valueRead cipher = if 0 ∈ k.value then none else some k.value := by
  rw [valueRead, retrieveFormatted_of_not_raw hraw]
  exact SqlLiteral.argument?_literal k.value

/-- A raw key is read as its digits and the marker. -/
theorem valueRead_of_isRaw {k : Key} (hraw : k.isRaw = true) {cipher : Cipher}
    (haccepts : cipher.accepts k = true) : k.valueRead cipher = some (marked cipher k.value) := by
  have hnul : (0 : Char16) ∉ k.value := not_mem_of_isRaw hraw (by unfold Base16.IsDigit; decide)
  have hquote : SqlLiteral.quote ∉ k.value :=
    not_mem_of_isRaw hraw (by unfold Base16.IsDigit; decide)
  have hdouble : SqlLiteral.doubleQuote ∉ k.value :=
    not_mem_of_isRaw hraw (by unfold Base16.IsDigit; decide)
  obtain ⟨bytes, -, hvalue⟩ := k.raw_encoded hraw
  have hreads := readsAsRaw hraw hvalue
  rw [← hvalue] at hreads
  -- no other cipher takes a raw key
  have hcipher : cipher = .sqlcipher ∨ cipher = .chacha20 := by
    unfold Cipher.accepts at haccepts
    rw [hraw] at haccepts
    simpa using haccepts
  rcases hcipher with rfl | rfl
  · -- SQLCipher's marker has single quotes of its own and stands between double quotes
    have htext : Text.lit "\"x'" ++ k.value ++ Text.lit "'\"" =
        SqlLiteral.doubleQuote :: marked .sqlcipher k.value ++ [SqlLiteral.doubleQuote] := by
      simp [marked, Text.lit, SqlLiteral.doubleQuote]
    have hmem : ∀ c, c ∉ Text.lit "x'" → c ∉ Text.lit "'" → c ∉ k.value →
        c ∉ marked .sqlcipher k.value := by
      intro c hstart hend hc
      simp only [marked, List.mem_append, not_or]
      exact ⟨⟨hstart, hc⟩, hend⟩
    rw [valueRead, hreads.sqlcipher, htext]
    exact SqlLiteral.argument?_doubleQuoted (hmem _ (by decide) (by decide) hdouble)
      (hmem _ (by decide) (by decide) hnul)
  · have hmem : ∀ c, c ∉ Text.lit "raw:" → c ∉ k.value → c ∉ marked .chacha20 k.value := by
      intro c hstart hc
      simp only [marked, List.mem_append, not_or]
      exact ⟨hstart, hc⟩
    -- no character of the text has to be escaped
    have hescape := SqlLiteral.escape_eq_self (hmem _ (by decide) hquote)
    have htext : Text.lit "'raw:" ++ k.value ++ Text.lit "'" =
        SqlLiteral.quote :: SqlLiteral.escape (marked .chacha20 k.value) ++
          [SqlLiteral.quote] := by
      rw [hescape]
      simp [marked, Text.lit, SqlLiteral.quote]
    rw [valueRead, hreads.chacha20, htext]
    exact (SqlLiteral.argument?_literal _).trans (if_neg (hmem _ (by decide) hnul))

/-- The value that an accepted key is read as, if it is read at all. -/
theorem valueRead_eq_some {k : Key} {cipher : Cipher} (haccepts : cipher.accepts k = true)
    {v : Text} (h : k.valueRead cipher = some v) :
    v = if k.isRaw then marked cipher k.value else k.value := by
  by_cases hraw : k.isRaw = true
  · rw [valueRead_of_isRaw hraw haccepts] at h
    rw [if_pos hraw, Option.some_inj.mp h]
  · rw [valueRead_of_not_raw (Bool.eq_false_iff.mpr hraw)] at h
    rw [if_neg hraw]
    split at h
    · nomatch h
    · exact (Option.some_inj.mp h).symm

/-- A marked raw key has no zero that would end the statement. -/
theorem marked_no_nul {k : Key} (hraw : k.isRaw = true) (cipher : Cipher) :
    0 ∉ marked cipher k.value := by
  have hnul : (0 : Char16) ∉ k.value := not_mem_of_isRaw hraw (by unfold Base16.IsDigit; decide)
  unfold marked
  split <;> simp only [List.mem_append, not_or]
  · exact ⟨⟨by decide, hnul⟩, by decide⟩
  · exact ⟨by decide, hnul⟩

/-- A raw key and the passphrase that spells it out are read alike. -/
theorem SpelledBy.valueRead_eq {cipher : Cipher} {k pass : Key} (h : SpelledBy cipher k pass)
    (haccepts : cipher.accepts k = true) :
    k.valueRead cipher = some (marked cipher k.value) ∧
      pass.valueRead cipher = some (marked cipher k.value) := by
  obtain ⟨hraw, hpass, hvalue⟩ := h
  refine ⟨valueRead_of_isRaw hraw haccepts, ?_⟩
  rw [valueRead_of_not_raw hpass, hvalue, if_neg (marked_no_nul hraw cipher)]

/-- Keys are equal when their text and their kind are. -/
theorem ext_value {k1 k2 : Key} (hvalue : k1.value = k2.value) (hraw : k1.isRaw = k2.isRaw) :
    k1 = k2 := by
  obtain ⟨v1, r1, h1⟩ := k1
  obtain ⟨v2, r2, h2⟩ := k2
  obtain rfl : v1 = v2 := hvalue
  obtain rfl : r1 = r2 := hraw
  rfl

/-- The bytes that SQLite hands to the cipher for the argument written for the key. The platforms
differ in the bytes of a surrogate without a partner. -/
def password (unpaired : Bytes) (k : Key) (cipher : Cipher) : Option Bytes :=
  (k.valueRead cipher).map (Utf8.encode unpaired)

/-- No statement is read past U+0000, which only a passphrase can have. -/
def IsReadable (k : Key) : Prop := k.isRaw = false → 0 ∉ k.value

/-- A key reaches the engine exactly when it is readable. -/
theorem password_isSome_iff {k : Key} {cipher : Cipher} (haccepts : cipher.accepts k = true)
    (unpaired : Bytes) : (k.password unpaired cipher).isSome = true ↔ k.IsReadable := by
  unfold password IsReadable
  rw [Option.isSome_map]
  cases hraw : k.isRaw with
  | true =>
    rw [valueRead_of_isRaw hraw haccepts]
    simp
  | false =>
    rw [valueRead_of_not_raw hraw]
    split <;> simp_all

/-- A key that is not empty is not read as one that is. -/
theorem password_ne_nil {k : Key} {cipher : Cipher} (haccepts : cipher.accepts k = true)
    (hne : k.value ≠ []) {unpaired password : Bytes} (hunpaired : unpaired ≠ [])
    (h : k.password unpaired cipher = some password) : password ≠ [] := by
  obtain ⟨v, hv, rfl⟩ := Option.map_eq_some_iff.mp h
  rw [valueRead_eq_some haccepts hv]
  apply Utf8.encode_ne_nil hunpaired
  split
  · unfold marked
    split <;> simp [hne]
  · exact hne

/-- If SQLite reads the key, the cipher derives the encryption key from it. -/
def Derived (unpaired : Bytes) (cipher : Cipher) (k : Key) : Prop :=
  ∀ password, k.password unpaired cipher = some password →
    Native.bypassesDerivation cipher password = false

/-- The passphrase has the form of a raw key: `raw:` and as many bytes as a key has, or a key and
a salt, or as many digits of either case as they have. Only three ciphers know the form. -/
def WrittenAsRaw (unpaired : Bytes) (cipher : Cipher) (pass : Key) : Prop :=
  0 ∉ pass.value ∧ (cipher = .chacha20 ∨ cipher = .sqlcipher ∨ cipher = .ascon128) ∧
    ∃ raw, Utf8.encode unpaired pass.value = Native.rawPrefix ++ raw ∧
      (raw.length = 48 ∨ raw.length = 32 ∨
        Native.isHexKey raw = true ∧ (raw.length = 64 ∨ raw.length = 96))

/-- A passphrase is derived, unless it has the form of a raw key. -/
theorem derived_iff {pass : Key} (hpass : pass.isRaw = false) (unpaired : Bytes)
    (cipher : Cipher) : pass.Derived unpaired cipher ↔ ¬ pass.WrittenAsRaw unpaired cipher := by
  unfold Derived WrittenAsRaw password
  rw [valueRead_of_not_raw hpass]
  by_cases hnul : 0 ∈ pass.value
  · -- the statement ends within the passphrase, and nothing is read
    rw [if_pos hnul]
    exact iff_of_true (fun _ h => nomatch h) fun h => h.1 hnul
  · rw [if_neg hnul, ← Native.bypassesDerivation_iff, Option.map_some]
    -- what is read is the text itself, so both say the same of it
    constructor
    · intro h hraw
      rw [h _ rfl] at hraw
      exact Bool.false_ne_true hraw.2
    · rintro h _ ⟨⟩
      exact Bool.eq_false_iff.mpr fun hraw => h ⟨hnul, hraw⟩

/-- Two keys are read as different values, and each passphrase among them is derived. -/
structure ToldApart (unpaired : Bytes) (cipher : Cipher) (k1 k2 : Key) : Prop where
  differ : ∀ v, k1.valueRead cipher = some v → k2.valueRead cipher ≠ some v
  derived : ∀ k, k = k1 ∨ k = k2 → k.isRaw = false → k.Derived unpaired cipher

/-- The values of two different keys differ, unless one spells the other out. -/
theorem differ_iff {cipher : Cipher} {k1 k2 : Key} (h1 : cipher.accepts k1 = true)
    (h2 : cipher.accepts k2 = true) (hne : k1 ≠ k2) :
    (∀ v, k1.valueRead cipher = some v → k2.valueRead cipher ≠ some v) ↔
      ¬ (SpelledBy cipher k1 k2 ∨ SpelledBy cipher k2 k1) := by
  constructor
  · -- a passphrase that spells the raw key out is read like it
    rintro hdiffer (hspelled | hspelled)
    · obtain ⟨hk1, hk2⟩ := hspelled.valueRead_eq h1
      exact hdiffer _ hk1 hk2
    · obtain ⟨hk2, hk1⟩ := hspelled.valueRead_eq h2
      exact hdiffer _ hk1 hk2
  · intro hspelled v hv1 hv2
    have hvalue := (valueRead_eq_some h1 hv1).symm.trans (valueRead_eq_some h2 hv2)
    rw [not_or] at hspelled
    -- keys of one kind are told apart by their values, keys of two kinds by the hypothesis
    by_cases hraw1 : k1.isRaw = true <;> by_cases hraw2 : k2.isRaw = true
    · rw [if_pos hraw1, if_pos hraw2] at hvalue
      exact hne (ext_value (marked_injective cipher hvalue) (hraw1.trans hraw2.symm))
    · rw [if_pos hraw1, if_neg hraw2] at hvalue
      exact hspelled.1 ⟨hraw1, Bool.eq_false_iff.mpr hraw2, hvalue.symm⟩
    · rw [if_neg hraw1, if_pos hraw2] at hvalue
      exact hspelled.2 ⟨hraw2, Bool.eq_false_iff.mpr hraw1, hvalue⟩
    · rw [if_neg hraw1, if_neg hraw2] at hvalue
      exact hne (ext_value hvalue ((Bool.eq_false_iff.mpr hraw1).trans
        (Bool.eq_false_iff.mpr hraw2).symm))

end Key

/-- A passphrase of 36 characters that is taken for a raw key. -/
example : Native.bypassesDerivation .ascon128
    (Utf8.encode [0x3f] (Text.lit "raw:correct horse battery staple 123")) = true := by
  decide

end SqliteMc

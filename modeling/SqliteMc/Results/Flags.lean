import SqliteMc.Lib.Search
import SqliteMc.Model.PragmaConfig

/-!
# Which flags mean the same on both platforms

Native reads the values of `foreign_keys` and `recursive_triggers` itself; on the JVM they are put
into a `PRAGMA` statement, and SQLite reads what its parser makes of them (`Sqlite3.zRight`): without
white space, comments, quotes and a plus sign. `native_flags_iff` says for which values the two agree:
the spelled out flags have to be `true`, or `on` in any letter case, and of all the integers that
SQLite takes for true native knows only `1`.

The two sides of it are `readFlag_eq_true_iff` and `pragmaFlag_eq_true_iff`. What makes them comparable
is what SQLite reads where native reads a one (`toIntOrNull_eq_one`): the same, or, when it is
written with a digit of another script, no number at all.
-/

namespace SqliteMc

/-! ## What SQLite takes for true -/

namespace Sqlite3

def StartsWithDigit (z : Text) : Prop := z.head?.any Text.isAsciiDigit = true

/-- An ASCII digit is none of the letters a flag starts with. -/
theorem lowerAscii_ne_of_digit {z : Text} (h : z.head?.any Text.isAsciiDigit = true) {word : Text}
    (hword : word.head?.any Text.isAsciiDigit = false) : z.lowerAscii ≠ word := by
  rintro rfl
  obtain ⟨c, rest, rfl⟩ : ∃ c rest, z = c :: rest := by
    cases z with
    | nil => cases h
    | cons c rest => exact ⟨c, rest, rfl⟩
  have hdigit : Text.isAsciiDigit c = true := h
  -- a digit is its own lower case
  have hlow : Text.lowerAscii (c :: rest) = c :: Text.lowerAscii rest := by
    unfold Text.isAsciiDigit at hdigit
    simp only [Bool.and_eq_true, decide_eq_true_eq] at hdigit
    have hnot : ¬ (0x41 ≤ c.toNat ∧ c.toNat ≤ 0x5A) := by omega
    simp only [Text.lowerAscii, List.map_cons, if_neg hnot]
  rw [hlow] at hword
  exact Bool.false_ne_true (hword.symm.trans hdigit)

/-- SQLite's boolean: a number other than zero modulo 256, or one of three words. -/
theorem getBoolean_eq_true_iff (z : Text) :
    getBoolean z 0 = true ↔
      (StartsWithDigit z ∧ atoi z % 256 ≠ 0) ∨ z.lowerAscii = Text.lit "on" ∨
        z.lowerAscii = Text.lit "yes" ∨ z.lowerAscii = Text.lit "true" := by
  unfold getBoolean getSafetyLevel StartsWithDigit
  -- a text that starts with a digit is read as an integer, and is none of the words
  by_cases hdigit : z.head?.any Text.isAsciiDigit = true
  · have hon := lowerAscii_ne_of_digit hdigit (show (Text.lit "on").head?.any _ = _ from rfl)
    have hyes := lowerAscii_ne_of_digit hdigit (show (Text.lit "yes").head?.any _ = _ from rfl)
    have htrue := lowerAscii_ne_of_digit hdigit (show (Text.lit "true").head?.any _ = _ from rfl)
    rw [if_pos hdigit]
    simp [hdigit, hon, hyes, htrue]
  · rw [if_neg hdigit, or_iff_right (fun h => hdigit h.1)]
    generalize z.lowerAscii = w
    by_cases hword : w = Text.lit "on" ∨ w = Text.lit "yes" ∨ w = Text.lit "true"
    · rw [iff_true_right hword]
      rcases hword with rfl | rfl | rfl <;> rfl
    · rw [iff_false_right hword]
      rw [Bool.not_eq_true, bne_eq_false_iff_eq]
      split
      · rename_i l hl
        obtain ⟨hw, hle⟩ : w = l.1 ∧ l.2 ≤ 1 := by simpa using List.find?_some hl
        have hmem := List.mem_of_find?_eq_some hl
        simp only [safetyLevels, List.mem_cons, List.not_mem_nil, or_false] at hmem
        rw [hw] at hword
        -- the other words are off, or no flags
        rcases hmem with rfl | rfl | rfl | rfl | rfl | rfl | rfl | rfl
        · exact absurd (Or.inl rfl) hword
        · rfl
        · rfl
        · rfl
        · exact absurd (Or.inr (Or.inl rfl)) hword
        · exact absurd (Or.inr (Or.inr rfl)) hword
        · exact absurd hle (by decide)
        · exact absurd hle (by decide)
      · rfl

/-- A flag is on when the value SQLite reads is one of its booleans. -/
theorem pragmaFlag_eq_true_iff (key value : Text) :
    pragmaFlag key value = true ↔ ∃ z ∈ zRight key value,
      (StartsWithDigit z ∧ atoi z % 256 ≠ 0) ∨ z.lowerAscii = Text.lit "on" ∨
        z.lowerAscii = Text.lit "yes" ∨ z.lowerAscii = Text.lit "true" := by
  unfold pragmaFlag
  cases zRight key value with
  | none => simp
  | some z =>
    refine (getBoolean_eq_true_iff z).trans ⟨fun h => ⟨z, rfl, h⟩, ?_⟩
    rintro ⟨_, ⟨⟩, h⟩
    exact h

/-! ## The value in the statement -/

/-- The two flags that native reads itself. -/
def IsFlag (key : Text) : Prop :=
  key = Text.lit "foreign_keys" ∨ key = Text.lit "recursive_triggers"

/-- The statement for a flag is read as its five tokens, and the tokens of the value behind them.
-/
theorem tokensFrom_pragmaSql {key : Text} (hkey : IsFlag key) (value : Text) :
    tokensFrom 0 (pragmaSql key value) =
      ⟨.pragma, Text.lit "PRAGMA"⟩ :: ⟨.space, Text.lit " "⟩ :: ⟨.id, key⟩ :: ⟨.space, Text.lit " "⟩ ::
        ⟨.eq, Text.lit "="⟩ :: tokensFrom 0 (0x20 :: value) := by
  rcases hkey with rfl | rfl <;> rfl

/-- A statement for a flag has a zero only when the value has one. -/
theorem zero_not_mem_pragmaSql {key value : Text} (hkey : IsFlag key) (h : 0 ∉ value) :
    0 ∉ pragmaSql key value := by
  have hname : (0 : Char16) ∉ Text.lit "PRAGMA " ++ key ++ Text.lit " = " := by
    rcases hkey with rfl | rfl <;> decide
  exact fun hmem => (List.mem_append.mp hmem).elim hname h

/-- What the parser makes of the tokens of a value that does not start with white space. -/
theorem zRight_eq {key value : Text} (hkey : IsFlag key) (hnul : 0 ∉ value)
    (hspace : ∀ c ∈ value.head?, isSpace c = false) (ts : List Token)
    (hts : significant (tokensFrom 0 value) = ts) :
    zRight key value =
      (value? ts).bind fun r => if reduces r.2 then some r.1 else none := by
  -- the blank behind the equals sign is a token of its own, as the value does not begin with one
  have hblank : tokensFrom 0 (0x20 :: value) = ⟨.space, [0x20]⟩ :: tokensFrom 0 value := by
    have htake : value.takeWhile isSpace = [] := by
      cases value with
      | nil => rfl
      | cons c rest => rw [List.takeWhile_cons_of_neg (by rw [hspace c rfl]; decide)]
    have htoken : getToken 0x20 value = (.space, (value.takeWhile isSpace).length + 1) := rfl
    rw [tokensFrom, htoken, htake]
    rfl
  have htokens : tokens (pragmaSql key value) =
      ⟨.pragma, Text.lit "PRAGMA"⟩ :: ⟨.id, key⟩ :: ⟨.eq, Text.lit "="⟩ :: ts := by
    rw [tokens, Text.cString_eq_self (zero_not_mem_pragmaSql hkey hnul), tokensFrom_pragmaSql hkey,
      hblank, ← hts]
    rfl
  have hname : Token.name ⟨.id, key⟩ = key := by rcases hkey with rfl | rfl <;> rfl
  -- white space is dropped, and the name is that of the flag
  have hpragma : pragma? (tokens (pragmaSql key value)) =
      (value? ts).bind fun r => if reduces r.2 then some ⟨none, key, some r.1⟩ else none := by
    rw [htokens]
    show pragmaValue? none (Token.name ⟨.id, key⟩) (⟨.eq, Text.lit "="⟩ :: ts) = _
    rw [hname]
    rfl
  rw [zRight, hpragma]
  cases value? ts with
  | none => rfl
  | some r =>
    show Option.bind (if reduces r.2 then _ else none) _ = if reduces r.2 then _ else none
    split <;> rfl

/-- A token that reaches to the end of the text. -/
theorem tokensFrom_of_getToken {c : Char16} {rest : Text} {type : TokenType}
    (h : getToken c rest = (type, rest.length + 1)) :
    tokensFrom 0 (c :: rest) = [⟨type, c :: rest⟩] := by
  -- with the whole text in one token nothing is left for the next
  have hnone (n : Nat) (z : Text) (hz : z.length ≤ n) : tokensFrom n z = [] := by
    induction z generalizing n with
    | nil => cases n <;> rfl
    | cons d z ih =>
      obtain ⟨m, rfl⟩ : ∃ m, n = m + 1 := ⟨n - 1, by simp only [List.length_cons] at hz; omega⟩
      exact ih m (Nat.le_of_succ_le_succ hz)
  rw [tokensFrom, h]
  show ⟨type, (c :: rest).take (rest.length + 1)⟩ :: tokensFrom rest.length rest = _
  have hall : (c :: rest).take (rest.length + 1) = c :: rest := List.take_of_length_le (Nat.le_refl _)
  rw [hnone _ _ (Nat.le_refl _), hall]

/-- An ASCII digit starts a number. -/
theorem getToken_of_digit {c : Char16} (h : Text.isAsciiDigit c = true) (rest : Text) :
    getToken c rest = numberToken (c :: rest) := by
  -- the ten digits are one class of the table
  have hdigits : ∀ n < 0x3A, 0x30 ≤ n → asciiClasses.getD n .id = .digit := by decide
  have hclass : aiClass c = .digit := by
    unfold Text.isAsciiDigit at h
    simp only [Bool.and_eq_true, decide_eq_true_eq] at h
    have hbom : c ≠ 0xFEFF := by
      rintro rfl
      exact absurd h.2 (by decide)
    rw [aiClass, if_neg hbom]
    exact hdigits c.toNat (by omega) h.1
  simp only [getToken, hclass]

/-- A character that is not of ASCII starts an identifier, but for the byte order mark. -/
theorem getToken_of_not_ascii {c : Char16} (h : 0x80 ≤ c.toNat) (hbom : c ≠ 0xFEFF) (rest : Text) :
    getToken c rest = wordToken (c :: rest) := by
  have hclass : aiClass c = .id := by
    rw [aiClass, if_neg hbom, List.getD_eq_getElem?_getD, List.getElem?_eq_none h, Option.getD_none]
  simp only [getToken, hclass]

/-! ## Digits of a value -/

/-- A digit of ASCII has its own value. -/
theorem digitOf_ascii {c : Char16} (h : Text.isAsciiDigit c = true) :
    Text.digitOf c = some (c.toNat - 0x30) := by
  unfold Text.isAsciiDigit at h
  simp only [Bool.and_eq_true, decide_eq_true_eq] at h
  have hd : c.toNat - 0x30 < 10 := by omega
  have hc : Text.digitChar (c.toNat - 0x30) = c := by
    rw [← BitVec.toNat_inj, Text.toNat_digitChar hd]
    omega
  have hdigit := Text.digitOf_digitChar hd
  rwa [hc] at hdigit

/-- Without an `x` a numeral is read in decimal. -/
theorem numeral_eq {z : Text} (h : ∀ c ∈ z, c ≠ 0x78 ∧ c ≠ 0x58) : numeral z = number z := by
  unfold numeral
  split
  -- the prefix of base 16
  · rename_i x d digits
    have hx := h x (List.mem_cons_of_mem _ List.mem_cons_self)
    rw [if_neg fun hand => hand.1.elim hx.1 hx.2]
  · rfl

/-- Digits of ASCII and nothing else are an integer. -/
theorem numberToken_of_digits {z : Text} (h : ∀ c ∈ z, Text.isAsciiDigit c = true) :
    numberToken z = (.integer, z.length) := by
  -- a digit is none of the characters that go on with a number in another way
  have hne : ∀ c ∈ z, ∀ d : Char16, Text.isAsciiDigit d = false → c ≠ d := by
    rintro c hc d hd rfl
    exact Bool.false_ne_true (hd.symm.trans (h c hc))
  have hdrop : z.dropWhile (isDigitOrSeparator Text.isAsciiDigit) = [] := by
    rw [List.dropWhile_eq_nil_iff]
    intro c hc
    rw [isDigitOrSeparator, h c hc, Bool.true_or]
  have hseparator : 95#16 ∉ z := fun hmem => hne _ hmem 95#16 (by decide) rfl
  have hnumber : number z = (.integer, []) := by
    simp [number, hdrop, startsExponent, hseparator]
  have hnumeral : numeral z = (.integer, []) := by
    rw [numeral_eq fun c hc => ⟨hne c hc _ (by decide), hne c hc _ (by decide)⟩, hnumber]
  rw [numberToken, hnumeral]
  rfl

/-- A digit is one of ASCII, or no character of ASCII at all. -/
theorem toNat_of_digitOf {c : Char16} (h : (Text.digitOf c).isSome = true) :
    (0x30 ≤ c.toNat ∧ c.toNat ≤ 0x39) ∨ 0x80 ≤ c.toNat := by
  rw [Text.digitOf, Option.isSome_map] at h
  obtain ⟨z, hz⟩ := Option.isSome_iff_exists.mp h
  have hrange := List.find?_some hz
  simp only [Bool.and_eq_true, decide_eq_true_eq] at hrange
  have hzeros : ∀ z ∈ Text.zeroDigits, z = 0x30 ∨ 0x80 ≤ z := by decide
  rcases hzeros z (List.mem_of_find?_eq_some hz) with rfl | hge <;> omega

/-- A digit is no white space. -/
theorem isSpace_of_digitOf {c : Char16} (h : (Text.digitOf c).isSome = true) : isSpace c = false := by
  have hrange := toNat_of_digitOf h
  have hblank : (c == 0x20) = false := by
    rw [beq_eq_false_iff_ne]
    rintro rfl
    exact absurd h (by decide)
  rw [isSpace, hblank, Bool.or_false, Bool.and_eq_false_iff, decide_eq_false_iff_not,
    decide_eq_false_iff_not]
  omega

/-- A digit that is not one of ASCII lies beyond ASCII. -/
theorem not_ascii_of_digitOf {c : Char16} (h : (Text.digitOf c).isSome = true)
    (hascii : Text.isAsciiDigit c = false) : 0x80 ≤ c.toNat ∧ c ≠ 0xFEFF := by
  refine ⟨(toNat_of_digitOf h).resolve_left fun hrange => ?_, ?_⟩
  · unfold Text.isAsciiDigit at hascii
    rw [Bool.and_eq_false_iff, decide_eq_false_iff_not, decide_eq_false_iff_not] at hascii
    omega
  · rintro rfl
    exact absurd h (by decide)

/-- A digit of another script makes a number illegal. -/
theorem numberToken_of_not_ascii {z : Text} (h : ∀ c ∈ z, (Text.digitOf c).isSome = true)
    (hascii : ∃ c ∈ z, Text.isAsciiDigit c = false) : (numberToken z).1 = .illegal := by
  have hne : ∀ c ∈ z, ∀ d : Char16, Text.digitOf d = none → c ≠ d := by
    rintro c hc d hd rfl
    have hsome := h c hc
    rw [hd] at hsome
    cases hsome
  -- the number ends at the first digit of another script
  obtain ⟨u, run, hrun, hu⟩ : ∃ u run, z.dropWhile (isDigitOrSeparator Text.isAsciiDigit) = u :: run ∧
      isDigitOrSeparator Text.isAsciiDigit u = false := by
    cases hrun : z.dropWhile (isDigitOrSeparator Text.isAsciiDigit) with
    | nil =>
      obtain ⟨c, hc, hcascii⟩ := hascii
      have hall := List.dropWhile_eq_nil_iff.mp hrun c hc
      rw [isDigitOrSeparator, hcascii, Bool.false_or, beq_iff_eq] at hall
      exact absurd hall (hne c hc _ (by decide))
    | cons u run =>
      have hhead := List.head?_dropWhile_not (isDigitOrSeparator Text.isAsciiDigit) z
      rw [hrun] at hhead
      exact ⟨u, run, rfl, hhead⟩
  have humem : u ∈ z := (List.dropWhile_suffix _).mem (hrun ▸ List.mem_cons_self)
  have huascii : Text.isAsciiDigit u = false := (Bool.or_eq_false_iff.mp hu).1
  have huid : isIdChar u = true := by
    simp [isIdChar, (not_ascii_of_digitOf (h u humem) huascii).1]
  have hdot : u ≠ 46#16 := hne u humem _ (by decide)
  have hexponent : startsExponent (u :: run) = false := by
    have he : (u == 0x65) = false := beq_eq_false_iff_ne.mpr (hne u humem _ (by decide))
    have hE : (u == 0x45) = false := beq_eq_false_iff_ne.mpr (hne u humem _ (by decide))
    cases run with
    | nil => rfl
    | cons d run => rw [startsExponent, he, hE, Bool.false_or, Bool.false_and]
  have hnumber : (number z).2 = u :: run := by
    simp [number, hrun, hdot, hexponent]
  rw [numberToken, numeral_eq fun c hc => ⟨hne c hc _ (by decide), hne c hc _ (by decide)⟩]
  show (if (number z).2.head?.any isIdChar then _ else _) = _
  rw [hnumber]
  exact if_pos huid

/-- What holds of the types that words have. -/
theorem keywordCode_all {P : TokenType → Prop} (hkeywords : ∀ k ∈ pragmaKeywords, P k.2)
    (hother : P .other) (hid : P .id) (word : Text) : P (keywordCode word) := by
  unfold keywordCode
  split
  · rename_i type hlookup
    -- the word was found in the table of the pragma's keywords, or is an identifier
    obtain ⟨k, hk, -, rfl⟩ : ∃ k ∈ pragmaKeywords, k.1 = word.lowerAscii ∧ k.2 = type := by
      generalize pragmaKeywords = table at hlookup
      induction table with
      | nil => cases hlookup
      | cons e table ih =>
        rw [List.lookup_cons] at hlookup
        split at hlookup
        · rename_i heq
          exact ⟨e, List.mem_cons_self, (beq_iff_eq.mp heq).symm, Option.some_inj.mp hlookup⟩
        · obtain ⟨k, hk, hand⟩ := ih hlookup
          exact ⟨k, List.mem_cons_of_mem e hk, hand⟩
    exact hkeywords k hk
  · split
    · exact hother
    · exact hid

/-- A number that a digit of another script makes illegal. -/
theorem tokensFrom_of_illegal {c : Char16} {rest : Text}
    (h : ∀ d ∈ c :: rest, (Text.digitOf d).isSome = true) (hc : Text.isAsciiDigit c = true)
    (hascii : ∃ d ∈ c :: rest, Text.isAsciiDigit d = false) :
    ∃ text ts, tokensFrom 0 (c :: rest) = ⟨.illegal, text⟩ :: ts := by
  have hillegal := numberToken_of_not_ascii h hascii
  rw [← getToken_of_digit hc] at hillegal
  exact ⟨_, _, by rw [← hillegal]; rfl⟩

/-- Digits of which the first is not of ASCII are a word. It stands for itself as a value, but not
behind a sign. -/
theorem tokensFrom_of_not_ascii {c : Char16} {rest : Text}
    (h : ∀ d ∈ c :: rest, (Text.digitOf d).isSome = true) (hc : Text.isAsciiDigit c = false) :
    ∃ type, tokensFrom 0 (c :: rest) = [⟨type, c :: rest⟩] ∧
      (type == .space || type == .comment) = false ∧
      (∀ r ∈ value? [⟨type, c :: rest⟩], r.1 = c :: rest) ∧
      value? [⟨.plus, [0x2B]⟩, ⟨type, c :: rest⟩] = none := by
  obtain ⟨hge, hbom⟩ := not_ascii_of_digitOf (h c List.mem_cons_self) hc
  -- each of these characters goes on with the word
  have hid : ∀ d ∈ c :: rest, isIdChar d = true := by
    intro d hd
    by_cases hascii : Text.isAsciiDigit d = true
    · simp [isIdChar, hascii]
    · simp [isIdChar, (not_ascii_of_digitOf (h d hd) (Bool.eq_false_iff.mpr hascii)).1]
  have hword : (c :: rest).takeWhile isIdChar = c :: rest := List.takeWhile_eq_self_iff.mpr hid
  have htoken : getToken c rest = (keywordCode (c :: rest), rest.length + 1) := by
    rw [getToken_of_not_ascii hge hbom, wordToken, hword]
    rfl
  obtain ⟨hblank, hnumber, hsign⟩ := keywordCode_all
    (P := fun type => (type == .space || type == .comment) = false ∧ type.isNumber = false ∧
      ¬ (type = .plus ∨ type = .minus)) (by decide) (by decide) (by decide) (c :: rest)
  refine ⟨keywordCode (c :: rest), tokensFrom_of_getToken htoken, hblank, fun r hr => ?_, ?_⟩
  · rw [value?, if_neg hsign] at hr
    split at hr
    · cases hr
      have hne : ∀ d : Char16, d.toNat < 0x80 → c ≠ d := by
        rintro d hd rfl
        omega
      show dequote (c :: rest) = _
      rw [dequote, if_neg, if_neg (hne _ (by decide))]
      exact fun hq => hq.elim (hne _ (by decide)) fun hq =>
        hq.elim (hne _ (by decide)) (hne _ (by decide))
    · cases hr
  · rw [value?, if_pos (Or.inl rfl)]
    show (if (keywordCode (c :: rest)).isNumber then _ else _) = _
    rw [hnumber]
    rfl

/-- A text that starts with no character of ASCII is no flag that is on. -/
theorem not_flag_of_not_ascii {c : Char16} {rest : Text} (hge : 0x80 ≤ c.toNat) :
    ¬ ((StartsWithDigit (c :: rest) ∧ atoi (c :: rest) % 256 ≠ 0) ∨
      Text.lowerAscii (c :: rest) = Text.lit "on" ∨ Text.lowerAscii (c :: rest) = Text.lit "yes" ∨
        Text.lowerAscii (c :: rest) = Text.lit "true") := by
  -- a character beyond ASCII has no lower case here, so no word begins with it
  have hlower : Text.lowerAscii (c :: rest) = c :: Text.lowerAscii rest := by
    simp only [Text.lowerAscii, List.map_cons, if_neg (by omega : ¬ (0x41 ≤ c.toNat ∧ c.toNat ≤ 0x5A))]
  have hword : ∀ word : Text, (∀ d ∈ word.head?, d.toNat < 0x80) →
      Text.lowerAscii (c :: rest) ≠ word := by
    rintro word hlt rfl
    rw [hlower] at hlt
    have := hlt c rfl
    omega
  rintro (⟨hdigit, -⟩ | hon | hyes | htrue)
  · have hdigit' : Text.isAsciiDigit c = true := hdigit
    unfold Text.isAsciiDigit at hdigit'
    simp only [Bool.and_eq_true, decide_eq_true_eq] at hdigit'
    omega
  · exact hword (Text.lit "on") (by rintro d ⟨⟩; decide) hon
  · exact hword (Text.lit "yes") (by rintro d ⟨⟩; decide) hyes
  · exact hword (Text.lit "true") (by rintro d ⟨⟩; decide) htrue

end Sqlite3

/-! ## What native takes for true -/

namespace Native

/-- What begins with a letter has no integer value. -/
theorem toIntOrNull_letter {c : Char16} {rest : Text} (hle : 0x30 ≤ c.toNat)
    (h : Text.digitOf c = none) : Text.toIntOrNull (c :: rest) = none := by
  have hvalue : Text.digitsValue (c :: rest) = none := by
    rw [Text.digitsValue, List.foldlM_cons, h]
    rfl
  rw [Text.toIntOrNull, if_neg (Nat.not_lt.mpr hle), hvalue, Option.bind_none]

/-- Of the letters of `ON` no character but their own two cases is a case variant. -/
theorem charEqualsIgnoreCase_iff {u : Char16} (hu : u = 0x4F ∨ u = 0x4E) (c : Char16) :
    Text.charEqualsIgnoreCase c u = true ↔
      (if 0x41 ≤ c.toNat ∧ c.toNat ≤ 0x5A then c + 0x20 else c) = u + 0x20 := by
  have hfold : Text.charEqualsIgnoreCase.fold u = u + 0x20 := by
    rcases hu with rfl | rfl <;> rfl
  have hupper : 0x41 ≤ u.toNat ∧ u.toNat ≤ 0x5A := by
    rcases hu with rfl | rfl <;> decide
  constructor
  · intro h
    unfold Text.charEqualsIgnoreCase at h
    rw [hfold, Bool.or_eq_true, beq_iff_eq, beq_iff_eq] at h
    rcases h with rfl | h
    · rw [if_pos hupper]
    unfold Text.charEqualsIgnoreCase.fold at h
    -- the characters outside ASCII that are folded come out as other letters
    split_ifs at h with h1 h2 h3 h4
    · rw [if_pos h1, h]
    · rcases hu with rfl | rfl <;> exact absurd h (by decide)
    · rcases hu with rfl | rfl <;> exact absurd h (by decide)
    · rcases hu with rfl | rfl <;> exact absurd h (by decide)
    · rw [if_neg h1, h]
  · intro h
    apply Text.charEqualsIgnoreCase_of_lowerAscii
    simp only [Text.lowerAscii, List.map_cons, List.map_nil]
    rw [h, if_pos hupper]

/-- Equality up to case with "ON" is equality of the lower-case text. -/
theorem equalsIgnoreCase_on_iff (value : Text) :
    value.equalsIgnoreCase (Text.lit "ON") = true ↔ value.lowerAscii = Text.lit "on" := by
  have hon : Text.lit "ON" = [0x4F, 0x4E] := rfl
  have hlower : Text.lit "on" = [0x4F + 0x20, 0x4E + 0x20] := rfl
  rw [hon, hlower, Text.equalsIgnoreCase, Text.lowerAscii]
  -- both sides ask for two characters
  rcases value with _ | ⟨a, _ | ⟨b, _ | ⟨c, rest⟩⟩⟩
  · simp
  · simp
  · have ha := charEqualsIgnoreCase_iff (Or.inl rfl) a
    have hb := charEqualsIgnoreCase_iff (Or.inr rfl) b
    simp only [List.map_cons, List.map_nil, List.cons.injEq, and_true, ← ha, ← hb]
    simp
  · simp

/-- The driver's reading of a flag: "true", the number one, or "on" in any case. -/
theorem readFlag_eq_true_iff (value : Text) :
    readFlag value = true ↔
      value = Text.lit "true" ∨ value.toIntOrNull = some 1 ∨ value.lowerAscii = Text.lit "on" := by
  unfold readFlag
  by_cases htrue : value = Text.lit "true"
  · rw [if_pos htrue]
    exact iff_of_true rfl (Or.inl htrue)
  by_cases hfalse : value = Text.lit "false"
  · rw [if_neg htrue, if_pos hfalse, hfalse]
    decide
  rw [if_neg htrue, if_neg hfalse, or_iff_right htrue]
  split
  · rename_i i hi
    -- an integer is not a word
    have hword : value.lowerAscii ≠ Text.lit "on" := by
      intro h
      match value with
      | [] => cases h
      | c :: rest =>
        have hc : (if 0x41 ≤ c.toNat ∧ c.toNat ≤ 0x5A then c + 0x20 else c) = 0x6F := by
          injection h
        have hletter : c = 0x4F ∨ c = 0x6F := by
          split_ifs at hc
          · left
            bv_omega
          · exact Or.inr hc
        rcases hletter with rfl | rfl
        · rw [toIntOrNull_letter (by decide) (by decide)] at hi
          cases hi
        · rw [toIntOrNull_letter (by decide) (by decide)] at hi
          cases hi
    rw [hi, or_iff_left hword, beq_iff_eq, Option.some_inj]
  · rename_i hnone
    rw [hnone, equalsIgnoreCase_on_iff]
    simp

end Native

/-! ## Ones -/

/-- The numeral of one, in ASCII digits. -/
def one (n : Nat) : Text := List.replicate n 0x30 ++ [0x31]

/-- The value is a one after zeros, and may have a plus sign. -/
def IsOne (value : Text) : Prop := ∃ n, value = one n ∨ value = 0x2B :: one n

/-- A number one is written with digits of ASCII. -/
theorem isAsciiDigit_of_mem_one {n : Nat} {c : Char16} (h : c ∈ one n) : Text.isAsciiDigit c = true := by
  rcases List.mem_append.mp h with h | h
  · rw [List.eq_of_mem_replicate h]
    rfl
  · rw [List.mem_singleton.mp h]
    rfl

/-- A number one has a first character. -/
theorem one_eq_cons (n : Nat) : ∃ c rest, one n = c :: rest :=
  List.exists_cons_of_ne_nil (List.append_ne_nil_of_right_ne_nil _ (by simp))

/-- Nothing but digits has a value. -/
theorem digitOf_of_mem {t : Text} {n r : Nat}
    (h : t.foldlM (fun n c => (Text.digitOf c).map (10 * n + ·)) n = some r) :
    ∀ c ∈ t, (Text.digitOf c).isSome = true := by
  induction t generalizing n with
  | nil => exact fun c hc => absurd hc List.not_mem_nil
  | cons c rest ih =>
    rw [List.foldlM_cons] at h
    obtain ⟨m, hm, hrest⟩ := Option.bind_eq_some_iff.mp h
    obtain ⟨d, hd, -⟩ := Option.map_eq_some_iff.mp hm
    intro x hx
    -- the first character is a digit, and so are the others
    rcases List.mem_cons.mp hx with rfl | hx
    · rw [hd]
      rfl
    · exact ih hrest x hx

/-- The 32-bit integer of a number in range is that number. -/
theorem toInt_of_int32OfInt? {i : Int} {j : Int32} (h : Text.int32OfInt? i = some j) :
    i = j.toInt := by
  unfold Text.int32OfInt? at h
  split at h
  · rename_i hrange
    rw [← Option.some_inj.mp h, Int32.toInt_ofInt_of_le hrange.1 hrange.2]
  · cases h

/-- Digits of ASCII whose value is one. -/
theorem eq_one_of_digitsValue {ds : Text} (hascii : ∀ c ∈ ds, Text.isAsciiDigit c = true)
    (hvalue : Text.digitsValue ds = some 1) : ∃ n, ds = one n := by
  -- the zeros in front
  obtain ⟨n, z, rfl, hhead⟩ : ∃ n z, ds = List.replicate n 0x30 ++ z ∧
      ∀ d r, z = d :: r → d ≠ 0x30 := by
    refine ⟨(ds.takeWhile (· == 0x30)).length, ds.dropWhile (· == 0x30), ?_, ?_⟩
    · have hzeros : ds.takeWhile (· == 0x30) =
          List.replicate (ds.takeWhile (· == 0x30)).length 0x30 :=
        List.eq_replicate_of_mem fun d hd => by simpa using List.mem_takeWhile_imp hd
      rw [← hzeros, List.takeWhile_append_dropWhile]
    · intro d r hd
      have hne := List.head?_dropWhile_not (· == (0x30 : Char16)) ds
      rw [hd] at hne
      simpa using hne
  rw [Text.digitsValue_replicate_append] at hvalue
  obtain ⟨d, r, rfl⟩ : ∃ d r, z = d :: r := by
    cases z with
    | nil => cases hvalue
    | cons d r => exact ⟨d, r, rfl⟩
  have hd : Text.isAsciiDigit d = true :=
    hascii d (List.mem_append_right _ List.mem_cons_self)
  have hd' : 0 < d.toNat - 0x30 := by
    have hne := hhead d r rfl
    unfold Text.isAsciiDigit at hd
    simp only [Bool.and_eq_true, decide_eq_true_eq] at hd
    rw [← BitVec.toNat_ne_iff_ne] at hne
    have h30 : (0x30 : Char16).toNat = 0x30 := rfl
    omega
  -- a digit above 0 makes the value 1 only as the last one
  obtain ⟨hone, rfl⟩ := Text.digitsValue_cons_eq_one (Sqlite3.digitOf_ascii hd) hd' hvalue
  have hd1 : d = 0x31 := by
    rw [← BitVec.toNat_inj]
    have h31 : (0x31 : Char16).toNat = 0x31 := rfl
    omega
  exact ⟨n, by rw [hd1, one]⟩

namespace Sqlite3

/-- Digits without a base prefix are read as a decimal number. -/
theorem getInt32_of_digits {c : Char16} {rest : Text} (hc : Text.isAsciiDigit c = true)
    (hx : ∀ x ∈ rest, x ≠ 0x78 ∧ x ≠ 0x58) : getInt32 (c :: rest) = getDecimal false (c :: rest) := by
  unfold getInt32
  split
  · rename_i r heq
    injection heq with h
    rw [h] at hc
    exact absurd hc (by decide)
  · rename_i r heq
    injection heq with h
    rw [h] at hc
    exact absurd hc (by decide)
  -- the prefix of a hexadecimal number
  · rename_i x h r heq
    injection heq with _ hrest
    have hne := hx x (hrest ▸ List.mem_cons_self)
    rw [if_neg (fun h => h.1.elim hne.1 hne.2)]
  · rfl

/-- SQLite reads a number one as the numeral without its sign. -/
theorem zRight_one {key value : Text} (hkey : IsFlag key) (h : IsOne value) :
    ∃ n, zRight key value = some (one n) := by
  obtain ⟨n, h⟩ := h
  refine ⟨n, ?_⟩
  obtain ⟨c, rest, hcons⟩ := one_eq_cons n
  have hdigit : ∀ d ∈ c :: rest, Text.isAsciiDigit d = true := by
    intro d hd
    exact isAsciiDigit_of_mem_one (hcons ▸ hd)
  have hc := hdigit c List.mem_cons_self
  have hne : ∀ d ∈ c :: rest, ∀ e : Char16, Text.isAsciiDigit e = false → d ≠ e := by
    rintro d hd e he rfl
    exact Bool.false_ne_true (he.symm.trans (hdigit d hd))
  have hnul : (0 : Char16) ∉ c :: rest := fun hmem => hne 0 hmem 0 (by decide) rfl
  have htokens : tokensFrom 0 (c :: rest) = [⟨.integer, c :: rest⟩] := by
    apply tokensFrom_of_getToken
    rw [getToken_of_digit hc, numberToken_of_digits hdigit]
    rfl
  have hname : dequote (c :: rest) = c :: rest := by
    have hquote := hne c List.mem_cons_self
    rw [dequote, if_neg, if_neg (hquote _ (by decide))]
    exact fun hq => hq.elim (hquote _ (by decide)) fun hq =>
      hq.elim (hquote _ (by decide)) (hquote _ (by decide))
  rw [hcons] at h ⊢
  rcases h with rfl | rfl
  · have hspace : ∀ d ∈ (c :: rest).head?, isSpace d = false := by
      rintro d ⟨⟩
      exact isSpace_of_digitOf (by rw [digitOf_ascii hc]; rfl)
    rw [zRight_eq hkey hnul hspace [⟨.integer, c :: rest⟩] (by rw [htokens]; rfl)]
    show some (dequote (c :: rest)) = _
    rw [hname]
  -- the plus sign is a token of its own
  · have hplus : tokensFrom 0 (0x2B :: c :: rest) = ⟨.plus, [0x2B]⟩ :: tokensFrom 0 (c :: rest) := rfl
    have hnul' : (0 : Char16) ∉ 0x2B :: c :: rest := by
      rw [List.mem_cons, not_or]
      exact ⟨by decide, hnul⟩
    rw [zRight_eq hkey hnul' (by rintro d ⟨⟩; rfl) [⟨.plus, [0x2B]⟩, ⟨.integer, c :: rest⟩]
      (by rw [hplus, htokens]; rfl)]
    rfl

/-- SQLite takes it for true: it skips the zeros, and keeps a byte of the number. -/
theorem atoi_one (n : Nat) : StartsWithDigit (one n) ∧ atoi (one n) % 256 ≠ 0 := by
  obtain ⟨c, rest, hcons⟩ := one_eq_cons n
  have hdigit : ∀ d ∈ c :: rest, Text.isAsciiDigit d = true := by
    intro d hd
    exact isAsciiDigit_of_mem_one (hcons ▸ hd)
  have hc := hdigit c List.mem_cons_self
  -- a digit is no `x`, so the number is read in decimal
  have hhex : ∀ x ∈ rest, x ≠ 0x78 ∧ x ≠ 0x58 := by
    intro x hx
    have hx' := hdigit x (List.mem_cons_of_mem c hx)
    constructor
    · rintro rfl
      exact absurd hx' (by decide)
    · rintro rfl
      exact absurd hx' (by decide)
  -- the zeros in front are passed over
  have hdigits : digits Text.isAsciiDigit 11 (c :: rest) = [0x31] := by
    rw [digits, ← hcons, one, List.dropWhile_append_of_pos]
    · rfl
    · intro x hx
      rw [List.eq_of_mem_replicate hx]
      rfl
  rw [hcons, atoi, getInt32_of_digits hc hhex, getDecimal, hc, hdigits]
  exact ⟨hc, by decide⟩

end Sqlite3

/-- Kotlin reads a number one as 1, with or without the sign. -/
theorem IsOne.toIntOrNull {value : Text} (h : IsOne value) : value.toIntOrNull = some 1 := by
  obtain ⟨n, h⟩ := h
  have hvalue : Text.digitsValue (one n) = some 1 := by
    rw [one, Text.digitsValue_replicate_append]
    rfl
  obtain ⟨c, rest, hcons⟩ := one_eq_cons n
  have hc : Text.isAsciiDigit c = true := isAsciiDigit_of_mem_one (hcons ▸ List.mem_cons_self)
  have hle : ¬ c.toNat < 0x30 := by
    unfold Text.isAsciiDigit at hc
    simp only [Bool.and_eq_true, decide_eq_true_eq] at hc
    omega
  rw [hcons] at h hvalue
  -- without a sign, or with a plus
  rcases h with rfl | rfl
  · rw [Text.toIntOrNull, if_neg hle, hvalue]
    rfl
  · rw [Text.toIntOrNull, if_pos (by decide), if_neg (by simp), if_neg (by decide), if_pos rfl, hvalue]
    rfl

/-- Where native reads a one, there is one to read for SQLite too, or it reads no flag that is on. -/
theorem isOne_or_pragmaFlag {value : Text} (h : value.toIntOrNull = some 1) :
    IsOne value ∨ ∀ key, Sqlite3.IsFlag key → Sqlite3.pragmaFlag key value = false := by
  -- digits of any script, perhaps after a plus sign
  obtain ⟨ds, hds, hvalue⟩ : ∃ ds, (value = ds ∨ value = 0x2B :: ds) ∧
      Text.digitsValue ds = some 1 := by
    have hone {t : Text} {f : Nat → Int} (hf : ∀ n, f n = 1 → n = 1)
        (ht : ((Text.digitsValue t).bind fun n => Text.int32OfInt? (f n)) = some 1) :
        Text.digitsValue t = some 1 := by
      obtain ⟨n, hn, hint⟩ := Option.bind_eq_some_iff.mp ht
      rw [hn, hf n (toInt_of_int32OfInt? hint)]
    cases value with
    | nil => cases h
    | cons c rest =>
      rw [Text.toIntOrNull] at h
      split_ifs at h with hlow hnil hminus hplus
      · exact absurd (hone (fun n hn => by omega) h) (by
          obtain ⟨n, hn, hint⟩ := Option.bind_eq_some_iff.mp h
          have hneg : -(n : Int) = 1 := toInt_of_int32OfInt? hint
          omega)
      · exact ⟨rest, Or.inr (by rw [hplus]), hone (fun n hn => by omega) h⟩
      · exact ⟨c :: rest, Or.inl rfl, hone (fun n hn => by omega) h⟩
  have hdigits := digitOf_of_mem hvalue
  by_cases hascii : ∀ c ∈ ds, Text.isAsciiDigit c = true
  · obtain ⟨n, rfl⟩ := eq_one_of_digitsValue hascii hvalue
    exact Or.inl ⟨n, hds⟩
  right
  intro key hkey
  rw [← Bool.not_eq_true, Sqlite3.pragmaFlag_eq_true_iff]
  rintro ⟨z, hz, htrue⟩
  have hsome : ∃ u ∈ ds, Text.isAsciiDigit u = false := by
    simpa using hascii
  have hnul : (0 : Char16) ∉ ds := fun hmem => absurd (hdigits 0 hmem) (by decide)
  have hnul' : (0 : Char16) ∉ 0x2B :: ds := by
    rw [List.mem_cons, not_or]
    exact ⟨by decide, hnul⟩
  have hspace : ∀ c ∈ ds.head?, Sqlite3.isSpace c = false := fun c hc =>
    Sqlite3.isSpace_of_digitOf (hdigits c (List.mem_of_mem_head? hc))
  obtain ⟨c, rest, rfl⟩ : ∃ c rest, ds = c :: rest := by
    cases ds with
    | nil => cases hvalue
    | cons c rest => exact ⟨c, rest, rfl⟩
  have hplus : Sqlite3.tokensFrom 0 (0x2B :: c :: rest) =
      ⟨.plus, [0x2B]⟩ :: Sqlite3.tokensFrom 0 (c :: rest) := rfl
  by_cases hc : Text.isAsciiDigit c = true
  · -- the number is illegal, and so is the statement
    obtain ⟨text, ts, htokens⟩ := Sqlite3.tokensFrom_of_illegal hdigits hc hsome
    rcases hds with rfl | rfl
    · rw [Sqlite3.zRight_eq hkey hnul hspace _ rfl, htokens] at hz
      exact Option.some_ne_none z (show none = some z from hz).symm
    · rw [Sqlite3.zRight_eq hkey hnul' (by rintro d ⟨⟩; rfl) _ rfl, hplus, htokens] at hz
      exact Option.some_ne_none z (show none = some z from hz).symm
  · -- an identifier, which is no flag, and cannot have a sign
    have hc' := Bool.eq_false_iff.mpr hc
    obtain ⟨hge, -⟩ := Sqlite3.not_ascii_of_digitOf (hdigits c List.mem_cons_self) hc'
    obtain ⟨type, htokens, hblank, hvalue?, hsigned⟩ := Sqlite3.tokensFrom_of_not_ascii hdigits hc'
    rcases hds with rfl | rfl
    · rw [Sqlite3.zRight_eq hkey hnul hspace _ rfl, htokens, Sqlite3.significant_cons hblank] at hz
      obtain ⟨r, hr, hrz⟩ := Option.bind_eq_some_iff.mp hz
      split at hrz
      · rw [← Option.some_inj.mp hrz, hvalue? r hr] at htrue
        exact Sqlite3.not_flag_of_not_ascii hge htrue
      · cases hrz
    · rw [Sqlite3.zRight_eq hkey hnul' (by rintro d ⟨⟩; rfl) _ rfl, hplus, htokens,
        Sqlite3.significant_cons rfl, Sqlite3.significant_cons hblank] at hz
      rw [show Sqlite3.significant [] = [] from rfl, hsigned] at hz
      cases hz

/-! ## Agreement -/

/-- The values of a flag that mean the same on both platforms; `z` is what SQLite makes of the value in
its statement. -/
structure SameFlag (key value : Text) : Prop where
  /-- A true integer is a one after zeros. -/
  integer : ∀ z ∈ Sqlite3.zRight key value, Sqlite3.StartsWithDigit z → Sqlite3.atoi z % 256 ≠ 0 →
    IsOne value
  /-- So is a one: it has no digits of other scripts. -/
  one : value.toIntOrNull = some 1 → IsOne value
  /-- The words are `true` in lower case and `on`, as they are. -/
  yes : ∀ z ∈ Sqlite3.zRight key value, z.lowerAscii ≠ Text.lit "yes"
  true : ∀ z ∈ Sqlite3.zRight key value, z.lowerAscii = Text.lit "true" → value = Text.lit "true"
  on : ∀ z ∈ Sqlite3.zRight key value, z.lowerAscii = Text.lit "on" →
    value.lowerAscii = Text.lit "on"

/-- The words that native knows stand for themselves in a statement. -/
theorem zRight_of_word {key value : Text} (hkey : Sqlite3.IsFlag key)
    (h : value = Text.lit "true" ∨ value.lowerAscii = Text.lit "on") :
    Sqlite3.zRight key value = some value := by
  rcases h with rfl | h
  · rcases hkey with rfl | rfl <;> decide
  · obtain ⟨a, b, rfl⟩ : ∃ a b, value = [a, b] := by
      have hlen := congrArg List.length h
      rw [Text.lowerAscii, List.length_map] at hlen
      exact List.length_eq_two.mp hlen
    -- a letter has two cases, so there are four spellings of the word
    have hcase : ∀ c u : Char16, (if 0x41 ≤ c.toNat ∧ c.toNat ≤ 0x5A then c + 0x20 else c) = u →
        c = u ∨ c = u - 0x20 := by
      intro c u hc
      split_ifs at hc
      · right
        bv_omega
      · exact Or.inl hc
    injection h with ha h
    injection h with hb
    rcases hcase _ _ ha with rfl | rfl <;> rcases hcase _ _ hb with rfl | rfl <;>
      rcases hkey with rfl | rfl <;> decide

/-- Native reads a flag as SQLite does, exactly for the values of `SameFlag`. -/
theorem readFlag_eq_pragmaFlag_iff {key : Text} (hkey : Sqlite3.IsFlag key) (value : Text) :
    Native.readFlag value = Sqlite3.pragmaFlag key value ↔ SameFlag key value := by
  have hword : ∀ z ∈ Sqlite3.zRight key value, z.lowerAscii = Text.lit "on" ∨
      z.lowerAscii = Text.lit "yes" ∨ z.lowerAscii = Text.lit "true" →
      Sqlite3.pragmaFlag key value = true := fun z hz h =>
    (Sqlite3.pragmaFlag_eq_true_iff key value).mpr ⟨z, hz, Or.inr h⟩
  rw [Bool.eq_iff_iff, Native.readFlag_eq_true_iff]
  constructor
  · intro h
    -- what native takes for true, when SQLite does
    have hnative : ∀ z ∈ Sqlite3.zRight key value, Sqlite3.pragmaFlag key value = true →
        z = value ∧ (value = Text.lit "true" ∨ value.lowerAscii = Text.lit "on") ∨
          IsOne value ∧ Sqlite3.StartsWithDigit z := by
      intro z hz hflag
      rcases h.mpr hflag with hv | hv | hv
      · rw [zRight_of_word hkey (Or.inl hv)] at hz
        exact Or.inl ⟨(Option.some_inj.mp hz).symm, Or.inl hv⟩
      · rcases isOne_or_pragmaFlag hv with hone | hoff
        · obtain ⟨n, hn⟩ := Sqlite3.zRight_one hkey hone
          rw [hn] at hz
          exact Or.inr ⟨hone, Option.some_inj.mp hz ▸ (Sqlite3.atoi_one n).1⟩
        · exact absurd hflag (by rw [hoff key hkey]; exact Bool.false_ne_true)
      · rw [zRight_of_word hkey (Or.inr hv)] at hz
        exact Or.inl ⟨(Option.some_inj.mp hz).symm, Or.inr hv⟩
    refine ⟨fun z hz hd ha => ?_, fun h1 => ?_, fun z hz hw => ?_, fun z hz hw => ?_,
      fun z hz hw => ?_⟩
    · -- SQLite reads a true integer, which is neither of the words
      have hflag := (Sqlite3.pragmaFlag_eq_true_iff key value).mpr ⟨z, hz, Or.inl ⟨hd, ha⟩⟩
      rcases hnative z hz hflag with ⟨rfl, rfl | hv⟩ | ⟨hone, -⟩
      · exact absurd hd (by unfold Sqlite3.StartsWithDigit; decide)
      · exact absurd hv (Sqlite3.lowerAscii_ne_of_digit hd rfl)
      · exact hone
    · -- native reads a 1
      refine (isOne_or_pragmaFlag h1).resolve_right fun hoff => ?_
      exact Bool.false_ne_true ((hoff key hkey).symm.trans (h.mp (Or.inr (Or.inl h1))))
    · -- `yes` is no flag for native
      rcases hnative z hz (hword z hz (Or.inr (Or.inl hw))) with ⟨rfl, rfl | hv⟩ | ⟨-, hd⟩
      · exact absurd hw (by decide)
      · exact absurd (hw.symm.trans hv) (by decide)
      · exact absurd hw (Sqlite3.lowerAscii_ne_of_digit hd rfl)
    · -- `true` has to be in lower case
      rcases hnative z hz (hword z hz (Or.inr (Or.inr hw))) with ⟨rfl, rfl | hv⟩ | ⟨-, hd⟩
      · rfl
      · exact absurd (hw.symm.trans hv) (by decide)
      · exact absurd hw (Sqlite3.lowerAscii_ne_of_digit hd rfl)
    · -- `on` has to stand there as it is
      rcases hnative z hz (hword z hz (Or.inl hw)) with ⟨rfl, rfl | hv⟩ | ⟨-, hd⟩
      · exact absurd hw (by decide)
      · exact hv
      · exact absurd hw (Sqlite3.lowerAscii_ne_of_digit hd rfl)
  · intro h
    constructor
    · rintro (hv | hv | hv)
      · have hz := zRight_of_word hkey (Or.inl hv)
        exact hword value hz (Or.inr (Or.inr (by rw [hv]; rfl)))
      · obtain ⟨n, hn⟩ := Sqlite3.zRight_one hkey (h.one hv)
        exact (Sqlite3.pragmaFlag_eq_true_iff key value).mpr
          ⟨one n, hn, Or.inl (Sqlite3.atoi_one n)⟩
      · exact hword value (zRight_of_word hkey (Or.inr hv)) (Or.inl hv)
    · intro hflag
      obtain ⟨z, hz, ⟨hd, ha⟩ | hw | hw | hw⟩ := (Sqlite3.pragmaFlag_eq_true_iff key value).mp hflag
      · exact Or.inr (Or.inl (h.integer z hz hd ha).toIntOrNull)
      · exact Or.inr (Or.inr (h.on z hz hw))
      · exact absurd hw (h.yes z hz)
      · exact Or.inl (h.true z hz hw)

/--
**Native flags.** For every value put under `foreign_keys` or `recursive_triggers`, native
derives the flag that SQLite reads from the `PRAGMA` statement with the value if and only if the value
is one of `SameFlag`.
-/
theorem native_flags_iff (pragmas : Pragmas) (value : Text) :
    ((Native.foreignKeys (pragmas.put (Text.lit "foreign_keys") value)).1 =
        Sqlite3.pragmaFlag (Text.lit "foreign_keys") value ↔
      SameFlag (Text.lit "foreign_keys") value) ∧
      ((Native.recursiveTriggers (pragmas.put (Text.lit "recursive_triggers") value)).1 =
        Sqlite3.pragmaFlag (Text.lit "recursive_triggers") value ↔
      SameFlag (Text.lit "recursive_triggers") value) := by
  -- both flags are taken in the same way
  have htake : ∀ name, (Native.takeFlag name (pragmas.put name value)).1 =
      Native.readFlag value := by
    intro name
    unfold Native.takeFlag
    rw [LinkedMap.get?_put, if_pos rfl]
    rfl
  unfold Native.foreignKeys Native.recursiveTriggers
  rw [htake, htake]
  exact ⟨readFlag_eq_pragmaFlag_iff (Or.inl rfl) value, readFlag_eq_pragmaFlag_iff (Or.inr rfl) value⟩

/-- `yes`, and a one with a blank before it or `on` in quotes, turn the foreign keys on for SQLite and
leave them off on native. -/
theorem native_flags_fail_yes :
    ([Text.lit "yes", Text.lit " 1", Text.lit "'on'"].map fun value =>
      ((Native.foreignKeys (LinkedMap.empty.put (Text.lit "foreign_keys") value)).1,
        Sqlite3.pragmaFlag (Text.lit "foreign_keys") value)) =
      [(false, true), (false, true), (false, true)] := by
  decide

end SqliteMc

import SqliteMc.Lib.Text
import Mathlib.Tactic.NormNum

/-!
# UTF-8, base 16, base 64 and line breaks

Encodings between bytes and UTF-16 text. `Utf8.encode` writes a text as bytes. `Base64` is
what a client may rely on: an encoder and a decoder with their laws, as fields.
`Base64.rfc4648` is the encoding of RFC 4648 with its standard alphabet, which satisfies them.
`Text.breakLines` is the output feed that breaks lines, and `withoutBreaks_breakLines` says
that a reader who ignores the breaks gets the text back.
-/

abbrev Octet := BitVec 8

/-! ## Line breaks -/

namespace Text

def newline : Char16 := 0x0A

/-- An output feed that writes a line break before each character that follows a full
line, when `count` characters of the current line are written already. -/
def breakLines (interval : Nat) : Nat → Text → Text
  | _, [] => []
  | count, c :: rest =>
    if count = interval then newline :: c :: breakLines interval 1 rest
    else c :: breakLines interval (count + 1) rest

def withoutBreaks (t : Text) : Text := t.filter (· != newline)

@[simp] theorem withoutBreaks_cons_newline (t : Text) :
    withoutBreaks (newline :: t) = withoutBreaks t := rfl

theorem withoutBreaks_cons {c : Char16} (h : c ≠ newline) (t : Text) :
    withoutBreaks (c :: t) = c :: withoutBreaks t := by
  simp [withoutBreaks, h]

/-- Taking out the breaks undoes putting them in. -/
theorem withoutBreaks_breakLines {interval : Nat} {t : Text} (h : newline ∉ t) (count : Nat) :
    withoutBreaks (breakLines interval count t) = t := by
  induction t generalizing count with
  | nil => rfl
  | cons c rest ih =>
    rw [List.mem_cons, not_or] at h
    have hc : c ≠ newline := Ne.symm h.1
    rw [breakLines]
    split
    · rw [withoutBreaks_cons_newline, withoutBreaks_cons hc, ih h.2]
    · rw [withoutBreaks_cons hc, ih h.2]

/-- Breaking lines adds newlines only. -/
theorem mem_breakLines {interval count : Nat} {t : Text} {c : Char16}
    (h : c ∈ breakLines interval count t) : c = newline ∨ c ∈ t := by
  induction t generalizing count with
  | nil => simp [breakLines] at h
  | cons d rest ih =>
    rw [breakLines] at h
    split at h
    -- a break is put in front of the character, or it is not
    · rcases List.mem_cons.mp h with rfl | h
      · exact Or.inl rfl
      · rcases List.mem_cons.mp h with rfl | h
        · exact Or.inr List.mem_cons_self
        · exact (ih h).imp_right (List.mem_cons_of_mem d)
    · rcases List.mem_cons.mp h with rfl | h
      · exact Or.inr List.mem_cons_self
      · exact (ih h).imp_right (List.mem_cons_of_mem d)

/-- What fits on the current line is written as it is. -/
theorem breakLines_append {interval count : Nat} {s : Text} (h : count + s.length ≤ interval)
    (t : Text) :
    breakLines interval count (s ++ t) = s ++ breakLines interval (count + s.length) t := by
  induction s generalizing count with
  | nil => rfl
  | cons c rest ih =>
    rw [List.length_cons] at h
    have hne : count ≠ interval := by omega
    rw [List.cons_append, breakLines, if_neg hne, ih (by omega), List.length_cons,
      List.cons_append, show count + 1 + rest.length = count + (rest.length + 1) by omega]

/-- A text no longer than a line is left whole. -/
theorem breakLines_eq_self {interval : Nat} {t : Text} (h : t.length ≤ interval) :
    breakLines interval 0 t = t := by
  have := breakLines_append (show 0 + t.length ≤ interval by omega) []
  rwa [List.append_nil, breakLines, List.append_nil] at this

/-- Breaks and separators do not meet: a text is split the same way with and without its
line breaks. -/
theorem map_withoutBreaks_splitOn {sep : Char16} (hsep : sep ≠ newline) (t : Text) :
    (t.splitOn sep).map withoutBreaks = (withoutBreaks t).splitOn sep := by
  induction t with
  | nil => rfl
  | cons c rest ih =>
    obtain ⟨first, others, hrest⟩ := List.exists_cons_of_ne_nil (List.splitOn_ne_nil sep rest)
    rw [List.splitOn_cons_eq_if_modifyHead]
    -- a separator begins a part of its own, anything else goes to the first part
    by_cases hc : c = sep
    · subst hc
      rw [withoutBreaks_cons hsep, List.splitOn_cons_eq_if_modifyHead, beq_self_eq_true,
        if_pos rfl, if_pos rfl, List.map_cons, ih]
      rfl
    · have hbeq : (c == sep) = false := by simpa using hc
      rw [hbeq, if_neg Bool.false_ne_true, hrest, List.modifyHead_cons, List.map_cons]
      rw [hrest, List.map_cons] at ih
      by_cases hbreak : c = newline
      · -- a break is dropped on both sides
        rw [hbreak, withoutBreaks_cons_newline, withoutBreaks_cons_newline, ih]
      · rw [withoutBreaks_cons hbreak, withoutBreaks_cons hbreak,
          List.splitOn_cons_eq_if_modifyHead, hbeq, if_neg Bool.false_ne_true, ← ih,
          List.modifyHead_cons]

/-- Each segment followed by a separator. -/
def terminated (sep : Char16) (segments : List Text) : Text := segments.flatMap (· ++ [sep])

/-- The first segment ends at the first separator. -/
theorem splitOn_append_cons {sep : Char16} {s : Text} (h : sep ∉ s) (t : Text) :
    (s ++ sep :: t).splitOn sep = s :: t.splitOn sep := by
  induction s with
  | nil =>
    rw [List.nil_append, List.splitOn_cons_eq_if_modifyHead, beq_self_eq_true, if_pos rfl]
  | cons c rest ih =>
    rw [List.mem_cons, not_or] at h
    have hbeq : (c == sep) = false := by simpa using Ne.symm h.1
    rw [List.cons_append, List.splitOn_cons_eq_if_modifyHead, hbeq, if_neg Bool.false_ne_true,
      ih h.2, List.modifyHead_cons]

/-- The first segment is what stands in front of the first separator. -/
theorem head?_splitOn (sep : Char16) (t : Text) :
    (t.splitOn sep).head? = some (t.takeWhile (· != sep)) := by
  induction t with
  | nil => rfl
  | cons c rest ih =>
    rw [List.splitOn_cons_eq_if_modifyHead, List.takeWhile_cons]
    -- at a separator the first segment ends; any other character stands at its head
    by_cases hc : c = sep
    · have hbeq : (c == sep) = true := by simpa using hc
      rw [bne, hbeq]
      rfl
    · have hbeq : (c == sep) = false := by simpa using hc
      rw [bne, hbeq, if_neg Bool.false_ne_true, List.head?_modifyHead, ih]
      rfl

/-- A reader who splits at the separators gets the segments and an empty rest. -/
theorem splitOn_terminated {sep : Char16} {segments : List Text} (h : ∀ s ∈ segments, sep ∉ s) :
    (terminated sep segments).splitOn sep = segments ++ [[]] := by
  induction segments with
  | nil => rfl
  | cons s rest ih =>
    have hrest := ih fun x hx => h x (List.mem_cons_of_mem s hx)
    have hcons : terminated sep (s :: rest) = s ++ sep :: terminated sep rest := by
      simp [terminated]
    rw [hcons, splitOn_append_cons (h s List.mem_cons_self), hrest, List.cons_append]

/-- A terminated list of segments consists of them and of separators. -/
theorem mem_terminated {sep c : Char16} {segments : List Text} (h : c ∈ terminated sep segments) :
    c = sep ∨ ∃ s ∈ segments, c ∈ s := by
  obtain ⟨s, hs, hc⟩ := List.mem_flatMap.mp h
  rcases List.mem_append.mp hc with hc | hc
  · exact Or.inr ⟨s, hs, hc⟩
  · exact Or.inl (List.mem_singleton.mp hc)

end Text

/-! ## UTF-8 -/

namespace Utf8

/-- A byte with the six bits of a number from a position on. -/
def tail (n shift : Nat) : Octet := BitVec.ofNat 8 (0x80 + n / 2 ^ shift % 64)

/-- The bytes of a number that is no surrogate, up to the size of a code unit. -/
def unit (n : Nat) : List Octet :=
  if n < 0x80 then [BitVec.ofNat 8 n]
  else if n < 0x800 then [BitVec.ofNat 8 (0xC0 + n / 64), tail n 0]
  else [BitVec.ofNat 8 (0xE0 + n / 4096), tail n 6, tail n 0]

/-- The bytes of a pair of surrogates. -/
def pair (high low : Char16) : List Octet :=
  let n := 0x10000 + (high.toNat - 0xD800) * 1024 + (low.toNat - 0xDC00)
  [BitVec.ofNat 8 (0xF0 + n / 262144), tail n 12, tail n 6, tail n 0]

def isHigh (c : Char16) : Bool := decide (0xD800 ≤ c.toNat ∧ c.toNat < 0xDC00)

def isLow (c : Char16) : Bool := decide (0xDC00 ≤ c.toNat ∧ c.toNat < 0xE000)

/-- A code unit on its own; the platforms differ in what they write for a surrogate. -/
def single (unpaired : List Octet) (c : Char16) : List Octet :=
  if isHigh c || isLow c then unpaired else unit c.toNat

/-- The bytes of a text, with `unpaired` for each surrogate that has no partner. -/
def encode (unpaired : List Octet) : Text → List Octet
  | [] => []
  | [c] => single unpaired c
  | c :: d :: rest =>
    if isHigh c && isLow d then pair c d ++ encode unpaired rest
    else single unpaired c ++ encode unpaired (d :: rest)

/-- Nothing else is encoded to nothing than the empty text. -/
theorem encode_ne_nil {unpaired : List Octet} (h : unpaired ≠ []) {t : Text} (ht : t ≠ []) :
    encode unpaired t ≠ [] := by
  have hsingle (c : Char16) : single unpaired c ≠ [] := by
    unfold single unit
    split_ifs <;> first | exact h | exact List.cons_ne_nil _ _
  -- as `encode` splits: a pair becomes four bytes, anything else goes through `single`
  match t with
  | [] => exact absurd rfl ht
  | [c] => exact hsingle c
  | c :: d :: rest =>
    rw [encode]
    split
    · exact List.cons_ne_nil _ _
    · exact List.append_ne_nil_of_left_ne_nil (hsingle c) _

example : encode [0x3F] [0x61, 0xE9, 0x20AC, 0xD83D, 0xDE00, 0xD83D] =
    [0x61, 0xC3, 0xA9, 0xE2, 0x82, 0xAC, 0xF0, 0x9F, 0x98, 0x80, 0x3F] := by decide

end Utf8

/-! ## Base 16 -/

namespace Base16

def digit (n : Nat) : Char16 :=
  if n < 10 then BitVec.ofNat 16 (0x30 + n) else BitVec.ofNat 16 (0x37 + n)

def encode (bytes : List Octet) : Text :=
  bytes.flatMap fun b => [digit (b.toNat / 16), digit (b.toNat % 16)]

/-- A decimal digit or one of `A` to `F`. -/
def IsDigit (c : Char16) : Prop := (0x30 ≤ c.toNat ∧ c.toNat ≤ 0x39) ∨ (0x41 ≤ c.toNat ∧ c.toNat ≤ 0x46)

/-- Each of the sixteen digits is an upper-case hexadecimal digit. -/
theorem isDigit_digit {n : Nat} (h : n < 16) : IsDigit (digit n) := by
  unfold IsDigit digit
  split <;> simp only [BitVec.toNat_ofNat] <;> omega

/-- An encoding consists of hexadecimal digits. -/
theorem isDigit_of_mem_encode {bytes : List Octet} {c : Char16} (h : c ∈ encode bytes) :
    IsDigit c := by
  obtain ⟨b, -, hc⟩ := List.mem_flatMap.mp h
  have hb := b.isLt
  rcases List.mem_cons.mp hc with rfl | hc
  · exact isDigit_digit (by omega)
  · rw [List.mem_singleton.mp hc]
    exact isDigit_digit (by omega)

theorem length_encode (bytes : List Octet) : (encode bytes).length = 2 * bytes.length := by
  induction bytes with
  | nil => rfl
  | cons b rest ih =>
    have hcons : encode (b :: rest) = digit (b.toNat / 16) :: digit (b.toNat % 16) :: encode rest :=
      rfl
    rw [hcons, List.length_cons, List.length_cons, ih, List.length_cons]
    omega

theorem encode_append (a b : List Octet) : encode (a ++ b) = encode a ++ encode b :=
  List.flatMap_append

theorem isAscii_encode (bytes : List Octet) : (encode bytes).IsAscii := by
  intro c hc
  have := isDigit_of_mem_encode hc
  unfold IsDigit at this
  omega

/-- The value of a digit, in either letter case. -/
def value (c : Char16) : Option Nat :=
  let n := c.toNat
  if 0x30 ≤ n ∧ n ≤ 0x39 then some (n - 0x30)
  else if 0x41 ≤ n ∧ n ≤ 0x46 then some (n - 0x37)
  else if 0x61 ≤ n ∧ n ≤ 0x66 then some (n - 0x57)
  else none

/-- Two digits for each byte, nothing else. -/
def decode : Text → Option (List Octet)
  | [] => some []
  | hi :: lo :: rest => do
    let h ← value hi
    let l ← value lo
    let bytes ← decode rest
    some (BitVec.ofNat 8 (16 * h + l) :: bytes)
  | _ => none

/-- The value of a digit is the number it was made of. -/
theorem value_digit {n : Nat} (h : n < 16) : value (digit n) = some n := by
  unfold value digit
  split
  · rw [BitVec.toNat_ofNat, if_pos (by omega)]
    exact congrArg some (by omega)
  · rw [BitVec.toNat_ofNat, if_neg (by omega), if_pos (by omega)]
    exact congrArg some (by omega)

/-- Decoding undoes encoding: the two digits of a byte are its halves. -/
theorem decode_encode (bytes : List Octet) : decode (encode bytes) = some bytes := by
  induction bytes with
  | nil => rfl
  | cons b rest ih =>
    have hb := b.isLt
    have hcons : encode (b :: rest) = digit (b.toNat / 16) :: digit (b.toNat % 16) :: encode rest :=
      rfl
    -- the two halves make up the byte again
    have hbyte : BitVec.ofNat 8 (16 * (b.toNat / 16) + b.toNat % 16) = b := by
      rw [Nat.div_add_mod, BitVec.ofNat_toNat, BitVec.setWidth_eq]
    rw [hcons, decode, value_digit (by omega), value_digit (by omega), ih]
    simp only [Option.bind_eq_bind, Option.bind_some, hbyte]

end Base16

/-! ## Base 64 -/

/-- The characters a base 64 encoder writes: letters, digits, `+`, `/` and `=`. -/
def IsBase64Symbol (c : Char16) : Prop :=
  (0x41 ≤ c.toNat ∧ c.toNat ≤ 0x5A) ∨ (0x61 ≤ c.toNat ∧ c.toNat ≤ 0x7A) ∨
    (0x2F ≤ c.toNat ∧ c.toNat ≤ 0x39) ∨ c.toNat = 0x2B ∨ c.toNat = 0x3D

/-- A base 64 encoder and decoder. -/
structure Base64 where
  encode : List Octet → Text
  /-- `none` when the decoder rejects the text. -/
  decode : Text → Option (List Octet)
  encode_nil : encode [] = []
  isSymbol_of_mem : ∀ bytes, ∀ c ∈ encode bytes, IsBase64Symbol c
  /-- Decoding gives the encoded bytes back and ignores line breaks. -/
  decode_of_withoutBreaks : ∀ bytes t, Text.withoutBreaks t = encode bytes → decode t = some bytes

namespace Base64

/-- The encoding of at least one byte is not empty. -/
theorem encode_ne_nil (B : Base64) {bytes : List Octet} (h : bytes ≠ []) : B.encode bytes ≠ [] := by
  intro hnil
  have h1 : B.decode [] = some bytes := B.decode_of_withoutBreaks bytes [] hnil.symm
  have h2 : B.decode [] = some [] := B.decode_of_withoutBreaks [] [] B.encode_nil.symm
  rw [h1, Option.some_inj] at h2
  exact h h2

/-- What is no symbol of the alphabet does not occur in an encoding. -/
theorem ne_of_mem_encode (B : Base64) {bytes : List Octet} {c d : Char16} (h : c ∈ B.encode bytes)
    (hd : ¬ IsBase64Symbol d) : c ≠ d := by
  rintro rfl
  exact hd (B.isSymbol_of_mem bytes c h)

/-! ### The standard alphabet -/

namespace Rfc4648

def pad : Char16 := 0x3D

/-- The symbol of a 6-bit value. -/
def symbol (n : Nat) : Char16 :=
  if n < 26 then BitVec.ofNat 16 (0x41 + n)
  else if n < 52 then BitVec.ofNat 16 (0x47 + n)
  else if n < 62 then BitVec.ofNat 16 (n - 4)
  else if n = 62 then 0x2B
  else 0x2F

/-- The 6-bit value of a symbol. -/
def value (c : Char16) : Option Nat :=
  let n := c.toNat
  if 0x41 ≤ n ∧ n ≤ 0x5A then some (n - 0x41)
  else if 0x61 ≤ n ∧ n ≤ 0x7A then some (n - 0x47)
  else if 0x30 ≤ n ∧ n ≤ 0x39 then some (n + 4)
  else if n = 0x2B then some 62
  else if n = 0x2F then some 63
  else none

/-- Three bytes at a time, four symbols each; a shorter last group is padded. -/
def encode : List Octet → Text
  | [] => []
  | [a] => [symbol (a.toNat / 4), symbol (a.toNat % 4 * 16), pad, pad]
  | [a, b] =>
    [symbol (a.toNat / 4), symbol (a.toNat % 4 * 16 + b.toNat / 16), symbol (b.toNat % 16 * 4), pad]
  | a :: b :: c :: rest =>
    symbol (a.toNat / 4) :: symbol (a.toNat % 4 * 16 + b.toNat / 16) ::
      symbol (b.toNat % 16 * 4 + c.toNat / 64) :: symbol (c.toNat % 64) :: encode rest

/-- Four symbols at a time; padding only in the last group. -/
def decodeGroups : Text → Option (List Octet)
  | [] => some []
  | s0 :: s1 :: s2 :: s3 :: rest => do
    let v0 ← value s0
    let v1 ← value s1
    let a := BitVec.ofNat 8 (v0 * 4 + v1 / 16)
    -- a padded group holds one byte, or two
    if s2 = pad then
      if s3 = pad ∧ rest = [] then some [a] else none
    else
      let v2 ← value s2
      let b := BitVec.ofNat 8 (v1 % 16 * 16 + v2 / 4)
      if s3 = pad then
        if rest = [] then some [a, b] else none
      else
        let v3 ← value s3
        let bytes ← decodeGroups rest
        some (a :: b :: BitVec.ofNat 8 (v2 % 4 * 64 + v3) :: bytes)
  | _ => none

def decode (t : Text) : Option (List Octet) := decodeGroups (Text.withoutBreaks t)

/-- The alphabet's five ranges, as the characters stand in them. -/
theorem symbol_cases {n : Nat} (h : n < 64) :
    (n < 26 ∧ (symbol n).toNat = 0x41 + n) ∨ (26 ≤ n ∧ n < 52 ∧ (symbol n).toNat = 0x47 + n) ∨
      (52 ≤ n ∧ n < 62 ∧ (symbol n).toNat = n - 4) ∨ (n = 62 ∧ (symbol n).toNat = 0x2B) ∨
      (n = 63 ∧ (symbol n).toNat = 0x2F) := by
  unfold symbol
  split_ifs with h1 h2 h3 h4
  · exact Or.inl ⟨h1, by simp only [BitVec.toNat_ofNat]; omega⟩
  · exact Or.inr (Or.inl ⟨by omega, h2, by simp only [BitVec.toNat_ofNat]; omega⟩)
  · exact Or.inr (Or.inr (Or.inl ⟨by omega, h3, by simp only [BitVec.toNat_ofNat]; omega⟩))
  · exact Or.inr (Or.inr (Or.inr (Or.inl ⟨h4, rfl⟩)))
  · exact Or.inr (Or.inr (Or.inr (Or.inr ⟨by omega, rfl⟩)))

/-- Each of the sixty-four symbols belongs to the alphabet. -/
theorem isSymbol_symbol {n : Nat} (h : n < 64) : IsBase64Symbol (symbol n) := by
  have := symbol_cases h
  unfold IsBase64Symbol
  omega

/-- The value of a symbol is the number it was made of. -/
theorem value_symbol {n : Nat} (h : n < 64) : value (symbol n) = some n := by
  unfold value
  -- one case for each range of the alphabet
  rcases symbol_cases h with ⟨h1, h2⟩ | ⟨h1, h1', h2⟩ | ⟨h1, h1', h2⟩ | ⟨h1, h2⟩ | ⟨h1, h2⟩
  · rw [h2, if_pos (by omega)]
    simp
  · rw [h2, if_neg (by omega), if_pos (by omega)]
    simp
  · rw [h2, if_neg (by omega), if_neg (by omega), if_pos (by omega)]
    exact congrArg some (by omega)
  · rw [h2, h1]
    rfl
  · rw [h2, h1]
    rfl

/-- The padding is no symbol. -/
theorem symbol_ne_pad {n : Nat} (h : n < 64) : symbol n ≠ pad := by
  intro heq
  have hpad : (symbol n).toNat = 0x3D := by rw [heq]; rfl
  have := symbol_cases h
  omega

/-- Every character of an encoding is a symbol of the alphabet or the padding. -/
theorem isSymbol_of_mem_encode (bytes : List Octet) : ∀ c ∈ encode bytes, IsBase64Symbol c := by
  have hpad : IsBase64Symbol pad := by
    unfold IsBase64Symbol pad
    decide
  induction bytes using encode.induct with
  | case1 => simp [encode]
  -- groups of one byte and of two end in padding
  | case2 a =>
    have ha := a.isLt
    simp only [encode, List.forall_mem_cons]
    exact ⟨isSymbol_symbol (by omega), isSymbol_symbol (by omega), hpad, hpad, by simp⟩
  | case3 a b =>
    have ha := a.isLt
    have hb := b.isLt
    simp only [encode, List.forall_mem_cons]
    exact ⟨isSymbol_symbol (by omega), isSymbol_symbol (by omega), isSymbol_symbol (by omega),
      hpad, by simp⟩
  | case4 a b c rest ih =>
    have ha := a.isLt
    have hb := b.isLt
    have hc := c.isLt
    simp only [encode, List.forall_mem_cons]
    exact ⟨isSymbol_symbol (by omega), isSymbol_symbol (by omega), isSymbol_symbol (by omega),
      isSymbol_symbol (by omega), ih⟩

private theorem ofNat_eq_octet {n : Nat} {b : Octet} (h : n = b.toNat) : BitVec.ofNat 8 n = b := by
  rw [h, BitVec.ofNat_toNat, BitVec.setWidth_eq]

/-- Groups of three bytes come back from their four symbols, the last group with its padding. -/
theorem decodeGroups_encode (bytes : List Octet) : decodeGroups (encode bytes) = some bytes := by
  induction bytes using encode.induct with
  | case1 => rfl
  | case2 a =>
    -- one octet: two symbols and two pads
    have ha := a.isLt
    have h1 : BitVec.ofNat 8 (a.toNat / 4 * 4 + a.toNat % 4 * 16 / 16) = a :=
      ofNat_eq_octet (by omega)
    rw [encode, decodeGroups, value_symbol (by omega), value_symbol (by omega)]
    simp only [Option.bind_eq_bind, Option.bind_some, if_true, and_self, h1]
  | case3 a b =>
    -- two octets: three symbols and a pad
    have ha := a.isLt
    have hb := b.isLt
    have h1 : BitVec.ofNat 8 (a.toNat / 4 * 4 + (a.toNat % 4 * 16 + b.toNat / 16) / 16) = a :=
      ofNat_eq_octet (by omega)
    have h2 : BitVec.ofNat 8
        ((a.toNat % 4 * 16 + b.toNat / 16) % 16 * 16 + b.toNat % 16 * 4 / 4) = b :=
      ofNat_eq_octet (by omega)
    have h3 : symbol (b.toNat % 16 * 4) ≠ pad := symbol_ne_pad (by omega)
    rw [encode, decodeGroups, value_symbol (by omega), value_symbol (by omega),
      value_symbol (by omega)]
    simp only [Option.bind_eq_bind, Option.bind_some, if_neg h3, if_true, h1, h2]
  | case4 a b c rest ih =>
    -- three octets: the bits of the middle ones are spread over two symbols
    have ha := a.isLt
    have hb := b.isLt
    have hc := c.isLt
    have h1 : BitVec.ofNat 8 (a.toNat / 4 * 4 + (a.toNat % 4 * 16 + b.toNat / 16) / 16) = a :=
      ofNat_eq_octet (by omega)
    have h2 : BitVec.ofNat 8 ((a.toNat % 4 * 16 + b.toNat / 16) % 16 * 16 +
        (b.toNat % 16 * 4 + c.toNat / 64) / 4) = b := ofNat_eq_octet (by omega)
    have h3 : BitVec.ofNat 8 ((b.toNat % 16 * 4 + c.toNat / 64) % 4 * 64 + c.toNat % 64) = c :=
      ofNat_eq_octet (by omega)
    have h4 : symbol (b.toNat % 16 * 4 + c.toNat / 64) ≠ pad := symbol_ne_pad (by omega)
    have h5 : symbol (c.toNat % 64) ≠ pad := symbol_ne_pad (by omega)
    rw [encode, decodeGroups, value_symbol (by omega), value_symbol (by omega),
      value_symbol (by omega), value_symbol (by omega), ih]
    simp only [Option.bind_eq_bind, Option.bind_some, if_neg h4, if_neg h5, h1, h2, h3]

end Rfc4648

/-- Base 64 as RFC 4648 defines it, with a decoder that skips line breaks. -/
def rfc4648 : Base64 where
  encode := Rfc4648.encode
  decode := Rfc4648.decode
  encode_nil := rfl
  isSymbol_of_mem := Rfc4648.isSymbol_of_mem_encode
  decode_of_withoutBreaks := fun bytes t h => by
    rw [Rfc4648.decode, h, Rfc4648.decodeGroups_encode]

end Base64

import Mathlib.Data.Nat.Digits.Defs
import Mathlib.Data.Int.Basic
import Mathlib.Data.List.TakeWhile
import Mathlib.Tactic.Ring

/-!
# UTF-16 text

Strings as the JVM languages have them: sequences of 16-bit code units, with
no requirement that surrogates are paired. Lean's `String` cannot hold a lone
surrogate, so text is a list of `BitVec 16`; `lit` turns an ASCII literal into
one.

The integer functions follow the documented behaviour of `toString` and
`toIntOrNull`: decimal digits with an optional sign, any Unicode decimal digit
accepted on the way in, and `none` outside the 32-bit range.
`toIntOrNull_ofInt32` is the round trip.
-/

/-- A UTF-16 code unit. -/
abbrev Char16 := BitVec 16

/-- A string: any sequence of code units. -/
abbrev Text := List Char16

namespace Text

/-- The text of a literal (for the ASCII literals programs are written with). -/
def lit (s : String) : Text := s.toList.map fun c => BitVec.ofNat 16 c.toNat

/-- Every code unit is below `0x80`. -/
def IsAscii (t : Text) : Prop := ∀ c ∈ t, c.toNat < 0x80

theorem isAscii_of_all {t : Text} (h : t.all (fun c => decide (c.toNat < 0x80)) = true) :
    IsAscii t := fun c hc => of_decide_eq_true (List.all_eq_true.mp h c hc)

@[simp] theorem isAscii_nil : IsAscii [] := by simp [IsAscii]

@[simp] theorem isAscii_cons (c : Char16) (t : Text) :
    IsAscii (c :: t) ↔ c.toNat < 0x80 ∧ IsAscii t := by
  simp [IsAscii]

@[simp] theorem isAscii_append (s t : Text) : IsAscii (s ++ t) ↔ IsAscii s ∧ IsAscii t := by
  simp only [IsAscii, List.mem_append]
  exact ⟨fun h => ⟨fun c hc => h c (Or.inl hc), fun c hc => h c (Or.inr hc)⟩,
    fun h c hc => hc.elim (h.1 c) (h.2 c)⟩

/-! ## Letter case and blanks -/

/-- Comparison of code units ignoring case, as `Char.equals(other, ignoreCase = true)`
decides it when `b` is ASCII: equal upper case or equal lower case forms. Besides
the ASCII letters, the long s, the Kelvin sign and the two Turkish letters i have
an ASCII case partner. -/
def charEqualsIgnoreCase (a b : Char16) : Bool :=
  a == b || fold a == fold b
where
  fold (c : Char16) : Char16 :=
    if 0x41 ≤ c.toNat ∧ c.toNat ≤ 0x5A then c + 0x20
    else if c = 0x017F then 0x73
    else if c = 0x212A then 0x6B
    else if c = 0x0130 ∨ c = 0x0131 then 0x69
    else c

/-- `String.equals(other, ignoreCase = true)` against an ASCII text. -/
def equalsIgnoreCase (s t : Text) : Bool :=
  s.length == t.length && (s.zip t).all fun p => charEqualsIgnoreCase p.1 p.2

@[simp] theorem equalsIgnoreCase_refl (t : Text) : t.equalsIgnoreCase t = true := by
  simp only [equalsIgnoreCase, beq_self_eq_true, Bool.true_and, List.all_eq_true]
  intro p hp
  -- both sides of each pair are one character
  have : p.1 = p.2 := by
    induction t with
    | nil => simp at hp
    | cons c rest ih =>
      rw [List.zip_cons_cons, List.mem_cons] at hp
      rcases hp with rfl | hp
      · rfl
      · exact ih hp
  simp [charEqualsIgnoreCase, this]

/-- `Char.isWhitespace`. -/
def isWhitespace (c : Char16) : Bool :=
  let n := c.toNat
  (9 ≤ n && n ≤ 13) || (28 ≤ n && n ≤ 32) || n == 0xA0 || n == 0x1680 ||
    (0x2000 ≤ n && n ≤ 0x200A) || n == 0x2028 || n == 0x2029 || n == 0x202F ||
    n == 0x205F || n == 0x3000

/-- `CharSequence.isBlank`. -/
def isBlank (t : Text) : Bool := t.all isWhitespace

/-- A character that is no white space makes a text no blank. -/
theorem isBlank_cons_of_not_whitespace {c : Char16} (h : isWhitespace c = false) (t : Text) :
    isBlank (c :: t) = false := by
  simp [isBlank, h]

/-! ## Lines -/

/-- `CharSequence.lines`: a line ends at a line feed, at a carriage return or at the two
together. -/
def lines : Text → List Text
  | [] => [[]]
  | [c] => if c = 0x0A ∨ c = 0x0D then [[], []] else [[c]]
  | c :: d :: rest =>
    -- the pair is one line end
    if c = 0x0D ∧ d = 0x0A then [] :: lines rest
    else if c = 0x0A ∨ c = 0x0D then [] :: lines (d :: rest)
    else (lines (d :: rest)).modifyHead (c :: ·)

theorem length_lines_pos (t : Text) : 0 < t.lines.length := by
  fun_induction lines t with
  | case1 => decide
  | case2 c h => exact Nat.zero_lt_two
  | case3 c h => exact Nat.one_pos
  | case4 c d rest h ih => exact Nat.succ_pos _
  | case5 c d rest h h' ih => exact Nat.succ_pos _
  | case6 c d rest h h' ih => rwa [List.length_modifyHead]

/-- A text is a single line when no line ends in it. -/
theorem length_lines_eq_one_iff (t : Text) :
    t.lines.length = 1 ↔ ∀ c ∈ t, c ≠ 0x0A ∧ c ≠ 0x0D := by
  fun_induction lines t with
  | case1 => simp
  | case2 c h =>
    have hnot : ¬ (c ≠ 0x0A ∧ c ≠ 0x0D) := fun hne => h.elim hne.1 hne.2
    simpa using hnot
  | case3 c h => simpa using not_or.mp h
  | case4 c d rest h ih =>
    -- a carriage return and a line feed end one line, and another one follows
    have hpos := length_lines_pos rest
    have hlen : ([] :: lines rest).length ≠ 1 := by
      rw [List.length_cons]
      omega
    refine iff_of_false hlen fun hall => ?_
    exact (hall c List.mem_cons_self).2 h.1
  | case5 c d rest h h' ih =>
    -- so does one of the two alone
    have hpos := length_lines_pos (d :: rest)
    have hlen : ([] :: lines (d :: rest)).length ≠ 1 := by
      rw [List.length_cons]
      omega
    refine iff_of_false hlen fun hall => ?_
    obtain ⟨hlf, hcr⟩ := hall c List.mem_cons_self
    exact h'.elim hlf hcr
  | case6 c d rest h h' ih =>
    rw [List.length_modifyHead, ih, List.forall_mem_cons (a := c)]
    exact (and_iff_right (not_or.mp h')).symm

/-! ## Trimming -/

/-- Without the whitespace at the end. -/
def trimEnd (t : Text) : Text := (t.reverse.dropWhile isWhitespace).reverse

/-- `CharSequence.trim`. -/
def trim (t : Text) : Text := trimEnd (t.dropWhile isWhitespace)

/-- What is in front of a text that is not blank is not trimmed. -/
theorem trimEnd_append (s : Text) {t : Text} (h : t.isBlank = false) :
    trimEnd (s ++ t) = s ++ trimEnd t := by
  have hne : (t.reverse.dropWhile isWhitespace).isEmpty = false := by
    rw [List.isEmpty_eq_false_iff, Ne, List.dropWhile_eq_nil_iff]
    intro hall
    have hblank : t.isBlank = true := List.all_eq_true.mpr fun c hc =>
      hall c (List.mem_reverse.mpr hc)
    exact Bool.false_ne_true (h.symm.trans hblank)
  rw [trimEnd, List.reverse_append, List.dropWhile_append, hne, if_neg Bool.false_ne_true,
    List.reverse_append, List.reverse_reverse]
  rfl

/-- White space at the end goes, and anything else stays with all in front of it. -/
theorem trimEnd_concat (s : Text) (c : Char16) :
    trimEnd (s ++ [c]) = if isWhitespace c then trimEnd s else s ++ [c] := by
  rw [trimEnd, List.reverse_append, List.reverse_singleton, List.singleton_append,
    List.dropWhile_cons]
  split
  · rfl
  · rw [List.reverse_cons, List.reverse_reverse]

/-- Trimming leaves a start of the text. -/
theorem isPrefix_trimEnd (t : Text) : trimEnd t <+: t := by
  rw [← List.reverse_suffix, trimEnd, List.reverse_reverse]
  exact List.dropWhile_suffix _

/-- Nothing is trimmed off a text that does not end in whitespace. -/
theorem trimEnd_eq_self_iff (t : Text) :
    trimEnd t = t ↔ ∀ c ∈ t.getLast?, isWhitespace c = false := by
  rcases t.eq_nil_or_concat with rfl | ⟨s, c, rfl⟩
  · simp [trimEnd]
  · rw [List.concat_eq_append, trimEnd_concat, List.getLast?_concat]
    by_cases hc : isWhitespace c = true
    · rw [if_pos hc]
      -- whitespace at the end: what is trimmed is shorter
      refine iff_of_false (fun h => ?_) (fun h => ?_)
      · have hle := (isPrefix_trimEnd s).length_le
        rw [h, List.length_append, List.length_singleton] at hle
        omega
      · exact Bool.false_ne_true ((h c rfl).symm.trans hc)
    · rw [if_neg hc]
      refine iff_of_true rfl ?_
      rintro d ⟨⟩
      exact Bool.eq_false_iff.mpr hc

/-! ## C strings -/

/-- What a C function reads of a text: everything before the first NUL. -/
def cString (t : Text) : Text := t.takeWhile (· != 0)

/-- Without a zero a text is read as a whole. -/
theorem cString_eq_self {t : Text} (h : 0 ∉ t) : cString t = t := by
  rw [cString, List.takeWhile_eq_self_iff]
  intro c hc
  have hne : c ≠ 0 := fun h0 => h (h0 ▸ hc)
  simpa using hne

theorem length_cString_lt {t : Text} (h : 0 ∈ t) : (cString t).length < t.length := by
  have hle : (cString t).length ≤ t.length := (List.takeWhile_prefix _).length_le
  refine lt_of_le_of_ne hle fun heq => ?_
  have hself := (List.takeWhile_prefix (· != 0)).eq_of_length heq
  rw [List.takeWhile_eq_self_iff] at hself
  exact absurd (hself 0 h) (by decide)

/-- What stands behind a zero is not read. -/
theorem cString_append {s : Text} (h : 0 ∈ s) (t : Text) : cString (s ++ t) = cString s := by
  have hne : (List.takeWhile (· != 0) s).length ≠ s.length := Nat.ne_of_lt (length_cString_lt h)
  rw [cString, List.takeWhile_append, if_neg hne, cString]

theorem length_cString_cons_le (c : Char16) (t : Text) :
    (cString (c :: t)).length ≤ (cString t).length + 1 := by
  rw [cString, List.takeWhile_cons]
  split
  · exact Nat.le_refl _
  · exact Nat.zero_le _

/-- The lower case of the ASCII letters; C functions compare names by it. -/
def lowerAscii (t : Text) : Text :=
  t.map fun c => if 0x41 ≤ c.toNat ∧ c.toNat ≤ 0x5A then c + 0x20 else c

/-- `0` to `9`. -/
def isAsciiDigit (c : Char16) : Bool := 0x30 ≤ c.toNat && c.toNat ≤ 0x39

/-! ## Substrings -/

/-- `String.startsWith(prefix, ignoreCase = true)`. -/
def startsWithIgnoreCase (t start : Text) : Bool :=
  equalsIgnoreCase (t.take start.length) start

/-- `String.substringAfter(delimiter)`: what follows the first delimiter, or all of it. -/
def substringAfter (d : Char16) (t : Text) : Text :=
  match t.dropWhile (· != d) with
  | [] => t
  | _ :: rest => rest

/-- `String.substringBeforeLast(delimiter)`: what precedes the last delimiter, or all of it. -/
def substringBeforeLast (d : Char16) (t : Text) : Text :=
  match t.reverse.dropWhile (· != d) with
  | [] => t
  | _ :: rest => rest.reverse

/-- Dropping up to a delimiter that does not occur earlier. -/
private theorem dropWhile_append_cons {d : Char16} {s : Text} (h : d ∉ s) (t : Text) :
    (s ++ d :: t).dropWhile (· != d) = d :: t := by
  induction s with
  | nil => simp
  | cons c rest ih =>
    rw [List.mem_cons, not_or] at h
    have hc : (c != d) = true := by simpa using Ne.symm h.1
    simp only [List.cons_append, List.dropWhile_cons, hc, if_true]
    exact ih h.2

/-- What stands behind the first delimiter. -/
theorem substringAfter_append {d : Char16} {s : Text} (h : d ∉ s) (t : Text) :
    substringAfter d (s ++ d :: t) = t := by
  rw [substringAfter, dropWhile_append_cons h]

/-- What stands in front of the last delimiter. -/
theorem substringBeforeLast_append (s : Text) {d : Char16} {t : Text} (h : d ∉ t) :
    substringBeforeLast d (s ++ d :: t) = s := by
  have hrev : (s ++ d :: t).reverse = t.reverse ++ d :: s.reverse := by simp
  rw [substringBeforeLast, hrev, dropWhile_append_cons (by simpa using h)]
  exact List.reverse_reverse s

/-- A text begins with each of its own starts. -/
theorem startsWithIgnoreCase_append (start t : Text) :
    startsWithIgnoreCase (start ++ t) start = true := by
  rw [startsWithIgnoreCase, List.take_left, equalsIgnoreCase_refl]

/-! ## Decimal integers -/

def digitChar (d : Nat) : Char16 := BitVec.ofNat 16 (0x30 + d)

/-- The decimal digits of a natural number. -/
def ofNat (n : Nat) : Text :=
  if n = 0 then [0x30] else (Nat.digits 10 n).reverse.map digitChar

/-- `Int.toString`. -/
def ofInt (i : Int) : Text := if i < 0 then 0x2D :: ofNat i.natAbs else ofNat i.natAbs

/-- `Int.toString` of a 32-bit integer. -/
def ofInt32 (i : Int32) : Text := ofInt i.toInt

/-- The code units of the zeros of the BMP's decimal digit blocks. -/
def zeroDigits : List Nat :=
  [0x0030, 0x0660, 0x06F0, 0x07C0, 0x0966, 0x09E6, 0x0A66, 0x0AE6, 0x0B66, 0x0BE6, 0x0C66,
    0x0CE6, 0x0D66, 0x0DE6, 0x0E50, 0x0ED0, 0x0F20, 0x1040, 0x1090, 0x17E0, 0x1810, 0x1946,
    0x19D0, 0x1A80, 0x1A90, 0x1B50, 0x1BB0, 0x1C40, 0x1C50, 0xA620, 0xA8D0, 0xA900, 0xA9D0,
    0xA9F0, 0xAA50, 0xABF0, 0xFF10]

/-- `digitOf(char, 10)`: the value of a decimal digit of any script. -/
def digitOf (c : Char16) : Option Nat :=
  (zeroDigits.find? fun z => z ≤ c.toNat && c.toNat < z + 10).map fun z => c.toNat - z

/-- The number a sequence of digits denotes; `none` at the first non-digit. -/
def digitsValue (t : Text) : Option Nat :=
  t.foldlM (fun n c => (digitOf c).map (10 * n + ·)) 0

/-- The 32-bit integer equal to `i`, if there is one. -/
def int32OfInt? (i : Int) : Option Int32 :=
  if -2 ^ 31 ≤ i ∧ i < 2 ^ 31 then some (Int32.ofInt i) else none

/-- `String.toIntOrNull`. -/
def toIntOrNull : Text → Option Int32
  | [] => none
  | c :: rest =>
    if c.toNat < 0x30 then
      -- possible leading sign
      if rest.isEmpty then none
      else if c = 0x2D then (digitsValue rest).bind fun n => int32OfInt? (-(n : Int))
      else if c = 0x2B then (digitsValue rest).bind fun n => int32OfInt? n
      else none
    else (digitsValue (c :: rest)).bind fun n => int32OfInt? n

/-- The ten digits follow each other in ASCII. -/
theorem toNat_digitChar {d : Nat} (h : d < 10) : (digitChar d).toNat = 0x30 + d := by
  rw [digitChar, BitVec.toNat_ofNat]
  omega

/-- The value of a digit is the number it was made of. -/
theorem digitOf_digitChar {d : Nat} (h : d < 10) : digitOf (digitChar d) = some d := by
  have hz : zeroDigits = 0x30 :: zeroDigits.tail := rfl
  rw [digitOf, toNat_digitChar h, hz, List.find?_cons_of_pos (by simp; omega)]
  simp

/-- Reading back a run of digits, after some have been read already. -/
private theorem foldlM_digitChar (ds : List Nat) (hds : ∀ d ∈ ds, d < 10) (acc : Nat) :
    (ds.map digitChar).foldlM (fun n c => (digitOf c).map (10 * n + ·)) acc =
      some (ds.foldl (fun n d => 10 * n + d) acc) := by
  induction ds generalizing acc with
  | nil => rfl
  | cons d rest ih =>
    have hd : d < 10 := hds d List.mem_cons_self
    rw [List.map_cons, List.foldlM_cons, digitOf_digitChar hd]
    exact ih (fun x hx => hds x (List.mem_cons_of_mem _ hx)) _

/-- The decimal text of a number has its value. -/
theorem digitsValue_ofNat (n : Nat) : digitsValue (ofNat n) = some n := by
  unfold ofNat
  split
  · rename_i h
    subst h
    decide
  · rw [digitsValue, foldlM_digitChar]
    -- the digits are kept lowest first, and written highest first
    · rw [List.foldl_reverse]
      have h : Nat.ofDigits 10 (Nat.digits 10 n) = n := Nat.ofDigits_digits 10 n
      rw [Nat.ofDigits_eq_foldr] at h
      congr 1
      rw [← h]
      congr 1
      · funext d acc
        simp [Nat.add_comm]
      · rw [h]
    · intro d hd
      exact Nat.digits_lt_base (by omega) (List.mem_reverse.mp hd)

/-- The digits of a number start with a digit. -/
theorem ofNat_eq_cons (n : Nat) : ∃ c rest, ofNat n = c :: rest ∧ 0x30 ≤ c.toNat := by
  unfold ofNat
  split
  · exact ⟨0x30, [], rfl, by decide⟩
  · rename_i h
    cases hds : (Nat.digits 10 n).reverse with
    | nil => exact absurd (List.reverse_eq_nil_iff.mp hds) (Nat.digits_ne_nil_iff_ne_zero.mpr h)
    -- the first digit of a number other than zero
    | cons d ds =>
      have hd : d < 10 := Nat.digits_lt_base (b := 10) (m := n) (by omega)
        (List.mem_reverse.mp (hds ▸ List.mem_cons_self))
      exact ⟨digitChar d, ds.map digitChar, rfl, by rw [toNat_digitChar hd]; omega⟩

/-- A 32-bit number is in range. -/
theorem int32OfInt?_toInt (i : Int32) : int32OfInt? i.toInt = some i := by
  have h1 := i.le_toInt
  have h2 := i.toInt_lt
  rw [int32OfInt?, if_pos ⟨h1, h2⟩, Int32.ofInt_toInt]

/-- A number after a minus sign is read as its negation. -/
theorem toIntOrNull_minus (n : Nat) :
    toIntOrNull (0x2D :: ofNat n) = int32OfInt? (-(n : Int)) := by
  obtain ⟨c, rest, hcons, -⟩ := ofNat_eq_cons n
  have hval := digitsValue_ofNat n
  have hsign : (0x2D : Char16).toNat < 0x30 := by decide
  have hne : (ofNat n).isEmpty = false := by rw [hcons]; rfl
  rw [toIntOrNull, if_pos hsign, hne, if_neg Bool.false_ne_true, if_pos rfl, hval,
    Option.bind_some]

/-- An unsigned number is read as itself. -/
theorem toIntOrNull_ofNat (n : Nat) : toIntOrNull (ofNat n) = int32OfInt? n := by
  obtain ⟨c, rest, hcons, hc⟩ := ofNat_eq_cons n
  have hval := digitsValue_ofNat n
  rw [hcons] at hval ⊢
  rw [toIntOrNull, if_neg (Nat.not_lt.mpr hc), hval, Option.bind_some]

/-- Printing and parsing a 32-bit integer gives it back. -/
theorem toIntOrNull_ofInt32 (i : Int32) : toIntOrNull (ofInt32 i) = some i := by
  rw [ofInt32, ofInt]
  split
  · rename_i hneg
    have habs : -(i.toInt.natAbs : Int) = i.toInt := by omega
    rw [toIntOrNull_minus, habs, int32OfInt?_toInt]
  · rename_i hnonneg
    have habs : (i.toInt.natAbs : Int) = i.toInt := by omega
    rw [toIntOrNull_ofNat, habs, int32OfInt?_toInt]

theorem isAscii_ofNat (n : Nat) : IsAscii (ofNat n) := by
  unfold ofNat
  split
  · exact isAscii_of_all rfl
  · intro c hc
    obtain ⟨d, hd, rfl⟩ := List.mem_map.mp hc
    have hlt : d < 10 := Nat.digits_lt_base (b := 10) (m := n) (by omega) (List.mem_reverse.mp hd)
    rw [toNat_digitChar hlt]
    omega

/-- A number does not get smaller by reading on. -/
private theorem le_foldlM_digits {t : Text} {n r : Nat}
    (h : t.foldlM (fun n c => (digitOf c).map (10 * n + ·)) n = some r) : n * 10 ^ t.length ≤ r := by
  induction t generalizing n with
  | nil =>
    rw [List.length_nil, pow_zero, mul_one]
    exact le_of_eq (Option.some_inj.mp h)
  | cons c rest ih =>
    rw [List.foldlM_cons] at h
    -- each digit multiplies what was read by ten and adds to it
    obtain ⟨m, hm, hrest⟩ := Option.bind_eq_some_iff.mp h
    obtain ⟨d, -, rfl⟩ := Option.map_eq_some_iff.mp hm
    calc n * 10 ^ (rest.length + 1) = 10 * n * 10 ^ rest.length := by ring
      _ ≤ (10 * n + d) * 10 ^ rest.length := Nat.mul_le_mul_right _ (by omega)
      _ ≤ r := ih hrest

/-- A number that starts with a digit other than zero is one only if it has no other digit. -/
theorem digitsValue_cons_eq_one {c : Char16} {rest : Text} {d : Nat} (hd : digitOf c = some d)
    (hpos : 0 < d) (h : digitsValue (c :: rest) = some 1) : d = 1 ∧ rest = [] := by
  rw [digitsValue, List.foldlM_cons, hd] at h
  have hle : (10 * 0 + d) * 10 ^ rest.length ≤ 1 := le_foldlM_digits h
  rcases rest.eq_nil_or_concat with rfl | ⟨init, last, rfl⟩
  · have hone : 10 * 0 + d = 1 := Option.some_inj.mp h
    exact ⟨by omega, rfl⟩
  · -- a second digit makes it ten at least
    rw [List.concat_eq_append] at hle
    have hten : 10 ≤ 10 ^ (init ++ [last]).length := by
      rw [List.length_append, List.length_singleton, pow_succ]
      have := Nat.one_le_pow init.length 10 (by omega)
      omega
    have : 1 * 10 ≤ (10 * 0 + d) * 10 ^ (init ++ [last]).length :=
      Nat.mul_le_mul (by omega) hten
    omega

/-- Leading zeros do not count. -/
theorem digitsValue_replicate_append (n : Nat) (t : Text) :
    digitsValue (List.replicate n 0x30 ++ t) = digitsValue t := by
  induction n with
  | zero => rfl
  | succ n ih =>
    rw [List.replicate_succ, List.cons_append, ← ih]
    rfl

theorem isAscii_ofInt32 (i : Int32) : IsAscii (ofInt32 i) := by
  rw [ofInt32, ofInt]
  split
  · exact (isAscii_cons _ _).mpr ⟨by decide, isAscii_ofNat _⟩
  · exact isAscii_ofNat _

example : toIntOrNull (lit "-2147483648") = some (-2147483648) := by decide

example : toIntOrNull (lit "2147483648") = none := by decide

end Text

import SqliteMc.Lib.Text
import Mathlib.Data.List.Basic
import Mathlib.Data.List.Forall2

/-!
# Searching texts

`contains` ignoring case and `replaceAfter`, as the Kotlin library has them. A pattern is
found in a text where a piece of it `Matches` the pattern, character by character.

* `contains_split` — a pattern is not found across a character that none of its own match.
* `contains_last_iff` — where a pattern can be found whose last character is in the text once.
-/

namespace Text

/-- The same characters, ignoring case. -/
def Matches (m pattern : Text) : Prop :=
  List.Forall₂ (fun c d => charEqualsIgnoreCase c d = true) m pattern

/-- Equality up to case is equality up to case at each position. -/
theorem equalsIgnoreCase_iff (s t : Text) : equalsIgnoreCase s t = true ↔ Matches s t := by
  rw [equalsIgnoreCase, Bool.and_eq_true, beq_iff_eq, List.all_eq_true, Matches,
    List.forall₂_iff_zip]
  exact and_congr_right' ⟨fun h a b hab => h (a, b) hab, fun h p hp => h hp⟩

/-- A character in front of the letters is matched by itself alone. -/
theorem charEqualsIgnoreCase_iff_eq {e : Char16} (he : e.toNat < 0x41) (c : Char16) :
    charEqualsIgnoreCase c e = true ↔ c = e := by
  -- what the folding can come out as is from the letters on
  have hne : ∀ d : Char16, 0x41 ≤ d.toNat → e ≠ d := by
    rintro d hd rfl
    omega
  have hself : charEqualsIgnoreCase.fold e = e := by
    rw [charEqualsIgnoreCase.fold, if_neg (by omega), if_neg (hne 0x017F (by decide)),
      if_neg (hne 0x212A (by decide)), if_neg]
    exact not_or.mpr ⟨hne 0x0130 (by decide), hne 0x0131 (by decide)⟩
  unfold charEqualsIgnoreCase
  rw [Bool.or_eq_true, beq_iff_eq, beq_iff_eq, hself]
  refine ⟨fun h => h.elim id fun h => ?_, Or.inl⟩
  unfold charEqualsIgnoreCase.fold at h
  -- the ways in which `c` can be folded; only the last leaves it as it is
  split_ifs at h with hupper
  · have htoNat : (c + 0x20).toNat = c.toNat + 32 := by
      rw [BitVec.toNat_add]
      exact Nat.mod_eq_of_lt (by simp; omega)
    exact absurd h.symm (hne _ (by omega))
  · exact absurd h.symm (hne _ (by decide))
  · exact absurd h.symm (hne _ (by decide))
  · exact absurd h.symm (hne _ (by decide))
  · exact h

/-- Characters with the same lower case are the same ignoring case. -/
theorem charEqualsIgnoreCase_of_lowerAscii {c d : Char16} (h : lowerAscii [c] = lowerAscii [d]) :
    charEqualsIgnoreCase c d = true := by
  have hlower : (if 0x41 ≤ c.toNat ∧ c.toNat ≤ 0x5A then c + 0x20 else c) =
      if 0x41 ≤ d.toNat ∧ d.toNat ≤ 0x5A then d + 0x20 else d := (List.cons.inj h).1
  have hfold : ∀ a b : Char16, 0x41 ≤ a.toNat ∧ a.toNat ≤ 0x5A → a + 0x20 = b →
      charEqualsIgnoreCase.fold a = charEqualsIgnoreCase.fold b := by
    rintro a b ha rfl
    have htoNat : (a + 0x20).toNat = a.toNat + 32 := by
      rw [BitVec.toNat_add]
      exact Nat.mod_eq_of_lt (by simp; omega)
    -- a lower case letter, so none of the characters beyond ASCII
    have hne : ∀ e : Char16, 0x80 ≤ e.toNat → a + 0x20 ≠ e := by
      rintro e he rfl
      omega
    rw [charEqualsIgnoreCase.fold, if_pos ha, charEqualsIgnoreCase.fold, htoNat,
      if_neg (by omega), if_neg (hne 0x017F (by decide)), if_neg (hne 0x212A (by decide)), if_neg]
    exact not_or.mpr ⟨hne 0x0130 (by decide), hne 0x0131 (by decide)⟩
  unfold charEqualsIgnoreCase
  rw [Bool.or_eq_true, beq_iff_eq, beq_iff_eq]
  -- both upper case, one of them, or none
  split_ifs at hlower with hc hd hd
  · exact Or.inl ((BitVec.add_left_inj 0x20).mp hlower)
  · exact Or.inr (hfold c d hc hlower)
  · exact Or.inr (hfold d c hd hlower.symm).symm
  · exact Or.inl hlower

/-- Texts whose ASCII letters differ in case only match. -/
theorem matches_of_lowerAscii {s t : Text} (h : s.lowerAscii = t.lowerAscii) : Matches s t := by
  induction s generalizing t with
  | nil =>
    match t with
    | [] => exact .nil
  | cons c s ih =>
    match t with
    | d :: t =>
      obtain ⟨hhead, htail⟩ := List.cons.inj h
      exact .cons (charEqualsIgnoreCase_of_lowerAscii (congrArg ([·]) hhead)) (ih htail)

/-- `String.contains(other, ignoreCase = true)`. -/
def containsIgnoreCase (t pattern : Text) : Bool :=
  match t with
  | [] => pattern.isEmpty
  | c :: rest => startsWithIgnoreCase (c :: rest) pattern || containsIgnoreCase rest pattern

/-- `String.replaceAfter(delimiter, "")`: the text up to the first delimiter, or all of it. -/
def replaceAfter (d : Char16) : Text → Text
  | [] => []
  | c :: rest => if c = d then [c] else c :: replaceAfter d rest

/-! ## The start of a text -/

/-- A text begins with a pattern when some start of it matches the pattern. -/
theorem startsWith_iff (t pattern : Text) :
    startsWithIgnoreCase t pattern = true ↔ ∃ m rest, t = m ++ rest ∧ Matches m pattern := by
  rw [startsWithIgnoreCase, equalsIgnoreCase_iff]
  constructor
  · exact fun h => ⟨_, _, (List.take_append_drop pattern.length t).symm, h⟩
  · rintro ⟨m, rest, rfl, h⟩
    have hlength : m.length = pattern.length := h.length_eq
    rwa [← hlength, List.take_left]

/-- What two texts have in common in front of the pattern does not count. -/
theorem startsWith_append_append (s t pattern : Text) :
    startsWithIgnoreCase (s ++ t) (s ++ pattern) = startsWithIgnoreCase t pattern := by
  -- what both begin with compares equal character by character
  have hfront : ∀ m p : Text, equalsIgnoreCase (s ++ m) (s ++ p) = equalsIgnoreCase m p := by
    intro m p
    rw [Bool.eq_iff_iff, equalsIgnoreCase_iff, equalsIgnoreCase_iff, Matches, Matches]
    induction s with
    | nil => rfl
    | cons c s ih =>
      rw [List.cons_append, List.cons_append, List.forall₂_cons, ih]
      exact and_iff_right (by simp [charEqualsIgnoreCase])
  rw [startsWithIgnoreCase, startsWithIgnoreCase, List.length_append, List.take_length_add_append,
    hfront]

/-- What matches a pattern of two parts has two parts that match them. -/
theorem Matches.split {m start pattern : Text} (h : Matches m (start ++ pattern)) :
    ∃ m' m'', m = m' ++ m'' ∧ Matches m' start ∧ Matches m'' pattern :=
  ⟨_, _, (List.take_append_drop start.length m).symm, List.forall₂_take_append _ _ _ h,
    List.forall₂_drop_append _ _ _ h⟩

/-- Matches can be put one behind the other. -/
theorem Matches.append {m m' pattern pattern' : Text} (h : Matches m pattern)
    (h' : Matches m' pattern') : Matches (m ++ m') (pattern ++ pattern') :=
  List.rel_append h h'

/-- A character that no character of the pattern matches is not in what does. -/
theorem Matches.not_mem {m pattern : Text} (h : Matches m pattern) {c : Char16}
    (hc : pattern.any (charEqualsIgnoreCase c) = false) : c ∉ m := by
  induction h with
  | nil => exact List.not_mem_nil
  | cons hab _ ih =>
    rw [List.any_cons, Bool.or_eq_false_iff] at hc
    rw [List.mem_cons, not_or]
    refine ⟨?_, ih hc.2⟩
    rintro rfl
    exact Bool.false_ne_true (hc.1.symm.trans hab)

/-- A piece without the character ends in front of it. -/
theorem eq_append_of_not_mem {c : Char16} {s t m rest : Text} (hm : c ∉ m)
    (h : s ++ c :: t = m ++ rest) : ∃ r, s = m ++ r ∧ rest = r ++ c :: t := by
  obtain ⟨r, hsplit, hcons⟩ | ⟨r, hsplit, hrest⟩ := List.append_eq_append_iff.mp h
  · match r with
    | [] => exact ⟨[], by rw [hsplit, List.append_nil, List.append_nil], hcons.symm⟩
    | d :: r =>
      have hd : c = d := (List.cons.inj hcons).1
      rw [hsplit, hd] at hm
      exact absurd (List.mem_append_right s List.mem_cons_self) hm
  · exact ⟨r, hsplit, hrest⟩

/-- A character that the pattern cannot match ends the look at the text. -/
theorem startsWith_append_cons {c : Char16} {pattern : Text}
    (hc : pattern.any (charEqualsIgnoreCase c) = false) (s t : Text) :
    startsWithIgnoreCase (s ++ c :: t) pattern = startsWithIgnoreCase s pattern := by
  rw [Bool.eq_iff_iff, startsWith_iff, startsWith_iff]
  constructor
  · rintro ⟨m, rest, hsplit, h⟩
    obtain ⟨r, hr, -⟩ := eq_append_of_not_mem (h.not_mem hc) hsplit
    exact ⟨m, r, hr, h⟩
  · rintro ⟨m, rest, rfl, h⟩
    exact ⟨m, rest ++ c :: t, List.append_assoc _ _ _, h⟩

/-- A first character that does not match settles the question. -/
theorem startsWith_cons_eq_false {c d : Char16} (h : charEqualsIgnoreCase c d = false)
    (t pattern : Text) : startsWithIgnoreCase (c :: t) (d :: pattern) = false := by
  rw [← Bool.not_eq_true, startsWith_iff]
  rintro ⟨m, rest, hsplit, hm⟩
  obtain ⟨c', m', hc, -, rfl⟩ := List.forall₂_cons_right_iff.mp hm
  rw [← (List.cons.inj hsplit).1, h] at hc
  exact Bool.false_ne_true hc

/-- Beginning with a pattern does not depend on what follows. -/
theorem startsWith_append {t pattern : Text} (h : startsWithIgnoreCase t pattern = true)
    (rest : Text) : startsWithIgnoreCase (t ++ rest) pattern = true := by
  rw [startsWith_iff] at h ⊢
  obtain ⟨m, r, rfl, hm⟩ := h
  exact ⟨m, r ++ rest, List.append_assoc _ _ _, hm⟩

/-! ## Anywhere in a text -/

/-- A text contains a pattern when some part of it matches the pattern. -/
theorem contains_iff (t pattern : Text) :
    containsIgnoreCase t pattern = true ↔ ∃ s m rest, t = s ++ (m ++ rest) ∧ Matches m pattern := by
  induction t with
  | nil =>
    rw [containsIgnoreCase, List.isEmpty_iff]
    constructor
    · rintro rfl
      exact ⟨[], [], [], rfl, .nil⟩
    · rintro ⟨s, m, rest, hsplit, h⟩
      have hm : m = [] := (List.append_eq_nil_iff.mp (List.append_eq_nil_iff.mp hsplit.symm).2).1
      rw [hm] at h
      exact List.forall₂_nil_left_iff.mp h
  | cons c t ih =>
    rw [containsIgnoreCase, Bool.or_eq_true, ih, startsWith_iff]
    constructor
    · rintro (⟨m, rest, hsplit, h⟩ | ⟨s, m, rest, hsplit, h⟩)
      · exact ⟨[], m, rest, hsplit, h⟩
      · exact ⟨c :: s, m, rest, congrArg (c :: ·) hsplit, h⟩
    · rintro ⟨s, m, rest, hsplit, h⟩
      -- the match begins here, or further on
      match s with
      | [] => exact Or.inl ⟨m, rest, hsplit, h⟩
      | d :: s => exact Or.inr ⟨s, m, rest, (List.cons.inj hsplit).2, h⟩

/-- A pattern stays contained whatever is put around the text. -/
theorem contains_append_append {t pattern : Text} (h : containsIgnoreCase t pattern = true)
    (s rest : Text) : containsIgnoreCase (s ++ (t ++ rest)) pattern = true := by
  rw [contains_iff] at h ⊢
  obtain ⟨s', m, rest', rfl, hm⟩ := h
  exact ⟨s ++ s', m, rest' ++ rest, by simp only [List.append_assoc], hm⟩

/-- A longer pattern is not found where its end is not. -/
theorem contains_of_contains_append {t start pattern : Text}
    (h : containsIgnoreCase t (start ++ pattern) = true) : containsIgnoreCase t pattern = true := by
  rw [contains_iff] at h ⊢
  obtain ⟨s, m, rest, rfl, hm⟩ := h
  obtain ⟨m', m'', rfl, -, hm''⟩ := hm.split
  exact ⟨s ++ m', m'', rest, by simp only [List.append_assoc], hm''⟩

/-- A character that the pattern cannot match divides the text for the search. -/
theorem contains_split {c : Char16} {pattern : Text}
    (hc : pattern.any (charEqualsIgnoreCase c) = false) (hne : pattern ≠ []) (s t : Text) :
    containsIgnoreCase (s ++ c :: t) pattern =
      (containsIgnoreCase s pattern || containsIgnoreCase t pattern) := by
  rw [Bool.eq_iff_iff, Bool.or_eq_true, contains_iff, contains_iff, contains_iff]
  constructor
  · rintro ⟨s', m, rest, hsplit, h⟩
    have hm := h.not_mem hc
    obtain ⟨r, hs', hcons⟩ | ⟨r, hs, hrest⟩ := List.append_eq_append_iff.mp hsplit
    · -- what was found starts behind the first part: with the character, or after it
      match r with
      | [] =>
        match m with
        | [] => exact absurd (List.forall₂_nil_left_iff.mp h) hne
        | d :: m =>
          have hd : c = d := (List.cons.inj hcons).1
          rw [hd] at hm
          exact absurd List.mem_cons_self hm
      | d :: r => exact Or.inr ⟨r, m, rest, (List.cons.inj hcons).2, h⟩
    · -- it starts in the first part, and so it ends there
      obtain ⟨r', hr, -⟩ := eq_append_of_not_mem hm hrest.symm
      exact Or.inl ⟨s', m, r', by rw [hs, hr], h⟩
  -- either part has its place in the whole
  · rintro (⟨s', m, rest, rfl, h⟩ | ⟨s', m, rest, rfl, h⟩)
    · exact ⟨s', m, rest ++ c :: t, by simp only [List.append_assoc], h⟩
    · exact ⟨s ++ c :: s', m, rest, by simp only [List.append_assoc, List.cons_append], h⟩

/-- A pattern is found at its last character. -/
theorem contains_last_iff {e : Char16} (he : e.toNat < 0x41) {s t : Text} (hs : e ∉ s)
    (ht : e ∉ t) (start : Text) :
    containsIgnoreCase (s ++ e :: t) (start ++ [e]) = true ↔
      ∃ front m, s = front ++ m ∧ Matches m start := by
  rw [contains_iff]
  constructor
  · rintro ⟨front, m, rest, hsplit, h⟩
    obtain ⟨m', m'', rfl, hm', hm''⟩ := h.split
    obtain ⟨c, r, hc, hr, rfl⟩ := List.forall₂_cons_right_iff.mp hm''
    rw [List.forall₂_nil_right_iff.mp hr, (charEqualsIgnoreCase_iff_eq he c).mp hc] at hsplit
    -- the last character of the match can only be this `e`
    have hsplit' : s ++ e :: t = (front ++ m') ++ e :: rest := by
      rw [hsplit]
      simp only [List.append_assoc, List.cons_append, List.nil_append]
    exact ⟨front, m', ((List.append_cons_inj_of_notMem hs ht).mp hsplit').1, hm'⟩
  · rintro ⟨front, m, rfl, h⟩
    refine ⟨front, m ++ [e], t, ?_, h.append (.cons ((charEqualsIgnoreCase_iff_eq he e).mpr rfl) .nil)⟩
    simp only [List.append_assoc, List.cons_append, List.nil_append]

/-! ## Replacing -/

/-- The replacement starts behind the first delimiter, so a start without one is kept. -/
theorem replaceAfter_append {d : Char16} {s : Text} (h : d ∉ s) (t : Text) :
    replaceAfter d (s ++ t) = s ++ replaceAfter d t := by
  induction s with
  | nil => rfl
  | cons c s ih =>
    rw [List.mem_cons, not_or] at h
    rw [List.cons_append, replaceAfter, if_neg (Ne.symm h.1), ih h.2]
    rfl

/-- Nothing is left of what follows a text with the delimiter in it. -/
theorem replaceAfter_of_mem {d : Char16} {s : Text} (h : d ∈ s) (t : Text) :
    replaceAfter d (s ++ t) = replaceAfter d s := by
  induction s with
  | nil => exact absurd h List.not_mem_nil
  | cons c s ih =>
    rw [List.cons_append, replaceAfter, replaceAfter]
    by_cases hc : c = d
    · rw [if_pos hc, if_pos hc]
    · rw [if_neg hc, if_neg hc, ih ((List.mem_cons.mp h).resolve_left (Ne.symm hc))]

end Text

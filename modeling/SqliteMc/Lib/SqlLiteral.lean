import SqliteMc.Lib.Text
import Mathlib.Data.List.Basic

/-!
# SQL string literals

How a text is written as a single-quoted SQL literal, and how a tokenizer reads such a
literal back: a quote inside is doubled, and a NUL ends the input. By the rule of quoted texts
alone reading what was written gives every text back (`readQuoted_escape`); as an argument or at
the end of a statement it does so exactly when the text has no NUL (`argument?_literal`,
`value?_append_literal`).
-/

namespace SqlLiteral

def quote : Char16 := 0x27

/-- Every quote doubled. -/
def escape (t : Text) : Text := t.flatMap fun c => if c = quote then [quote, quote] else [c]

@[simp] theorem escape_nil : escape [] = [] := rfl

/-- A quote is doubled. -/
theorem escape_cons_quote (t : Text) : escape (quote :: t) = quote :: quote :: escape t := rfl

theorem escape_cons {c : Char16} (h : c ≠ quote) (t : Text) : escape (c :: t) = c :: escape t := by
  simp [escape, h]

/-- Escaping brings in no characters and takes none out. -/
@[simp] theorem mem_escape {c : Char16} {t : Text} : c ∈ escape t ↔ c ∈ t := by
  rw [escape, List.mem_flatMap]
  constructor
  · rintro ⟨d, hd, hc⟩
    split at hc
    · rename_i hquote
      simp only [List.mem_cons, List.not_mem_nil, or_false, or_self] at hc
      rwa [hc, ← hquote]
    · rwa [List.mem_singleton.mp hc]
  · intro hc
    refine ⟨c, hc, ?_⟩
    split
    · rename_i hquote
      rw [hquote]
      exact List.mem_cons_self
    · exact List.mem_singleton_self c

/-! ## The rule of quoted texts

The rule alone, without the end of the input that a NUL is: the quote that opened the text
closes it, and stands for itself where it is doubled. -/

/-- The value and the rest of a text whose opening quote `q` has been read. -/
def readQuoted (q : Char16) : Text → Option (Text × Text)
  | [] => none
  | [c] => if c = q then some ([], []) else none
  | c :: d :: rest =>
    if c = q then
      if d = q then (readQuoted q rest).map fun r => (q :: r.1, r.2) else some ([], d :: rest)
    else (readQuoted q (d :: rest)).map fun r => (c :: r.1, r.2)

/-- The value and the rest of a text that starts with the quote `q`. -/
def literal? (q : Char16) : Text → Option (Text × Text)
  | [] => none
  | c :: rest => if c = q then readQuoted q rest else none

theorem readQuoted_cons {q c : Char16} (h : c ≠ q) {t : Text} (ht : t ≠ []) :
    readQuoted q (c :: t) = (readQuoted q t).map fun r => (c :: r.1, r.2) := by
  obtain ⟨d, rest, rfl⟩ := List.exists_cons_of_ne_nil ht
  rw [readQuoted, if_neg h]

/-- A text without the quote ends at the closing one. -/
theorem readQuoted_of_not_mem {q : Char16} {t : Text} (h : q ∉ t) :
    readQuoted q (t ++ [q]) = some (t, []) := by
  induction t with
  | nil => exact if_pos rfl
  | cons c rest ih =>
    rw [List.mem_cons, not_or] at h
    have hne : rest ++ [q] ≠ [] := List.append_ne_nil_of_right_ne_nil _ (by simp)
    rw [List.cons_append, readQuoted_cons (Ne.symm h.1) hne, ih h.2, Option.map_some]

/-- An escaped text ends at the closing quote: not before it, since the quotes inside come
in pairs, and not after it, since what is left of the text has no unpaired quote. -/
theorem readQuoted_escape (t : Text) : readQuoted quote (escape t ++ [quote]) = some (t, []) := by
  induction t with
  | nil => rfl
  | cons c rest ih =>
    by_cases hq : c = quote
    · rw [hq, escape_cons_quote]
      show readQuoted quote (quote :: quote :: (escape rest ++ [quote])) = _
      rw [readQuoted, if_pos rfl, if_pos rfl, ih, Option.map_some]
    · have hne : escape rest ++ [quote] ≠ [] := List.append_ne_nil_of_right_ne_nil _ (by simp)
      rw [escape_cons hq, List.cons_append, readQuoted_cons hq hne, ih, Option.map_some]

/-- A NUL before the closing quote leaves the literal open. -/
theorem readQuoted_cString_eq_none {t : Text} (h : 0 ∈ t) (rest : Text) :
    readQuoted quote (Text.cString (escape t ++ rest)) = none := by
  unfold Text.cString
  induction t with
  | nil => exact absurd h List.not_mem_nil
  | cons c tail ih =>
    -- the text is cut off at its first NUL
    by_cases h0 : c = 0
    · rw [h0, escape_cons (by decide)]
      rfl
    · have htail : 0 ∈ tail := (List.mem_cons.mp h).resolve_left (Ne.symm h0)
      have hc : (c != 0) = true := by simpa using h0
      by_cases hq : c = quote
      · have hquote : (quote != 0) = true := by decide
        rw [hq, escape_cons_quote]
        simp only [List.cons_append, List.takeWhile_cons, hquote, if_true]
        rw [readQuoted, if_pos rfl, if_pos rfl, ih htail, Option.map_none]
      · rw [escape_cons hq]
        simp only [List.cons_append, List.takeWhile_cons, hc, if_true]
        -- what follows a plain character may be cut off right there
        by_cases hnil : (escape tail ++ rest).takeWhile (· != 0) = []
        · rw [hnil, readQuoted, if_neg hq]
        · rw [readQuoted_cons hq hnil, ih htail, Option.map_none]

/-! ## Arguments -/

def doubleQuote : Char16 := 0x22

/-- The value of a quoted argument that is all there is before the end of the input, a NUL:
both kinds of quotes are read by the same rule. -/
def argument? (t : Text) : Option Text :=
  let input := Text.cString t
  match (literal? quote input).orElse fun _ => literal? doubleQuote input with
  | some (v, []) => some v
  | _ => none

/-- A text without a quote is its own escape. -/
theorem escape_eq_self {t : Text} (h : quote ∉ t) : escape t = t := by
  induction t with
  | nil => rfl
  | cons c rest ih =>
    rw [List.mem_cons, not_or] at h
    rw [escape_cons (Ne.symm h.1), ih h.2]

/-- A literal has the text it was written from as its value, unless a NUL cuts it off. -/
theorem argument?_literal (t : Text) :
    argument? (quote :: escape t ++ [quote]) = if 0 ∈ t then none else some t := by
  have htake : Text.cString (quote :: escape t ++ [quote]) =
      quote :: Text.cString (escape t ++ [quote]) := rfl
  unfold argument?
  simp only [htake, literal?]
  rw [if_pos trivial, if_neg (by decide)]
  -- the SQL text is read up to its first NUL
  by_cases h0 : 0 ∈ t
  · rw [readQuoted_cString_eq_none h0, if_pos h0]
    rfl
  · have hmem : 0 ∉ escape t ++ [quote] := by
      rw [List.mem_append, mem_escape, List.mem_singleton]
      exact fun h => h.elim h0 (by decide)
    rw [Text.cString_eq_self hmem, readQuoted_escape, if_neg h0]
    rfl

/-- The value of the string literal a statement ends with: what stands between the first
quote and the end of the input, read as one literal. -/
def value? (statement : Text) : Option Text := argument? (statement.dropWhile (· != quote))

/-- The literal at the end of a statement has the text it was written from as its value,
unless the text has a NUL. -/
theorem value?_append_literal {pre : Text} (hpre : quote ∉ pre) (t : Text) :
    value? (pre ++ (quote :: escape t ++ [quote])) = if 0 ∈ t then none else some t := by
  -- all that precedes the literal is dropped
  have hdrop : (pre ++ (quote :: escape t ++ [quote])).dropWhile (· != quote) =
      quote :: escape t ++ [quote] := by
    induction pre with
    | nil => simp
    | cons c rest ih =>
      rw [List.mem_cons, not_or] at hpre
      have hc : (c != quote) = true := by simpa using Ne.symm hpre.1
      simp only [List.cons_append, List.dropWhile_cons, hc, if_true]
      exact ih hpre.2
  rw [value?, hdrop, argument?_literal]

/-- Between double quotes a text without them stands for itself. -/
theorem argument?_doubleQuoted {t : Text} (h : doubleQuote ∉ t) (h0 : 0 ∉ t) :
    argument? (doubleQuote :: t ++ [doubleQuote]) = some t := by
  -- no zero ends the statement inside the quotes
  have hmem : 0 ∉ doubleQuote :: (t ++ [doubleQuote]) := by
    rw [List.mem_cons, List.mem_append, List.mem_singleton]
    rintro (h | h | h)
    · exact absurd h (by decide)
    · exact h0 h
    · exact absurd h (by decide)
  unfold argument?
  simp only [List.cons_append, Text.cString_eq_self hmem, literal?]
  rw [if_neg (by decide), if_pos trivial, readQuoted_of_not_mem h]
  rfl

end SqlLiteral

import SqliteMc.Lib.Text
import Mathlib.Data.List.Basic

/-!
# Unix file paths

Paths as `java.io.File` keeps them on Unix: without repeated and trailing slashes. `join` is
what a path of a directory and a name make, and `resolve` is Kotlin's `File.resolve`, which
tells a rooted path from a relative one by rules for all systems: a name without a slash
that ends in a colon counts as rooted, as a drive would be.

* `resolve_name` — resolving a name against a normal absolute directory.
* `join_injective` — the joined path determines the name.
-/

namespace FilePath

def slash : Char16 := 0x2F

def colon : Char16 := 0x3A

/-- No slash is repeated. -/
def collapse : Text → Text
  | [] => []
  | [c] => [c]
  | c :: d :: rest => if c = slash ∧ d = slash then collapse (d :: rest) else c :: collapse (d :: rest)

/-- The path that a `File` has: a trailing slash is dropped, except for the root's. -/
def normalize (t : Text) : Text :=
  if 1 < (collapse t).length ∧ (collapse t).getLast? = some slash then (collapse t).dropLast
  else collapse t

/-- `getRootLength`. -/
def rootLength (path : Text) : Nat :=
  match path.findIdx? (· == slash) with
  | some 0 =>
    if path[1]? = some slash then
      -- a network name
      match (path.drop 2).findIdx? (· == slash) with
      | some i =>
        match (path.drop (i + 3)).findIdx? (· == slash) with
        | some j => i + 3 + j + 1
        | none => path.length
      | none => 1
    else 1
  | some (n + 1) => if path[n]? = some colon then n + 2 else 0
  | none => if path.getLast? = some colon then path.length else 0

/-- `File.isRooted`. -/
def isRooted (path : Text) : Bool := 0 < rootLength path

/-- `File.resolve(relative)`, on the paths of the two files. -/
def resolve (base relative : Text) : Text :=
  if isRooted relative then relative
  else if base = [] ∨ base.getLast? = some slash then normalize (base ++ relative)
  else normalize (base ++ slash :: relative)

/-- The entry of a name in a directory. -/
def join (directory name : Text) : Text :=
  if directory = [slash] then slash :: name else directory ++ slash :: name

/-! ## Normal paths -/

/-- What `normalize` leaves. -/
structure Normal (t : Text) : Prop where
  collapsed : collapse t = t
  noTrailing : t.getLast? = some slash → t = [slash]

theorem collapse_cons {c : Char16} (h : c ≠ slash) (t : Text) : collapse (c :: t) = c :: collapse t := by
  cases t with
  | nil => rfl
  | cons d rest => rw [collapse, if_neg (fun hcd => h hcd.1)]

/-- A slash that no other slash follows is kept. -/
theorem collapse_cons_slash {t : Text} (h : t.head? ≠ some slash) :
    collapse (slash :: t) = slash :: collapse t := by
  cases t with
  | nil => rfl
  | cons d rest =>
    have hd : d ≠ slash := fun hd => h (congrArg some hd)
    rw [collapse, if_neg (fun hcd => hd hcd.2)]

/-- A text without a slash is its own collapse. -/
theorem collapse_of_not_mem {t : Text} (h : slash ∉ t) : collapse t = t := by
  induction t with
  | nil => rfl
  | cons c rest ih =>
    rw [List.mem_cons, not_or] at h
    rw [collapse_cons (Ne.symm h.1), ih h.2]

/-- Collapsing leaves something of every text. -/
theorem collapse_ne_nil {t : Text} (h : t ≠ []) : collapse t ≠ [] := by
  fun_induction collapse t with
  | case1 => exact h
  | case2 c => simp
  | case3 c d rest hcd ih => exact ih (List.cons_ne_nil _ _)
  | case4 c d rest hcd ih => exact List.cons_ne_nil _ _

theorem length_collapse_le (t : Text) : (collapse t).length ≤ t.length := by
  fun_induction collapse t with
  | case1 => exact Nat.le_refl _
  | case2 c => exact Nat.le_refl _
  | case3 c d rest hcd ih => exact Nat.le_succ_of_le ih
  | case4 c d rest hcd ih => exact Nat.succ_le_succ ih

/-- The first character stays. -/
theorem head?_collapse (t : Text) : (collapse t).head? = t.head? := by
  fun_induction collapse t with
  | case1 => rfl
  | case2 c => rfl
  | case3 c d rest hcd ih =>
    rw [ih, List.head?_cons, List.head?_cons, hcd.1, hcd.2]
  | case4 c d rest hcd ih => rfl

/-- A collapsed text has no slashes left to collapse. -/
theorem collapse_collapse (t : Text) : collapse (collapse t) = collapse t := by
  fun_induction collapse t with
  | case1 => rfl
  | case2 c => rfl
  | case3 c d rest hcd ih => exact ih
  | case4 c d rest hcd ih =>
    obtain ⟨e, r, her⟩ := List.exists_cons_of_ne_nil (collapse_ne_nil (List.cons_ne_nil d rest))
    have hhead : e = d := by
      have h := head?_collapse (d :: rest)
      rw [her] at h
      exact Option.some_inj.mp h
    -- the first character of the rest stays, so the pair is still none of slashes
    rw [her] at ih ⊢
    rw [collapse, if_neg (by rw [hhead]; exact hcd), ih]

/-- What comes after a text that does not end in a slash is collapsed on its own. -/
theorem collapse_append {s : Text} (hlast : s.getLast? ≠ some slash) (t : Text) :
    collapse (s ++ t) = collapse s ++ collapse t := by
  fun_induction collapse s with
  -- the slash in front is not the last character, so the tail still does not end in one
  | case1 => rfl
  | case2 c => exact collapse_cons (fun hc => hlast (congrArg some hc)) t
  | case3 c d rest hcd ih =>
    have hlast' : (d :: rest).getLast? ≠ some slash := hlast
    rw [List.cons_append, List.cons_append, collapse, if_pos hcd, ← ih hlast', List.cons_append]
  | case4 c d rest hcd ih =>
    have hlast' : (d :: rest).getLast? ≠ some slash := hlast
    rw [List.cons_append, List.cons_append, collapse, if_neg hcd, List.cons_append, ← ih hlast',
      List.cons_append]

/-- A slash behind a slash is dropped; every other character is put at the end. -/
theorem collapse_concat (s : Text) (c : Char16) :
    collapse (s ++ [c]) =
      if s.getLast? = some slash ∧ c = slash then collapse s else collapse s ++ [c] := by
  fun_induction collapse s with
  | case1 => rfl
  | case2 d =>
    rw [List.singleton_append, collapse, List.getLast?_singleton]
    -- only here do the last two characters meet
    by_cases h : d = slash ∧ c = slash
    · rw [if_pos h, if_pos ⟨congrArg some h.1, h.2⟩, h.1, h.2]
      rfl
    · rw [if_neg h, if_neg (fun h' => h ⟨Option.some_inj.mp h'.1, h'.2⟩)]
      rfl
  -- two slashes in front: the first is dropped on both sides
  | case3 d e rest hde ih =>
    rw [List.cons_append, List.cons_append, collapse, if_pos hde, List.getLast?_cons_cons]
    exact ih
  | case4 d e rest hde ih =>
    rw [List.cons_append, List.cons_append, collapse, if_neg hde, List.getLast?_cons_cons]
    rw [List.cons_append] at ih
    rw [ih]
    split <;> rfl

/-- `File` paths are normal. -/
theorem normal_normalize (t : Text) : Normal (normalize t) := by
  unfold normalize
  have hcollapsed := collapse_collapse t
  split
  · rename_i h
    obtain ⟨hlen, hlast⟩ := h
    rcases (collapse t).eq_nil_or_concat with hnil | ⟨s, c, hconcat⟩
    · rw [hnil] at hlast
      cases hlast
    · -- the trailing slash was dropped
      rw [List.concat_eq_append] at hconcat
      rw [hconcat, List.getLast?_concat, Option.some_inj] at hlast
      rw [hconcat, List.dropLast_concat]
      rw [hconcat, collapse_concat] at hcollapsed
      -- the slash that was dropped was a single one
      have hsingle : s.getLast? ≠ some slash := by
        intro hs
        rw [if_pos ⟨hs, hlast⟩] at hcollapsed
        have hle := length_collapse_le s
        rw [hcollapsed, List.length_append, List.length_singleton] at hle
        omega
      rw [if_neg (fun h => hsingle h.1)] at hcollapsed
      exact ⟨List.append_cancel_right hcollapsed, fun h => absurd h hsingle⟩
  · rename_i h
    refine ⟨hcollapsed, fun hlast => ?_⟩
    have hlen : ¬ 1 < (collapse t).length := fun hlen => h ⟨hlen, hlast⟩
    match hc : collapse t with
    | [] =>
      rw [hc] at hlast
      cases hlast
    | [c] =>
      rw [hc, List.getLast?_singleton, Option.some_inj] at hlast
      rw [hlast]
    | c :: d :: rest =>
      rw [hc, List.length_cons, List.length_cons] at hlen
      omega

/-- An absolute path stays absolute. -/
theorem head?_normalize {t : Text} (h : t.head? = some slash) : (normalize t).head? = some slash := by
  rw [← head?_collapse] at h
  unfold normalize
  split
  · rename_i hcond
    -- the slash at the end is dropped, unless it is the only character
    match hc : collapse t with
    | [] =>
      rw [hc] at h
      cases h
    | [c] =>
      rw [hc] at hcond
      exact absurd hcond.1 (by simp)
    | c :: d :: rest =>
      rw [hc] at h
      exact h
  · exact h

/-- A path in normal form is its own normal form. -/
theorem normalize_eq_self {t : Text} (h : Normal t) : normalize t = t := by
  unfold normalize
  rw [h.collapsed]
  split
  · rename_i hcond
    rw [h.noTrailing hcond.2] at hcond
    exact absurd hcond.1 (by decide)
  · rfl

/-! ## Resolving names -/

/-- A name without a slash is rooted if it ends like a drive. -/
theorem isRooted_name {name : Text} (hslash : slash ∉ name) :
    isRooted name = decide (name.getLast? = some colon) := by
  -- without a slash the root can only come from a colon
  have hnone : name.findIdx? (· == slash) = none := by
    rw [List.findIdx?_eq_none_iff]
    intro c hc
    rw [beq_eq_false_iff_ne]
    exact fun heq => hslash (heq ▸ hc)
  unfold isRooted rootLength
  rw [hnone]
  by_cases hlast : name.getLast? = some colon
  · have hne : name ≠ [] := by
      rintro rfl
      cases hlast
    simp [hlast, List.length_pos_iff.mpr hne]
  · simp [hlast]

/-- A path that ends in a name does not end in a slash. -/
theorem getLast?_append_name (s : Text) {name : Text} (hne : name ≠ []) (hslash : slash ∉ name) :
    (s ++ name).getLast? ≠ some slash := by
  rw [List.getLast?_append_of_ne_nil _ hne]
  intro h
  exact hslash (List.mem_of_getLast? h)

/-- A name put into a directory in normal form gives a path in normal form. -/
theorem normal_join {directory : Text} (hnormal : Normal directory) {name : Text} (hne : name ≠ [])
    (hslash : slash ∉ name) : Normal (join directory name) := by
  have hhead : name.head? ≠ some slash := fun h => hslash (List.mem_of_head? h)
  have hname : collapse (slash :: name) = slash :: name := by
    rw [collapse_cons_slash hhead, collapse_of_not_mem hslash]
  unfold join
  -- an empty or rooted directory takes the name as it is, any other one a slash first
  split
  · exact ⟨hname, fun h => absurd h (getLast?_append_name [slash] hne hslash)⟩
  · rename_i hroot
    have hlast : directory.getLast? ≠ some slash := fun h => hroot (hnormal.noTrailing h)
    refine ⟨by rw [collapse_append hlast, hnormal.collapsed, hname], fun h => ?_⟩
    rw [← List.singleton_append, ← List.append_assoc] at h
    exact absurd h (getLast?_append_name _ hne hslash)

/-- A name is resolved against a directory to the directory's entry of that name, unless it
ends in a colon: then it is taken for a path of its own. -/
theorem resolve_name {directory : Text} (hnormal : Normal directory)
    (habsolute : directory.head? = some slash) {name : Text} (hne : name ≠ [])
    (hslash : slash ∉ name) :
    resolve directory name =
      if name.getLast? = some colon then name else join directory name := by
  have hjoin := normalize_eq_self (normal_join hnormal hne hslash)
  unfold resolve
  rw [isRooted_name hslash]
  by_cases hcolon : name.getLast? = some colon
  · rw [if_pos hcolon, if_pos (decide_eq_true hcolon)]
  · -- relative: joined, and what is joined is normal already
    rw [if_neg hcolon, if_neg (by rw [decide_eq_false hcolon]; exact Bool.false_ne_true)]
    unfold join at hjoin ⊢
    split
    -- a directory that ends in a slash is the root
    · rename_i hbase
      rcases hbase with rfl | hlast
      · cases habsolute
      · rw [hnormal.noTrailing hlast] at hjoin ⊢
        exact hjoin
    · rename_i hbase
      have hroot : directory ≠ [slash] := by
        rintro rfl
        exact hbase (Or.inr rfl)
      rw [if_neg hroot] at hjoin ⊢
      exact hjoin

/-- Two names in one directory make two paths. -/
theorem join_injective (directory : Text) : Function.Injective (join directory) := by
  intro a b h
  unfold join at h
  split at h
  · exact List.cons.inj h |>.2
  · exact (List.cons.inj (List.append_cancel_left h)).2

end FilePath

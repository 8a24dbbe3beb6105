import SqliteMc.Lib.Text

/-!
# Hash codes

32-bit hash codes as the JVM languages compute them, and the usual way to combine them:
multiply by 31 and add, one value after the other.

* `foldBase_perm_iff` — the values of a list may be folded in any order when the base does
  not tell their codes apart, and not otherwise.
* `sub_mul_30_eq_zero_iff`, `sub_mul_960_eq_zero_iff` — the bits that are told apart with 31
  as the base, and with two hash codes a value.
-/

namespace HashCode

/-! ## Values -/

/-- `Boolean.hashCode`. -/
def ofBool (b : Bool) : Int32 := if b then 1231 else 1237

/-- `Any?.hashCode`: 0 for null. -/
def ofOption {α : Type*} (hashCode : α → Int32) : Option α → Int32
  | none => 0
  | some a => hashCode a

/-- `String.hashCode`. -/
def ofText (t : Text) : Int32 := t.foldl (fun h c => 31 * h + Int32.ofNat c.toNat) 0

/-! ## Folds -/

/-- `result = result * 31 + hash` for each of the hash codes. -/
def foldFrom (result : Int32) (hashes : List Int32) : Int32 :=
  hashes.foldl (fun result hash => result * 31 + hash) result

/-- Multiply by `base` and add, the code of one value after the other. -/
def foldBase {α : Type*} (base : Int32) (code : α → Int32) (result : Int32) (l : List α) : Int32 :=
  l.foldl (fun result a => result * base + code a) result

/-- The same but for the `n` highest bits, which are shifted out. -/
def SameUpTo (n : Nat) (x y : Int32) : Prop := x * 2 ^ n = y * 2 ^ n

section

variable {α : Type*} {base inverse : Int32} (code : α → Int32)

/-- With a unit as the base, what was folded before can be told from the result. -/
theorem foldBase_injective (hbase : base * inverse = 1) (l : List α) {r s : Int32}
    (h : foldBase base code r l = foldBase base code s l) : r = s := by
  induction l generalizing r s with
  | nil => exact h
  | cons a l ih =>
    have hstep : r * base + code a = s * base + code a := ih h
    grind

/-- Two neighbours may be swapped if and only if the base does not tell them apart. -/
theorem swap_iff (base r x y : Int32) :
    (r * base + x) * base + y = (r * base + y) * base + x ↔ (x - y) * (base - 1) = 0 := by
  constructor
  · intro h
    grind
  · intro h
    grind

/-- **Which values may be folded in any order.** Those whose codes the base does not tell
apart, two by two. -/
theorem foldBase_perm_iff [DecidableEq α] (hbase : base * inverse = 1) (r : Int32) (l : List α) :
    (∀ l', l'.Perm l → foldBase base code r l' = foldBase base code r l) ↔
      ∀ a ∈ l, ∀ b ∈ l, (code a - code b) * (base - 1) = 0 := by
  constructor
  · intro h a ha b hb
    by_cases hne : b = a
    · rw [hne]
      grind
    -- both to the front, in either order
    have hfront : l.Perm (a :: b :: (l.erase a).erase b) :=
      (List.perm_cons_erase ha).trans
        ((List.perm_cons_erase ((List.mem_erase_of_ne hne).mpr hb)).cons a)
    have hab := h _ hfront.symm
    have hba := h _ ((List.Perm.swap a b _).trans hfront.symm)
    exact (swap_iff base r (code a) (code b)).mp (foldBase_injective code hbase _ (hab.trans hba.symm))
  · intro h l' hperm
    refine hperm.foldl_eq' (fun a ha b hb r' => ?_) r
    exact (swap_iff base r' (code a) (code b)).mpr (h a (hperm.subset ha) b (hperm.subset hb))

end

/-! ## Folds of hash codes -/

/-- The factor of the hash code is invertible among the 32-bit numbers. -/
theorem unit_31 : (31 : Int32) * (-1108378657) = 1 := by decide

/-- The square of the factor is invertible among the 32-bit numbers. -/
theorem unit_961 : (31 * 31 : Int32) * (-867038143) = 1 := by decide

/-- 30 is twice a unit. -/
theorem sub_mul_30_eq_zero_iff (x y : Int32) : (x - y) * (31 - 1) = 0 ↔ SameUpTo 1 x y := by
  have hinverse : (15 : Int32) * (-286331153) = 1 := by decide
  unfold SameUpTo
  constructor
  · intro h
    grind
  · intro h
    grind

/-- 960 is 64 times a unit. -/
theorem sub_mul_960_eq_zero_iff (x y : Int32) :
    (x - y) * (31 * 31 - 1) = 0 ↔ SameUpTo 6 x y := by
  have hinverse : (15 : Int32) * (-286331153) = 1 := by decide
  unfold SameUpTo
  constructor
  · intro h
    grind
  · intro h
    grind

/-- The fold of the hash codes of some values. -/
theorem foldFrom_map {α : Type*} (hashCode : α → Int32) (r : Int32) (l : List α) :
    foldFrom r (l.map hashCode) = foldBase 31 hashCode r l := List.foldl_map

/-- Values with two hash codes each are folded like the pairs of them. -/
theorem foldFrom_flatMap {α : Type*} (first second : α → Int32) (r : Int32) (l : List α) :
    foldFrom r (l.flatMap fun a => [first a, second a]) =
      foldBase (31 * 31) (fun a => first a * 31 + second a) r l := by
  induction l generalizing r with
  | nil => rfl
  | cons a l ih =>
    have hstep : (r * 31 + first a) * 31 + second a =
        r * (31 * 31) + (first a * 31 + second a) := by grind
    rw [List.flatMap_cons]
    exact (ih _).trans (congrArg (foldBase (31 * 31) _ · l) hstep)

end HashCode

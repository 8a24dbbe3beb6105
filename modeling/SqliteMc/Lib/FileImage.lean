import SqliteMc.Lib.Buffer
import Mathlib.Logic.Function.Basic

/-!
# Files as buffers

A file as the buffer of its bytes, which a write extends when it reaches past the end, and what
is known of the slots in it: `Holds` says that the slot of every index with a value represents
that value.

* `slice_write_self`, `slice_write_of_disjoint`: what is read after a write.
* `write_append`: a write can be made in parts.
* `Holds.write`: a slot that is written represents the new value, and the others are kept.
* `Holds.write_outside`, `Holds.truncate`: a write that touches no slot keeps all of them, and
  a truncation those that it leaves.
-/

namespace FileImage

open Buffer

/-- The file with the bytes written at the offset; a gap before them is filled with zeros. -/
def write (file data : Bytes) (offset : Nat) : Bytes :=
  patch (file ++ zeros (offset + data.length - file.length)) offset data

@[simp] theorem length_zeros (count : Nat) : (zeros count).length = count := by simp [zeros]

@[simp] theorem length_write (file data : Bytes) (offset : Nat) :
    (write file data offset).length = max file.length (offset + data.length) := by
  have hlen : (file ++ zeros (offset + data.length - file.length)).length =
      max file.length (offset + data.length) := by
    rw [List.length_append, length_zeros]
    omega
  rw [write, length_patch (by omega), hlen]

/-- What was written to a file is read back from there. -/
theorem slice_write_self (file data : Bytes) (offset : Nat) :
    slice (write file data offset) offset data.length = data := by
  apply slice_patch_self
  rw [List.length_append, length_zeros]
  omega

/-- What the file had and the write did not touch. -/
theorem slice_write_of_disjoint {file data : Bytes} {offset o count : Nat}
    (hin : o + count ≤ file.length) (hdisj : o + count ≤ offset ∨ offset + data.length ≤ o) :
    slice (write file data offset) o count = slice file o count := by
  rw [write, slice_patch_of_disjoint _ hdisj, slice_append_left hin]
  rw [List.length_append, length_zeros]
  omega

/-- The file byte by byte after a write: what was written, what was there, or zeros. -/
theorem getElem?_write (file data : Bytes) (offset i : Nat) : (write file data offset)[i]? =
    if i < max file.length (offset + data.length) then
      some (if offset ≤ i ∧ i < offset + data.length then byte data (i - offset) else byte file i)
    else none := by
  have hoff : offset ≤ (file ++ zeros (offset + data.length - file.length)).length := by
    rw [List.length_append, length_zeros]
    omega
  -- the gap between the old end and the write is filled with zeros, as which it reads anyway
  have hgap (j : Nat) : byte (file ++ zeros j) i = byte file i := by
    rcases Nat.lt_or_ge i file.length with hi | hi
    · exact byte_append_left hi
    · obtain ⟨k, rfl⟩ := Nat.exists_eq_add_of_le hi
      rw [byte_append_right, byte, byte, zeros]
      rw [List.getD_eq_default file 0 hi]
      by_cases hk : k < j
      · simp [List.getD_eq_getElem?_getD, hk]
      · simp [List.getD_eq_getElem?_getD, hk]
  rw [write, getElem?_patch hoff]
  split
  · rename_i hi
    rw [if_pos (by omega), getElem?_eq_byte, if_pos (by omega)]
  · rw [getElem?_eq_byte, List.length_append, length_zeros, hgap]
    congr 1
    rw [eq_iff_iff]
    omega

/-- Written bytes read in their own range; everywhere else the file reads as before. -/
theorem byte_write (file data : Bytes) (offset i : Nat) : byte (write file data offset) i =
    if offset ≤ i ∧ i < offset + data.length then byte data (i - offset) else byte file i := by
  have hget := getElem?_write file data offset i
  rw [byte, List.getD_eq_getElem?_getD, hget]
  split_ifs with hin hdata hdata
  · rfl
  · rfl
  · omega
  · exact (byte_of_length_le (by omega)).symm

/-- Writing in two steps. -/
theorem write_append (file x y : Bytes) (offset : Nat) :
    write file (x ++ y) offset = write (write file x offset) y (offset + x.length) := by
  apply List.ext_getElem?
  intro i
  rw [getElem?_write, getElem?_write, length_write, List.length_append, byte_write]
  have hlen : max (max file.length (offset + x.length)) (offset + x.length + y.length) =
      max file.length (offset + (x.length + y.length)) := by omega
  rw [hlen]
  congr 2
  -- the second part, the first one, or neither
  by_cases hy : offset + x.length ≤ i ∧ i < offset + x.length + y.length
  · obtain ⟨k, rfl⟩ := Nat.exists_eq_add_of_le hy.1
    rw [if_pos (by omega), if_pos hy, Nat.add_assoc, Nat.add_sub_cancel_left, byte_append_right,
      ← Nat.add_assoc, Nat.add_sub_cancel_left]
  · rw [if_neg hy]
    by_cases hx : offset ≤ i ∧ i < offset + x.length
    · rw [if_pos (by omega), if_pos hx, byte_append_left (by omega)]
    · rw [if_neg (by omega), if_neg hx]

/-! ## Slots -/

section Slots

variable {ι α : Type*} {offset : ι → Nat} {size : Nat} {P : ι → α → Bytes → Prop}
  {file data : Bytes} {m : ι → Option α}

/-- The slots of all indices with a value lie in the file and represent their values. -/
def Holds (offset : ι → Nat) (size : Nat) (P : ι → α → Bytes → Prop) (file : Bytes)
    (m : ι → Option α) : Prop :=
  ∀ i a, m i = some a → offset i + size ≤ file.length ∧ P i a (slice file (offset i) size)

/-- A file says nothing against a table without entries. -/
theorem holds_none (file : Bytes) : Holds offset size P file fun _ => none := by
  intro i a h
  cases h

/-- A write that touches none of the slots. -/
theorem Holds.write_outside (h : Holds offset size P file m) {o : Nat}
    (hout : ∀ i a, m i = some a → offset i + size ≤ o ∨ o + data.length ≤ offset i) :
    Holds offset size P (write file data o) m := by
  intro i a hi
  obtain ⟨hin, hP⟩ := h i a hi
  refine ⟨?_, ?_⟩
  · rw [length_write]
    omega
  · rwa [slice_write_of_disjoint hin (hout i a hi)]

/-- What is cut off is not known any more. -/
theorem Holds.truncate (h : Holds offset size P file m) (count n : Nat) :
    Holds offset size P (file.take count ++ zeros n)
      fun i => if offset i + size ≤ count then m i else none := by
  intro i a hi
  dsimp only at hi
  split at hi
  -- only the slots that end in front of the cut stay known
  · rename_i hcount
    obtain ⟨hin, hP⟩ := h i a hi
    have htake : offset i + size ≤ (file.take count).length := by
      rw [List.length_take]
      omega
    have hpart : slice (file.take count) (offset i) size = slice file (offset i) size :=
      slice_eq_of_take_eq (List.take_take.trans (by rw [min_self])) hcount
    rw [List.length_append, slice_append_left htake, hpart]
    exact ⟨by omega, hP⟩
  · cases hi

/-- A slot that is written, apart from all others. -/
theorem Holds.write [DecidableEq ι] (h : Holds offset size P file m) {i : ι} {a : α}
    (hlen : data.length = size) (hP : P i a data)
    (hdisj : ∀ j b, m j = some b → j ≠ i →
      offset j + size ≤ offset i ∨ offset i + size ≤ offset j) :
    Holds offset size P (write file data (offset i)) (Function.update m i (some a)) := by
  intro j b hj
  -- the slot that was written, or another one, which the write does not touch
  by_cases hji : j = i
  · subst hji
    rw [Function.update_self] at hj
    cases hj
    refine ⟨?_, ?_⟩
    · rw [length_write, hlen]
      omega
    · rwa [← hlen, slice_write_self]
  · rw [Function.update_of_ne hji] at hj
    obtain ⟨hin, hPj⟩ := h j b hj
    refine ⟨?_, ?_⟩
    · rw [length_write]
      omega
    · rwa [slice_write_of_disjoint hin (by rw [hlen]; exact hdisj j b hj hji)]

end Slots

end FileImage

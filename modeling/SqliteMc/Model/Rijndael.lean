import SqliteMc.Lib.Cbc
import SqliteMc.Model.RijndaelTables

/-!
# Rijndael

The software implementation of the block cipher: the key schedule, the rounds through the
tables, and the two functions on whole buffers in the mode of cipher block chaining. A column
of the state is a word whose first byte is the highest.
-/

namespace SqliteMc

namespace Rijndael

open Buffer

/-- Four bytes, the first of them the highest. -/
abbrev Word := BitVec 32

def Word.byte (w : Word) (i : Fin 4) : Octet := w.extractLsb' (24 - 8 * i) 8

def Word.ofBytes (f : Fin 4 → Octet) : Word := f 0 ++ f 1 ++ f 2 ++ f 3

/-- `UINT8 temp[4][4]`. -/
@[ext]
structure State where
  temp0 : Word
  temp1 : Word
  temp2 : Word
  temp3 : Word
  deriving DecidableEq

namespace State

/-- `temp[j]`. -/
def col (s : State) : Fin 4 → Word
  | 0 => s.temp0
  | 1 => s.temp1
  | 2 => s.temp2
  | 3 => s.temp3

def of (f : Fin 4 → Word) : State := ⟨f 0, f 1, f 2, f 3⟩

@[simp] theorem col_of (f : Fin 4 → Word) (j : Fin 4) : (of f).col j = f j := by
  match j with
  | 0 => rfl
  | 1 => rfl
  | 2 => rfl
  | 3 => rfl

/-- States with equal columns are equal. -/
theorem ext_col {s t : State} (h : ∀ j, s.col j = t.col j) : s = t :=
  State.ext (h 0) (h 1) (h 2) (h 3)

end State

/-- A row of one of the tables with four columns. -/
def row (table : List Nat) (x : Octet) : Word := BitVec.ofNat 32 (table.getD x.toNat 0)

/-- An entry of `S` or `S5`. -/
def box (table : List Nat) (x : Octet) : Octet := BitVec.ofNat 8 (table.getD x.toNat 0)

/-- The state with a round key added. -/
def addKey (s key : State) : State := .of fun j => s.col j ^^^ key.col j

-- ---------------------------------------------------------------------------
-- Rounds
-- ---------------------------------------------------------------------------

/-- A round of `RijndaelEncrypt`. -/
def encryptRound (temp : State) : State := .of fun j =>
  row T1 ((temp.col j).byte 0) ^^^ row T2 ((temp.col (j + 1)).byte 1)
    ^^^ row T3 ((temp.col (j + 2)).byte 2) ^^^ row T4 ((temp.col (j + 3)).byte 3)

/-- The last round of `RijndaelEncrypt`, which reads the box from the second column of `T1`. -/
def encryptLast (temp : State) : State := .of fun j =>
  Word.ofBytes fun i => (row T1 ((temp.col (j + i)).byte i)).byte 1

/-- A round of `RijndaelDecrypt`. -/
def decryptRound (temp : State) : State := .of fun j =>
  row T5 ((temp.col j).byte 0) ^^^ row T6 ((temp.col (j + 3)).byte 1)
    ^^^ row T7 ((temp.col (j + 2)).byte 2) ^^^ row T8 ((temp.col (j + 1)).byte 3)

/-- The last round of `RijndaelDecrypt`. -/
def decryptLast (temp : State) : State := .of fun j =>
  Word.ofBytes fun i => box S5 ((temp.col (j - i)).byte i)

/-- The state after the first round and `r` more of them. -/
def encryptLoop (key : Nat → State) (a : State) : Nat → State
  | 0 => encryptRound (addKey a (key 0))
  | r + 1 => encryptRound (addKey (encryptLoop key a r) (key (r + 1)))

/-- The rounds with the keys `r + 1` down to 2. -/
def decryptLoop (key : Nat → State) : Nat → State → State
  | 0, b => b
  | r + 1, b => decryptLoop key r (decryptRound (addKey b (key (r + 2))))

/-- `RijndaelEncrypt`, with `rounds + 2` rounds. -/
def encrypt (key : Nat → State) (rounds : Nat) (a : State) : State :=
  addKey (encryptLast (addKey (encryptLoop key a rounds) (key (rounds + 1)))) (key (rounds + 2))

/-- `RijndaelDecrypt`, with `rounds + 2` rounds. -/
def decrypt (key : Nat → State) (rounds : Nat) (a : State) : State :=
  let b := decryptRound (addKey a (key (rounds + 2)))
  addKey (decryptLast (addKey (decryptLoop key rounds b) (key 1))) (key 0)

-- ---------------------------------------------------------------------------
-- Round keys
-- ---------------------------------------------------------------------------

/-- Each column is combined with the new column before it. -/
def chainColumns : Word → List Word → List Word
  | _, [] => []
  | before, column :: columns =>
    let new := column ^^^ before
    new :: chainColumns new columns

/-- The four bytes through the box `S`. -/
def substitute (w : Word) : Word := Word.ofBytes fun i => box S (w.byte i)

/-- The same after a rotation by one byte. -/
def rotateSubstitute (w : Word) : Word := Word.ofBytes fun i => box S (w.byte (i + 1))

/-- The next columns of the key matrix. -/
def nextColumns (constant : Octet) (tempKey : List Word) : List Word :=
  match tempKey with
  | [] => []
  | first :: columns =>
    let first' := first ^^^ rotateSubstitute (tempKey.getLastD 0)
      ^^^ Word.ofBytes (fun i => if i = 0 then constant else 0)
    if tempKey.length ≠ 8 then first' :: chainColumns first' columns
    else
      -- with eight columns the fifth is combined with the substituted fourth
      let low := first' :: chainColumns first' (columns.take 3)
      let middle := tempKey.getD 4 0 ^^^ substitute (low.getLastD 0)
      low ++ middle :: chainColumns middle (columns.drop 4)

/-- The columns that `RijndaelKeySched` writes one after another. -/
def columns : Nat → Nat → List Word → List Word
  | 0, _, tempKey => tempKey
  | n + 1, rconpointer, tempKey =>
    tempKey ++ columns n (rconpointer + 1)
      (nextColumns (BitVec.ofNat 8 (rcon.getD rconpointer 0)) tempKey)

/-- `RijndaelKeySched`: the round keys for a key of `n` columns. -/
def keySched (n : Nat) (key : Bytes) (r : Nat) : State :=
  let matrix := (List.range n).map fun j => load32BE key (4 * j)
  .of fun t => (columns (n + 7) 0 matrix).getD (4 * r + t) 0

/-- A column of the inverse mixing. -/
def unmix (w : Word) : Word :=
  row U1 (w.byte 0) ^^^ row U2 (w.byte 1) ^^^ row U3 (w.byte 2) ^^^ row U4 (w.byte 3)

/-- `RijndaelKeyEncToDec`: the first and the last round key stay. -/
def keyEncToDec (rounds : Nat) (key : Nat → State) (r : Nat) : State :=
  if 1 ≤ r ∧ r < rounds then .of fun j => unmix ((key r).col j) else key r

-- ---------------------------------------------------------------------------
-- Blocks and buffers
-- ---------------------------------------------------------------------------

/-- The 16 bytes of a block as a state. -/
def load (b : Bytes) : State := .of fun j => load32BE b (4 * j)

def store (s : State) : Bytes :=
  store32BE s.temp0 ++ (store32BE s.temp1 ++ (store32BE s.temp2 ++ store32BE s.temp3))

/-- The columns of a key: 4 for `Key16Bytes`, 6 for `Key24Bytes` and 8 for `Key32Bytes`. The
number of rounds is six more. -/
def encryptBlock (n : Nat) (key b : Bytes) : Bytes :=
  store (encrypt (keySched n key) (n + 4) (load b))

def decryptBlock (n : Nat) (key b : Bytes) : Bytes :=
  store (decrypt (keyEncToDec (n + 6) (keySched n key)) (n + 4) (load b))

end Rijndael

end SqliteMc

import SqliteMc.Lib.Buffer

/-!
# Poly1305

The authentication tag as `chacha20poly1305.c` computes it, in five limbs of 26 bits. The
variables of 32 and of 64 bits are natural numbers that are reduced where the code's own
would wrap around.
-/

namespace SqliteMc

namespace Poly1305

open Buffer

def u32 (x : Nat) : Nat := x % 2 ^ 32

def u64 (x : Nat) : Nat := x % 2 ^ 64

/-- `LOAD32_LE` as a number. -/
def load32 (b : Bytes) (offset : Nat) : Nat := (load32LE b offset).toNat

/-- `h0` to `h4`, or `r0` to `r4`. -/
structure Limbs where
  l0 : Nat
  l1 : Nat
  l2 : Nat
  l3 : Nat
  l4 : Nat
  deriving DecidableEq

/-- The limbs of the key, with the bits cleared that the masks clear. -/
def clamp (key : Bytes) : Limbs where
  l0 := load32 key 0 >>> 0 &&& 0x03FFFFFF
  l1 := load32 key 3 >>> 2 &&& 0x03FFFF03
  l2 := load32 key 6 >>> 4 &&& 0x03FFC0FF
  l3 := load32 key 9 >>> 6 &&& 0x03F03FFF
  l4 := load32 key 12 >>> 8 &&& 0x000FFFFF

/-- The limbs of a block added to `h`; `high` is what the loop adds to `h4` before. -/
def addBlock (high : Nat) (h : Limbs) (msg : Bytes) : Limbs where
  l0 := u32 (h.l0 + (load32 msg 0 >>> 0 &&& 0x03FFFFFF))
  l1 := u32 (h.l1 + (load32 msg 3 >>> 2 &&& 0x03FFFFFF))
  l2 := u32 (h.l2 + (load32 msg 6 >>> 4 &&& 0x03FFFFFF))
  l3 := u32 (h.l3 + (load32 msg 9 >>> 6 &&& 0x03FFFFFF))
  l4 := u32 (u32 (h.l4 + high) + load32 msg 12 >>> 8)

/-- `d0` to `d4`. -/
def multiply (r h : Limbs) : Limbs :=
  let s1 := u32 (r.l1 * 5)
  let s2 := u32 (r.l2 * 5)
  let s3 := u32 (r.l3 * 5)
  let s4 := u32 (r.l4 * 5)
  { l0 := u64 (h.l0 * r.l0 + h.l1 * s4 + h.l2 * s3 + h.l3 * s2 + h.l4 * s1)
    l1 := u64 (h.l0 * r.l1 + h.l1 * r.l0 + h.l2 * s4 + h.l3 * s3 + h.l4 * s2)
    l2 := u64 (h.l0 * r.l2 + h.l1 * r.l1 + h.l2 * r.l0 + h.l3 * s4 + h.l4 * s3)
    l3 := u64 (h.l0 * r.l3 + h.l1 * r.l2 + h.l2 * r.l1 + h.l3 * r.l0 + h.l4 * s4)
    l4 := u64 (h.l0 * r.l4 + h.l1 * r.l3 + h.l2 * r.l2 + h.l3 * r.l1 + h.l4 * r.l0) }

/-- The carries from `d0` to `d4`, and from `d4` five times to `h0`. -/
def carry (d : Limbs) : Limbs :=
  let d1 := u64 (d.l1 + d.l0 >>> 26)
  let d2 := u64 (d.l2 + d1 >>> 26)
  let d3 := u64 (d.l3 + d2 >>> 26)
  let d4 := u64 (d.l4 + d3 >>> 26)
  { l0 := u32 ((d.l0 &&& 0x03FFFFFF) + u32 (u32 (d4 >>> 26) * 5))
    l1 := d1 &&& 0x03FFFFFF
    l2 := d2 &&& 0x03FFFFFF
    l3 := d3 &&& 0x03FFFFFF
    l4 := d4 &&& 0x03FFFFFF }

/-- `process_block`. -/
def processBlock (r : Limbs) (high : Nat) (h : Limbs) (msg : Bytes) : Limbs :=
  carry (multiply r (addBlock high h msg))

/-- `n` whole blocks of the message. -/
def wholeBlocks (r : Limbs) : Nat → Limbs → Bytes → Limbs
  | 0, h, _ => h
  | n + 1, h, msg => wholeBlocks r n (processBlock r 0x01000000 h (msg.take 16)) (msg.drop 16)

/-- What is left of the message is padded with a one and zeros. -/
def pad (msg : Bytes) : Bytes := msg ++ 1 :: zeros (15 - msg.length)

/-- `h0` to `h4` when the message has been read. -/
def absorb (r : Limbs) (msg : Bytes) : Limbs :=
  let h := wholeBlocks r (msg.length / 16) ⟨0, 0, 0, 0, 0⟩ msg
  let rest := msg.drop (16 * (msg.length / 16))
  if rest.length = 0 then h else processBlock r 0 h (pad rest)

/-- The tag from the limbs and the second half of the key. -/
def finish (key : Bytes) (h : Limbs) : Bytes :=
  let r0 := u32 (h.l0 + 5) >>> 26
  let r1 := u32 (h.l1 + r0) >>> 26
  let r2 := u32 (h.l2 + r1) >>> 26
  let r3 := u32 (h.l3 + r2) >>> 26
  let r4 := u32 (h.l4 + r3) >>> 26
  let h0 := u32 (h.l0 + u32 (r4 * 5))
  let d1 := u64 (load32 key 16 + h0 >>> 0 + u32 (h.l1 <<< 26))
  let d2 := u64 (load32 key 20 + h.l1 >>> 6 + u32 (h.l2 <<< 20) + d1 >>> 32)
  let d3 := u64 (load32 key 24 + h.l2 >>> 12 + u32 (h.l3 <<< 14) + d2 >>> 32)
  let d4 := u64 (load32 key 28 + h.l3 >>> 18 + u32 (h.l4 <<< 8) + d3 >>> 32)
  store32LE (BitVec.ofNat 32 d1) ++ store32LE (BitVec.ofNat 32 d2)
    ++ store32LE (BitVec.ofNat 32 d3) ++ store32LE (BitVec.ofNat 32 d4)

end Poly1305

/-- `poly1305`. -/
def poly1305 (msg key : Bytes) : Bytes :=
  Poly1305.finish key (Poly1305.absorb (Poly1305.clamp key) msg)

/-- `poly1305_tagcmp`: the differences of all bytes, collected. -/
def poly1305Tagcmp (tag1 tag2 : Bytes) : Octet :=
  (List.range 16).foldl (fun d i => d ||| (Buffer.byte tag1 i ^^^ Buffer.byte tag2 i)) 0

theorem length_poly1305 (msg key : Bytes) : (poly1305 msg key).length = 16 := rfl

end SqliteMc

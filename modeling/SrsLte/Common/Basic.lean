import SrsLte.Data.Numerals

/-!
This module contains the byte buffers of `common.h` that the layers hand to each other, and the arithmetic of
`uint32_t` and `int`.
-/

namespace SrsLte

def srslteMaxBufferSizeBytes : Nat := 12756

def srslteBufferHeaderOffset : Nat := 1020

abbrev ByteBuffer := List UInt8

namespace ByteBuffer

def getTailroom (buf : ByteBuffer) : Nat :=
  srslteMaxBufferSizeBytes - srslteBufferHeaderOffset - buf.length

end ByteBuffer


def u32Sub (a b : Nat) : Nat :=
  (a + (2 ^ 32 - b % 2 ^ 32)) % 2 ^ 32

def u32ToInt (n : Nat) : Int :=
  if n % 2 ^ 32 < 2 ^ 31 then (n % 2 ^ 32 : Nat) else (n % 2 ^ 32 : Nat) - 2 ^ 32

def toInt32 (x : Int) : Int :=
  x.bmod (2 ^ 32)

theorem toInt32_of_lt {x : Int} (hlo : -2147483648 ≤ x) (hhi : x < 2147483648) : toInt32 x = x := by
  unfold toInt32
  rw [Int.bmod_def]
  omega

theorem toInt32_lt (x : Int) : toInt32 x < 2147483648 := by
  unfold toInt32
  rw [Int.bmod_def]
  omega

theorem u32Sub_of_le {a b : Nat} (h : b ≤ a) (ha : a < 2 ^ 32) : u32Sub a b = a - b := by
  unfold u32Sub
  omega

theorem u32Sub_add_left (a : Nat) {n : Nat} (h : n < 2 ^ 32) : u32Sub (a + n) a = n := by
  unfold u32Sub
  omega

theorem u32Sub_eq {a b : Nat} (hle : b ≤ a) (hlt : a - b < 2 ^ 32) : u32Sub a b = a - b := by
  unfold u32Sub
  omega

end SrsLte

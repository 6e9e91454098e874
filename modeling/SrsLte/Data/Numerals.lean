import Mathlib.Data.UInt

/-!
This module contains the instances the numerals of the small index types rest on.
-/

instance neZeroTwo : NeZero 2 := ⟨Nat.succ_ne_zero 1⟩

instance neZeroFour : NeZero 4 := ⟨Nat.succ_ne_zero 3⟩

instance neZeroEight : NeZero 8 := ⟨Nat.succ_ne_zero 7⟩

instance neZeroEleven : NeZero 11 := ⟨Nat.succ_ne_zero 10⟩

instance neZeroFifteen : NeZero 15 := ⟨Nat.succ_ne_zero 14⟩

instance neZeroSixteen : NeZero 16 := ⟨Nat.succ_ne_zero 15⟩

import SrsLte.Data.Bits
import Mathlib.Data.List.Basic

/-!
This module contains the extension part of the data PDU headers, the table of 11 bit length
indicators. `rlc_am.cc` and `rlc_um.cc` write and read it with the same loops.
-/

namespace SrsLte

open List

/--
The bytes that the `while(i < header->N_li)` loop writes, with the padding for odd `N_li`. An even
entry and the odd entry after it share three bytes, so the loop handles two entries per iteration.
-/
def writeExtension (li : List Nat) : List UInt8 :=
  match li with
  | [] => []
  | [l] =>
    [
      UInt8.ofNat (0 <<< 7 ||| (l &&& 0x7F0) >>> 4),
      UInt8.ofNat ((l &&& 0x00F) <<< 4)
    ]
  | l :: l' :: li =>
    let ext := if li.isEmpty then 0 else 1
    [
      UInt8.ofNat (1 <<< 7 ||| (l &&& 0x7F0) >>> 4),
      UInt8.ofNat ((l &&& 0x00F) <<< 4 ||| (ext <<< 3 ||| (l' &&& 0x700) >>> 8)),
      UInt8.ofNat (l' &&& 0x0FF)
    ] ++ writeExtension li

/--
The `while(ext)` loop, entered with `ext` set. The result is `none` if the loop reads past the end
of the payload, otherwise it is the table and what follows the header.
-/
def readExtension (payload : List UInt8) : Option (List Nat × List UInt8) :=
  match payload with
  | b0 :: b1 :: payload =>
    let l := (b0.toNat &&& 0x7F) <<< 4 ||| (b1.toNat &&& 0xF0) >>> 4
    if (b0.toNat >>> 7) &&& 0x01 = 0 then
      -- `N_li` is odd, the low half of `b1` is padding
      some ([l], payload)
    else
      match payload with
      | b2 :: payload =>
        let l' := (b1.toNat &&& 0x07) <<< 8 ||| (b2.toNat &&& 0xFF)
        if (b1.toNat >>> 3) &&& 0x01 = 0 then
          some ([l, l'], payload)
        else
          match readExtension payload with
          | some (li, payload) => some (l :: l' :: li, payload)
          | none => none
      | [] => none
  | _ => none

def readLi {α : Type} (ext : Nat) (payload : List UInt8) (header : List Nat → α) : Option (α × List UInt8) :=
  if ext = 0 then
    some (header [], payload)
  else
    (readExtension payload).map fun (li, payload) => (header li, payload)

theorem length_writeExtension (li : List Nat)
    : (writeExtension li).length = (3 * li.length + 1) / 2 := by
  fun_induction writeExtension li with
  | case1 => rfl
  | case2 l => simp
  | case3 l l' li ext ih =>
    simp only [length_append, length_cons, length_nil, ih]
    omega

namespace writeExtension

theorem even_hi (ext l : Nat) (hext : ext < 2)
    : (UInt8.ofNat (ext <<< 7 ||| (l &&& 0x7F0) >>> 4)).toNat = ext * 128 + l / 16 % 128 := by
  rw [Bits.and_mask_shiftRight l 7 4 (by decide)]
  rw [Bits.shiftLeft_or ext 7 (by apply Nat.mod_lt; decide)]
  rw [UInt8.toNat_ofNat']
  omega

theorem even_lo (l : Nat) : (UInt8.ofNat ((l &&& 0x00F) <<< 4)).toNat = l % 16 * 16 := by
  rw [Bits.and_mask l 4 (by decide), Nat.shiftLeft_eq, UInt8.toNat_ofNat']
  omega

theorem odd_hi (ext l l' : Nat) (hext : ext < 2)
    : (UInt8.ofNat ((l &&& 0x00F) <<< 4 ||| (ext <<< 3 ||| (l' &&& 0x700) >>> 8))).toNat
        =
      l % 16 * 16 + ext * 8 + l' / 256 % 8 := by
  rw [Bits.and_mask_shiftRight l' 3 8 (by decide), Bits.and_mask l 4 (by decide)]
  rw [Bits.shiftLeft_or ext 3 (by apply Nat.mod_lt; decide)]
  rw [Bits.shiftLeft_or _ 4 (by omega)]
  rw [UInt8.toNat_ofNat']
  omega

theorem odd_lo (l' : Nat) : (UInt8.ofNat (l' &&& 0x0FF)).toNat = l' % 256 := by
  rw [Bits.and_mask l' 8 (by decide), UInt8.toNat_ofNat']
  omega

end writeExtension

namespace readExtension

theorem even_eq {hi lo : Nat} (hlo : lo < 256)
    : (hi &&& 0x7F) <<< 4 ||| (lo &&& 0xF0) >>> 4 = hi % 128 * 16 + lo / 16 := by
  rw [Bits.and_mask hi 7 (by decide), Bits.and_mask_shiftRight lo 4 4 (by decide)]
  rw [Bits.shiftLeft_or _ 4 (by apply Nat.mod_lt; decide)]
  omega

theorem odd_eq {hi lo : Nat} (hlo : lo < 256)
    : (hi &&& 0x07) <<< 8 ||| (lo &&& 0xFF) = hi % 8 * 256 + lo := by
  rw [Bits.and_mask hi 3 (by decide), Bits.and_mask lo 8 (by decide)]
  rw [Bits.shiftLeft_or _ 8 (by apply Nat.mod_lt; decide)]
  omega

theorem ext_eq (b s : Nat) : (b >>> s) &&& 0x01 = b / 2 ^ s % 2 := by
  rw [Bits.and_mask _ 1 (by decide), Nat.shiftRight_eq_div_pow, Nat.pow_one]

end readExtension

theorem readExtension_writeExtension (li : List Nat) (payload : List UInt8) (hne : li ≠ [])
    (hli : ∀ l ∈ li, l < 2048)
    : readExtension (writeExtension li ++ payload) = some (li, payload) := by
  fun_induction writeExtension li with
  | case1 => contradiction
  | case2 l =>
    have hl := hli l (by simp)
    simp only [cons_append, nil_append]
    unfold readExtension
    dsimp only
    rw [readExtension.ext_eq, readExtension.even_eq (by rw [writeExtension.even_lo]; omega)]
    rw [writeExtension.even_hi 0 l (by omega), writeExtension.even_lo]
    have hext : (0 * 128 + l / 16 % 128) / 2 ^ 7 % 2 = 0 := by omega
    simp only [hext, ↓reduceIte, Option.some.injEq, Prod.mk.injEq, List.cons.injEq, and_true]
    omega
  | case3 l l' li ext ih =>
    have hl := hli l (by simp)
    have hl' := hli l' (by simp)
    have hext : ext < 2 := by
      dsimp only [ext]
      split <;> omega
    simp only [cons_append, nil_append]
    unfold readExtension
    dsimp only
    rw [readExtension.ext_eq, readExtension.ext_eq]
    rw [readExtension.even_eq (by rw [writeExtension.odd_hi ext l l' hext]; omega)]
    rw [readExtension.odd_eq (by rw [writeExtension.odd_lo]; omega)]
    rw [writeExtension.even_hi 1 l (by omega), writeExtension.odd_hi ext l l' hext]
    rw [writeExtension.odd_lo]
    have hext1 : ¬ (1 * 128 + l / 16 % 128) / 2 ^ 7 % 2 = 0 := by omega
    have hleq : (1 * 128 + l / 16 % 128) % 128 * 16
        + (l % 16 * 16 + ext * 8 + l' / 256 % 8) / 16 = l := by
      omega
    have hleq' : (l % 16 * 16 + ext * 8 + l' / 256 % 8) % 8 * 256 + l' % 256 = l' := by omega
    have hext2 : (l % 16 * 16 + ext * 8 + l' / 256 % 8) / 2 ^ 3 % 2 = ext := by omega
    simp only [hext1, hext2, hleq, hleq', ↓reduceIte]
    cases li with
    | nil => simp [ext, writeExtension]
    | cons l'' li =>
      have hstep := ih (by simp) (by intro k hk; apply hli; simp [hk])
      simp [ext, hstep]

theorem writeExtension_mod (li : List Nat) : writeExtension (li.map (· % 2 ^ 11)) = writeExtension li := by
  fun_induction writeExtension li with
  | case1 => rfl
  | case2 l =>
    simp only [map_cons, map_nil, writeExtension]
    rw [Bits.mod_and (by decide), Bits.mod_and (by decide)]
  | case3 l l' li ext ih =>
    simp only [map_cons, writeExtension, isEmpty_map, ih]
    rw [Bits.mod_and (by decide), Bits.mod_and (by decide), Bits.mod_and (by decide), Bits.mod_and (by decide)]

variable {α : Type} {header : List Nat → α}

theorem readLi_write (header : List Nat → α) {li : List Nat} (payload : List UInt8) (hli : ∀ l ∈ li, l < 2048)
    : readLi (if li.length > 0 then 1 else 0) (writeExtension li ++ payload) header = some (header li, payload) := by
  unfold readLi
  cases li with
  | nil => rfl
  | cons l li =>
    rw [readExtension_writeExtension _ payload (cons_ne_nil l li) hli]
    rfl

theorem exists_of_readLi {ext : Nat} {payload rest : List UInt8} {a : α} (h : readLi ext payload header = some (a, rest))
    : ∃ li, a = header li := by
  unfold readLi at h
  split at h
  . cases h
    exact ⟨[], rfl⟩
  . have ⟨read, _, heq⟩ := Option.map_eq_some_iff.mp h
    cases heq
    exact ⟨read.1, rfl⟩

end SrsLte

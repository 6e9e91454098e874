import SrsLte.Data.Gf2
import SrsLte.Phy.Impl.Sch

/-!
This module contains the theory of the cyclic redundancy check.
-/

namespace SrsLte.Crc

open Gf2 Polynomial List

structure Configured (h : Crc) (crcPoly crcOrder : Nat) : Prop where
  generator : IsGenerator crcPoly crcOrder
  polynom : h.polynom = crcPoly
  order : h.order = crcOrder
  order_dvd : 8 ∣ crcOrder
  order_le : crcOrder ≤ 56
  order_ge : 8 ≤ crcOrder
  crcmask : ∀ crc, crc &&& h.crcmask = crc % 2 ^ crcOrder
  table : ∀ i < 256, h.table i < 2 ^ crcOrder ∧
    val crcPoly (h.table i) = val crcPoly i * AdjoinRoot.root (poly crcPoly) ^ crcOrder

theorem crcmask_eq {order : Nat} (ho : 1 ≤ order) : ((1 <<< (order - 1)) - 1) <<< 1 ||| 1 = 2 ^ order - 1 := by
  rw [Bits.shiftLeft_or _ 1 (by decide), Nat.one_shiftLeft]
  obtain ⟨n, rfl⟩ := Nat.exists_eq_add_of_le ho
  have hpow : 2 ^ (1 + n) = 2 * 2 ^ n := by rw [Nat.pow_add]
  have hpos := Nat.two_pow_pos n
  rw [hpow, Nat.add_sub_cancel_left]
  omega

theorem and_highbit (crc order : Nat) : crc &&& 1 <<< (order - 1) ≠ 0 ↔ crc.testBit (order - 1) = true := by
  rw [Nat.one_shiftLeft, Nat.and_two_pow]
  cases crc.testBit (order - 1) with
  | false => simp
  | true => simp

variable {data : List Bool}

theorem genCrcTable_spec (h : IsGenerator p n) (hn : 8 ≤ n) {i : Nat} (hi : i < 256)
    : let entry := genCrcTable p n (((1 <<< (n - 1)) - 1) <<< 1 ||| 1) (1 <<< (n - 1)) i
      entry < 2 ^ n ∧ val p entry = val p i * AdjoinRoot.root (poly p) ^ n := by
  have hshift : (fun crc =>
      let bit := crc &&& 1 <<< (n - 1)
      let crc := crc <<< 1
      if bit ≠ 0 then crc ^^^ p else crc) = shift p n := by
    funext crc
    unfold shift
    dsimp only
    simp only [and_highbit]
  have hrun : ∀ k c, c < 2 ^ n →
      (shift p n)^[k] c < 2 ^ n ∧ val p ((shift p n)^[k] c) = val p c * AdjoinRoot.root (poly p) ^ k := by
    intro k
    induction k with
    | zero =>
      intro c hc
      exact ⟨hc, by rw [pow_zero, mul_one]; rfl⟩
    | succ k ih =>
      intro c hc
      have ⟨hlt, hval⟩ := ih (shift p n c) (shift_lt h (by omega) hc)
      rw [Function.iterate_succ_apply]
      refine ⟨hlt, ?_⟩
      rw [hval, val_shift, pow_succ]
      ring
  have hstart : i <<< (n - 8) < 2 ^ n := by
    rw [Nat.shiftLeft_eq]
    calc i * 2 ^ (n - 8) < 256 * 2 ^ (n - 8) := Nat.mul_lt_mul_of_pos_right hi (Nat.two_pow_pos _)
      _ = 2 ^ n := by
        rw [show 256 = 2 ^ 8 from rfl, ← Nat.pow_add]
        congr 1
        omega
  have ⟨hlt, hval⟩ := hrun 8 _ hstart
  unfold genCrcTable
  dsimp only
  rw [hshift, crcmask_eq (by omega), Bits.and_mask _ n rfl, Nat.mod_eq_of_lt hlt]
  refine ⟨hlt, ?_⟩
  rw [hval, Nat.shiftLeft_eq, val_mul_two_pow, mul_assoc, ← pow_add]
  congr 2
  omega

theorem configured_init {crcPoly crcOrder : Nat} (hinit : init crcPoly crcOrder = some h)
    (hgenerator : IsGenerator crcPoly crcOrder) (hge : 8 ≤ crcOrder) (hle : crcOrder ≤ 56)
    : Configured h crcPoly crcOrder := by
  unfold init at hinit
  dsimp only at hinit
  split at hinit
  next => cases hinit
  next hmod =>
    cases hinit
    constructor
    case crcmask =>
      intro crc
      dsimp only
      rw [crcmask_eq (by omega)]
      exact Bits.and_mask crc crcOrder rfl
    case table =>
      intro i hi
      exact genCrcTable_spec hgenerator hge hi
    case order_dvd => omega
    all_goals first | rfl | assumption

variable {h : Crc} {p n : Nat}

theorem Configured.val_crctable (hc : Configured h p n) (crcinit : Nat) {byte : Nat} (hb : byte < 256)
    : val p (h.crctable crcinit byte % 2 ^ n)
        =
      val p (crcinit % 2 ^ n) * AdjoinRoot.root (poly p) ^ 8 + val p byte * AdjoinRoot.root (poly p) ^ n := by
  have ⟨ord, hn⟩ := Nat.exists_eq_add_of_le hc.order_ge
  have hord : h.order - 8 = ord := by
    rw [hc.order, hn]
    omega
  have hpow : 2 ^ n = 2 ^ ord * 2 ^ 8 := by
    rw [hn, Nat.add_comm, Nat.pow_add]
  generalize htop : crcinit >>> ord &&& 0xff = top
  have htop' : top = crcinit / 2 ^ ord % 2 ^ 8 := by
    rw [← htop, Bits.and_mask _ 8 (show 0xff = 2 ^ 8 - 1 from rfl), Nat.shiftRight_eq_div_pow]
  have hindex : top ^^^ byte < 256 := by
    apply Nat.xor_lt_two_pow (n := 8) _ hb
    rw [htop']
    exact Nat.mod_lt _ (Nat.two_pow_pos 8)
  have ⟨hlt, htable⟩ := hc.table _ hindex
  -- The bits that stay in the register and the 8 bits that leave it
  have hlow : (crcinit <<< 8) % 2 ^ 64 % 2 ^ n = crcinit % 2 ^ ord * 2 ^ 8 := by
    rw [Nat.mod_mod_of_dvd _ (Nat.pow_dvd_pow 2 (show n ≤ 64 from Nat.le_trans hc.order_le (by decide))),
      Nat.shiftLeft_eq, hpow, Nat.mul_mod_mul_right]
  have hsplit : crcinit % 2 ^ n = top * 2 ^ ord + crcinit % 2 ^ ord := by
    rw [htop', hpow, Nat.mod_mul, Nat.mul_comm (2 ^ ord), Nat.add_comm]
  unfold crctable
  dsimp only
  rw [hord, htop, Nat.xor_mod_two_pow, hlow, Nat.mod_eq_of_lt hlt, val_xor, htable, val_mul_two_pow, val_xor, hsplit,
    val_mul_add p top ord (Nat.mod_lt _ (Nat.two_pow_pos ord)), hn]
  ring

def ofBytes (bytes : List Nat) : Nat :=
  bytes.foldl (fun value byte => value * 2 ^ 8 + byte) 0

theorem Configured.val_checksumOf (hc : Configured h p n) (bytes : List Nat) (hb : ∀ byte ∈ bytes, byte < 256)
    : h.checksumOf bytes < 2 ^ n ∧
      val p (h.checksumOf bytes) = val p (ofBytes bytes) * AdjoinRoot.root (poly p) ^ n := by
  have hrun : ∀ (bytes : List Nat) (crc value : Nat), (∀ byte ∈ bytes, byte < 256) →
      val p (crc % 2 ^ n) = val p value * AdjoinRoot.root (poly p) ^ n →
      val p (bytes.foldl h.crctable crc % 2 ^ n)
        = val p (bytes.foldl (fun value byte => value * 2 ^ 8 + byte) value) * AdjoinRoot.root (poly p) ^ n := by
    intro bytes
    induction bytes with
    | nil =>
      intro crc value _ hval
      exact hval
    | cons byte bytes ih =>
      intro crc value hb hval
      have hbyte := hb byte mem_cons_self
      apply ih _ _ (fun b hmem => hb b (mem_cons_of_mem byte hmem))
      rw [hc.val_crctable crc hbyte, hval, val_mul_add p value 8 hbyte]
      ring
  unfold checksumOf
  rw [hc.crcmask]
  refine ⟨Nat.mod_lt _ (Nat.two_pow_pos n), ?_⟩
  apply hrun bytes 0 0 hb
  rw [Nat.zero_mod, val_zero, zero_mul]

theorem Configured.val_reversecrcbit (hc : Configured h p n) (hp : p % 2 = 1) {crc : Nat} (hcrc : crc < 2 ^ n)
    (nbits : Nat)
    : h.reversecrcbit crc nbits < 2 ^ n ∧
      val p (h.reversecrcbit crc nbits) * AdjoinRoot.root (poly p) ^ nbits = val p crc := by
  have hunshift : (fun crc => if 1 &&& crc = 1 then (crc ^^^ h.polynom) >>> 1 else crc >>> 1) = unshift p := by
    funext crc
    unfold unshift
    rw [Nat.and_comm, Nat.and_one_is_mod, hc.polynom]
  have hrun : ∀ k crc, crc < 2 ^ n →
      (unshift p)^[k] crc < 2 ^ n ∧ val p ((unshift p)^[k] crc) * AdjoinRoot.root (poly p) ^ k = val p crc := by
    intro k
    induction k with
    | zero =>
      intro crc hcrc
      exact ⟨hcrc, by rw [pow_zero, mul_one]; rfl⟩
    | succ k ih =>
      intro crc hcrc
      have ⟨hlt, hval⟩ := ih (unshift p crc) (unshift_lt hc.generator hcrc)
      rw [Function.iterate_succ_apply]
      refine ⟨hlt, ?_⟩
      rw [pow_succ, ← mul_assoc, hval, val_unshift p hp]
  unfold reversecrcbit
  dsimp only
  have ⟨hlt, hval⟩ := hrun nbits crc hcrc
  rw [hunshift, hc.crcmask, Nat.mod_eq_of_lt hlt]
  exact ⟨hlt, hval⟩

def packed (data : List Bool) : List Nat :=
  let len8 := data.length / 8
  let res8 := data.length % 8
  (List.range (len8 + if res8 > 0 then 1 else 0)).map (packByte data len8 res8)

theorem packByte_succ (data : List Bool) (len8 res8 i : Nat)
    : packByte data (len8 + 1) res8 (i + 1) = packByte (data.drop 8) len8 res8 i := by
  unfold packByte
  rw [drop_drop, show 8 + 8 * i = 8 * (i + 1) by omega]
  simp only [Nat.add_right_cancel_iff]

theorem packed_of_le (hlen : 8 ≤ data.length)
    : packed data = Bits.toNat (data.take 8) :: packed (data.drop 8) := by
  have ⟨k, hk⟩ := Nat.exists_eq_add_of_le hlen
  have hlen8 : data.length / 8 = (data.drop 8).length / 8 + 1 := by
    rw [length_drop]
    omega
  have hres8 : data.length % 8 = (data.drop 8).length % 8 := by
    rw [length_drop]
    omega
  unfold packed
  dsimp only
  rw [hlen8, hres8, Nat.add_right_comm, range_succ_eq_map, map_cons, map_map]
  congr 1
  apply map_congr_left
  intro i _
  exact packByte_succ data _ _ i

theorem packByte_tail (hlen : data.length < 8)
    : packByte data 0 data.length 0 = Bits.toNat data * 2 ^ (8 - data.length) := by
  have hrun : ∀ m, m ≤ data.length →
      (List.range m).foldl (fun byte k => byte ||| (data[k]?.getD false).toNat <<< (7 - k)) 0
        = Bits.toNat (data.take m) * 2 ^ (8 - m) := by
    intro m
    induction m with
    | zero =>
      intro _
      simp [Bits.toNat]
    | succ m ih =>
      intro hm
      have hm' : m < data.length := hm
      have hpow : 2 ^ (8 - m) = 2 * 2 ^ (7 - m) := by
        rw [← Nat.pow_add_one']
        congr 1
        omega
      have hbit : (data[m]).toNat * 2 ^ (7 - m) < 2 ^ (8 - m) := by
        rw [hpow]
        exact Nat.mul_lt_mul_of_pos_right (Bool.toNat_lt _) (Nat.two_pow_pos _)
      have hone : Bits.toNat [data[m]] = (data[m]).toNat := by
        simp [Bits.toNat]
      rw [range_succ, foldl_append, ih (Nat.le_of_lt hm), foldl_cons, foldl_nil,
        getElem?_eq_getElem hm', Option.getD_some, ← Nat.shiftLeft_eq, Nat.shiftLeft_eq _ (7 - m),
        Bits.shiftLeft_or _ _ hbit, take_succ_eq_append_getElem hm', Bits.toNat_append, hone,
        length_singleton, hpow, show 8 - (m + 1) = 7 - m by omega]
      ring
  unfold packByte
  rw [drop_zero]
  dsimp only
  rw [if_pos rfl, hrun data.length (le_refl _), take_length]

theorem packed_of_lt (hlen : data.length < 8)
    : packed data = if data = [] then [] else [Bits.toNat data * 2 ^ (8 - data.length)] := by
  have hlen8 : data.length / 8 = 0 := Nat.div_eq_of_lt hlen
  have hres8 : data.length % 8 = data.length := Nat.mod_eq_of_lt hlen
  unfold packed
  dsimp only
  rw [hlen8, hres8]
  cases data with
  | nil => rfl
  | cons bit data =>
    have hpos : (bit :: data).length > 0 := Nat.succ_pos data.length
    rw [if_pos hpos, if_neg (cons_ne_nil bit data), ← packByte_tail hlen]
    rfl

theorem packed_lt (data : List Bool) : ∀ byte ∈ packed data, byte < 256 := by
  induction hlen : data.length using Nat.strong_induction_on generalizing data with
  | _ len ih =>
    cases Nat.lt_or_ge data.length 8 with
    | inl hlt =>
      rw [packed_of_lt hlt]
      intro byte hmem
      split at hmem
      next => cases hmem
      next =>
        rw [mem_singleton.mp hmem]
        calc Bits.toNat data * 2 ^ (8 - data.length)
          _ < 2 ^ data.length * 2 ^ (8 - data.length) :=
            Nat.mul_lt_mul_of_pos_right (Bits.toNat_lt data) (Nat.two_pow_pos _)
          _ = 2 ^ 8 := by
            rw [← Nat.pow_add]
            congr 1
            omega
    | inr hge =>
      rw [packed_of_le hge]
      intro byte hmem
      cases mem_cons.mp hmem with
      | inl hfirst =>
        have hlt := Bits.toNat_lt (data.take 8)
        rw [length_take_of_le hge] at hlt
        rw [hfirst]
        exact hlt
      | inr hrest =>
        have hdrop : (data.drop 8).length < len := by
          rw [length_drop]
          omega
        exact ih _ hdrop (data.drop 8) rfl byte hrest

def padding (len : Nat) : Nat :=
  if len % 8 > 0 then 8 - len % 8 else 0

theorem ofBytes_packed (data : List Bool) : ofBytes (packed data) = Bits.toNat data * 2 ^ padding data.length := by
  have hrun : ∀ (len : Nat) (data : List Bool) (acc : Nat), data.length = len →
      (packed data).foldl (fun value byte => value * 2 ^ 8 + byte) acc
        = (acc * 2 ^ data.length + Bits.toNat data) * 2 ^ padding data.length := by
    intro len
    induction len using Nat.strong_induction_on with
    | _ len ih =>
      intro data acc hlen
      cases Nat.lt_or_ge data.length 8 with
      | inl hlt =>
        rw [packed_of_lt hlt]
        unfold padding
        rw [Nat.mod_eq_of_lt hlt]
        split
        next hnil =>
          subst hnil
          simp [Bits.toNat]
        next hne =>
          have hpos : data.length > 0 := length_pos_iff.mpr hne
          have hpow : 2 ^ 8 = 2 ^ data.length * 2 ^ (8 - data.length) := by
            rw [← Nat.pow_add]
            congr 1
            omega
          rw [if_pos hpos, foldl_cons, foldl_nil, hpow]
          ring
      | inr hge =>
        have hdrop : (data.drop 8).length = data.length - 8 := length_drop
        have hpadding : padding (data.drop 8).length = padding data.length := by
          unfold padding
          rw [hdrop, show (data.length - 8) % 8 = data.length % 8 by omega]
        have hsplit : Bits.toNat data = Bits.toNat (data.take 8) * 2 ^ (data.length - 8) + Bits.toNat (data.drop 8) := by
          rw [← hdrop, ← Bits.toNat_append, take_append_drop]
        have hpow : 2 ^ data.length = 2 ^ 8 * 2 ^ (data.length - 8) := by
          rw [← Nat.pow_add]
          congr 1
          omega
        rw [packed_of_le hge, foldl_cons, ih _ (by omega) (data.drop 8) _ rfl, hpadding, hdrop, hsplit, hpow]
        ring
  have h := hrun data.length data 0 rfl
  rw [Nat.zero_mul, Nat.zero_add] at h
  exact h

theorem checksum_eq (h : Crc) (data : List Bool)
    : h.checksum data
        =
      if data.length % 8 > 0 then
        h.reversecrcbit (h.checksumOf (packed data)) (padding data.length)
      else
        h.checksumOf (packed data) := by
  have hlen8 : data.length >>> 3 = data.length / 8 := Nat.shiftRight_eq_div_pow data.length 3
  have hres8 : data.length - (data.length / 8) <<< 3 = data.length % 8 := by
    rw [Nat.shiftLeft_eq]
    omega
  unfold checksum packed padding
  dsimp only
  rw [hlen8, hres8]
  split
  next => exact if_pos rfl
  next => exact if_neg Nat.zero_ne_one

theorem Configured.val_checksum (hc : Configured h p n) (hdata : p % 2 = 1 ∨ 8 ∣ data.length)
    : h.checksum data < 2 ^ n ∧
      val p (h.checksum data) = val p (Bits.toNat data) * AdjoinRoot.root (poly p) ^ n := by
  have ⟨hlt, hval⟩ := hc.val_checksumOf (packed data) (packed_lt data)
  rw [ofBytes_packed, val_mul_two_pow] at hval
  rw [checksum_eq]
  split
  next hpos =>
    have hp : p % 2 = 1 := by
      cases hdata with
      | inl hp => exact hp
      | inr hdvd => omega
    have ⟨hlt', hval'⟩ := hc.val_reversecrcbit hp hlt (padding data.length)
    refine ⟨hlt', ?_⟩
    apply root_cancel hp
    rw [hval', hval]
    ring
  next hzero =>
    refine ⟨hlt, ?_⟩
    have hpadding : padding data.length = 0 := if_neg hzero
    rw [hval, hpadding, pow_zero, mul_one]

theorem Configured.checksum_attach (hc : Configured h p n) (hdata : p % 2 = 1 ∨ 8 ∣ data.length)
    : h.checksum (h.attach data) = 0 := by
  have ⟨hlt, hval⟩ := hc.val_checksum hdata
  have hlen : (h.attach data).length = data.length + n := by
    unfold attach
    rw [length_append, length_srslteBitUnpack, hc.order]
  have hdata' : p % 2 = 1 ∨ 8 ∣ (h.attach data).length := by
    cases hdata with
    | inl hp => exact Or.inl hp
    | inr hdvd =>
      right
      rw [hlen]
      exact Nat.dvd_add hdvd hc.order_dvd
  have hnat : Bits.toNat (h.attach data) = Bits.toNat data * 2 ^ n + h.checksum data := by
    unfold attach
    rw [Bits.toNat_append, length_srslteBitUnpack, hc.order]
    unfold srslteBitUnpack
    rw [Bits.toNat_ofNat, Nat.mod_eq_of_lt hlt]
  have ⟨hlt', hval'⟩ := hc.val_checksum hdata'
  have hzero : val p (h.checksum (h.attach data)) = AdjoinRoot.mk (poly p) 0 := by
    rw [hval', hnat, val_mul_add p _ n hlt, ← hval, val_add_val, zero_mul, map_zero]
  apply poly_injective
  rw [poly_eq_modByMonic hc.generator hlt' hzero, zero_modByMonic, poly_zero]

theorem packed_unpackVector (bytes : List UInt8)
    : packed (srslteBitUnpackVector bytes) = bytes.map UInt8.toNat := by
  induction bytes with
  | nil => rfl
  | cons byte bytes ih =>
    have hunpack : srslteBitUnpackVector (byte :: bytes) = srslteBitUnpack byte.toNat 8 ++ srslteBitUnpackVector bytes :=
      rfl
    have hlen := length_srslteBitUnpack byte.toNat 8
    rw [packed_of_le, hunpack, take_left' hlen, drop_left' hlen, ih, map_cons]
    . congr 1
      unfold srslteBitUnpack
      rw [Bits.toNat_ofNat]
      exact Nat.mod_eq_of_lt byte.toNat_lt
    . rw [hunpack, length_append, hlen]
      omega

theorem length_unpackVector (bytes : List UInt8) : (srslteBitUnpackVector bytes).length = bytes.length * 8 := by
  unfold srslteBitUnpackVector
  simp [length_flatMap]

theorem checksumByte_eq (h : Crc) (bytes : List UInt8)
    : h.checksumByte bytes = h.checksum (srslteBitUnpackVector bytes) := by
  have hlen := length_unpackVector bytes
  rw [checksum_eq, packed_unpackVector, if_neg]
  . rfl
  . omega

theorem unpackVector_bytes (value m : Nat)
    : srslteBitUnpackVector
        ((List.range m).map fun i => UInt8.ofNat ((value &&& 0xff <<< (8 * i)) >>> (8 * i))).reverse
        =
      srslteBitUnpack value (8 * m) := by
  induction m with
  | zero => rfl
  | succ m ih =>
    have hbyte : (value &&& 0xff <<< (8 * m)) >>> (8 * m) = (value >>> (8 * m)) % 2 ^ 8 := by
      rw [Nat.shiftRight_eq_div_pow value]
      apply Bits.and_mask_shiftRight
      exact Nat.shiftLeft_shiftRight 0xff (8 * m)
    have hlt : (value >>> (8 * m)) % 2 ^ 8 < 2 ^ 8 := Nat.mod_lt _ (Nat.two_pow_pos 8)
    have hbits : srslteBitUnpack (UInt8.ofNat ((value >>> (8 * m)) % 2 ^ 8)).toNat 8
        = Bits.ofNat (value >>> (8 * m)) 8 := by
      rw [UInt8.toNat_ofNat', Nat.mod_eq_of_lt hlt]
      exact Bits.ofNat_mod _ 8 (le_refl 8)
    rw [range_succ, map_append, reverse_append, map_cons, map_nil, reverse_singleton,
      hbyte, singleton_append]
    change srslteBitUnpack _ 8 ++ srslteBitUnpackVector _ = _
    rw [ih, hbits, show 8 * (m + 1) = 8 + 8 * m by omega]
    exact (Bits.ofNat_add value 8 (8 * m)).symm

theorem unpackVector_append (a b : List UInt8)
    : srslteBitUnpackVector (a ++ b) = srslteBitUnpackVector a ++ srslteBitUnpackVector b :=
  flatMap_append

theorem Configured.checksumByte_attachByte (hc : Configured h p n) (bytes : List UInt8)
    : h.checksumByte (h.attachByte bytes) = 0 := by
  have hattach : srslteBitUnpackVector (h.attachByte bytes) = h.attach (srslteBitUnpackVector bytes) := by
    unfold attachByte attach
    dsimp only
    rw [unpackVector_append, unpackVector_bytes, checksumByte_eq, hc.order, Nat.mul_div_cancel' hc.order_dvd]
  rw [checksumByte_eq, hattach]
  apply hc.checksum_attach
  right
  rw [length_unpackVector]
  exact Nat.dvd_mul_left 8 bytes.length

theorem checksum_spec {crcPoly crcOrder : Nat} {h : Crc} (hinit : init crcPoly crcOrder = some h)
    (hgenerator : IsGenerator crcPoly crcOrder) (hge : 8 ≤ crcOrder) (hle : crcOrder ≤ 24)
    : (∀ data : List Bool, (crcPoly % 2 = 1 ∨ 8 ∣ data.length) →
        poly (h.checksum data) = (poly (Bits.toNat data) * X ^ crcOrder) %ₘ poly crcPoly) ∧
      (∀ bytes : List UInt8, h.checksumByte bytes = h.checksum (srslteBitUnpackVector bytes)) ∧
      (∀ data : List Bool, (crcPoly % 2 = 1 ∨ 8 ∣ data.length) → h.checksum (h.attach data) = 0) := by
  have hc := configured_init hinit hgenerator hge (by omega)
  refine ⟨?_, checksumByte_eq h, fun data hdata => hc.checksum_attach hdata⟩
  intro data hdata
  have ⟨hlt, hval⟩ := hc.val_checksum hdata
  apply poly_eq_modByMonic hc.generator hlt
  rw [hval, map_mul, map_pow, AdjoinRoot.mk_X]
  rfl

theorem isGenerator_crc24A : IsGenerator lteCrc24A 24 := by
  constructor
  all_goals decide

theorem checksum_spec_crc24A
    : ∃ h, init lteCrc24A 24 = some h ∧
        poly (h.checksum [true, false, true]) = (poly 5 * X ^ 24) %ₘ poly lteCrc24A ∧
        h.checksum (h.attach [true, false, true]) = 0 := by
  refine ⟨_, rfl, ?_, ?_⟩
  . exact (checksum_spec rfl isGenerator_crc24A (by decide) (by decide)).1 [true, false, true] (Or.inl (by decide))
  . exact (checksum_spec rfl isGenerator_crc24A (by decide) (by decide)).2.2 [true, false, true]
      (Or.inl (by decide))

theorem not_checksum_spec
    : ∃ h, init 0x102 8 = some h ∧ IsGenerator 0x102 8 ∧
        poly (h.checksum [true]) ≠ (poly (Bits.toNat [true]) * X ^ 8) %ₘ poly 0x102 := by
  have hgenerator : IsGenerator 0x102 8 := by
    constructor
    all_goals decide
  refine ⟨_, rfl, hgenerator, ?_⟩
  have hrem : poly 2 = (poly (Bits.toNat [true]) * X ^ 8) %ₘ poly 0x102 := by
    apply poly_eq_modByMonic hgenerator (by decide)
    have hself : val 0x102 1 * AdjoinRoot.root (poly 0x102) ^ 8 + val 0x102 2 = 0 := by
      rw [← val_mul_add 0x102 1 8 (by decide)]
      exact val_self 0x102
    rw [← val_add_val 0x102 2] at hself
    rw [← add_right_cancel hself, map_mul, map_pow, AdjoinRoot.mk_X]
    rfl
  rw [← hrem]
  intro heq
  have hne := poly_injective heq
  revert hne
  decide

end SrsLte.Crc

import SrsLte.Rlc.Am.Lemmas.Control
import SrsLte.Rlc.Um.Impl

/-!
This module contains the inputs on which the header parsers of RLC read only what they are given and
fill their tables only up to their size.
-/

namespace SrsLte

open List

open Option (bind_eq_some_iff)

def extensionBit (payload : List UInt8) (k : Nat) : Nat :=
  if k % 2 = 0 then
    ((payload.getD (3 * (k / 2)) 0).toNat >>> 7) &&& 0x01
  else
    ((payload.getD (3 * (k / 2) + 1) 0).toNat >>> 3) &&& 0x01

def EndsWithin (size : Nat) (payload : List UInt8) : Prop :=
  ∃ k < size, (3 * (k + 1) + 1) / 2 ≤ payload.length ∧ extensionBit payload k = 0

def Bounded {α : Type} (size : Nat) (entries : α → Nat) (result : Option α) : Prop :=
  ∃ a, result = some a ∧ entries a ≤ size

theorem not_bounded_none {α : Type} {size : Nat} {entries : α → Nat} : ¬ Bounded size entries none := by
  intro ⟨_, hsome, _⟩
  cases hsome

theorem extensionBit_add_two (b0 b1 b2 : UInt8) (payload : List UInt8) (k : Nat)
    : extensionBit (b0 :: b1 :: b2 :: payload) (k + 2) = extensionBit payload k := by
  have hget (n : Nat) : (b0 :: b1 :: b2 :: payload).getD (n + 3) 0 = payload.getD n 0 := rfl
  unfold extensionBit
  rw [Nat.add_mod_right, Nat.add_div_right k (by decide), Nat.mul_succ, Nat.add_right_comm, hget, hget]

variable {payload : List UInt8} {bits rest : List Bool}

theorem endsWithin_add_two {b0 b1 b2 : UInt8} {size : Nat}
    (h0 : extensionBit (b0 :: b1 :: b2 :: payload) 0 ≠ 0) (h1 : extensionBit (b0 :: b1 :: b2 :: payload) 1 ≠ 0)
    : EndsWithin size (b0 :: b1 :: b2 :: payload) ↔ EndsWithin (size - 2) payload := by
  constructor
  . intro ⟨k, hk, hlen, hext⟩
    match k with
    | 0 => contradiction
    | 1 => contradiction
    | k + 2 =>
      rw [extensionBit_add_two] at hext
      simp only [length_cons] at hlen
      exact ⟨k, by omega, by omega, hext⟩
  . intro ⟨k, hk, hlen, hext⟩
    refine ⟨k + 2, by omega, ?_, ?_⟩
    . simp only [length_cons]
      omega
    . rw [extensionBit_add_two]
      exact hext

theorem bounded_readExtension_iff (size : Nat) (payload : List UInt8)
    : Bounded size (fun read => read.1.length) (readExtension payload) ↔ EndsWithin size payload := by
  fun_induction readExtension payload generalizing size with
  | case1 b0 b1 payload l hext =>
    constructor
    . intro ⟨_, heq, hle⟩
      cases heq
      exact ⟨0, hle, by simp, hext⟩
    . intro ⟨k, hk, _⟩
      exact ⟨_, rfl, Nat.zero_lt_of_lt hk⟩
  | case2 b0 b1 l hext b2 payload l' hext' =>
    constructor
    . intro ⟨_, heq, hle⟩
      cases heq
      exact ⟨1, hle, by simp, hext'⟩
    . intro ⟨k, hk, _, hzero⟩
      match k with
      | 0 => contradiction
      | k + 1 => exact ⟨_, rfl, by show 2 ≤ size; omega⟩
  | case3 b0 b1 l hext b2 payload l' hext' li rest heq ih =>
    constructor
    . intro ⟨_, hsome, hle⟩
      cases hsome
      apply (endsWithin_add_two hext hext').mpr
      apply (ih _).mp
      exact ⟨_, heq, Nat.le_sub_of_add_le hle⟩
    . intro hends
      have hends' := (endsWithin_add_two hext hext').mp hends
      have ⟨_, hsome, hle⟩ := (ih _).mpr hends'
      have ⟨k, hk, _⟩ := hends'
      cases heq.symm.trans hsome
      exact ⟨_, rfl, show li.length + 2 ≤ size by dsimp only at hle; omega⟩
  | case4 b0 b1 hext b2 payload hext' heq ih =>
    apply iff_of_false not_bounded_none
    intro hends
    have hread := (ih _).mpr ((endsWithin_add_two hext hext').mp hends)
    rw [heq] at hread
    exact not_bounded_none hread
  | case5 b0 b1 hext =>
    apply iff_of_false not_bounded_none
    intro ⟨k, _, hlen, hzero⟩
    match k with
    | 0 => contradiction
    | k + 1 =>
      simp only [length_cons, length_nil] at hlen
      omega
  | case6 payload hshort =>
    apply iff_of_false not_bounded_none
    intro ⟨k, _, hlen, _⟩
    match payload with
    | [] =>
      simp only [length_nil] at hlen
      omega
    | [_] =>
      simp only [length_singleton] at hlen
      omega
    | b0 :: b1 :: payload => exact hshort b0 b1 payload rfl

theorem bounded_readLi_iff {α : Type} (table : α → List Nat) {ext : Nat} {header : List Nat → α}
    (hheader : ∀ li, table (header li) = li)
    : Bounded rlcAmWindowSize (fun read => (table read.1).length) (readLi ext payload header)
        ↔
      ext = 0 ∨ EndsWithin rlcAmWindowSize payload := by
  unfold readLi
  by_cases hext : ext = 0
  . rw [if_pos hext]
    exact iff_of_true ⟨_, rfl, by simp [hheader]⟩ (.inl hext)
  . rw [if_neg hext, ← bounded_readExtension_iff, or_iff_right hext]
    cases readExtension payload with
    | none => exact iff_of_false not_bounded_none not_bounded_none
    | some read => simp [Bounded, hheader]

def AmDataHeaderEnds (payload : List UInt8) : Prop :=
  match payload with
  | b0 :: _ :: payload =>
    if (b0.toNat >>> 6) &&& 0x01 = 1 then
      2 ≤ payload.length ∧ ((b0.toNat >>> 2) &&& 0x01 = 0 ∨ EndsWithin rlcAmWindowSize (payload.drop 2))
    else
      (b0.toNat >>> 2) &&& 0x01 = 0 ∨ EndsWithin rlcAmWindowSize payload
  | _ => False

def AmHeaderEnds (payload : List UInt8) : Prop :=
  rlcAmIsControlPdu payload ∨ AmDataHeaderEnds payload

def UmHeaderEnds (payload : List UInt8) (snSize : RlcUmdSnSize) : Prop :=
  match snSize, payload with
  | .size5Bits, b0 :: payload => (b0.toNat >>> 5) &&& 0x01 = 0 ∨ EndsWithin rlcAmWindowSize payload
  | .size10Bits, b0 :: _ :: payload => (b0.toNat >>> 2) &&& 0x01 = 0 ∨ EndsWithin rlcAmWindowSize payload
  | _, _ => False

theorem bounded_readData_iff (payload : List UInt8)
    : Bounded rlcAmWindowSize (fun read => read.1.li.length) (rlcAmReadDataPduHeader.readData payload)
        ↔
      AmDataHeaderEnds payload := by
  match payload with
  | [] => exact iff_of_false not_bounded_none id
  | [_] => exact iff_of_false not_bounded_none id
  | b0 :: b1 :: payload =>
    unfold rlcAmReadDataPduHeader.readData AmDataHeaderEnds
    dsimp only [rlcAmReadDataPduHeader.readFixed]
    by_cases hrf : (b0.toNat >>> 6) &&& 0x01 = 1
    . rw [if_pos (beq_iff_eq.mpr hrf), if_pos hrf]
      match payload with
      | [] => exact iff_of_false not_bounded_none (by simp)
      | [_] => exact iff_of_false not_bounded_none (by simp)
      | b2 :: b3 :: payload =>
        rw [and_iff_right (by simp)]
        exact bounded_readLi_iff RlcAmdPduHeader.li fun _ => rfl
    . rw [if_neg (by rw [beq_iff_eq]; exact hrf), if_neg hrf]
      exact bounded_readLi_iff RlcAmdPduHeader.li fun _ => rfl

theorem bounded_amHeader_iff (payload : List UInt8)
    : Bounded rlcAmWindowSize (fun read => read.1.li.length) (rlcAmReadDataPduHeader payload)
        ↔
      AmHeaderEnds payload := by
  unfold AmHeaderEnds
  cases hcontrol : rlcAmIsControlPdu payload with
  | true => exact iff_of_true ⟨_, rlcAmReadDataPduHeader_of_control hcontrol, Nat.zero_le _⟩ (.inl rfl)
  | false =>
    rw [or_iff_right Bool.false_ne_true]
    cases payload with
    | nil => exact iff_of_false not_bounded_none id
    | cons b0 payload =>
      rw [rlcAmReadDataPduHeader_of_data hcontrol]
      exact bounded_readData_iff _

theorem bounded_umHeader_iff (payload : List UInt8) (snSize : RlcUmdSnSize)
    : Bounded rlcAmWindowSize (fun read => read.1.li.length) (rlcUmReadDataPduHeader payload snSize)
        ↔
      UmHeaderEnds payload snSize := by
  match snSize, payload with
  | .size5Bits, [] => exact iff_of_false not_bounded_none id
  | .size10Bits, [] => exact iff_of_false not_bounded_none id
  | .size10Bits, [_] => exact iff_of_false not_bounded_none id
  | .size5Bits, b0 :: payload => exact bounded_readLi_iff RlcUmdPduHeader.li fun _ => rfl
  | .size10Bits, b0 :: b1 :: payload => exact bounded_readLi_iff RlcUmdPduHeader.li fun _ => rfl

theorem srslteBitPack_eq_some {nofBits value : Nat} (h : srslteBitPack bits nofBits = some (value, rest))
    : bits = srslteBitUnpack value nofBits ++ rest := by
  unfold srslteBitPack at h
  split at h
  next hle =>
    have hbits := Bits.ofNat_toNat (bits.take nofBits) 0
    rw [length_take, Nat.min_eq_left hle, Nat.zero_mul, Nat.zero_add] at hbits
    cases h
    unfold srslteBitUnpack
    rw [hbits, take_append_drop]
  . contradiction

theorem rlcAmReadStatusNack_eq_some {nack : RlcStatusNack} {ext1 : Nat}
    (h : rlcAmReadStatusNack bits = some (nack, ext1, rest))
    : nack.Fits ∧ ext1 < 2
        ∧ bits = srslteBitUnpack nack.nackSn 10 ++ srslteBitUnpack ext1 1
          ++ (if nack.hasSo then
                srslteBitUnpack 1 1 ++ srslteBitUnpack nack.soStart 15 ++ srslteBitUnpack nack.soEnd 15
              else
                srslteBitUnpack 0 1) ++ rest := by
  unfold rlcAmReadStatusNack at h
  have ⟨⟨sn, bits₁⟩, hsn, h⟩ := bind_eq_some_iff.mp h
  have ⟨⟨e1, bits₂⟩, he1, h⟩ := bind_eq_some_iff.mp h
  have ⟨⟨e2, bits₃⟩, he2, h⟩ := bind_eq_some_iff.mp h
  have hlt := srslteBitPack_lt he2
  rw [srslteBitPack_eq_some hsn, srslteBitPack_eq_some he1, srslteBitPack_eq_some he2]
  dsimp only at h
  split at h
  next hzero =>
    cases h
    refine ⟨⟨srslteBitPack_lt hsn, Nat.zero_lt_succ _, Nat.zero_lt_succ _, fun _ => ⟨rfl, rfl⟩⟩, srslteBitPack_lt he1, ?_⟩
    simp [hzero]
  next hone =>
    have ⟨⟨soStart, bits₄⟩, hstart, h⟩ := bind_eq_some_iff.mp h
    have ⟨⟨soEnd, bits₅⟩, hend, h⟩ := bind_eq_some_iff.mp h
    have heq : e2 = 1 := by omega
    dsimp only at hend
    cases h
    refine ⟨⟨srslteBitPack_lt hsn, srslteBitPack_lt hstart, srslteBitPack_lt hend, nofun⟩, srslteBitPack_lt he1, ?_⟩
    rw [srslteBitPack_eq_some hstart, srslteBitPack_eq_some hend]
    simp [heq]

theorem rlcAmReadStatusNacks_eq_some {fuel : Nat} {nacks : List RlcStatusNack}
    (h : rlcAmReadStatusNacks fuel bits = some nacks)
    : nacks ≠ [] ∧ (∀ nack ∈ nacks, nack.Fits) ∧ ∃ rest, bits = rlcAmWriteStatusNacks nacks ++ rest := by
  fun_induction rlcAmReadStatusNacks fuel bits generalizing nacks with
  | case1 => cases h
  | case2 => cases h
  | case3 fuel bits nack bits' hread =>
    cases h
    obtain ⟨hfits, _, hbits⟩ := rlcAmReadStatusNack_eq_some hread
    exact ⟨cons_ne_nil _ _, by simpa using hfits, bits', by simp [rlcAmWriteStatusNacks, hbits]⟩
  | case4 => cases h
  | case5 fuel bits nack ext1 bits' hread hext nacks' hrest ih =>
    cases h
    obtain ⟨hfits, hlt, hbits⟩ := rlcAmReadStatusNack_eq_some hread
    obtain ⟨hne, hall, rest, hbits'⟩ := ih hrest
    have heq : ext1 = 1 := by omega
    refine ⟨cons_ne_nil _ _, ?_, rest, ?_⟩
    . intro nack' hnack'
      cases mem_cons.mp hnack' with
      | inl hhead =>
        rw [hhead]
        exact hfits
      | inr htail => exact hall nack' htail
    . rw [hbits, hbits', rlcAmWriteStatusNacks, isEmpty_eq_false_iff.mpr hne, heq]
      simp

def StatusEnds (payload : List UInt8) : Prop :=
  (∃ rest, srslteBitUnpackVector payload = srslteBitUnpack 1 1 ++ rest)
    ∨ (∃ cpt rest, cpt % 2 ^ 3 ≠ 0
      ∧ srslteBitUnpackVector payload = srslteBitUnpack 0 1 ++ srslteBitUnpack cpt 3 ++ rest)
    ∨ ∃ status rest, status.Fits ∧ status.nacks.length ≤ rlcAmWindowSize
      ∧ srslteBitUnpackVector payload = statusBits status ++ rest

theorem statusEnds_of_bounded
    (h : Bounded rlcAmWindowSize (fun status => status.nacks.length) (rlcAmReadStatusPdu payload))
    : StatusEnds payload := by
  obtain ⟨status, hread, hle⟩ := h
  unfold rlcAmReadStatusPdu at hread
  obtain ⟨⟨dc, bits₁⟩, hdc, hread⟩ := bind_eq_some_iff.mp hread
  have hbits := srslteBitPack_eq_some hdc
  dsimp only at hread
  split at hread
  next hcontrol =>
    obtain ⟨⟨cpt, bits₂⟩, hcpt, hread⟩ := bind_eq_some_iff.mp hread
    rw [srslteBitPack_eq_some hcpt, hcontrol, ← append_assoc] at hbits
    dsimp only at hread
    split at hread
    next hstatus =>
      obtain ⟨⟨ackSn, bits₃⟩, hack, hread⟩ := bind_eq_some_iff.mp hread
      obtain ⟨⟨ext1, bits₄⟩, hext, hread⟩ := bind_eq_some_iff.mp hread
      have hlt := srslteBitPack_lt hext
      dsimp only at hext hread
      rw [srslteBitPack_eq_some hack, srslteBitPack_eq_some hext, hstatus] at hbits
      right
      right
      split at hread
      next hzero =>
        cases hread
        refine ⟨{ ackSn }, bits₄, ⟨srslteBitPack_lt hack, nofun⟩, Nat.zero_le _, ?_⟩
        rw [hbits, hzero]
        simp [statusBits, rlcAmWriteStatusNacks, RlcDcField.toNat]
      next hone =>
        obtain ⟨nacks, hnacks, hread⟩ := bind_eq_some_iff.mp hread
        obtain ⟨hne, hfits, rest, hrest⟩ := rlcAmReadStatusNacks_eq_some hnacks
        have heq : ext1 = 1 := by omega
        cases hread
        refine ⟨{ ackSn, nacks }, rest, ⟨srslteBitPack_lt hack, hfits⟩, hle, ?_⟩
        rw [hbits, hrest, heq]
        simp [statusBits, isEmpty_eq_false_iff.mpr hne, RlcDcField.toNat]
    next hother => exact .inr (.inl ⟨cpt, bits₂, by rw [Nat.mod_eq_of_lt (srslteBitPack_lt hcpt)]; exact hother, hbits⟩)
  next hdata =>
    have hlt := srslteBitPack_lt hdc
    have hne : dc ≠ 0 := hdata
    have heq : dc = 1 := by omega
    rw [heq] at hbits
    exact .inl ⟨bits₁, hbits⟩

theorem bounded_of_statusEnds (h : StatusEnds payload)
    : Bounded rlcAmWindowSize (fun status => status.nacks.length) (rlcAmReadStatusPdu payload) := by
  rcases h with ⟨rest, hbits⟩ | ⟨cpt, rest, hcpt, hbits⟩ | ⟨status, rest, hfits, hle, hbits⟩
  . refine ⟨{}, ?_, Nat.zero_le _⟩
    unfold rlcAmReadStatusPdu
    dsimp only
    rw [hbits, srslteBitPack_unpack_append]
    rfl
  . refine ⟨{}, ?_, Nat.zero_le _⟩
    unfold rlcAmReadStatusPdu
    dsimp only
    rw [hbits, append_assoc, srslteBitPack_unpack_append]
    simp only [Option.bind_eq_bind, Option.bind_some, Nat.zero_mod, RlcDcField.toNat, ↓reduceIte]
    rw [srslteBitPack_unpack_append]
    exact if_neg hcpt
  . exact ⟨status, rlcAmReadStatusPdu_of_bits hbits hfits, hle⟩

theorem headerParsers_bounded_iff (payload : List UInt8)
    : (Bounded rlcAmWindowSize (fun read => read.1.li.length) (rlcAmReadDataPduHeader payload)
          ↔ AmHeaderEnds payload)
        ∧ (Bounded rlcAmWindowSize (fun status => status.nacks.length) (rlcAmReadStatusPdu payload)
          ↔ StatusEnds payload)
        ∧ ∀ snSize, Bounded rlcAmWindowSize (fun read => read.1.li.length) (rlcUmReadDataPduHeader payload snSize)
          ↔ UmHeaderEnds payload snSize :=
  ⟨bounded_amHeader_iff payload, ⟨statusEnds_of_bounded, bounded_of_statusEnds⟩, bounded_umHeader_iff payload⟩

theorem not_headerParsers_bounded
    : ¬ Bounded rlcAmWindowSize (fun read => read.1.li.length) (rlcAmReadDataPduHeader [0x84, 0])
        ∧ ¬ Bounded rlcAmWindowSize (fun status => status.nacks.length) (rlcAmReadStatusPdu [0])
        ∧ ¬ Bounded rlcAmWindowSize (fun read => read.1.li.length) (rlcUmReadDataPduHeader [0x20] .size5Bits) :=
  ⟨not_bounded_none, not_bounded_none, not_bounded_none⟩

end SrsLte

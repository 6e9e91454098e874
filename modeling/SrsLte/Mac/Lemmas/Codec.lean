import SrsLte.Mac.Lemmas.Parse

/-!
This module contains the format of SCH PDUs: a PDU is encoded as the subheaders of its items
followed by their payloads, and the parser inverts this encoding.
-/

namespace SrsLte

open List

structure SchItem where
  lcid : Nat
  payload : List UInt8
  deriving DecidableEq, Repr

namespace SchSubh

variable {s : SchSubh}

theorem isSdu_of_sch (h : s.type = .sch) : s.isSdu = decide (s.lcid < phrReport) := by
  by_cases hlt : s.lcid < phrReport
  . have hge : ¬ s.lcid ≥ phrReport := by
      omega
    simp [isSdu, ceType, h, hlt, hge]
  . have hge : s.lcid ≥ phrReport := by
      omega
    have hne : s.lcid ≠ sduType := by
      unfold phrReport at hge
      unfold sduType
      omega
    simp [isSdu, ceType, h, hlt, hge, hne]

theorem isVarLenCe_of_sch (h : s.type = .sch) : s.isVarLenCe = false := by
  simp [isVarLenCe, h]

theorem hasLength_of_sch (h : s.type = .sch)
    : s.hasLength = decide (s.lcid < phrReport) := by
  simp [hasLength, isSdu_of_sch h, isVarLenCe_of_sch h]

theorem sizeofCe_congr {t : SchSubh} (hs : s.type = .sch) (ht : t.type = .sch) (hlcid : s.lcid = t.lcid) (isUl : Bool)
    : s.sizeofCe isUl = t.sizeofCe isUl := by
  unfold sizeofCe
  rw [hs, ht, hlcid]

theorem sizeofCe_of_ge (hs : s.type = .sch) (h : padding ≤ s.lcid) (isUl : Bool)
    : s.sizeofCe isUl = 0 := by
  have hne : ∀ n < 31, s.lcid ≠ n := by
    unfold padding at h
    omega
  simp [sizeofCe, hs, phrReport, crnti, truncBsr, shortBsr, longBsr, conResId, taCmd, hne]

theorem length_writeSubheader (s : SchSubh) (isLast : Bool)
    : (s.writeSubheader isLast).length = s.getHeaderSize isLast := by
  cases isLast with
  | true => simp [writeSubheader, getHeaderSize]
  | false =>
    rw [getHeaderSize_false]
    unfold writeSubheader hasLength sizeHeaderSdu
    by_cases hkind : (s.isSdu || s.isVarLenCe) = true
    . by_cases hlong : s.nofBytes ≥ 128
      . simp [hkind, hlong, Nat.not_lt.mpr hlong]
      . simp [hkind, hlong, Nat.lt_of_not_le hlong]
    . simp [hkind]

end SchSubh

namespace SchItem

open SchSubh

def subh (item : SchItem) : SchSubh :=
  { lcid := item.lcid, nofBytes := item.payload.length }

def isSdu (item : SchItem) : Bool :=
  item.lcid < phrReport

structure Ok (isUl : Bool) (item : SchItem) : Prop where
  lcid : item.lcid < 32
  ce : item.isSdu = false → item.subh.sizeofCe isUl = item.payload.length
  sdu : item.isSdu = true → item.payload.length < 2 ^ 15

theorem firstByte_read : ∀ lcid < 32, ∀ isLast : Bool,
    let b := (UInt8.ofNat ((if isLast then 0 else 1 <<< 5) ||| (lcid &&& 0x1f))).toNat
    (b &&& 0x20 != 0) = !isLast ∧ b &&& 0x1f = lcid := by
  decide

theorem topBit_eq (b : Nat) (hb : b < 256) : (b &&& 0x80 != 0) = decide (128 ≤ b) := by
  have hbit : b.testBit 7 = decide (128 ≤ b) := by
    rw [Nat.testBit_eq_decide_div_mod_eq, decide_eq_decide]
    omega
  have hand : b &&& 0x80 = (b.testBit 7).toNat * 2 ^ 7 := Nat.and_two_pow b 7
  rw [hand, hbit]
  cases decide (128 ≤ b) <;> rfl

theorem longLength_read {n : Nat} (h : n < 2 ^ 15)
    : ((UInt8.ofNat (1 <<< 7 ||| (n &&& 0x7f00) >>> 8)).toNat &&& 0x80 != 0) = true
        ∧
      ((UInt8.ofNat (1 <<< 7 ||| (n &&& 0x7f00) >>> 8)).toNat &&& 0x7f) <<< 8
        ||| ((UInt8.ofNat (n &&& 0xff)).toNat &&& 0xff) = n := by
  have hhigh : (1 <<< 7 ||| (n &&& 0x7f00) >>> 8) = 128 + n / 256 := by
    rw [Bits.and_mask_shiftRight n 7 8 (by decide), Bits.shiftLeft_or 1 7 (Nat.mod_lt _ (by decide))]
    omega
  have hbyte : (UInt8.ofNat (128 + n / 256)).toNat = 128 + n / 256 := by
    rw [UInt8.toNat_ofNat']
    omega
  rw [hhigh, hbyte]
  constructor
  . rw [topBit_eq _ (by omega)]
    simp
  . rw [Bits.and_mask _ 7 (by decide), Bits.and_mask n 8 (by decide), Bits.and_mask _ 8 (by decide),
      UInt8.toNat_ofNat', Bits.shiftLeft_or _ 8 (Nat.mod_lt _ (by decide))]
    omega

theorem shortLength_read {n : Nat} (h : n < 128)
    : ((UInt8.ofNat (n &&& 0x7f)).toNat &&& 0x80 != 0) = false
        ∧
      (UInt8.ofNat (n &&& 0x7f)).toNat &&& 0x7f = n := by
  have hbyte : (UInt8.ofNat (n &&& 0x7f)).toNat = n := by
    rw [Bits.and_mask n 7 (by decide), UInt8.toNat_ofNat']
    omega
  rw [hbyte, topBit_eq n (by omega), Bits.and_mask n 7 (by decide)]
  constructor
  . simp
    omega
  . omega

variable {rest pdu : List UInt8} {ptr room : Nat} {isUl : Bool} {before : List SchItem} {item last : SchItem}

theorem ofByte_eq {lcid : Nat} (h : lcid < 32)
    : let b0 := UInt8.ofNat (1 <<< 5 ||| (lcid &&& 0x1f))
      eBit b0 = true ∧ ofByte b0 = { lcid } := by
  have hb0 := firstByte_read lcid h false
  exact ⟨hb0.1, congrArg (fun lcid => ({ lcid } : SchSubh)) hb0.2⟩

theorem isSubheader_subh (hok : item.Ok isUl) : IsSubheader isUl (item.subh.writeSubheader false) item.subh := by
  have ⟨hext, hbyte⟩ := ofByte_eq hok.lcid
  have hkind : ({ lcid := item.lcid } : SchSubh).hasLength = decide (item.lcid < phrReport) :=
    hasLength_of_sch rfl
  have hkind' : (item.subh.isSdu || item.subh.isVarLenCe) = decide (item.lcid < phrReport) :=
    hasLength_of_sch rfl
  rw [← hbyte] at hkind
  unfold writeSubheader
  by_cases hsdu : item.lcid < phrReport
  . rw [decide_eq_true hsdu] at hkind hkind'
    by_cases hlong : item.payload.length ≥ 128
    . have ⟨hf, hlength⟩ := longLength_read (hok.sdu (decide_eq_true hsdu))
      have hsub : IsSubheader isUl _ _ := .long hext hkind hf (hlength.symm ▸ hlong)
      rw [hbyte, hlength] at hsub
      rw [if_pos ⟨hkind', Bool.false_ne_true⟩, if_pos (by exact hlong)]
      exact hsub
    . have ⟨hf, hlength⟩ := shortLength_read (Nat.lt_of_not_le hlong)
      have hsub : IsSubheader isUl _ _ := .short hext hkind hf
      rw [hbyte, hlength] at hsub
      rw [if_pos ⟨hkind', Bool.false_ne_true⟩, if_neg (by exact hlong)]
      exact hsub
  . rw [decide_eq_false hsdu] at hkind hkind'
    have hsub : IsSubheader isUl _ _ := .fixed hext hkind
    have hsize : ({ lcid := item.lcid } : SchSubh).sizeofCe isUl = item.payload.length := by
      rw [← hok.ce (decide_eq_false hsdu)]
      exact sizeofCe_congr rfl rfl rfl isUl
    rw [hbyte, hsize] at hsub
    rw [if_neg (fun h => ne_true_of_eq_false hkind' h.1)]
    exact hsub

def encode (before : List SchItem) (last : SchItem) : List UInt8 :=
  (before.flatMap fun item => item.subh.writeSubheader false)
    ++ (last.subh.writeSubheader true ++ (before ++ [last]).flatMap SchItem.payload)

theorem isHeader_encode (hok : ∀ item ∈ before, item.Ok isUl) (hlast : last.lcid < 32) (hroom : before.length < room)
    (rest : List UInt8)
    : SchPdu.IsHeader isUl room
        ((before.flatMap fun item => item.subh.writeSubheader false) ++ (last.subh.writeSubheader true ++ rest))
        (before.map subh) (UInt8.ofNat (0 ||| (last.lcid &&& 0x1f))) rest := by
  induction before generalizing room with
  | nil =>
    have hwrite : last.subh.writeSubheader true = [UInt8.ofNat (0 ||| (last.lcid &&& 0x1f))] := by
      simp [writeSubheader, subh]
    rw [hwrite]
    exact .last (.inl (firstByte_read last.lcid hlast true).1)
  | cons item before ih =>
    rw [length_cons] at hroom
    have ⟨room', hroom'⟩ : ∃ room', room = room' + 2 := ⟨room - 2, by omega⟩
    rw [hroom', flatMap_cons, append_assoc]
    apply SchPdu.IsHeader.more (isSubheader_subh (hok item mem_cons_self))
    exact ih (fun i hi => hok i (mem_cons_of_mem item hi)) (by omega)

structure Decodes (pdu : List UInt8) (s : SchSubh) (item : SchItem) : Prop where
  lcid : s.lcid = item.lcid
  size : s.nofBytes = item.payload.length
  bytes : ∃ start, s.payload = some start ∧ item.payload <+: pdu.drop start

theorem decodes_place {items : List SchItem} (hpdu : pdu.drop ptr = items.flatMap SchItem.payload ++ rest)
    : List.Forall₂ (Decodes pdu) (SchPdu.place (items.map subh) ptr) items := by
  induction items generalizing ptr with
  | nil => exact .nil
  | cons item items ih =>
    rw [flatMap_cons, append_assoc] at hpdu
    apply List.Forall₂.cons
    . exact {
        lcid := rfl
        size := rfl
        bytes := ⟨ptr, rfl, _, hpdu.symm⟩
      }
    . exact ih (Lists.drop_add_length hpdu)

theorem payloadSize_subh (items : List SchItem)
    : SchPdu.payloadSize (items.map subh) = (items.flatMap SchItem.payload).length := by
  rw [SchPdu.payloadSize, map_map, length_flatMap]
  rfl

theorem parsePacket_encode (hok : ∀ item ∈ before, item.Ok isUl)
    (hlast : last.lcid < 32) {max : Nat} (hmax : before.length + 1 < max)
    : ∃ subheaders,
        (SchPdu.init max (encode before last).length isUl).parsePacket (encode before last)
          = some subheaders
          ∧
        List.Forall₂ (Decodes (encode before last)) subheaders (before ++ [last]) := by
  obtain ⟨room, rfl⟩ : ∃ room, max = room + 1 := ⟨max - 1, by omega⟩
  have hheader := isHeader_encode hok hlast (Nat.lt_of_succ_lt_succ hmax) ((before ++ [last]).flatMap SchItem.payload)
  have ⟨nofBytes, headerLen, hread, hlen, hafter, hle⟩ := SchPdu.readSubheaders_of_isHeader hheader
    (Nat.zero_add (room + 1)) (encode before last).drop_zero
  rw [flatMap_append, flatMap_cons, flatMap_nil, append_nil] at hafter
  have hpayloads := payloadSize_subh before
  have hlastBytes := Lists.drop_add_length hafter
  rw [← hpayloads] at hlastBytes
  have htotal := congrArg length hafter
  rw [length_drop, length_append, ← hpayloads] at htotal
  rw [SchPdu.parsePacket_eq, hread, Option.map_some]
  refine ⟨_, rfl, ?_⟩
  rw [SchPdu.correctLast_place]
  have hsize : SchPdu.shortestHeader (before.map subh) + SchPdu.payloadSize (before.map subh) + 1
      ≤ (encode before last).length := by
    omega
  have hleft : (encode before last).length
      - (SchPdu.shortestHeader (before.map subh) + SchPdu.payloadSize (before.map subh)) - 1
        = last.payload.length := by
    omega
  rw [if_pos hsize, hleft]
  apply rel_append (decodes_place hafter)
  apply List.Forall₂.cons _ .nil
  exact {
    lcid := (firstByte_read last.lcid hlast true).2
    size := rfl
    bytes := ⟨_, rfl, [], by rw [hlastBytes, append_nil]⟩
  }

end SchItem

end SrsLte

import SrsLte.Mac.Lemmas.Basic
import Mathlib.Algebra.BigOperators.Group.List.Basic

/-!
This module contains what the parser of SCH PDUs computes, and the format of those that it does not read past.
-/

namespace SrsLte

open List

namespace SchSubh

theorem isVarLenCe_iff (s : SchSubh)
    : s.isVarLenCe = true ↔ s.lcid = mchSchedInfo ∧ s.type = .mch := by
  cases htype : s.type with
  | sch => simp [isVarLenCe, htype]
  | mch =>
    simp only [isVarLenCe, ceType, htype, mchSchedInfo, sduType, reduceCtorEq, and_false, and_true,
      ↓reduceIte, beq_self_eq_true, Bool.and_true, beq_iff_eq]
    split <;> omega

def hasLength (s : SchSubh) : Bool :=
  s.isSdu || s.isVarLenCe

theorem getHeaderSize_false (s : SchSubh)
    : s.getHeaderSize false = if s.hasLength then sizeHeaderSdu s.nofBytes else 1 := by
  unfold getHeaderSize hasLength
  by_cases hsdu : s.isSdu = true
  . simp [hsdu]
  . by_cases hvar : s.isVarLenCe = true
    . simp [hsdu, hvar, (isVarLenCe_iff s).mp hvar]
    . have hvar' : ¬ (s.lcid = mchSchedInfo ∧ s.type = .mch) := fun h =>
        hvar ((isVarLenCe_iff s).mpr h)
      simp [hsdu, hvar, hvar']

theorem sizePlusHeader_eq (s : SchSubh) : s.sizePlusHeader = s.getHeaderSize false + s.nofBytes := by
  rw [getHeaderSize_false]
  unfold sizePlusHeader hasLength
  split <;> rfl

def ofByte (b0 : UInt8) : SchSubh :=
  { lcid := b0.toNat &&& 0x1f }

def eBit (b0 : UInt8) : Bool :=
  b0.toNat &&& 0x20 != 0

/--
The bytes of a subheader that is followed by another one, and what it says. A length field has its shortest form.
-/
inductive IsSubheader (isUl : Bool) : List UInt8 → SchSubh → Prop where
  | fixed {b0 : UInt8} (hext : eBit b0 = true) (hkind : (ofByte b0).hasLength = false)
      : IsSubheader isUl [b0] { ofByte b0 with nofBytes := (ofByte b0).sizeofCe isUl }
  | short {b0 b1 : UInt8} (hext : eBit b0 = true) (hkind : (ofByte b0).hasLength = true)
      (hf : (b1.toNat &&& 0x80 != 0) = false)
      : IsSubheader isUl [b0, b1] { ofByte b0 with nofBytes := b1.toNat &&& 0x7f }
  | long {b0 b1 b2 : UInt8} (hext : eBit b0 = true) (hkind : (ofByte b0).hasLength = true)
      (hf : (b1.toNat &&& 0x80 != 0) = true) (hlong : 128 ≤ (b1.toNat &&& 0x7f) <<< 8 ||| (b2.toNat &&& 0xff))
      : IsSubheader isUl [b0, b1, b2]
          { ofByte b0 with nofBytes := (b1.toNat &&& 0x7f) <<< 8 ||| (b2.toNat &&& 0xff) }

theorem and_7f_lt (b : UInt8) : b.toNat &&& 0x7f < 128 := by
  rw [Bits.and_mask _ 7 (by decide)]
  exact Nat.mod_lt _ (by decide)

theorem drop_eq_cons {pdu : List UInt8} {ptr : Nat} {b : UInt8} (h : pdu[ptr]? = some b)
    : pdu.drop ptr = b :: pdu.drop (ptr + 1) := by
  have ⟨hlt, heq⟩ := List.getElem?_eq_some_iff.mp h
  rw [drop_eq_getElem_cons hlt, heq]

variable {pdu bytes rest : List UInt8} {isUl isUl' ext : Bool} {s : SchSubh} {ptr ptr' : Nat}

theorem getElem?_of_drop (hpdu : pdu.drop ptr = bytes) (k : Nat) : pdu[ptr + k]? = bytes[k]? := by
  rw [← hpdu, getElem?_drop]

theorem readSubheader_eq {b0 : UInt8} (hpdu : pdu.drop ptr = b0 :: rest)
    : readSubheader pdu isUl {} ptr
        =
      if (ofByte b0).hasLength then
        if eBit b0 then
          match pdu[ptr + 1]? with
          | none => none
          | some b1 =>
            if b1.toNat &&& 0x80 != 0 then
              match pdu[ptr + 2]? with
              | none => none
              | some b2 =>
                some (eBit b0, isUl,
                  { ofByte b0 with nofBytes := (b1.toNat &&& 0x7f) <<< 8 ||| (b2.toNat &&& 0xff) }, ptr + 3)
            else
              some (eBit b0, isUl, { ofByte b0 with nofBytes := b1.toNat &&& 0x7f }, ptr + 2)
        else
          some (eBit b0, isUl, ofByte b0, ptr + 1)
      else
        some (eBit b0, isUl, { ofByte b0 with nofBytes := (ofByte b0).sizeofCe isUl }, ptr + 1) := by
  have hb0 : pdu[ptr]? = some b0 := getElem?_of_drop hpdu 0
  unfold readSubheader
  rw [hb0]
  rfl

theorem readSubheader_cases (h : readSubheader pdu isUl {} ptr = some (ext, isUl', s, ptr'))
    : isUl' = isUl
        ∧
      ptr + 1 ≤ ptr'
        ∧
      (ext = true → ptr + s.getHeaderSize false ≤ ptr' ∧ (ptr' = ptr + s.getHeaderSize false →
        ∃ bytes, pdu.drop ptr = bytes ++ pdu.drop ptr' ∧ IsSubheader isUl bytes s))
        ∧
      (ptr' = ptr + 1 → ∃ b0, pdu.drop ptr = b0 :: pdu.drop ptr' ∧ eBit b0 = ext
        ∧ (ext = true → (ofByte b0).hasLength = false)) := by
  cases hb0 : pdu[ptr]? with
  | none =>
    rw [readSubheader, hb0] at h
    cases h
  | some b0 =>
    have hdrop0 := drop_eq_cons hb0
    rw [readSubheader_eq hdrop0] at h
    rw [getHeaderSize_false]
    by_cases hkind : (ofByte b0).hasLength = true
    . rw [if_pos hkind] at h
      split at h
      next hext =>
        split at h
        . cases h
        next b1 hb1 =>
          have hdrop1 := drop_eq_cons hb1
          split at h
          next hf =>
            split at h
            . cases h
            next b2 hb2 =>
              have hdrop2 := drop_eq_cons hb2
              cases h
              rw [if_pos (by exact hkind), sizeHeaderSdu]
              refine ⟨rfl, by omega, fun _ => ⟨by split <;> omega, ?_⟩, by omega⟩
              intro hthree
              rw [hdrop0, hdrop1, hdrop2]
              refine ⟨[b0, b1, b2], rfl, .long hext hkind hf ?_⟩
              by_contra hless
              rw [if_pos (by exact Nat.lt_of_not_le hless)] at hthree
              omega
          next hf =>
            cases h
            rw [if_pos (by exact hkind), sizeHeaderSdu, if_pos (and_7f_lt b1)]
            refine ⟨rfl, by omega, fun _ => ⟨by omega, fun _ => ?_⟩, by omega⟩
            rw [hdrop0, hdrop1]
            exact ⟨[b0, b1], rfl, .short hext hkind (by simpa using hf)⟩
      next hext =>
        cases h
        exact ⟨rfl, by omega, fun h => absurd h hext, fun _ => ⟨b0, hdrop0, rfl, fun h => absurd h hext⟩⟩
    . have hkind' : (ofByte b0).hasLength = false := by simpa using hkind
      rw [if_neg hkind] at h
      cases h
      rw [if_neg (by exact hkind)]
      refine ⟨rfl, by omega, fun hext => ⟨by omega, fun _ => ?_⟩, fun _ => ⟨b0, hdrop0, rfl, fun _ => hkind'⟩⟩
      rw [hdrop0]
      exact ⟨[b0], rfl, .fixed hext hkind'⟩

theorem IsSubheader.readSubheader (h : IsSubheader isUl bytes s) (hpdu : pdu.drop ptr = bytes ++ rest)
    : SchSubh.readSubheader pdu isUl {} ptr = some (true, isUl, s, ptr + bytes.length)
        ∧ s.getHeaderSize false = bytes.length := by
  have hget := getElem?_of_drop hpdu
  rw [getHeaderSize_false]
  cases h with
  | fixed hext hkind =>
    rw [readSubheader_eq hpdu, hext, hkind]
    exact ⟨rfl, if_neg (ne_true_of_eq_false hkind)⟩
  | short hext hkind hf =>
    rw [readSubheader_eq hpdu, hext, hkind, hget 1]
    simp only [cons_append, getElem?_cons_succ, getElem?_cons_zero, hf]
    exact ⟨rfl, (if_pos hkind).trans (if_pos (and_7f_lt _))⟩
  | long hext hkind hf hlong =>
    rw [readSubheader_eq hpdu, hext, hkind, hget 1, hget 2]
    simp only [cons_append, getElem?_cons_succ, getElem?_cons_zero, hf]
    exact ⟨rfl, (if_pos hkind).trans (if_neg (Nat.not_lt.mpr hlong))⟩

theorem readSubheader_of_last (isUl : Bool) {b0 : UInt8} (h : eBit b0 = false ∨ (ofByte b0).hasLength = false)
    (hpdu : pdu.drop ptr = b0 :: rest)
    : ∃ nofBytes,
        readSubheader pdu isUl {} ptr = some (eBit b0, isUl, { ofByte b0 with nofBytes }, ptr + 1) := by
  rw [readSubheader_eq hpdu]
  cases hkind : (ofByte b0).hasLength with
  | false => exact ⟨_, rfl⟩
  | true =>
    rw [h.resolve_right (by simp [hkind])]
    exact ⟨_, rfl⟩

end SchSubh

namespace SchPdu

open SchSubh

def place (subheaders : List SchSubh) (ptr : Nat) : List SchSubh :=
  match subheaders with
  | [] => []
  | s :: subheaders => { s with payload := some ptr } :: place subheaders (ptr + s.nofBytes)

theorem readPayloads_eq (pdu : List UInt8) (subheaders : List SchSubh) (ptr : Nat)
    : reader.readPayloads pdu subheaders ptr
        =
      some (place subheaders ptr, ptr + (subheaders.map getPayloadSize).sum) := by
  induction subheaders generalizing ptr with
  | nil => rfl
  | cons s subheaders ih =>
    simp only [SubhReader.readPayloads, reader, readPayload]
    simp only [reader] at ih
    rw [ih]
    simp [place, getPayloadSize, Nat.add_assoc]

theorem place_append (before after : List SchSubh) (ptr : Nat)
    : place (before ++ after) ptr
        =
      place before ptr ++ place after (ptr + (before.map getPayloadSize).sum) := by
  induction before generalizing ptr with
  | nil => rfl
  | cons s before ih =>
    rw [cons_append, place, ih]
    simp [place, getPayloadSize, Nat.add_assoc]

theorem mem_place {subheaders : List SchSubh} {ptr : Nat} {s : SchSubh} (h : s ∈ place subheaders ptr)
    : ∃ start, s.payload = some start
        ∧ start + s.nofBytes ≤ ptr + (subheaders.map getPayloadSize).sum := by
  induction subheaders generalizing ptr with
  | nil => simp [place] at h
  | cons s' subheaders ih =>
    rw [place, mem_cons] at h
    cases h with
    | inl heq =>
      refine ⟨ptr, by rw [heq], ?_⟩
      rw [heq]
      simp [getPayloadSize]
    | inr hmem =>
      have ⟨start, hstart, hle⟩ := ih hmem
      refine ⟨start, hstart, ?_⟩
      simp only [map_cons, sum_cons, getPayloadSize] at hle ⊢
      omega

@[simp]
theorem length_place (subheaders : List SchSubh) (ptr : Nat)
    : (place subheaders ptr).length = subheaders.length := by
  induction subheaders generalizing ptr with
  | nil => rfl
  | cons s subheaders ih => simp [place, ih]

def shortestHeader (subheaders : List SchSubh) : Nat :=
  (subheaders.map fun s => s.getHeaderSize false).sum

def payloadSize (subheaders : List SchSubh) : Nat :=
  (subheaders.map getPayloadSize).sum

theorem sum_sizePlusHeader_place (subheaders : List SchSubh) (ptr : Nat)
    : ((place subheaders ptr).map sizePlusHeader).sum
        =
      shortestHeader subheaders + payloadSize subheaders := by
  induction subheaders generalizing ptr with
  | nil => rfl
  | cons s subheaders ih =>
    have hhead : ({ s with payload := some ptr } : SchSubh).sizePlusHeader
        = s.getHeaderSize false + s.getPayloadSize := by
      rw [sizePlusHeader_eq]
      rfl
    simp only [place, shortestHeader, payloadSize, map_cons, sum_cons] at ih ⊢
    rw [ih, hhead]
    omega

theorem correctLast_place (pduLen : Nat) (before : List SchSubh) (last : SchSubh) (ptr : Nat)
    : correctLast pduLen (place (before ++ [last]) ptr)
        =
      place before ptr ++
        [
          {
            last with
            payload := some (ptr + payloadSize before)
            nofBytes :=
              if shortestHeader before + payloadSize before + 1 ≤ pduLen then
                pduLen - (shortestHeader before + payloadSize before) - 1
              else
                last.nofBytes
          }
        ] := by
  have hplace : place (before ++ [last]) ptr
      = place before ptr ++ [{ last with payload := some (ptr + payloadSize before) }] := by
    rw [place_append]
    rfl
  unfold correctLast
  rw [hplace]
  simp only [dropLast_concat, sum_sizePlusHeader_place, length_append, length_cons,
    length_nil, Nat.zero_add, Nat.add_sub_cancel]
  by_cases hle : shortestHeader before + payloadSize before + 1 ≤ pduLen
  . have hnSub : (pduLen : Int) - ((shortestHeader before + payloadSize before : Nat) : Int) - 1 ≥ 0 := by
      omega
    have hnat : ((pduLen : Int) - ((shortestHeader before + payloadSize before : Nat) : Int) - 1).toNat
        = pduLen - (shortestHeader before + payloadSize before) - 1 := by
      omega
    rw [if_pos hnSub, if_pos hle, Lists.modify_concat, hnat]
  . have hnSub : ¬ (pduLen : Int) - ((shortestHeader before + payloadSize before : Nat) : Int) - 1 ≥ 0 := by
      omega
    rw [if_neg hnSub, if_neg hle]

/--
The bytes of a PDU from a subheader on, where there is room for so many more of them: what the subheaders before the
last one say, the byte of the last one and what is left of the PDU behind it.
-/
inductive IsHeader (isUl : Bool) : Nat → List UInt8 → List SchSubh → UInt8 → List UInt8 → Prop where
  | last {b0 : UInt8} {room : Nat} {payload : List UInt8}
      (hend : eBit b0 = false ∨ room ≤ 1 ∧ (ofByte b0).hasLength = false)
      : IsHeader isUl room (b0 :: payload) [] b0 payload
  | more {b0 : UInt8} {bytes rest payload : List UInt8} {room : Nat} {s : SchSubh} {before : List SchSubh}
      (hsub : IsSubheader isUl bytes s) (hrest : IsHeader isUl (room + 1) rest before b0 payload)
      : IsHeader isUl (room + 2) (bytes ++ rest) (s :: before) b0 payload

variable {pdu : List UInt8} {isUl : Bool} {read : List SchSubh} {max nof room ptr : Nat}

@[simp]
theorem shortestHeader_cons (s : SchSubh) (subs : List SchSubh)
    : shortestHeader (s :: subs) = s.getHeaderSize false + shortestHeader subs := by
  simp [shortestHeader]

theorem readSubheaders_cases {isUl' : Bool} {subs : List SchSubh} {ptr' : Nat} (hmax : nof + room + 1 = max)
    (hsubs : subs = List.replicate (room + 1) {})
    (h : reader.readSubheaders pdu max nof isUl subs ptr = some (isUl', read, ptr'))
    : isUl' = isUl
        ∧
      ∃ before last, read = before ++ [last]
        ∧ read.length ≤ room + 1
        ∧ ptr + shortestHeader before + 1 ≤ ptr'
        ∧ (ptr' = ptr + shortestHeader before + 1
            → ∃ b0, IsHeader isUl room (pdu.drop ptr) before b0 (pdu.drop ptr')) := by
  induction subs generalizing nof room ptr read with
  | nil => cases hsubs
  | cons s subs ih =>
    rw [replicate_succ, cons.injEq] at hsubs
    rw [SubhReader.readSubheaders, hsubs.1] at h
    split at h
    . contradiction
    . next ext isUl1 s' ptr1 hread =>
      have ⟨hul, hone, hmore, hlast⟩ := readSubheader_cases hread
      split at h
      . next hcont =>
        have ⟨room', hroom⟩ : ∃ room', room = room' + 2 := ⟨room - 2, by omega⟩
        split at h
        . contradiction
        . next isUl2 read' ptr2 hrest =>
          simp only [Option.some.injEq, Prod.mk.injEq] at h
          obtain ⟨rfl, rfl, rfl⟩ := h
          rw [hul] at hrest
          have hsubs' : subs = List.replicate (room' + 1 + 1) {} := by
            rw [hsubs.2, hroom]
          have ⟨hul', before, last, hread', hlen, hptr, hheader⟩ := ih (by omega) hsubs' hrest
          have ⟨hsize, hsub⟩ := hmore hcont.1
          refine ⟨hul', s' :: before, last, by rw [hread']; rfl, ?_, ?_, ?_⟩
          . rw [length_cons]
            omega
          . rw [shortestHeader_cons]
            omega
          . intro heq
            rw [shortestHeader_cons] at heq
            have ⟨bytes, hbytes, his⟩ := hsub (by omega)
            have ⟨b0, hrest⟩ := hheader (by omega)
            rw [hroom, hbytes]
            exact ⟨b0, .more his hrest⟩
      . next hstop =>
        simp only [Option.some.injEq, Prod.mk.injEq] at h
        obtain ⟨rfl, rfl, rfl⟩ := h
        refine ⟨hul, [], s', rfl, by simp, hone, ?_⟩
        intro heq
        have ⟨b0, hb0, hext, hkind⟩ := hlast heq
        rw [hb0]
        refine ⟨b0, .last ?_⟩
        cases ext with
        | false => exact .inl hext
        | true => exact .inr ⟨by simp only [true_and] at hstop; omega, hkind rfl⟩

theorem readSubheaders_of_isHeader {bytes payload : List UInt8} {before : List SchSubh} {b0 : UInt8}
    (h : IsHeader isUl room bytes before b0 payload) (hmax : nof + room + 1 = max) (hpdu : pdu.drop ptr = bytes)
    : ∃ nofBytes ptr',
        reader.readSubheaders pdu max nof isUl (List.replicate (room + 1) {}) ptr
            = some (isUl, before ++ [{ ofByte b0 with nofBytes }], ptr')
          ∧ ptr' = ptr + shortestHeader before + 1
          ∧ pdu.drop ptr' = payload
          ∧ ptr' ≤ pdu.length := by
  induction h generalizing nof ptr with
  | last hend =>
    have ⟨nofBytes, hread⟩ := readSubheader_of_last isUl (hend.imp id And.right) hpdu
    refine ⟨nofBytes, ptr + 1, ?_, rfl, ?_, ?_⟩
    . rw [replicate_succ, SubhReader.readSubheaders]
      simp only [reader, hread]
      rw [if_neg (by grind)]
      rfl
    . exact Lists.drop_add_length (a := [_]) hpdu
    . have hlen := congrArg length hpdu
      rw [length_drop, length_cons] at hlen
      omega
  | @more b0 bytes rest payload room s before hsub hrest ih =>
    have ⟨hread, hsize⟩ := hsub.readSubheader hpdu
    have hmax' : nof + 1 + (room + 1) + 1 = max := by
      omega
    have ⟨nofBytes, ptr', hloop, hptr, hafter⟩ := ih hmax' (Lists.drop_add_length hpdu)
    refine ⟨nofBytes, ptr', ?_, ?_, hafter⟩
    . rw [replicate_succ, SubhReader.readSubheaders]
      simp only [reader, hread] at hloop ⊢
      rw [if_pos ⟨trivial, by omega⟩, hloop]
      rfl
    . rw [shortestHeader_cons, hsize]
      omega

def ParseInside (maxSubheaders : Nat) (isUl : Bool) (pdu : List UInt8) : Prop :=
  ∃ subheaders, (init maxSubheaders pdu.length isUl).parsePacket pdu = some subheaders
    ∧ subheaders.length ≤ maxSubheaders
    ∧ ∀ s ∈ subheaders, ∃ start, s.payload = some start ∧ start + s.nofBytes ≤ pdu.length

/--
The last subheader leaves room for the payloads that the ones before it announce.
-/
def WellFormed (maxSubheaders : Nat) (isUl : Bool) (pdu : List UInt8) : Prop :=
  maxSubheaders = 0 ∨
    ∃ before last payload, IsHeader isUl (maxSubheaders - 1) pdu before last payload
      ∧ payloadSize before ≤ payload.length

theorem parsePacket_eq
    : (init max pdu.length isUl).parsePacket pdu
        =
      (reader.readSubheaders pdu max 0 isUl (List.replicate max {}) 0).map fun result =>
        correctLast pdu.length (place result.2.1 result.2.2) := by
  have hvector : (init max pdu.length isUl).used ++ (init max pdu.length isUl).spare
      = List.replicate max {} := by
    rfl
  have hul : (init max pdu.length isUl).pduIsUl = isUl := by
    rfl
  unfold parsePacket SubhReader.parsePacket
  rw [hvector, hul, length_replicate]
  cases reader.readSubheaders pdu max 0 isUl (List.replicate max {}) 0 with
  | none => rfl
  | some result => simp only [readPayloads_eq, Option.map_some]

theorem inside_correctLast_iff {n headerLen : Nat} {before : List SchSubh} {last : SchSubh}
    (hshort : shortestHeader before + 1 ≤ headerLen)
    : (∀ s ∈ correctLast n (place (before ++ [last]) headerLen),
          ∃ start, s.payload = some start ∧ start + s.nofBytes ≤ n)
        ↔
      headerLen + payloadSize before ≤ n ∧ headerLen = shortestHeader before + 1 := by
  rw [correctLast_place]
  constructor
  . intro h
    have ⟨start, hstart, hle⟩ := h _ (mem_append_right _ mem_cons_self)
    simp only [Option.some.injEq] at hstart
    rw [← hstart] at hle
    simp only at hle
    split at hle
    . next hfits => omega
    . next hfits => omega
  . rintro ⟨hinside, hlen⟩ s hs
    rw [mem_append, mem_singleton] at hs
    cases hs with
    | inl hmem =>
      have ⟨start, hstart, hle⟩ := mem_place hmem
      refine ⟨start, hstart, ?_⟩
      unfold payloadSize at hinside
      omega
    | inr heq =>
      rw [heq]
      refine ⟨_, rfl, ?_⟩
      simp only
      split
      . next hfits => omega
      . next hfits => omega

theorem parseInside_iff (maxSubheaders : Nat) (isUl : Bool) (pdu : List UInt8)
    : ParseInside maxSubheaders isUl pdu ↔ WellFormed maxSubheaders isUl pdu := by
  unfold ParseInside
  rw [parsePacket_eq]
  cases maxSubheaders with
  | zero =>
    have hloop : reader.readSubheaders pdu 0 0 isUl (List.replicate 0 {}) 0 = some (isUl, [], 0) := by
      rfl
    have hempty : correctLast pdu.length (place [] 0) = [] := by
      simp [correctLast, place]
    rw [hloop, Option.map_some, hempty]
    exact iff_of_true ⟨[], rfl, by simp, by simp⟩ (Or.inl rfl)
  | succ room =>
    constructor
    . rintro ⟨subheaders, hparse, _, hinside⟩
      have ⟨⟨isUl', read, headerLen⟩, hloop, heq⟩ := Option.map_eq_some_iff.mp hparse
      have ⟨_, before, last, hread, _, hshort, hheader⟩ := readSubheaders_cases (by omega) rfl hloop
      rw [Nat.zero_add] at hshort
      rw [← heq, hread, inside_correctLast_iff hshort] at hinside
      have ⟨b0, hheader⟩ := hheader (by omega)
      refine Or.inr ⟨before, b0, _, hheader, ?_⟩
      rw [length_drop]
      omega
    . intro h
      have ⟨before, b0, payload, hheader, hfits⟩ := h.resolve_left (Nat.succ_ne_zero room)
      rw [Nat.add_sub_cancel] at hheader
      have ⟨nofBytes, headerLen, hloop, hptr, hafter, hle⟩ :=
        readSubheaders_of_isHeader hheader (Nat.zero_add (room + 1)) pdu.drop_zero
      have ⟨_, _, _, _, hcount, _⟩ := readSubheaders_cases (by omega) rfl hloop
      have hshort : shortestHeader before + 1 ≤ headerLen := by
        omega
      rw [hloop, Option.map_some]
      refine ⟨_, rfl, ?_, ?_⟩
      . rw [correctLast_place, length_append, length_place]
        simpa using hcount
      . rw [inside_correctLast_iff hshort]
        rw [← hafter, length_drop] at hfits
        omega

theorem not_parseInside
    : (init 20 1 true).parsePacket [0x21] = none
        ∧
      ((init 20 5 true).parsePacket [0x21, 0x80, 0x01, 0x1f, 0x55]).map (List.map fun s =>
          (s.payload, s.nofBytes))
        =
      some [(some 4, 1), (some 5, 1)] := by
  decide

end SchPdu

end SrsLte

import SrsLte.Rlc.Am.Lemmas.Fidelity
import SrsLte.Rlc.Um.Lemmas.Header

/-!
This module contains the bounds of the length indicators that `build_data_pdu` writes.
-/

namespace SrsLte

open List

def LisFit (li : List Nat) : Prop :=
  ∀ l ∈ li, 0 < l ∧ l < 2048

def Separable (nofBytes : Nat) (sdus : List ByteBuffer) : Prop :=
  ∀ sdu ∈ sdus.dropLast, sdu.length < 2048 ∨ nofBytes ≤ sdu.length + 2

variable {nofBytes : Nat} {sdu : ByteBuffer} {sdus : List ByteBuffer}

theorem Separable.head (h : Separable nofBytes (sdu :: sdus)) (hne : sdus ≠ [])
    : sdu.length < 2048 ∨ nofBytes ≤ sdu.length + 2 := by
  apply h sdu
  rw [dropLast_cons_of_ne_nil hne]
  exact mem_cons_self

theorem Separable.tail (h : Separable nofBytes (sdu :: sdus))
    : Separable nofBytes sdus := by
  intro sdu' hsdu'
  apply h sdu'
  cases sdus with
  | nil => cases hsdu'
  | cons => exact mem_cons_of_mem _ hsdu'

theorem LisFit.snoc {li : List Nat} (h : LisFit li) {last : Nat} (hlast : last < 2048)
    : LisFit (if last > 0 then li ++ [last] else li) := by
  split
  next hpos =>
    exact forall_mem_append.mpr ⟨h, forall_mem_singleton.mpr ⟨hpos, hlast⟩⟩
  . exact h

namespace RlcAm

namespace buildDataPdu

variable {st : PullState} {nofBytes : Nat}

theorem pduSpace_moveSdu_le (st : PullState) (sdu : ByteBuffer) : (moveSdu st sdu).pduSpace ≤ st.pduSpace := by
  have hle : ∀ n, (if st.pduSpace > n then st.pduSpace - n else 0) ≤ st.pduSpace := by
    intro n
    split <;> omega
  exact hle _

theorem lastLi_moveSdu {sdu : ByteBuffer} (hspace : st.pduSpace ≤ nofBytes) (hhead : 1 ≤ st.headLen)
    (hsdu : sdu.length < 2048 ∨ nofBytes ≤ sdu.length + 2)
    (hleft : (moveSdu st sdu).headLen + 1 < (moveSdu st sdu).pduSpace)
    : (moveSdu st sdu).lastLi < 2048 := by
  unfold moveSdu at *
  by_cases hfits : st.pduSpace - st.headLen ≥ sdu.length
  . simp only [hfits, ↓reduceIte] at *
    split at hleft <;> omega
  . simp only [hfits, ↓reduceIte] at *
    split at hleft <;> omega

theorem lisFit_pullSdus {queue : List ByteBuffer} (hli : LisFit st.li) (hspace : st.pduSpace ≤ nofBytes)
    (hlast : queue ≠ [] → st.headLen + 1 < st.pduSpace → st.lastLi < 2048) (hqueue : Separable nofBytes queue)
    : LisFit (pullSdus queue st).li := by
  induction queue generalizing st with
  | nil => exact hli
  | cons sdu queue ih =>
    unfold pullSdus
    split
    next hleft =>
      have hnext : LisFit st.nextLi := hli.snoc (hlast (cons_ne_nil _ _) hleft)
      dsimp only
      split
      . exact fun l hl => hnext l (mem_of_mem_dropLast hl)
      . apply ih
        . exact hnext
        . exact Nat.le_trans (pduSpace_moveSdu_le _ sdu) hspace
        . intro hne
          exact lastLi_moveSdu hspace (by show 1 ≤ 2 + _ + _; omega) (hqueue.head hne)
        . exact hqueue.tail
    . exact hli

theorem lisFit_pull {s : RlcAm} (h : Separable nofBytes (s.txSdu.toList ++ s.txSduQueue.queue))
    : LisFit (pull s nofBytes).li := by
  rw [pull_eq_start]
  cases hsdu : s.txSdu with
  | none =>
    rw [hsdu] at h
    exact lisFit_pullSdus nofun (Nat.le_refl nofBytes) (fun _ _ => Nat.zero_lt_succ 2047) h
  | some sdu =>
    rw [hsdu] at h
    apply lisFit_pullSdus (show LisFit [] from nofun) (pduSpace_moveSdu_le (start s nofBytes) sdu)
    . intro hne
      exact lastLi_moveSdu (Nat.le_refl nofBytes) (Nat.le_succ 1) (h.head hne)
    . exact h.tail

end buildDataPdu

def LisReadBack (pdu : RlcAmdPduHeader × ByteBuffer) : Prop :=
  LisFit pdu.1.li ∧ (rlcAmReadDataPduHeader (pduBytes pdu)).map (fun read => read.1.li) = some pdu.1.li

theorem lisReadBack_of_fit {pdu : RlcAmdPduHeader × ByteBuffer} (hdc : pdu.1.dc = .dataPdu) (h : LisFit pdu.1.li)
    : LisReadBack pdu := by
  refine ⟨h, ?_⟩
  unfold pduBytes
  rw [rlcAmReadDataPduHeader_write_truncate pdu.2 hdc]
  apply congrArg some
  exact (map_congr_left fun l hl => Nat.mod_eq_of_lt (h l hl).2).trans (map_id _)

def TxOp.Separable (st : RlcAm × List (List UInt8)) (op : TxOp) : Prop :=
  match op with
  | .buildDataPdu nofBytes => SrsLte.Separable nofBytes (st.1.txSdu.toList ++ st.1.txSduQueue.queue)
  | _ => True

open buildDataPdu in
theorem lisReadBack_transmit {st : RlcAm × List (List UInt8)} {op : TxOp} (h : ∀ pdu ∈ st.1.numbered, LisReadBack pdu)
    (hop : op.Separable st)
    : ∀ pdu ∈ (transmit st op).1.numbered, LisReadBack pdu := by
  cases op with
  | writeSdu sdu =>
    have hsame : (st.1.writeSdu sdu).numbered = st.1.numbered := by
      unfold writeSdu
      split <;> rfl
    exact fun pdu hpdu => h pdu (hsame ▸ hpdu)
  | writePdu payload =>
    have hsame : (st.1.writePdu payload).numbered = st.1.numbered := by
      cases st.1.writePdu_cases payload with
      | inl hsame => exact congrArg TxPart.numbered hsame
      | inr hcontrol =>
        have ⟨status, _, heq⟩ := hcontrol
        have ⟨_, _, _, _, _, hframe⟩ := st.1.handleStatus_frame status
        rw [heq, hframe]
    exact fun pdu hpdu => h pdu (hsame ▸ hpdu)
  | buildDataPdu nofBytes =>
    intro pdu hpdu
    change pdu ∈ (st.1.buildDataPdu nofBytes).1.numbered at hpdu
    cases st.1.buildDataPdu_cases nofBytes with
    | inl hsame =>
      rw [hsame.1] at hpdu
      exact h pdu hpdu
    | inr hbuild =>
      rw [hbuild.2.2] at hpdu
      dsimp only at hpdu
      split at hpdu
      . exact h pdu hpdu
      . rw [number_numbered, mem_append, mem_singleton] at hpdu
        cases hpdu with
        | inl hold => exact h pdu hold
        | inr hnew =>
          rw [hnew]
          exact lisReadBack_of_fit rfl (lisFit_pull hop)

end RlcAm

namespace RlcUm

namespace buildDataPdu

variable {st : PullState} {nofBytes : Nat}

theorem lastLi_moveSdu {sdu : ByteBuffer} (hspace : st.pduSpace ≤ nofBytes) (hbytes : nofBytes < 2 ^ 32)
    (hhead : 1 ≤ st.headLen) (hsdu : sdu.length < 2048 ∨ nofBytes ≤ sdu.length + 2)
    (hleft : (moveSdu st sdu).headLen + 1 < (moveSdu st sdu).pduSpace)
    : (moveSdu st sdu).lastLi < 2048 := by
  have hle : st.headLen ≤ st.pduSpace := by
    change st.headLen + 1 < st.pduSpace - _ at hleft
    omega
  unfold moveSdu at *
  rw [u32Sub_of_le hle (by omega)] at *
  by_cases hfits : st.pduSpace - st.headLen ≥ sdu.length
  . simp only [hfits, ↓reduceIte] at *
    omega
  . simp only [hfits, ↓reduceIte] at *
    omega

theorem one_le_headLen (snSize : RlcUmdSnSize) (li : List Nat) : 1 ≤ headLen snSize li := by
  unfold headLen RlcUmdPduHeader.packedLength
  cases snSize <;> (dsimp only; omega)

theorem lisFit_pullSdus {snSize : RlcUmdSnSize} {queue : List ByteBuffer} (hli : LisFit st.li)
    (hspace : st.pduSpace ≤ nofBytes) (hbytes : nofBytes < 2 ^ 32)
    (hlast : queue ≠ [] → st.headLen + 1 < st.pduSpace → st.lastLi < 2048) (hqueue : Separable nofBytes queue)
    : LisFit (pullSdus snSize queue st).li := by
  induction queue generalizing st with
  | nil => exact hli
  | cons sdu queue ih =>
    unfold pullSdus
    split
    next hleft =>
      apply ih
      . exact hli.snoc (hlast (cons_ne_nil _ _) hleft)
      . exact Nat.le_trans (Nat.sub_le _ _) hspace
      . intro hne
        exact lastLi_moveSdu hspace hbytes (one_le_headLen _ _) (hqueue.head hne)
      . exact hqueue.tail
    . exact hli

theorem lisFit_pull {s : RlcUm} (hbytes : nofBytes < 2 ^ 32)
    (h : Separable nofBytes (s.txSdu.toList ++ s.txSduQueue.queue))
    : LisFit (pull s nofBytes).li := by
  unfold pull
  cases hsdu : s.txSdu with
  | none =>
    rw [hsdu] at h
    exact lisFit_pullSdus nofun (Nat.le_refl nofBytes) hbytes (fun _ _ => Nat.zero_lt_succ 2047) h
  | some sdu =>
    rw [hsdu] at h
    apply lisFit_pullSdus (show LisFit [] from nofun) (show nofBytes - _ ≤ nofBytes from Nat.sub_le _ _) hbytes
    . intro hne
      exact lastLi_moveSdu (Nat.le_refl nofBytes) hbytes (one_le_headLen _ _) (h.head hne)
    . exact h.tail

end buildDataPdu

def LisReadBack (pdu : RlcUmdPduHeader × ByteBuffer) : Prop :=
  LisFit pdu.1.li
    ∧ (rlcUmReadDataPduHeader (rlcUmWriteDataPduHeader pdu.1 ++ pdu.2) pdu.1.snSize).map (fun read => read.1.li)
      = some pdu.1.li

inductive TxOp where
  | writeSdu (sdu : ByteBuffer)
  | buildDataPdu (nofBytes : UInt32)

def transmit (s : RlcUm) (op : TxOp) : RlcUm :=
  match op with
  | .writeSdu sdu => s.writeSdu sdu
  | .buildDataPdu nofBytes => (s.buildDataPdu nofBytes.toNat).1

def TxOp.Separable (s : RlcUm) (op : TxOp) : Prop :=
  match op with
  | .writeSdu _ => True
  | .buildDataPdu nofBytes => SrsLte.Separable nofBytes.toNat (s.txSdu.toList ++ s.txSduQueue.queue)

structure SendsLis (s : RlcUm) : Prop where
  txMod : s.cfg.txMod = s.cfg.txSnFieldLength.mod
  vtUs : s.vtUs < s.cfg.txSnFieldLength.mod
  numbered : ∀ pdu ∈ s.numbered, LisReadBack pdu

theorem sendsLis_transmit {s : RlcUm} {op : TxOp} (h : s.SendsLis) (hop : op.Separable s)
    : (transmit s op).SendsLis := by
  cases op with
  | writeSdu sdu =>
    show (s.writeSdu sdu).SendsLis
    unfold writeSdu
    split
    . exact ⟨h.txMod, h.vtUs, h.numbered⟩
    . exact h
  | buildDataPdu nofBytes =>
    show (s.buildDataPdu nofBytes.toNat).1.SendsLis
    unfold RlcUm.buildDataPdu
    split
    . exact h
    . split
      . exact h
      . have hfit := buildDataPdu.lisFit_pull nofBytes.toNat_lt hop
        refine ⟨h.txMod, ?_, ?_⟩
        . show (s.vtUs + 1) % s.cfg.txMod < _
          rw [h.txMod]
          exact Nat.mod_lt _ (Nat.zero_lt_of_lt h.vtUs)
        . intro pdu hpdu
          cases mem_append.mp hpdu with
          | inl hold => exact h.numbered pdu hold
          | inr hnew =>
            rw [mem_singleton.mp hnew]
            refine ⟨hfit, ?_⟩
            rw [rlcUmReadDataPduHeader_write _ _ { sn := h.vtUs, li := fun l hl => (hfit l hl).2 }]
            rfl

end RlcUm

theorem lisReadBack_of_separable (cfg : SrslteRlcAmConfig) (ops : List RlcAm.TxOp)
    (hops : Trace.Along RlcAm.transmit (fun st op => op.Separable st) (RlcAm.init cfg, []) ops)
    (umCfg : SrslteRlcUmConfig) (hmod : umCfg.txMod = umCfg.txSnFieldLength.mod) (umOps : List RlcUm.TxOp)
    (humOps : Trace.Along RlcUm.transmit (fun s op => op.Separable s) (RlcUm.init umCfg) umOps)
    : (∀ pdu ∈ (RlcAm.sender cfg ops).1.numbered, RlcAm.LisReadBack pdu)
        ∧ ∀ pdu ∈ (Trace.exec RlcUm.transmit (RlcUm.init umCfg) umOps).numbered, RlcUm.LisReadBack pdu := by
  constructor
  . apply (Trace.throughout_of_along (I := fun st => ∀ pdu ∈ st.1.numbered, RlcAm.LisReadBack pdu) _ (by simp [RlcAm.init])
      hops).exec
    exact fun st op h hop => RlcAm.lisReadBack_transmit h hop
  . have hinit : (RlcUm.init umCfg).SendsLis :=
      ⟨hmod, by show 0 < umCfg.txSnFieldLength.mod; cases umCfg.txSnFieldLength <;> decide, by intro pdu hpdu; cases hpdu⟩
    apply RlcUm.SendsLis.numbered
    apply (Trace.throughout_of_along _ hinit humOps).exec
    exact fun s op h hop => RlcUm.sendsLis_transmit h hop

theorem lisReadBack_twoSdus
    : (∀ pdu ∈ (RlcAm.sender RlcAm.basicTestConfig [.writeSdu [1, 2], .writeSdu [3], .buildDataPdu 10]).1.numbered,
          RlcAm.LisReadBack pdu)
        ∧ ∀ pdu ∈ (Trace.exec RlcUm.transmit (RlcUm.init (RlcUm.umBiConfig .size5Bits 0))
          [.writeSdu [1, 2], .writeSdu [3], .buildDataPdu 10]).numbered, RlcUm.LisReadBack pdu := by
  apply lisReadBack_of_separable
  . refine ⟨trivial, trivial, ?_, trivial⟩
    show ∀ sdu ∈ [[1, 2]], _
    simp
  . rfl
  . refine ⟨trivial, trivial, ?_, trivial⟩
    show ∀ sdu ∈ [[1, 2]], _
    simp

theorem not_lisReadBack_longSdu
    : ¬ ∀ pdu ∈ (RlcAm.sender RlcAm.basicTestConfig
        [.writeSdu (List.replicate 2048 0), .writeSdu [0], .buildDataPdu 3000]).1.numbered, RlcAm.LisReadBack pdu := by
  intro h
  have hlong : ∃ pdu ∈ (RlcAm.sender RlcAm.basicTestConfig
      [.writeSdu (List.replicate 2048 0), .writeSdu [0], .buildDataPdu 3000]).1.numbered, 2048 ∈ pdu.1.li := by
    decide +kernel
  have ⟨pdu, hpdu, hli⟩ := hlong
  have := ((h pdu hpdu).1 2048 hli).2
  omega

theorem dataPduHeader_readBack
    : (∀ (header : RlcAmdPduHeader) (payload : List UInt8), header.dc = .dataPdu → header.sn < 1024 →
        (∀ l ∈ header.li, l < 2048) → (header.rf → header.so < 32768) →
        ∃ header' rest,
          rlcAmIsControlPdu (rlcAmWriteDataPduHeader header ++ payload) = false
            ∧ rlcAmReadDataPduHeader (rlcAmWriteDataPduHeader header ++ payload) = some (header', rest)
            ∧ header' = { header with lsf := header'.lsf, so := header'.so }
            ∧ (header.rf → header' = header)
            ∧ (rlcAmWriteDataPduHeader header).length = header.packedLength
            ∧ (rlcAmWriteDataPduHeader header ++ payload).length - rest.length = header.packedLength)
      ∧ ∀ (header : RlcUmdPduHeader) (payload : List UInt8), header.sn < header.snSize.mod →
        (∀ l ∈ header.li, l < 2048) →
        (∃ rest, rlcUmReadDataPduHeader (rlcUmWriteDataPduHeader header ++ payload) header.snSize = some (header, rest))
          ∧ (rlcUmWriteDataPduHeader header).length = header.packedLength := by
  constructor
  . intro header payload hdc hsn hli hso
    have hsn' : header.sn % 2 ^ 10 = header.sn := Nat.mod_eq_of_lt hsn
    have hli' : header.li.map (· % 2 ^ 11) = header.li :=
      (map_congr_left fun l hl => Nat.mod_eq_of_lt (hli l hl)).trans (map_id' _)
    refine ⟨header.truncate, payload, rlcAmIsControlPdu_write header payload hdc,
      rlcAmReadDataPduHeader_write_truncate payload hdc, ?_, ?_, header.length_writeDataPduHeader, ?_⟩
    . unfold RlcAmdPduHeader.truncate
      rw [hli', hsn']
    . intro hrf
      unfold RlcAmdPduHeader.truncate
      have hso' : header.so % 2 ^ 15 = header.so := Nat.mod_eq_of_lt (hso hrf)
      rw [hli', hsn', if_pos hrf, hso', show (header.rf && header.lsf) = header.lsf by rw [hrf, Bool.true_and]]
    . rw [length_append, header.length_writeDataPduHeader]
      omega
  . intro header payload hsn hli
    exact ⟨⟨payload, rlcUmReadDataPduHeader_write header payload ⟨hsn, hli⟩⟩, header.length_writeDataPduHeader⟩

theorem dataPduHeader_readBack_threeLis
    : (∃ header' rest,
        rlcAmReadDataPduHeader (rlcAmWriteDataPduHeader
          { dc := .dataPdu, rf := true, lsf := true, so := 700, sn := 5, li := [2047, 0, 9] } ++ [1]) = some (header', rest)
        ∧ header'.so = 700 ∧ header'.li = [2047, 0, 9])
      ∧ (rlcUmWriteDataPduHeader
        { fi := .startAndEndAligned, snSize := .size5Bits, sn := 31, li := [2047, 0, 9] }).length = 6 := by
  have ⟨ham, hum⟩ := dataPduHeader_readBack
  constructor
  . have ⟨header', rest, _, hread, _, hsame, _⟩ := ham
      { dc := .dataPdu, rf := true, lsf := true, so := 700, sn := 5, li := [2047, 0, 9] } [1] rfl (by decide) (by decide)
      (by decide)
    refine ⟨header', rest, hread, ?_⟩
    rw [hsame rfl]
    exact ⟨rfl, rfl⟩
  . exact (hum _ [] (by decide) (by decide)).2

end SrsLte

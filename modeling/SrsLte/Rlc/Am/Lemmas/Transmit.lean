import Mathlib.Data.List.TakeWhile
import SrsLte.Rlc.Am.Lemmas.Basic
import SrsLte.Rlc.Am.Lemmas.Header

/-!
This module contains what the `build` functions do to the transmitting side.
-/

namespace SrsLte.RlcAm

open List Finmap

section SetPollBit

variable (s : RlcAm) (nofBytes : Nat)

@[simp]
theorem setPollBit_txSdu : (s.setPollBit nofBytes).1.txSdu = s.txSdu :=
  congrArg TxPart.txSdu (s.setPollBit_txPart nofBytes)

@[simp]
theorem setPollBit_txSduQueue : (s.setPollBit nofBytes).1.txSduQueue = s.txSduQueue :=
  congrArg TxPart.txSduQueue (s.setPollBit_txPart nofBytes)

@[simp]
theorem setPollBit_txEnabled : (s.setPollBit nofBytes).1.txEnabled = s.txEnabled :=
  congrArg TxPart.txEnabled (s.setPollBit_txPart nofBytes)

@[simp]
theorem setPollBit_txWindow : (s.setPollBit nofBytes).1.txWindow = s.txWindow :=
  congrArg TxPart.txWindow (s.setPollBit_txPart nofBytes)

@[simp]
theorem setPollBit_retxQueue : (s.setPollBit nofBytes).1.retxQueue = s.retxQueue :=
  congrArg TxPart.retxQueue (s.setPollBit_txPart nofBytes)

@[simp]
theorem setPollBit_vtA : (s.setPollBit nofBytes).1.vtA = s.vtA :=
  congrArg TxPart.vtA (s.setPollBit_txPart nofBytes)

@[simp]
theorem setPollBit_vtMs : (s.setPollBit nofBytes).1.vtMs = s.vtMs :=
  congrArg TxPart.vtMs (s.setPollBit_txPart nofBytes)

@[simp]
theorem setPollBit_vtS : (s.setPollBit nofBytes).1.vtS = s.vtS :=
  congrArg TxPart.vtS (s.setPollBit_txPart nofBytes)

@[simp]
theorem setPollBit_numbered : (s.setPollBit nofBytes).1.numbered = s.numbered :=
  congrArg TxPart.numbered (s.setPollBit_txPart nofBytes)

end SetPollBit

def stored (s : RlcAm) (sn : Nat) : Option (RlcAmdPduHeader × Option ByteBuffer) :=
  (s.txWindow.lookup sn).map (fun pdu => (pdu.header, pdu.buf))

theorem mem_txWindow_iff {s : RlcAm} {sn : Nat} : sn ∈ s.txWindow ↔ (s.stored sn).isSome := by
  unfold stored
  rw [Option.isSome_map, lookup_isSome]

structure RetxFrame (s s' : RlcAm) : Prop where
  txEnabled : s'.txEnabled = s.txEnabled
  txSduQueue : s'.txSduQueue = s.txSduQueue
  txSdu : s'.txSdu = s.txSdu
  vtA : s'.vtA = s.vtA
  vtMs : s'.vtMs = s.vtMs
  vtS : s'.vtS = s.vtS
  numbered : s'.numbered = s.numbered
  stored : ∀ sn, s'.stored sn = s.stored sn

variable (s : RlcAm) (nofBytes : Nat) {s' : RlcAm} {retx : RlcAmdRetx} {pdu : RlcAmdTxPdu}

theorem RetxFrame.trans {s s'' : RlcAm} (h : RetxFrame s s') (h' : RetxFrame s' s'') : RetxFrame s s'' where
  txEnabled := by rw [h'.txEnabled, h.txEnabled]
  txSduQueue := by rw [h'.txSduQueue, h.txSduQueue]
  txSdu := by rw [h'.txSdu, h.txSdu]
  vtA := by rw [h'.vtA, h.vtA]
  vtMs := by rw [h'.vtMs, h.vtMs]
  vtS := by rw [h'.vtS, h.vtS]
  numbered := by rw [h'.numbered, h.numbered]
  stored sn := by rw [h'.stored, h.stored]

theorem RetxFrame.keys {s : RlcAm} (h : RetxFrame s s') : s'.txWindow.keys = s.txWindow.keys := by
  ext sn
  rw [Finmap.mem_keys, Finmap.mem_keys, mem_txWindow_iff, mem_txWindow_iff, h.stored]

theorem RetxFrame.of_txPart {s : RlcAm} (retxQueue : List RlcAmdRetx)
    (h : s'.txPart = { s.txPart with retxQueue }) : RetxFrame s s' where
  txEnabled := congrArg TxPart.txEnabled h
  txSduQueue := congrArg TxPart.txSduQueue h
  txSdu := congrArg TxPart.txSdu h
  vtA := congrArg TxPart.vtA h
  vtMs := congrArg TxPart.vtMs h
  vtS := congrArg TxPart.vtS h
  numbered := congrArg TxPart.numbered h
  stored sn := by
    have hwindow := congrArg TxPart.txWindow h
    unfold RlcAm.stored
    exact congrArg (fun window : Map RlcAmdTxPdu => (window.lookup sn).map _) hwindow

theorem RetxFrame.refl : RetxFrame s s :=
  .of_txPart s.retxQueue rfl

theorem retxFrame_retxQueue (retxQueue : List RlcAmdRetx) : RetxFrame s { s with retxQueue } :=
  .of_txPart retxQueue rfl

theorem retxFrame_setPollBit : RetxFrame s (s.setPollBit nofBytes).1 :=
  .of_txPart s.retxQueue (s.setPollBit_txPart nofBytes)

theorem retxFrame_schedulePollRetx : RetxFrame s s.schedulePollRetx := by
  unfold schedulePollRetx
  split
  . dsimp only
    split
    . exact .of_txPart _ rfl
    . exact .of_txPart _ rfl
  . exact .refl s

theorem retxFrame_buildSegment (retx : RlcAmdRetx)
    : RetxFrame s (s.buildSegment nofBytes retx).1 := by
  unfold buildSegment
  split
  . dsimp only
    split
    . exact retxFrame_setPollBit s _
    . exact (retxFrame_setPollBit s _).trans (retxFrame_retxQueue _ _)
  . exact .refl s

theorem retxFrame_dropStaleRetx : RetxFrame s s.dropStaleRetx :=
  .of_txPart _ rfl

theorem retxFrame_whole {s : RlcAm} (rest : List RlcAmdRetx) (hpdu : s.txWindow.lookup retx.sn = some pdu)
    : RetxFrame s (buildRetxPdu.whole s retx rest pdu).1 := by
  apply (s.retxFrame_setPollBit ((pdu.buf.getD []).length + pdu.header.packedLength)).trans
  exact {
    txEnabled := rfl
    txSduQueue := rfl
    txSdu := rfl
    vtA := rfl
    vtMs := rfl
    vtS := rfl
    numbered := rfl
    stored := by
      intro sn
      unfold stored buildRetxPdu.whole
      dsimp only
      rw [Map.lookup_insert_ite, setPollBit_txWindow]
      split
      . next heq =>
        rw [heq, hpdu]
        rfl
      . rfl
  }

theorem retxFrame_buildRetxPdu
    : RetxFrame s (s.buildRetxPdu nofBytes).1 := by
  unfold buildRetxPdu
  split
  . exact .refl s
  . apply s.retxFrame_dropStaleRetx.trans
    generalize s.dropStaleRetx = s
    dsimp only
    split
    . exact .refl s
    . split
      . next hpdu =>
        split
        . exact .of_txPart _ rfl
        . split
          . apply retxFrame_buildSegment
          . exact retxFrame_whole _ hpdu
      . exact .refl s

theorem retxFrame_getBufferState : RetxFrame s s.getBufferState.1 := by
  unfold getBufferState
  have hcheck : RetxFrame s s.checkReorderingTimeout :=
    .of_txPart s.retxQueue s.checkReorderingTimeout_txPart
  apply hcheck.trans
  generalize s.checkReorderingTimeout = s
  dsimp only
  split
  . exact .of_txPart _ rfl
  . have hpoll : RetxFrame s (if s.pollRetx then s.schedulePollRetx else s) := by
      split
      . exact retxFrame_schedulePollRetx s
      . exact .refl s
    apply hpoll.trans
    generalize (if s.pollRetx then s.schedulePollRetx else s) = s
    split
    . split
      . split
        . exact .of_txPart _ rfl
        . exact .refl s
      . exact .refl s
    . exact .refl s

theorem buildSegment_ret_pos_iff {s : RlcAm} {nofBytes : Nat}
    {rest : List RlcAmdRetx} (hpdu : s.txWindow.lookup retx.sn = some pdu) (hbuf : pdu.buf.isSome)
    (hqueue : s.retxQueue = retx :: rest)
    : (s.buildSegment nofBytes retx).2.1 > 0 ↔ 4 < nofBytes := by
  have ⟨buf, hbuf⟩ := Option.isSome_iff_exists.mp hbuf
  have ⟨header, _, retxCount, isAcked⟩ := pdu
  cases hbuf
  unfold buildSegment
  rw [hpdu, hqueue]
  have hlen : ({ rf := true } : RlcAmdPduHeader).packedLength = 4 := rfl
  dsimp only
  rw [hlen]
  split
  . dsimp only
    omega
  . dsimp only
    simp only [length_append, RlcAmdPduHeader.length_writeDataPduHeader]
    unfold RlcAmdPduHeader.packedLength
    omega

theorem whole_ret_pos (retx : RlcAmdRetx) (rest : List RlcAmdRetx) (pdu : RlcAmdTxPdu)
    : (buildRetxPdu.whole s retx rest pdu).2.1 > 0 := by
  unfold buildRetxPdu.whole
  dsimp only
  simp only [length_append, RlcAmdPduHeader.length_writeDataPduHeader]
  unfold RlcAmdPduHeader.packedLength
  omega

def frontRetx (s : RlcAm) : Option RlcAmdRetx :=
  s.retxQueue.find? (fun retx => retx.sn ∈ s.txWindow)

def RetxFails (s : RlcAm) (nofBytes : Nat) : Prop :=
  match s.frontRetx with
  | none => True
  | some retx =>
    s.requiredBufferSize retx < 0
      ∨ (nofBytes ≤ 4 ∧ (retx.isSegment ∨ s.requiredBufferSize retx > u32ToInt nofBytes))

theorem head?_dropStaleRetx : s.dropStaleRetx.retxQueue.head? = s.frontRetx := by
  unfold dropStaleRetx frontRetx
  dsimp only
  rw [find?_eq_head?_dropWhile_not]
  simp

theorem mem_txWindow_of_frontRetx {s : RlcAm} (h : s.frontRetx = some retx)
    : retx.sn ∈ s.txWindow := by
  simpa using find?_some h

theorem buildRetxPdu_ret_pos_iff {s : RlcAm} (hbuf : ∀ sn pdu, s.txWindow.lookup sn = some pdu → pdu.buf.isSome)
    : (s.buildRetxPdu nofBytes).2.1 > 0 ↔ ¬ s.RetxFails nofBytes := by
  have hhead := s.head?_dropStaleRetx
  unfold RetxFails buildRetxPdu
  by_cases hempty : s.retxQueue = []
  . simp [frontRetx, hempty]
  . rw [← List.isEmpty_iff] at hempty
    rw [if_neg hempty, ← hhead]
    dsimp only
    cases hcons : s.dropStaleRetx.retxQueue with
    | nil => simp
    | cons retx rest =>
      rw [hcons, head?_cons] at hhead
      have hmem := mem_txWindow_of_frontRetx hhead.symm
      have hreq : s.dropStaleRetx.requiredBufferSize retx = s.requiredBufferSize retx := rfl
      have ⟨pdu, hpdu⟩ := Option.isSome_iff_exists.mp (lookup_isSome.mpr hmem)
      have hpdu' : s.dropStaleRetx.txWindow.lookup retx.sn = some pdu := hpdu
      rw [head?_cons]
      dsimp only
      rw [hpdu', hreq]
      dsimp only
      split
      . next hneg => simp [hneg]
      . next hneg =>
        split
        . next hseg =>
          rw [buildSegment_ret_pos_iff hpdu' (hbuf _ _ hpdu) hcons]
          simp only [hneg, hseg, false_or, and_true, Nat.not_le]
        . next hseg =>
          simp only [hneg, hseg, and_false, or_self, not_false_eq_true, iff_true]
          apply whole_ret_pos

namespace buildDataPdu

theorem le_length_pullSdus (queue : List ByteBuffer) (st : PullState)
    : st.pdu.length ≤ (pullSdus queue st).pdu.length := by
  induction queue generalizing st with
  | nil => exact Nat.le_refl _
  | cons sdu queue ih =>
    unfold pullSdus
    split
    . dsimp only
      split
      . exact Nat.le_refl _
      . refine Nat.le_trans ?_ (ih _)
        simp [moveSdu]
    . exact Nat.le_refl _

variable (s : RlcAm) (fi : RlcFiField) (st : PullState) {sdu : ByteBuffer}

theorem moveSdu_txSdu_ne (sdu : ByteBuffer) : (moveSdu st sdu).txSdu ≠ some [] := by
  unfold moveSdu
  dsimp only
  split <;> simp_all

theorem pullSdus_txSdu_ne (queue : List ByteBuffer) {st : PullState} (h : st.txSdu ≠ some [])
    : (pullSdus queue st).txSdu ≠ some [] := by
  induction queue generalizing st with
  | nil => exact h
  | cons sdu queue ih =>
    unfold pullSdus
    split
    . dsimp only
      split
      . exact h
      . apply ih
        apply moveSdu_txSdu_ne
    . exact h

theorem pull_txSdu_ne {s : RlcAm} (nofBytes : Nat) (h : s.txSdu ≠ some [])
    : (pull s nofBytes).txSdu ≠ some [] := by
  unfold pull
  split
  . apply pullSdus_txSdu_ne
    apply moveSdu_txSdu_ne
  . apply pullSdus_txSdu_ne
    exact h

theorem pull_pdu_ne {s : RlcAm} {nofBytes : Nat} (h : s.txSdu = some sdu) (hne : sdu ≠ []) (hbytes : 3 < nofBytes)
    : (pull s nofBytes).pdu.length ≠ 0 := by
  have hpos := length_pos_iff.mpr hne
  unfold pull
  rw [h]
  dsimp only
  refine Nat.ne_of_gt (Nat.lt_of_lt_of_le ?_ (le_length_pullSdus _ _))
  unfold moveSdu
  have hlen : ({} : RlcAmdPduHeader).packedLength = 2 := rfl
  simp only [hlen, nil_append, length_take]
  split <;> omega

def header (s : RlcAm) (fi : RlcFiField) (st : PullState) : RlcAmdPduHeader :=
  {
    dc := .dataPdu
    fi
    sn := s.vtS
    li := st.li
    p := (s.setPollBit (st.pdu.length + st.headLen)).2
  }

theorem number_txPart
    : (number s fi st).1.txPart
        =
      {
        s.txPart with
        vtS := (s.vtS + 1) % mod
        txWindow := s.txWindow.insert s.vtS { header := header s fi st, buf := some st.pdu }
        numbered := s.numbered ++ [(header s fi st, st.pdu)]
      } := by
  simp [number, txPart, header]

theorem number_numbered
    : (number s fi st).1.numbered = s.numbered ++ [(header s fi st, st.pdu)] :=
  congrArg TxPart.numbered (number_txPart s fi st)

@[simp]
theorem number_txSdu
    : (number s fi st).1.txSdu = s.txSdu := by
  simp [number]

@[simp]
theorem number_txSduQueue
    : (number s fi st).1.txSduQueue = s.txSduQueue := by
  simp [number]

@[simp]
theorem number_rxPart
    : (number s fi st).1.rxPart = s.rxPart :=
  setPollBit_rxPart _ _

theorem number_payload
    : (number s fi st).2
        =
      (((rlcAmWriteDataPduHeader (header s fi st) ++ st.pdu).length : Int),
        rlcAmWriteDataPduHeader (header s fi st) ++ st.pdu) := by
  simp [number, header]

end buildDataPdu

theorem buildDataPdu_cases
    : (s.buildDataPdu nofBytes = (s, 0, [])
        ∧ (nofBytes ≤ 3 ∨ s.txSdu = none ∧ (s.txSduQueue.size = 0 ∨ rlcAmWindowSize ≤ s.txWindow.size)))
      ∨ (3 < nofBytes ∧ (s.txSdu.isSome ∨ s.txWindow.size < rlcAmWindowSize)
          ∧ s.buildDataPdu nofBytes
              =
            let st := buildDataPdu.pull s nofBytes
            let s' := { s with txSdu := st.txSdu, txSduQueue := st.queue }
            if st.pdu.length = 0 then
              (s', 0, [])
            else
              buildDataPdu.number s' (st.framing s.txSdu.isSome) st) := by
  have hlen : ({} : RlcAmdPduHeader).packedLength = 2 := rfl
  unfold buildDataPdu
  rw [hlen]
  split
  . next h => simp_all
  . split
    . next h => simp_all
    . next h =>
      split
      . left
        simp only [true_and]
        omega
      . right
        refine ⟨by omega, ?_, rfl⟩
        cases hsdu : s.txSdu with
        | none =>
          right
          simp_all
        | some sdu => simp

end SrsLte.RlcAm

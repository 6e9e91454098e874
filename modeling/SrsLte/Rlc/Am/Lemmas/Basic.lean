import SrsLte.Data.Cyclic
import SrsLte.Rlc.Am.Impl.Entity

/-!
This module contains the frame of `rlc_am`: the functions of the transmitting side do not touch what
belongs to the receiving side and the other way round.
-/

namespace SrsLte.RlcAm

theorem txModBase_eq {s : RlcAm} {x : Nat} (ha : s.vtA < 1024) (hx : x < 1024)
    : s.txModBase x = Cyclic.dist 1024 s.vtA x := by
  unfold txModBase u32Sub Cyclic.dist
  omega

theorem rxModBase_eq {s : RlcAm} {x : Nat} (hr : s.vrR < 1024) (hx : x < 1024)
    : s.rxModBase x = Cyclic.dist 1024 s.vrR x := by
  unfold rxModBase u32Sub Cyclic.dist
  omega

structure TxPart where
  txEnabled : Bool
  txSduQueue : RlcTxQueue
  txSdu : Option ByteBuffer
  txWindow : Map RlcAmdTxPdu
  retxQueue : List RlcAmdRetx
  vtA : Nat
  vtMs : Nat
  vtS : Nat
  numbered : List (RlcAmdPduHeader × ByteBuffer)

def txPart (s : RlcAm) : TxPart :=
  { s with }

structure RxPart where
  rxWindow : Map RlcAmdRxPdu
  rxSegments : Map (List RlcAmdRxPdu)
  rxSdu : Option ByteBuffer
  vrR : Nat
  vrMr : Nat
  vrX : Nat
  vrMs : Nat
  vrH : Nat
  reordering : Bool
  pollReceived : Bool
  doStatus : Bool
  status : RlcStatusPdu
  pdcp : List ByteBuffer
  consumed : List RlcAmdRxPdu

def rxPart (s : RlcAm) : RxPart :=
  { s with reordering := s.reorderingTimeout.isRunning }

section Tx

variable (s : RlcAm) (nofBytes : Nat) (status : RlcStatusPdu)

@[simp]
theorem setPollBit_txPart
    : (s.setPollBit nofBytes).1.txPart = s.txPart := by
  unfold setPollBit
  dsimp only
  split <;> rfl

@[simp]
theorem setPollBit_rxPart
    : (s.setPollBit nofBytes).1.rxPart = s.rxPart := by
  unfold setPollBit
  dsimp only
  split <;> rfl

@[simp]
theorem writeSdu_rxPart (sdu : ByteBuffer) : (s.writeSdu sdu).rxPart = s.rxPart := by
  unfold writeSdu
  split <;> rfl

@[simp]
theorem schedulePollRetx_rxPart : s.schedulePollRetx.rxPart = s.rxPart := by
  unfold schedulePollRetx
  split
  . dsimp only
    split <;> rfl
  . rfl

@[simp]
theorem scheduleFullWindowRetx_rxPart : s.scheduleFullWindowRetx.rxPart = s.rxPart := by
  unfold scheduleFullWindowRetx
  split
  . split <;> rfl
  . rfl

@[simp]
theorem buildSegment_rxPart (retx : RlcAmdRetx)
    : (s.buildSegment nofBytes retx).1.rxPart = s.rxPart := by
  unfold buildSegment
  split
  . dsimp only
    split
    . apply setPollBit_rxPart
    . apply setPollBit_rxPart
  . rfl

@[simp]
theorem buildRetxPdu_rxPart
    : (s.buildRetxPdu nofBytes).1.rxPart = s.rxPart := by
  unfold buildRetxPdu
  split
  . rfl
  . dsimp only
    split
    . rfl
    . split
      . split
        . rfl
        . split
          . apply buildSegment_rxPart
          . apply setPollBit_rxPart
      . rfl

@[simp]
theorem buildDataPdu_rxPart
    : (s.buildDataPdu nofBytes).1.rxPart = s.rxPart := by
  unfold buildDataPdu
  split
  . rfl
  . split
    . rfl
    . split
      . rfl
      . dsimp only
        split
        . rfl
        . apply setPollBit_rxPart

def StatusFrame (s s' : RlcAm) : Prop :=
  ∃ txWindow retxQueue vtA vtMs pollRetxTimeout,
    s' = { s with txWindow, retxQueue, vtA, vtMs, pollRetxTimeout }

theorem foldl_handleNack_frame (i : Nat) (nacks : List RlcStatusNack) {s s' : RlcAm} (h : StatusFrame s s')
    : StatusFrame s (nacks.foldl (handleControlPdu.handleNack i) s') := by
  induction nacks generalizing s' with
  | nil => exact h
  | cons nack nacks ih =>
    apply ih
    obtain ⟨_, _, _, _, _, rfl⟩ := h
    unfold handleControlPdu.handleNack
    split
    . split
      . exact ⟨_, _, _, _, _, rfl⟩
      . exact ⟨_, _, _, _, _, rfl⟩
    . exact ⟨_, _, _, _, _, rfl⟩

theorem loopBody_frame {s : RlcAm} {st : handleControlPdu.LoopState} (h : StatusFrame s st.am)
    : StatusFrame s (handleControlPdu.loopBody status st).am := by
  unfold handleControlPdu.loopBody
  dsimp only
  split
  . have ⟨_, _, _, _, _, hfold⟩ := foldl_handleNack_frame st.i
      (status.nacks.filter (fun nack => nack.nackSn == st.i)) h
    rw [hfold]
    exact ⟨_, _, _, _, _, rfl⟩
  . apply foldl_handleNack_frame
    exact h

theorem handleStatus_frame : StatusFrame s (s.handleStatus status) := by
  unfold handleStatus
  apply Loop.whileDo_invariant (I := fun st : handleControlPdu.LoopState => StatusFrame s st.am)
  . intro st hst _
    exact loopBody_frame status hst
  . exact ⟨_, _, _, _, _, rfl⟩

@[simp]
theorem handleStatus_rxPart
    : (s.handleStatus status).rxPart = s.rxPart := by
  have ⟨_, _, _, _, _, h⟩ := s.handleStatus_frame status
  rw [h]
  rfl

@[simp]
theorem handleControlPdu_rxPart (payload : List UInt8)
    : (s.handleControlPdu payload).rxPart = s.rxPart := by
  unfold handleControlPdu
  split
  . apply handleStatus_rxPart
  . rfl

theorem readPdu_rxPart_of_no_status {s : RlcAm} (hstatus : ¬ (s.doStatus ∧ ¬ s.statusProhibited))
    : (s.readPdu nofBytes).1.rxPart = s.rxPart := by
  unfold readPdu
  rw [if_neg hstatus]
  dsimp only
  split
  . split
    . rw [buildRetxPdu_rxPart, scheduleFullWindowRetx_rxPart]
    . rw [buildDataPdu_rxPart, buildRetxPdu_rxPart, scheduleFullWindowRetx_rxPart]
  . rw [buildDataPdu_rxPart, scheduleFullWindowRetx_rxPart]

theorem readPdu_rxPart
    : ∃ pollReceived doStatus, (s.readPdu nofBytes).1.rxPart = { s.rxPart with pollReceived, doStatus } := by
  by_cases hstatus : s.doStatus ∧ ¬ s.statusProhibited
  . unfold readPdu buildStatusPdu
    rw [if_pos hstatus]
    dsimp only
    split <;> exact ⟨_, _, rfl⟩
  . rw [readPdu_rxPart_of_no_status nofBytes hstatus]
    exact ⟨_, _, rfl⟩

theorem getBufferState_rxPart
    : ∃ status, s.getBufferState.1.rxPart = { s.checkReorderingTimeout.rxPart with status }
        ∧ (status = s.checkReorderingTimeout.status
          ∨ status = s.checkReorderingTimeout.prepareStatus.1.status) := by
  unfold getBufferState
  dsimp only
  generalize s.checkReorderingTimeout = s
  split
  . exact ⟨_, rfl, Or.inr rfl⟩
  . have hpoll : (if s.pollRetx then s.schedulePollRetx else s).rxPart = s.rxPart := by
      split
      . exact s.schedulePollRetx_rxPart
      . rfl
    refine ⟨s.status, ?_, Or.inl rfl⟩
    generalize (if s.pollRetx then s.schedulePollRetx else s) = s' at hpoll
    split
    . split
      . split <;> exact hpoll
      . exact hpoll
    . exact hpoll

end Tx

section Rx

variable (s : RlcAm) (payload : List UInt8) (header : RlcAmdPduHeader)

theorem advanceVrMs_frame : ∃ vrMs, s.advanceVrMs = { s with vrMs } := by
  unfold advanceVrMs
  apply Loop.whileDo_invariant (I := fun s' : RlcAm => ∃ vrMs, s' = { s with vrMs })
  . rintro s' ⟨vrMs, rfl⟩ _
    exact ⟨_, rfl⟩
  . exact ⟨_, rfl⟩

theorem checkReorderingTimeout_frame
    : ∃ vrMs doStatus reorderingTimeout vrX,
        s.checkReorderingTimeout = { s with vrMs, doStatus, reorderingTimeout, vrX }
          ∧ (doStatus ↔ s.doStatus ∨ (s.reorderingTimeout.isRunning ∧ s.reorderingTimeout.expired ∧ s.pollReceived)) := by
  unfold checkReorderingTimeout
  split
  . next hexpired =>
    have hexpired := Bool.and_eq_true_iff.mp hexpired
    dsimp only
    have ⟨vrMs, hvrMs⟩ := advanceVrMs_frame
      { s with reorderingTimeout := s.reorderingTimeout.reset, vrMs := s.vrX }
    rw [hvrMs]
    have hstatus : (s.doStatus || s.pollReceived) = true
        ↔ s.doStatus ∨ (s.reorderingTimeout.isRunning ∧ s.reorderingTimeout.expired ∧ s.pollReceived) := by
      simp [hexpired]
    split <;> exact ⟨_, _, _, _, rfl, hstatus⟩
  . next hexpired =>
    refine ⟨_, _, _, _, rfl, ?_⟩
    rw [Bool.and_eq_true_iff] at hexpired
    tauto

theorem updateVrH_frame
    : ∃ vrH, s.updateVrH header = { s with vrH } := by
  unfold updateVrH
  split <;> exact ⟨_, rfl⟩

theorem checkPollBit_frame
    : ∃ pollReceived doStatus, s.checkPollBit header = { s with pollReceived, doStatus } := by
  unfold checkPollBit
  split
  . dsimp only
    split <;> exact ⟨_, _, rfl⟩
  . exact ⟨_, _, rfl⟩

theorem firstSegment_frame
    : ∃ vrH pollReceived doStatus,
        (s.updateVrH header).checkPollBit header = { s with vrH, pollReceived, doStatus } := by
  have ⟨vrH, hvrH⟩ := s.updateVrH_frame header
  have ⟨pollReceived, doStatus, hpoll⟩ := checkPollBit_frame { s with vrH } header
  rw [hvrH]
  exact ⟨vrH, pollReceived, doStatus, hpoll⟩

theorem storePdu_eq
    : ∃ s' vrMs, s.storePdu payload header = s'.checkPollBit header ∧ s' = {
        s with
        rxWindow := s.rxWindow.insert header.sn (s.rxPdu payload header)
        vrH := (s.updateVrH header).vrH
        vrMs
      } := by
  have hvrH : updateVrH { s with rxWindow := s.rxWindow.insert header.sn (s.rxPdu payload header) } header = {
        s with
        rxWindow := s.rxWindow.insert header.sn (s.rxPdu payload header)
        vrH := (s.updateVrH header).vrH
      } := by
    by_cases h : s.rxModBase header.sn ≥ s.rxModBase s.vrH
    . rw [show s.updateVrH header = _ from if_pos h]
      exact if_pos h
    . rw [show s.updateVrH header = _ from if_neg h]
      exact if_neg h
  have ⟨vrMs, hvrMs⟩ := advanceVrMs_frame
    { s with rxWindow := s.rxWindow.insert header.sn (s.rxPdu payload header), vrH := (s.updateVrH header).vrH }
  unfold storePdu
  dsimp only
  rw [hvrH, hvrMs]
  exact ⟨_, vrMs, rfl, rfl⟩

theorem storePdu_frame
    : ∃ vrH vrMs pollReceived doStatus, s.storePdu payload header = {
        s with
        rxWindow := s.rxWindow.insert header.sn (s.rxPdu payload header)
        vrH
        vrMs
        pollReceived
        doStatus
      } := by
  have ⟨s', vrMs, hstore, hs'⟩ := s.storePdu_eq payload header
  have ⟨pollReceived, doStatus, hpoll⟩ := s'.checkPollBit_frame header
  rw [hstore, hpoll, hs']
  exact ⟨_, vrMs, pollReceived, doStatus, rfl⟩

theorem reassembleRxSdus_frame
    : ∃ rxSdu pdcp rxWindow vrR vrMr consumed,
        s.reassembleRxSdus = { s with rxSdu, pdcp, rxWindow, vrR, vrMr, consumed } := by
  unfold reassembleRxSdus
  dsimp only
  apply Loop.whileDo_invariant (I := fun s' : RlcAm => ∃ rxSdu pdcp rxWindow vrR vrMr consumed,
    s' = { s with rxSdu, pdcp, rxWindow, vrR, vrMr, consumed })
  . rintro s' ⟨_, _, _, _, _, _, rfl⟩ _
    unfold reassembleRxSdus.body
    split <;> exact ⟨_, _, _, _, _, _, rfl⟩
  . exact ⟨_, _, _, _, _, _, rfl⟩

theorem updateReordering_frame
    : ∃ reorderingTimeout vrX, s.updateReordering = { s with reorderingTimeout, vrX } := by
  unfold updateReordering stopReordering startReordering
  split <;> split <;> exact ⟨_, _, rfl⟩

def DataFrame (s s' : RlcAm) : Prop :=
  ∃ rxWindow rxSdu vrR vrMr vrX vrMs vrH reorderingTimeout pollReceived doStatus pdcp consumed,
    s' = {
      s with
      rxWindow, rxSdu, vrR, vrMr, vrX, vrMs, vrH, reorderingTimeout, pollReceived, doStatus, pdcp, consumed
    }

theorem handleDataPdu_frame
    : DataFrame s (s.handleDataPdu payload header) := by
  unfold handleDataPdu
  split
  . exact ⟨_, _, _, _, _, _, _, _, _, _, _, _, rfl⟩
  . split
    . exact ⟨_, _, _, _, _, _, _, _, _, _, _, _, rfl⟩
    . split
      . exact ⟨_, _, _, _, _, _, _, _, _, _, _, _, rfl⟩
      . have ⟨_, _, hreordering⟩ := (s.storePdu payload header).reassembleRxSdus.updateReordering_frame
        have ⟨_, _, _, _, _, _, hreassemble⟩ := (s.storePdu payload header).reassembleRxSdus_frame
        have ⟨_, _, _, _, hstore⟩ := s.storePdu_frame payload header
        rw [hreordering, hreassemble, hstore]
        exact ⟨_, _, _, _, _, _, _, _, _, _, _, _, rfl⟩

theorem handleDataPduSegment_frame
    : ∃ rxSegments, DataFrame { s with rxSegments } (s.handleDataPduSegment payload header) := by
  unfold handleDataPduSegment
  split
  . exact ⟨_, _, _, _, _, _, _, _, _, _, _, _, _, rfl⟩
  . dsimp only
    split
    . unfold addSegmentAndCheck
      split
      . exact ⟨_, _, _, _, _, _, _, _, _, _, _, _, _, rfl⟩
      next payload' header' _ =>
        have ⟨_, _, _, _, _, _, _, _, _, _, _, _, hframe⟩ := (s.pollUnstored header).handleDataPdu_frame payload' header'
        rw [hframe]
        exact ⟨_, _, _, _, _, _, _, _, _, _, _, _, _, rfl⟩
    . have ⟨_, _, _, hframe⟩ := firstSegment_frame
        { s with rxSegments := s.rxSegments.insert header.sn [s.rxPdu payload header] } header
      rw [hframe]
      exact ⟨_, _, _, _, _, _, _, _, _, _, _, _, _, rfl⟩

@[simp]
theorem checkReorderingTimeout_txPart : s.checkReorderingTimeout.txPart = s.txPart := by
  have ⟨_, _, _, _, hframe, _⟩ := s.checkReorderingTimeout_frame
  rw [hframe]
  rfl

@[simp]
theorem handleDataPdu_txPart
    : (s.handleDataPdu payload header).txPart = s.txPart := by
  have ⟨_, _, _, _, _, _, _, _, _, _, _, _, hframe⟩ := s.handleDataPdu_frame payload header
  rw [hframe]
  rfl

@[simp]
theorem handleDataPduSegment_txPart
    : (s.handleDataPduSegment payload header).txPart = s.txPart := by
  have ⟨_, _, _, _, _, _, _, _, _, _, _, _, _, hframe⟩ := s.handleDataPduSegment_frame payload header
  rw [hframe]
  rfl

end Rx

end SrsLte.RlcAm

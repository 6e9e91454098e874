import SrsLte.Rlc.Am.Lemmas.Reassembly

/-!
This module contains what becomes of the configuration and of the counters that the polling rests on. They
are touched only where the poll bit of a PDU is decided.
-/

namespace SrsLte.RlcAm

structure PollPart where
  cfg : SrslteRlcAmConfig
  pollSn : Nat
  pduWithoutPoll : Nat
  byteWithoutPoll : Nat

def pollPart (s : RlcAm) : PollPart :=
  { s with }

variable (s : RlcAm) (payload : List UInt8) (nofBytes : Nat)

@[simp]
theorem writeSdu_pollPart (sdu : ByteBuffer) : (s.writeSdu sdu).pollPart = s.pollPart := by
  unfold writeSdu
  split <;> rfl

@[simp]
theorem schedulePollRetx_pollPart : s.schedulePollRetx.pollPart = s.pollPart := by
  unfold schedulePollRetx
  split
  . dsimp only
    split <;> rfl
  . rfl

@[simp]
theorem scheduleFullWindowRetx_pollPart : s.scheduleFullWindowRetx.pollPart = s.pollPart := by
  unfold scheduleFullWindowRetx
  split
  . split <;> rfl
  . rfl

@[simp]
theorem checkReorderingTimeout_pollPart : s.checkReorderingTimeout.pollPart = s.pollPart := by
  have ⟨_, _, _, _, hframe, _⟩ := s.checkReorderingTimeout_frame
  rw [hframe]
  rfl

@[simp]
theorem getBufferState_pollPart : s.getBufferState.1.pollPart = s.pollPart := by
  have hcheck := s.checkReorderingTimeout_pollPart
  unfold getBufferState
  dsimp only
  generalize s.checkReorderingTimeout = s' at hcheck
  split
  . exact hcheck
  . have hpoll : (if s'.pollRetx then s'.schedulePollRetx else s').pollPart = s.pollPart := by
      split
      . rw [schedulePollRetx_pollPart, hcheck]
      . exact hcheck
    generalize (if s'.pollRetx then s'.schedulePollRetx else s') = s'' at hpoll
    split
    . split
      . split <;> exact hpoll
      . exact hpoll
    . exact hpoll

@[simp]
theorem handleDataPdu_pollPart (header : RlcAmdPduHeader)
    : (s.handleDataPdu payload header).pollPart = s.pollPart := by
  have ⟨_, _, _, _, _, _, _, _, _, _, _, _, hframe⟩ := s.handleDataPdu_frame payload header
  rw [hframe]
  rfl

@[simp]
theorem handleDataPduSegment_pollPart (header : RlcAmdPduHeader)
    : (s.handleDataPduSegment payload header).pollPart = s.pollPart := by
  have ⟨_, _, _, _, _, _, _, _, _, _, _, _, _, hframe⟩ := s.handleDataPduSegment_frame payload header
  rw [hframe]
  rfl

@[simp]
theorem handleControlPdu_pollPart
    : (s.handleControlPdu payload).pollPart = s.pollPart := by
  unfold handleControlPdu
  split
  . next status _ =>
    have ⟨_, _, _, _, _, hframe⟩ := s.handleStatus_frame status
    rw [hframe]
    rfl
  . rfl

@[simp]
theorem writePdu_pollPart : (s.writePdu payload).pollPart = s.pollPart := by
  unfold writePdu
  split
  . rfl
  . split
    . exact handleControlPdu_pollPart s payload
    . split
      . split
        . exact handleDataPduSegment_pollPart s _ _
        . exact handleDataPdu_pollPart s _ _
      . rfl

@[simp]
theorem cfg_setPollBit : (s.setPollBit nofBytes).1.cfg = s.cfg := by
  unfold setPollBit
  dsimp only
  split <;> rfl

@[simp]
theorem cfg_buildSegment (retx : RlcAmdRetx)
    : (s.buildSegment nofBytes retx).1.cfg = s.cfg := by
  unfold buildSegment
  split
  . dsimp only
    split
    . apply cfg_setPollBit
    . apply cfg_setPollBit
  . rfl

@[simp]
theorem cfg_buildRetxPdu : (s.buildRetxPdu nofBytes).1.cfg = s.cfg := by
  unfold buildRetxPdu
  split
  . rfl
  . dsimp only
    split
    . rfl
    . split
      . split
        . rfl
        . split
          . apply cfg_buildSegment
          . apply cfg_setPollBit
      . rfl

@[simp]
theorem cfg_buildDataPdu : (s.buildDataPdu nofBytes).1.cfg = s.cfg := by
  unfold buildDataPdu
  split
  . rfl
  . split
    . rfl
    . split
      . rfl
      . dsimp only
        split
        . rfl
        . apply cfg_setPollBit

@[simp]
theorem cfg_readPdu : (s.readPdu nofBytes).1.cfg = s.cfg := by
  have hschedule : s.scheduleFullWindowRetx.cfg = s.cfg := congrArg PollPart.cfg s.scheduleFullWindowRetx_pollPart
  unfold readPdu
  split
  . unfold buildStatusPdu
    dsimp only
    split <;> rfl
  . dsimp only
    split
    . split
      . rw [cfg_buildRetxPdu, hschedule]
      . rw [cfg_buildDataPdu, cfg_buildRetxPdu, hschedule]
    . rw [cfg_buildDataPdu, hschedule]

@[simp]
theorem cfg_step (e : Event) : (s.step e).cfg = s.cfg := by
  cases e with
  | writeSdu sdu => exact congrArg PollPart.cfg (s.writeSdu_pollPart sdu)
  | elapse pollRetx reordering statusProhibit => rfl
  | getBufferState => exact congrArg PollPart.cfg s.getBufferState_pollPart
  | readPdu nofBytes => exact s.cfg_readPdu nofBytes
  | writePdu payload => exact congrArg PollPart.cfg (s.writePdu_pollPart payload)

end SrsLte.RlcAm

import SrsLte.Rlc.Am.Lemmas.Failed
import SrsLte.Rlc.Am.Lemmas.Grant

/-!
This module contains what the expiry of the poll retransmit timer leads to when there is nothing else to send.
-/

namespace SrsLte.RlcAm

structure PollRetxDue (s : RlcAm) : Prop where
  pollRetx : s.pollRetx
  txWindow : 0 < s.txWindow.size
  retxQueue : s.retxQueue = []
  txSduQueue : s.txSduQueue.queue = []
  doStatus : s.doStatus = false

def lastSn (s : RlcAm) : Nat :=
  (s.vtS + (mod - 1)) % mod

def RetransmitsLast (s : RlcAm) : Prop :=
  ∃ pdu buf, s.txWindow.lookup s.lastSn = some pdu ∧ pdu.buf = some buf
    ∧ s.getBufferState.1.retxQueue = [{ sn := s.lastSn, isSegment := false, soStart := 0, soEnd := buf.length }]
    ∧ 0 < s.getBufferState.2
    ∧ (s.getBufferState.1.readPdu s.getBufferState.2).2.2 = rlcAmWriteDataPduHeader { pdu.header with p := true } ++ buf

def CountersPoll (s : RlcAm) (nofBytes : Nat) : Prop :=
  (0 < s.cfg.pollPdu ∧ s.cfg.pollPdu.toNat < (s.pduWithoutPoll + 1) % 2 ^ 32)
    ∨ (0 < s.cfg.pollByte ∧ s.cfg.pollByte.toNat < (s.byteWithoutPoll + nofBytes) % 2 ^ 32)
    ∨ (s.cfg.pollPdu = 0 ∧ s.cfg.pollByte = 0 ∧ s.vtS % pollPeriodicity = 0)

def AnswersFirst (s : RlcAm) : Prop :=
  s.reorderingTimeout.isRunning ∧ s.reorderingTimeout.expired ∧ s.pollReceived ∧ ¬ s.statusProhibited

def FindsLast (s : RlcAm) : Prop :=
  s.vtS ≠ 0 ∧ ¬ s.AnswersFirst
    ∧ ∃ pdu buf, s.txWindow.lookup (s.vtS - 1) = some pdu ∧ pdu.buf = some buf
      ∧ pdu.header.packedLength + buf.length < 2 ^ 31 ∧ s.CountersPoll (buf.length + pdu.header.packedLength)

variable {s s' : RlcAm}
variable {buf : List UInt8}

theorem rlcAmWriteDataPduHeader_p {header : RlcAmdPduHeader} {p : Bool}
    (h : rlcAmWriteDataPduHeader { header with p } ++ buf = rlcAmWriteDataPduHeader { header with p := true } ++ buf)
    : p = true := by
  unfold rlcAmWriteDataPduHeader at h
  have hbyte : UInt8.ofNat ({ header with p } : RlcAmdPduHeader).fixedByte
      = UInt8.ofNat ({ header with p := true } : RlcAmdPduHeader).fixedByte := (List.cons_eq_cons.mp h).1
  have hnat := congrArg UInt8.toNat hbyte
  rw [UInt8.toNat_ofNat', UInt8.toNat_ofNat', Nat.mod_eq_of_lt (RlcAmdPduHeader.fixedByte_lt _),
    Nat.mod_eq_of_lt (RlcAmdPduHeader.fixedByte_lt _), RlcAmdPduHeader.fixedByte_eq,
    RlcAmdPduHeader.fixedByte_eq] at hnat
  cases p with
  | true => rfl
  | false =>
    simp only [Bool.toNat_false, Bool.toNat_true] at hnat
    omega

theorem setPollBit_iff (s : RlcAm) (nofBytes : Nat)
    : (s.setPollBit nofBytes).2 = true
        ↔
      s.CountersPoll nofBytes ∨ s.pollRetx ∨ (s.txSduQueue.size = 0 ∧ s.retxQueue.length = 0) := by
  unfold setPollBit
  dsimp only
  have hrequired : ({ s with
        pduWithoutPoll := (s.pduWithoutPoll + 1) % 2 ^ 32
        byteWithoutPoll := (s.byteWithoutPoll + nofBytes) % 2 ^ 32 } : RlcAm).pollRequired = true
      ↔ s.CountersPoll nofBytes ∨ s.pollRetx ∨ (s.txSduQueue.size = 0 ∧ s.retxQueue.length = 0) := by
    unfold pollRequired CountersPoll pollRetx
    simp only [Bool.or_eq_true, Bool.and_eq_true, decide_eq_true_eq, beq_iff_eq]
    tauto
  split
  . next h => exact iff_of_true rfl (hrequired.mp h)
  . next h => exact iff_of_false nofun fun hpoll => h (hrequired.mpr hpoll)

theorem setPollBit_of_started (hretx : s.retxQueue ≠ []) (hpollRetx : s.pollRetx = false) (nofBytes : Nat)
    : (s.setPollBit nofBytes).2 = true ↔ s.CountersPoll nofBytes := by
  rw [setPollBit_iff, hpollRetx, List.length_eq_zero_iff]
  simp [hretx]

def lastRetx (sn : Nat) (pdu : RlcAmdTxPdu) : RlcAmdRetx :=
  { sn, isSegment := false, soStart := 0, soEnd := (pdu.buf.getD []).length }

theorem schedulePollRetx_eq (hwindow : 0 < s.txWindow.size) (hretx : s.retxQueue = []) (hqueue : s.txSduQueue.queue = [])
    : s.schedulePollRetx = { s with
        retxQueue := ((s.txWindow.lookup (u32Sub s.vtS 1)).map (lastRetx (u32Sub s.vtS 1))).toList
        pollRetxTimeout := s.pollRetxTimeout.start s.cfg.tPollRetx } := by
  have hcond : s.txWindow.size > 0 ∧ s.retxQueue.length = 0 ∧ s.txSduQueue.size = 0 := by
    unfold RlcTxQueue.size
    rw [hretx, hqueue]
    exact ⟨hwindow, rfl, rfl⟩
  unfold schedulePollRetx
  rw [if_pos hcond]
  dsimp only
  cases s.txWindow.lookup (u32Sub s.vtS 1) with
  | none =>
    dsimp only
    rw [hretx]
    rfl
  | some pdu =>
    dsimp only
    rw [hretx]
    rfl

section Scheduled

variable {s₁ s₂ : RlcAm} (hcheck : s.checkReorderingTimeout = s₁) (hno : ¬ (s₁.doStatus ∧ ¬ s₁.statusProhibited))
variable (hpollRetx : s₁.pollRetx) (hsched : s₁.schedulePollRetx = s₂)

include hcheck hno hpollRetx hsched

theorem getBufferState_of_not_scheduled (hqueue : s₂.retxQueue = []) : s.getBufferState = (s₂, s₂.txBufferState) := by
  unfold getBufferState
  dsimp only
  rw [hcheck, if_neg hno, if_pos hpollRetx, hsched, hqueue]

theorem getBufferState_of_scheduled {retx : RlcAmdRetx} (hqueue : s₂.retxQueue = [retx]) (hmem : retx.sn ∈ s₂.txWindow)
    : s.getBufferState = if s₂.requiredBufferSize retx < 0 then
          ({ s₂ with retxQueue := [] }, 0)
        else
          (s₂, (s₂.requiredBufferSize retx).toNat) := by
  unfold getBufferState
  dsimp only
  rw [hcheck, if_neg hno, if_pos hpollRetx, hsched, hqueue]
  dsimp only
  rw [if_pos hmem]

end Scheduled

section Due

variable (h : s.PollRetxDue)

include h

theorem getBufferState_of_answersFirst (hfirst : s.AnswersFirst) : s.getBufferState.1.retxQueue = [] := by
  have ⟨vrMs, doStatus, reorderingTimeout, vrX, hcheck, hstatus⟩ := s.checkReorderingTimeout_frame
  have ⟨hrunning, hexpired, hpoll, hprohibited⟩ := hfirst
  have hbuf : s.getBufferState = s.checkReorderingTimeout.prepareStatus := by
    apply if_pos
    rw [hcheck]
    exact ⟨hstatus.mpr (.inr ⟨hrunning, hexpired, hpoll⟩), hprohibited⟩
  rw [hbuf, hcheck]
  exact h.retxQueue

theorem getBufferState_of_due (hfirst : ¬ s.AnswersFirst)
    : ∃ s₁ s₂ : RlcAm, s.checkReorderingTimeout = s₁ ∧ ¬ (s₁.doStatus ∧ ¬ s₁.statusProhibited) ∧ s₁.pollRetx
        ∧ s₁.schedulePollRetx = s₂ ∧ ¬ (s₂.doStatus ∧ ¬ s₂.statusProhibited)
        ∧ s₂.txWindow = s.txWindow ∧ s₂.txSduQueue = s.txSduQueue ∧ s₂.vtS = s.vtS ∧ s₂.pollPart = s.pollPart
        ∧ s₂.pollRetxTimeout = s.pollRetxTimeout.start s.cfg.tPollRetx
        ∧ s₂.retxQueue = ((s.txWindow.lookup (u32Sub s.vtS 1)).map (lastRetx (u32Sub s.vtS 1))).toList := by
  have ⟨vrMs, doStatus, reorderingTimeout, vrX, hcheck, hstatus⟩ := s.checkReorderingTimeout_frame
  have hno : ¬ (doStatus = true ∧ ¬ s.statusProhibited) := by
    rintro ⟨hdo, hprohibited⟩
    cases hstatus.mp hdo with
    | inl hold =>
      rw [h.doStatus] at hold
      cases hold
    | inr hanswer => exact hfirst ⟨hanswer.1, hanswer.2.1, hanswer.2.2, hprohibited⟩
  have hsched := schedulePollRetx_eq (s := { s with vrMs, doStatus, reorderingTimeout, vrX })
    h.txWindow h.retxQueue h.txSduQueue
  exact ⟨_, _, hcheck, hno, h.pollRetx, hsched, hno, rfl, rfl, rfl, rfl, rfl, rfl⟩

end Due

section Whole

variable {retx : RlcAmdRetx} {pdu : RlcAmdTxPdu} {buf : List UInt8}

theorem requiredBufferSize_of_whole (hpdu : s.txWindow.lookup retx.sn = some pdu) (hwhole : retx.isSegment = false)
    (hbuf : pdu.buf = some buf)
    : s.requiredBufferSize retx = u32ToInt (pdu.header.packedLength + buf.length) := by
  unfold requiredBufferSize
  rw [hpdu, hwhole]
  dsimp only
  rw [if_neg Bool.false_ne_true, hbuf]

theorem u32ToInt_of_lt {n : Nat} (h : n < 2 ^ 31) : u32ToInt n = n := by
  unfold u32ToInt
  rw [Nat.mod_eq_of_lt (by omega), if_pos h]

theorem exists_buf_of_requiredBufferSize (hstored : s.StoredFits) (hpdu : s.txWindow.lookup retx.sn = some pdu)
    (hwhole : retx.isSegment = false) (hneg : ¬ s.requiredBufferSize retx < 0)
    : ∃ buf, pdu.buf = some buf ∧ pdu.header.packedLength + buf.length < 2 ^ 31 := by
  cases hbuf : pdu.buf with
  | none =>
    apply absurd _ hneg
    unfold requiredBufferSize
    rw [hpdu, hwhole]
    dsimp only
    rw [if_neg Bool.false_ne_true, hbuf]
    exact Int.negSucc_lt_zero 0
  | some buf =>
    have hfits := hstored retx.sn pdu.header (some buf) (by rw [stored, hpdu, ← hbuf]; rfl)
    rw [Option.getD_some] at hfits
    refine ⟨buf, rfl, Nat.lt_of_not_le fun hsize => hneg ?_⟩
    rw [requiredBufferSize_of_whole hpdu hwhole hbuf]
    unfold u32ToInt
    rw [Nat.mod_eq_of_lt hfits, if_neg (Nat.not_lt.mpr hsize)]
    omega

theorem readPdu_of_whole (hno : ¬ (s.doStatus ∧ ¬ s.statusProhibited)) (hqueue : s.retxQueue = [retx])
    (hpdu : s.txWindow.lookup retx.sn = some pdu) (hwhole : retx.isSegment = false) (hbuf : pdu.buf = some buf)
    (hsize : pdu.header.packedLength + buf.length < 2 ^ 31)
    : (s.readPdu (pdu.header.packedLength + buf.length)).2.2
        = rlcAmWriteDataPduHeader
            { pdu.header with p := (s.setPollBit (buf.length + pdu.header.packedLength)).2 } ++ buf := by
  have hmem : retx.sn ∈ s.txWindow := Finmap.lookup_isSome.mp (by rw [hpdu]; rfl)
  have hfull : s.scheduleFullWindowRetx = s := by
    unfold scheduleFullWindowRetx
    apply if_neg
    rw [hqueue]
    simp
  have hdrop : s.dropStaleRetx = s := by
    unfold dropStaleRetx
    have hkept : s.retxQueue.dropWhile (fun retx => retx.sn ∉ s.txWindow) = s.retxQueue := by
      rw [hqueue]
      simp [hmem]
    rw [hkept]
  have hreq := requiredBufferSize_of_whole hpdu hwhole hbuf
  rw [u32ToInt_of_lt hsize] at hreq
  have hretx : s.buildRetxPdu (pdu.header.packedLength + buf.length) = buildRetxPdu.whole s retx [] pdu := by
    unfold buildRetxPdu
    rw [hdrop]
    dsimp only
    rw [if_neg (by rw [hqueue]; simp), hqueue]
    dsimp only
    rw [hpdu]
    dsimp only
    rw [hreq, if_neg (by omega), if_neg]
    rw [hwhole, u32ToInt_of_lt hsize]
    simp
  have hpos := whole_ret_pos s retx [] pdu
  unfold readPdu
  rw [if_neg hno]
  dsimp only
  rw [hfull, if_pos (by rw [hqueue]; simp), hretx, if_pos hpos]
  unfold buildRetxPdu.whole
  rw [hbuf]
  rfl

end Whole

theorem expired_start {t : Timeout} {duration : Int} (h : 0 ≤ duration) : (t.start duration).expired = false := by
  unfold Timeout.start Timeout.expired
  rw [if_neg (Int.not_lt.mpr h)]
  rfl

theorem lastSn_eq (hvtS : s.vtS < mod) (hzero : s.vtS ≠ 0) : s.lastSn = s.vtS - 1 := by
  unfold lastSn
  unfold mod at hvtS ⊢
  omega

theorem countersPoll_congr (hpart : s'.pollPart = s.pollPart) (hvtS : s'.vtS = s.vtS) (nofBytes : Nat)
    : s'.CountersPoll nofBytes ↔ s.CountersPoll nofBytes := by
  have hcfg : s'.cfg = s.cfg := congrArg PollPart.cfg hpart
  have hpdu : s'.pduWithoutPoll = s.pduWithoutPoll := congrArg PollPart.pduWithoutPoll hpart
  have hbyte : s'.byteWithoutPoll = s.byteWithoutPoll := congrArg PollPart.byteWithoutPoll hpart
  unfold CountersPoll
  rw [hcfg, hpdu, hbyte, hvtS]

theorem retransmitsLast_iff_of_queued {pdu : RlcAmdTxPdu} {s₂ : RlcAm}
    (hpdu : s.txWindow.lookup s.lastSn = some pdu) (hbuf : pdu.buf = some buf)
    (hsize : pdu.header.packedLength + buf.length < 2 ^ 31)
    (hstate : s.getBufferState = (s₂, pdu.header.packedLength + buf.length))
    (hwindow : s₂.txWindow = s.txWindow) (hqueue : s₂.retxQueue = [lastRetx s.lastSn pdu])
    (hno : ¬ (s₂.doStatus ∧ ¬ s₂.statusProhibited)) (hpollRetx : s₂.pollRetx = false)
    : s.RetransmitsLast ↔ s₂.CountersPoll (buf.length + pdu.header.packedLength) := by
  have hread := readPdu_of_whole hno hqueue (show s₂.txWindow.lookup s.lastSn = some pdu by rw [hwindow]; exact hpdu) rfl hbuf hsize
  have hpoll := setPollBit_of_started (by rw [hqueue]; simp) hpollRetx (buf.length + pdu.header.packedLength)
  rw [← hpoll]
  constructor
  . rintro ⟨pdu', buf', hpdu', hbuf', -, -, hpayload⟩
    rw [hpdu] at hpdu'
    cases hpdu'
    rw [hbuf] at hbuf'
    cases hbuf'
    rw [hstate] at hpayload
    exact rlcAmWriteDataPduHeader_p (hread.symm.trans hpayload)
  . intro hp
    rw [hp] at hread
    refine ⟨pdu, buf, hpdu, hbuf, ?_, ?_, ?_⟩
    . rw [hstate, hqueue]
      unfold lastRetx
      rw [hbuf]
      rfl
    . rw [hstate]
      unfold RlcAmdPduHeader.packedLength
      omega
    . rw [hstate]
      exact hread

theorem retransmitsLast_iff_of_fits (h : s.PollRetxDue) (hvtS : s.vtS < mod) (hstored : s.StoredFits)
    (htimer : 0 ≤ s.cfg.tPollRetx)
    : s.RetransmitsLast ↔ s.FindsLast := by
  by_cases hfirst : s.AnswersFirst
  . refine iff_of_false ?_ fun hfinds => hfinds.2.1 hfirst
    rintro ⟨pdu, buf, -, -, hqueue, -⟩
    rw [getBufferState_of_answersFirst h hfirst] at hqueue
    cases hqueue
  have ⟨s₁, s₂, hcheck, hno, hpollRetx, hsched, hno₂, hwindow, _, hvtS₂, hpollPart, htimeout, hqueue⟩ :=
    getBufferState_of_due h hfirst
  have hstarted : s₂.pollRetx = false := by
    unfold pollRetx
    rw [htimeout, expired_start htimer, Bool.and_false]
  cases hlookup : s.txWindow.lookup (u32Sub s.vtS 1) with
  | none =>
    rw [hlookup] at hqueue
    have hstate := getBufferState_of_not_scheduled hcheck hno hpollRetx hsched hqueue
    apply iff_of_false
    . rintro ⟨pdu, buf, -, -, hsent, -⟩
      rw [hstate, hqueue] at hsent
      cases hsent
    . rintro ⟨hzero, -, pdu, buf, hpdu, -⟩
      rw [← u32Sub_of_le (by omega) (Nat.lt_trans hvtS (by decide)), hlookup] at hpdu
      cases hpdu
  | some pdu =>
    rw [hlookup] at hqueue
    have hmem : (lastRetx (u32Sub s.vtS 1) pdu).sn ∈ s₂.txWindow := by
      rw [hwindow]
      exact Finmap.lookup_isSome.mp (by rw [lastRetx, hlookup]; rfl)
    have hstate := getBufferState_of_scheduled hcheck hno hpollRetx hsched hqueue hmem
    by_cases hzero : s.vtS = 0
    . -- `vt_s - 1` is not the sequence number before `vt_s`
      apply iff_of_false
      . rintro ⟨pdu', buf, -, -, hsent, -⟩
        rw [hstate] at hsent
        split at hsent
        . cases hsent
        . rw [hqueue] at hsent
          have hsn := congrArg RlcAmdRetx.sn (List.cons_eq_cons.mp hsent).1
          unfold lastRetx lastSn at hsn
          rw [hzero] at hsn
          dsimp only at hsn
          exact absurd hsn (by decide)
      . exact fun hfinds => hfinds.1 hzero
    . have hlast := lastSn_eq hvtS hzero
      rw [u32Sub_of_le (by omega) (Nat.lt_trans hvtS (by decide)), ← hlast] at hqueue hstate hlookup
      have hfinds : s.FindsLast ↔ ∃ buf, pdu.buf = some buf ∧ pdu.header.packedLength + buf.length < 2 ^ 31
          ∧ s.CountersPoll (buf.length + pdu.header.packedLength) := by
        unfold FindsLast
        rw [← hlast, hlookup]
        simp [hzero, hfirst]
      rw [hfinds]
      have hlookup₂ : s₂.txWindow.lookup (lastRetx s.lastSn pdu).sn = some pdu := by
        rw [hwindow]
        exact hlookup
      by_cases hneg : s₂.requiredBufferSize (lastRetx s.lastSn pdu) < 0
      . rw [if_pos hneg] at hstate
        apply iff_of_false
        . rintro ⟨pdu', buf, -, -, hsent, -⟩
          rw [hstate] at hsent
          cases hsent
        . rintro ⟨buf, hbuf, hsize, -⟩
          rw [requiredBufferSize_of_whole hlookup₂ rfl hbuf, u32ToInt_of_lt hsize] at hneg
          omega
      . have hstored₂ : s₂.StoredFits := by
          unfold StoredFits stored
          rw [hwindow]
          exact hstored
        have ⟨buf, hbuf, hsize⟩ := exists_buf_of_requiredBufferSize hstored₂ hlookup₂ rfl hneg
        rw [if_neg hneg, requiredBufferSize_of_whole hlookup₂ rfl hbuf, u32ToInt_of_lt hsize] at hstate
        rw [retransmitsLast_iff_of_queued hlookup hbuf hsize hstate hwindow hqueue hno₂ hstarted,
          countersPoll_congr hpollPart hvtS₂]
        constructor
        . intro hpoll
          exact ⟨buf, hbuf, hsize, hpoll⟩
        . rintro ⟨buf', hbuf', -, hpoll⟩
          rw [hbuf] at hbuf'
          cases hbuf'
          exact hpoll

theorem vtS_scheduleFullWindowRetx (s : RlcAm) : s.scheduleFullWindowRetx.vtS = s.vtS := by
  cases s.scheduleFullWindowRetx_cases with
  | inl h =>
    have ⟨_, retxQueue, hframe⟩ := h
    rw [hframe]
  | inr h => rw [h.2]

theorem vtS_lt_buildDataPdu (h : s.vtS < mod) (nofBytes : Nat) : (s.buildDataPdu nofBytes).1.vtS < mod := by
  cases s.buildDataPdu_cases nofBytes with
  | inl hsame =>
    rw [hsame.1]
    exact h
  | inr hbuild =>
    rw [hbuild.2.2]
    dsimp only
    split
    . exact h
    . have hnumber := congrArg TxPart.vtS (buildDataPdu.number_txPart
        { s with txSdu := (buildDataPdu.pull s nofBytes).txSdu, txSduQueue := (buildDataPdu.pull s nofBytes).queue }
        ((buildDataPdu.pull s nofBytes).framing s.txSdu.isSome) (buildDataPdu.pull s nofBytes))
      exact lt_of_eq_of_lt hnumber (Nat.mod_lt _ (by decide))

theorem vtS_lt_readPdu (h : s.vtS < mod) (nofBytes : Nat) : (s.readPdu nofBytes).1.vtS < mod := by
  have hfull : s.scheduleFullWindowRetx.vtS < mod := by
    rw [vtS_scheduleFullWindowRetx]
    exact h
  unfold readPdu
  split
  . unfold buildStatusPdu
    dsimp only
    split <;> exact h
  . dsimp only
    have hretx := s.scheduleFullWindowRetx.retxFrame_buildRetxPdu nofBytes
    split
    . split
      . rw [hretx.vtS]
        exact hfull
      . apply vtS_lt_buildDataPdu
        rw [hretx.vtS]
        exact hfull
    . exact vtS_lt_buildDataPdu hfull nofBytes

theorem vtS_lt_step (h : s.vtS < mod) (e : Event) : (s.step e).vtS < mod := by
  cases e with
  | writeSdu sdu =>
    unfold step writeSdu
    dsimp only
    split <;> exact h
  | elapse pollRetx reordering statusProhibit => exact h
  | getBufferState =>
    have hframe := s.retxFrame_getBufferState
    exact lt_of_eq_of_lt hframe.vtS h
  | readPdu nofBytes => exact vtS_lt_readPdu h nofBytes
  | writePdu payload =>
    cases s.writePdu_cases payload with
    | inl htx => exact lt_of_eq_of_lt (congrArg TxPart.vtS htx) h
    | inr hcontrol =>
      have ⟨status, _, heq⟩ := hcontrol
      have ⟨_, _, _, _, _, hframe⟩ := s.handleStatus_frame status
      unfold step
      dsimp only
      rw [heq, hframe]
      exact h

theorem cfg_exec (cfg : SrslteRlcAmConfig) (es : List Event) : (Trace.exec step (init cfg) es).cfg = cfg := by
  apply Trace.exec_invariant (P := fun s : RlcAm => s.cfg = cfg)
  . intro s e hcfg
    rw [cfg_step, hcfg]
  . rfl

theorem retransmitsLast_exec_iff (cfg : SrslteRlcAmConfig) (es : List Event) (hes : ∀ e ∈ es, e.InRange)
    (hcfg : 0 ≤ cfg.tPollRetx) (hdue : (Trace.exec step (init cfg) es).PollRetxDue)
    : (Trace.exec step (init cfg) es).RetransmitsLast ↔ (Trace.exec step (init cfg) es).FindsLast := by
  apply retransmitsLast_iff_of_fits hdue
  . apply Trace.exec_invariant (P := fun s : RlcAm => s.vtS < mod)
    . intro s e hs
      exact vtS_lt_step hs e
    . exact Nat.zero_lt_succ _
  . exact storedFits_exec cfg hes
  . rw [cfg_exec]
    exact hcfg

def oneExpired (cfg : SrslteRlcAmConfig) : RlcAm :=
  Trace.exec step (init cfg) [.writeSdu [1, 2, 3, 4], .readPdu 6, .elapse true false false]

theorem retransmitsLast_exec_iff_pollByte
    : (oneExpired { basicTestConfig with pollByte := 1 }).PollRetxDue
        ∧ (oneExpired { basicTestConfig with pollByte := 1 }).RetransmitsLast := by
  have hdue : (oneExpired { basicTestConfig with pollByte := 1 }).PollRetxDue :=
    ⟨by decide, by decide, by decide, by decide, by decide⟩
  refine ⟨hdue, (retransmitsLast_exec_iff { basicTestConfig with pollByte := 1 } _ ?_ (by decide) hdue).mpr ?_⟩
  . simp [Event.InRange]
  . refine ⟨by decide, ?_, _, _, rfl, rfl, by decide, .inr (.inl (by decide))⟩
    rintro ⟨hrunning, -⟩
    revert hrunning
    decide

theorem not_retransmitsLast_oneExpired
    : (oneExpired basicTestConfig).PollRetxDue ∧ ¬ (oneExpired basicTestConfig).RetransmitsLast := by
  refine ⟨⟨by decide, by decide, by decide, by decide, by decide⟩, ?_⟩
  rintro ⟨pdu, buf, hpdu, hbuf, -, -, hpayload⟩
  have hwindow : (oneExpired basicTestConfig).txWindow.lookup (oneExpired basicTestConfig).lastSn
      = some { header := { dc := .dataPdu, p := true }, buf := some [1, 2, 3, 4] } := by
    decide
  rw [hwindow] at hpdu
  cases hpdu
  cases hbuf
  revert hpayload
  decide

end SrsLte.RlcAm

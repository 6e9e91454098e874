import SrsLte.Rlc.Am.Lemmas.PollCounters
import SrsLte.Rlc.Am.Lemmas.Segments

/-!
This module contains when the answer to a poll that has been received is still to come. It is delayed
until the reordering timer expires, unless the PDUs that the timer waits for arrive.
-/

namespace SrsLte.RlcAm

structure PollKept (s : RlcAm) : Prop where
  running : s.pollReceived → ¬ s.doStatus → s.reorderingTimeout.isRunning
  answered : s.pollReceived → ∀ pollRetx statusProhibit,
    (s.elapse pollRetx true statusProhibit).checkReorderingTimeout.doStatus

def ClosesGap (s : RlcAm) (sn : Nat) : Prop :=
  ∀ sn' < mod, s.rxDist sn' < max (s.rxDist s.vrH) (s.rxDist sn + 1) → sn' = sn ∨ sn' ∈ s.rxWindow

def DataKeepsPoll (s : RlcAm) (payload : List UInt8) (header : RlcAmdPduHeader) : Prop :=
  s.pollReceived → ¬ s.doStatus → ¬ header.p → s.Accepts payload header → ¬ s.ClosesGap header.sn

/--
The first segment of a PDU from `vr_ms` on has the poll bit only if the reordering timer is running or there
is a status report to send anyway. The last segment of a PDU leaves a gap.
-/
def SegmentKeepsPoll (s : RlcAm) (payload : List UInt8) (header : RlcAmdPduHeader) : Prop :=
  s.insideRxWindow header.sn →
    match s.rxSegments.lookup header.sn with
    | some segments =>
      ¬ header.p →
        ∀ pdu ∈ (addSegmentAndCheck.addSegment segments (s.rxPdu payload header)).2, s.DataKeepsPoll pdu.1 pdu.2
    | none =>
      header.p → s.rxModBase s.vrMs ≤ s.rxModBase header.sn → s.doStatus ∨ s.reorderingTimeout.isRunning

def KeepsPoll (s : RlcAm) (e : Event) : Prop :=
  match e with
  | .writePdu payload =>
    ∀ pdu ∈ readData payload,
      if pdu.1.rf then s.SegmentKeepsPoll pdu.2 pdu.1 else s.DataKeepsPoll pdu.2 pdu.1
  | _ => True

variable {s s' : RlcAm}

theorem pollKept_iff : s.PollKept ↔ (s.pollReceived → ¬ s.doStatus → s.reorderingTimeout.isRunning) := by
  constructor
  . exact PollKept.running
  . intro hrunning
    refine ⟨hrunning, ?_⟩
    intro hpoll pollRetx statusProhibit
    unfold checkReorderingTimeout
    split
    . dsimp only
      have ⟨vrMs, hvrMs⟩ := advanceVrMs_frame {
        s.elapse pollRetx true statusProhibit with
        reorderingTimeout := (s.elapse pollRetx true statusProhibit).reorderingTimeout.reset
        vrMs := (s.elapse pollRetx true statusProhibit).vrX
      }
      rw [hvrMs]
      have hor : (s.doStatus || s.pollReceived) = true := by
        rw [hpoll, Bool.or_true]
      split <;> exact hor
    . next hexpired =>
      by_contra hstatus
      apply hexpired
      have hrun : s.reorderingTimeout.running = true := hrunning hpoll hstatus
      simp [elapse, Timeout.isRunning, Timeout.expired, hrun]

theorem PollKept.congr (hpoll : s'.pollReceived = s.pollReceived) (hstatus : s'.doStatus = s.doStatus)
    (hrunning : s'.reorderingTimeout.isRunning = s.reorderingTimeout.isRunning)
    : s'.PollKept ↔ s.PollKept := by
  rw [pollKept_iff, pollKept_iff, hpoll, hstatus, hrunning]

theorem PollKept.of_rxPart {status : RlcStatusPdu} (hrx : s'.rxPart = { s.rxPart with status }) (h : s.PollKept)
    : s'.PollKept :=
  (PollKept.congr (congrArg RxPart.pollReceived hrx) (congrArg RxPart.doStatus hrx)
    (congrArg RxPart.reordering hrx)).mpr h

theorem pollKept_rxSegments (s : RlcAm) (rxSegments : Map (List RlcAmdRxPdu))
    : { s with rxSegments }.PollKept ↔ s.PollKept :=
  PollKept.congr rfl rfl rfl

theorem isRunning_startReordering (h : RxPending s) (hcfg : 0 ≤ s.cfg.tReordering)
    : s.startReordering.reorderingTimeout.isRunning ↔ s.reorderingTimeout.isRunning ∨ 0 < s.rxDist s.vrH := by
  unfold startReordering
  split
  . next hcond =>
    have hrun : (s.reorderingTimeout.start s.cfg.tReordering).isRunning = true := by
      rw [Timeout.start, if_neg (by omega)]
      rfl
    exact iff_of_true hrun (.inr (h.vrR_lt_vrH_iff.mp hcond.2))
  . next hcond =>
    rw [h.vrR_lt_vrH_iff] at hcond
    tauto

theorem RxPending.stopped (h : RxPending s)
    : RxPending { s with reorderingTimeout := s.reorderingTimeout.reset } :=
  { h with
    vrX_near := fun hrunning => absurd hrunning (by simp [Timeout.isRunning, Timeout.reset])
    received := fun hrunning => absurd hrunning (by simp [Timeout.isRunning, Timeout.reset])
  }

theorem RxPending.passed (h : RxPending s) (hrunning : s.reorderingTimeout.isRunning) (hzero : s.rxDist s.vrH = 0)
    : s.vrX = s.vrR ∨ (¬ s.insideRxWindow s.vrX ∧ s.vrX ≠ s.vrMr) := by
  have hRH : s.vrR = s.vrH := (Cyclic.dist_eq_zero h.vrR h.vrH).mp hzero
  by_cases heq : s.vrX = s.vrR
  . exact .inl heq
  . right
    have hfar : rlcAmWindowSize < s.rxDist s.vrX := by
      have hnear := h.vrX_near hrunning
      have hX := Cyclic.dist_spec h.vrX h.vrH
      have hRX := Cyclic.dist_spec h.vrR h.vrX
      unfold rxDist
      simp only [mod, rlcAmWindowSize] at *
      omega
    rw [h.insideRxWindow_iff h.vrX]
    refine ⟨by omega, ?_⟩
    intro hmr
    rw [hmr, h.rxDist_vrMr] at hfar
    omega

theorem isRunning_updateReordering (h : RxPending s) (hcfg : 0 ≤ s.cfg.tReordering)
    : s.updateReordering.reorderingTimeout.isRunning ↔ 0 < s.rxDist s.vrH := by
  unfold updateReordering stopReordering
  split
  . refine (isRunning_startReordering h.stopped hcfg).trans ?_
    exact or_iff_right (by simp [Timeout.isRunning, Timeout.reset])
  . next hkeep =>
    rw [isRunning_startReordering h hcfg, or_iff_right_iff_imp]
    intro hrunning
    by_contra hzero
    exact hkeep ⟨hrunning, h.passed hrunning (by omega)⟩

theorem PollKept.pollUnstored (h : s.PollKept) (header : RlcAmdPduHeader) : (s.pollUnstored header).PollKept := by
  rw [pollKept_iff]
  intro hpoll hstatus
  apply h.running hpoll
  intro hold
  exact hstatus (by simp [RlcAm.pollUnstored, hold])

theorem checkPollBit_poll (s : RlcAm) (header : RlcAmdPduHeader)
    : ((s.checkPollBit header).pollReceived ↔ s.pollReceived ∨ header.p)
        ∧ ((s.checkPollBit header).doStatus ↔ s.doStatus ∨ (header.p
          ∧ (s.rxModBase header.sn < s.rxModBase s.vrMs ∨ s.rxModBase s.vrMr ≤ s.rxModBase header.sn))) := by
  unfold checkPollBit
  split
  . next hp =>
    dsimp only
    split
    . next hanswer => exact ⟨by simp [hp], iff_of_true rfl (.inr ⟨hp, hanswer⟩)⟩
    . next hanswer => exact ⟨by simp [hp], (or_iff_left fun h => hanswer h.2).symm⟩
  . next hp => simp [hp]

theorem storePdu_poll (s : RlcAm) (payload : List UInt8) (header : RlcAmdPduHeader)
    : ((s.storePdu payload header).pollReceived ↔ s.pollReceived ∨ header.p)
        ∧ ((s.storePdu payload header).doStatus ↔ s.doStatus ∨ (header.p
          ∧ ((s.storePdu payload header).rxModBase header.sn
              < (s.storePdu payload header).rxModBase (s.storePdu payload header).vrMs
            ∨ (s.storePdu payload header).rxModBase (s.storePdu payload header).vrMr
              ≤ (s.storePdu payload header).rxModBase header.sn))) := by
  have ⟨s', vrMs, hstore, hs'⟩ := s.storePdu_eq payload header
  have hpoll := s'.checkPollBit_poll header
  have ⟨pollReceived, doStatus, hframe⟩ := s'.checkPollBit_frame header
  rw [hstore]
  rw [hframe, hs'] at hpoll ⊢
  exact hpoll

section Store

variable {header : RlcAmdPduHeader} (h : RxInv s) (hsn : header.sn < mod)

include h hsn

theorem rxDist_vrH_storePdu (hin : s.rxDist header.sn < rlcAmWindowSize) (payload : List UInt8)
    : s.rxDist (s.storePdu payload header).vrH = max (s.rxDist s.vrH) (s.rxDist header.sn + 1) := by
  have ⟨vrH, hupdate, _, hmax⟩ := updateVrH_spec h.vrR h.vrH hsn hin
  have ⟨s', vrMs, hstore, hs'⟩ := s.storePdu_eq payload header
  have ⟨pollReceived, doStatus, hpoll⟩ := s'.checkPollBit_frame header
  rw [hstore, hpoll, hs', hupdate]
  exact hmax

variable {payload : List UInt8}

theorem rxDist_vrH_reassembled (hacc : s.Accepts payload header)
    : 0 < (s.storePdu payload header).reassembleRxSdus.rxDist (s.storePdu payload header).reassembleRxSdus.vrH
        ↔
      ¬ s.ClosesGap header.sn := by
  have hin := (h.insideRxWindow_iff hsn).mp hacc.1
  have hpending := (pending_storePdu h hsn hin payload).1
  have hmax := rxDist_vrH_storePdu h hsn hin payload
  have ⟨vrH, vrMs, pollReceived, doStatus, hstore⟩ := s.storePdu_frame payload header
  have hmem : ∀ sn, sn ∈ (s.storePdu payload header).rxWindow ↔ sn = header.sn ∨ sn ∈ s.rxWindow := by
    intro sn
    rw [hstore]
    exact Finmap.mem_insert
  have hdist : (s.storePdu payload header).rxDist = s.rxDist := by
    rw [hstore]
    rfl
  have ⟨k, hk⟩ := consumed_reassembleRxSdus hpending
  have ⟨_, _, hnot⟩ := pending_reassembleRxSdus hpending
  have ⟨_, _, _, _, _, _, hframe⟩ := (s.storePdu payload header).reassembleRxSdus_frame
  have hvrH : (s.storePdu payload header).reassembleRxSdus.vrH = (s.storePdu payload header).vrH := by
    rw [hframe]
  rw [hvrH]
  generalize (s.storePdu payload header).reassembleRxSdus = s₂ at *
  generalize s.storePdu payload header = s₁ at *
  have hge : ¬ s₁.rxDist s₁.vrH < k := by
    intro hlt
    have hkey := hpending.keys _ (hk.mem s₁.vrH hpending.vrH hlt)
    exact Nat.lt_irrefl _ hkey.2
  have hshift := hk.rxDist hpending.vrR hpending.vrH
  rw [if_neg hge, hdist, hmax] at hshift
  constructor
  . intro hpos hcloses
    -- the PDU that the reassembly stops at is one of the gap
    have hvrR : s₁.rxDist s₂.vrR = k := by
      have hle := hk.le
      unfold RlcAm.rxDist
      rw [hk.vrR]
      apply Cyclic.dist_add_mod hpending.vrR
      simp only [mod, rlcAmWindowSize] at *
      omega
    have hlt : s₂.vrR < mod := by
      rw [hk.vrR]
      exact Nat.mod_lt _ (by decide)
    have hgap : s₂.vrR ∈ s₁.rxWindow := by
      rw [hmem]
      apply hcloses _ hlt
      rw [← hdist, hvrR, hdist]
      omega
    exact hnot ((hk.mem_iff _).mpr ⟨Nat.le_of_eq hvrR.symm, hgap⟩)
  . intro hopen
    by_contra hzero
    apply hopen
    intro sn' hsn' hlt
    rw [← hmem]
    apply hk.mem sn' hsn'
    rw [hdist]
    omega

theorem doStatus_storePdu_of_closesGap (hacc : s.Accepts payload header)
    (hp : header.p) (hcloses : s.ClosesGap header.sn)
    : (s.storePdu payload header).doStatus := by
  have hin := (h.insideRxWindow_iff hsn).mp hacc.1
  have hpending := (pending_storePdu h hsn hin payload).1
  rw [(storePdu_poll s payload header).2]
  refine .inr ⟨hp, .inl ?_⟩
  rw [hpending.rxModBase_eq hsn, hpending.rxModBase_eq hpending.vrMs]
  have hle := hpending.vrMs_le
  have hnot := hpending.vrMs_not_mem
  have ⟨vrH, vrMs, pollReceived, doStatus, hstore⟩ := s.storePdu_frame payload header
  rw [hstore] at hle hnot ⊢
  by_contra hlt
  apply hnot
  refine Finmap.mem_insert.mpr (hcloses vrMs ?_ ?_)
  . have := hpending.vrMs
    rw [hstore] at this
    exact this
  . change s.rxDist vrMs ≤ s.rxDist vrH at hle
    change ¬ s.rxDist header.sn < s.rxDist vrMs at hlt
    omega

omit h hsn in
theorem handleDataPdu_reassembled (hacc : s.Accepts payload header)
    : (s.handleDataPdu payload header).pollReceived = (s.storePdu payload header).pollReceived
        ∧ (s.handleDataPdu payload header).doStatus = (s.storePdu payload header).doStatus
        ∧ (s.storePdu payload header).reassembleRxSdus.cfg = s.cfg := by
  have ⟨_, _, hreordering⟩ := (s.storePdu payload header).reassembleRxSdus.updateReordering_frame
  have ⟨_, _, _, _, _, _, hreassemble⟩ := (s.storePdu payload header).reassembleRxSdus_frame
  have ⟨_, _, _, _, hstore⟩ := s.storePdu_frame payload header
  rw [handleDataPdu_of_accepts hacc, hreordering, hreassemble]
  refine ⟨rfl, rfl, ?_⟩
  rw [hstore]

theorem pollKept_handleDataPdu_iff (hcfg : 0 ≤ s.cfg.tReordering) (hkept : s.PollKept) (payload : List UInt8)
    : (s.handleDataPdu payload header).PollKept ↔ s.DataKeepsPoll payload header := by
  unfold DataKeepsPoll
  by_cases hacc : s.Accepts payload header
  . have hin := (h.insideRxWindow_iff hsn).mp hacc.1
    have hpending := (pending_storePdu h hsn hin payload).1
    have hgap := rxDist_vrH_reassembled h hsn hacc
    have hpoll := storePdu_poll s payload header
    have hclosed := doStatus_storePdu_of_closesGap h hsn hacc
    have hframe := handleDataPdu_reassembled hacc
    rw [pollKept_iff, hframe.1, hframe.2.1, handleDataPdu_of_accepts hacc,
      isRunning_updateReordering (pending_reassembleRxSdus hpending).1 (by rw [hframe.2.2]; exact hcfg), hgap, hpoll.1]
    constructor
    . intro hkeeps hreceived hstatus hp hacc
      apply hkeeps (.inl hreceived)
      rw [hpoll.2]
      tauto
    . intro hkeeps hreceived hstatus hcloses
      by_cases hp : header.p
      . exact hstatus (hclosed hp hcloses)
      . rw [hpoll.2] at hstatus
        exact hkeeps (by tauto) (by tauto) hp hacc hcloses
  . refine iff_of_true ?_ (fun _ _ _ h => absurd h hacc)
    unfold handleDataPdu
    split
    . exact hkept.pollUnstored header
    . next hin =>
      split
      . exact hkept.pollUnstored header
      . next hmem =>
        split
        . exact hkept
        . next hlen => exact absurd ⟨not_not.mp hin, hmem, Nat.le_of_not_lt hlen⟩ hacc

end Store

variable {header : RlcAmdPduHeader}

theorem pollUnstored_of_no_poll (hp : ¬ header.p) : s.pollUnstored header = s := by
  unfold pollUnstored
  rw [Bool.not_eq_true] at hp
  rw [hp, Bool.or_false]

theorem pollKept_firstSegment_iff (h : RxInv s) (hsn : header.sn < mod)
    (hin : s.insideRxWindow header.sn) (hkept : s.PollKept) (rxSegments : Map (List RlcAmdRxPdu))
    : (({ s with rxSegments }.updateVrH header).checkPollBit header).PollKept
        ↔
      (header.p → s.rxModBase s.vrMs ≤ s.rxModBase header.sn → s.doStatus ∨ s.reorderingTimeout.isRunning) := by
  have ⟨vrH, hvrH⟩ := updateVrH_frame { s with rxSegments } header
  rw [hvrH]
  have hpoll := checkPollBit_poll { s with rxSegments, vrH } header
  have ⟨pollReceived, doStatus, hframe⟩ := checkPollBit_frame { s with rxSegments, vrH } header
  have hlt : s.rxModBase header.sn < s.rxModBase s.vrMr := by
    rw [h.rxModBase_eq hsn, h.rxModBase_eq h.vrMr_lt, h.rxDist_vrMr]
    exact (h.insideRxWindow_iff hsn).mp hin
  have hrunning := hkept.running
  rw [pollKept_iff]
  rw [hframe] at hpoll ⊢
  have ⟨hreceived, hstatus⟩ := hpoll
  change pollReceived = true ↔ s.pollReceived ∨ header.p at hreceived
  change doStatus = true ↔ s.doStatus ∨ (header.p
    ∧ (s.rxModBase header.sn < s.rxModBase s.vrMs ∨ s.rxModBase s.vrMr ≤ s.rxModBase header.sn)) at hstatus
  change (pollReceived = true → ¬ doStatus = true → s.reorderingTimeout.isRunning = true) ↔ _
  rw [hreceived, hstatus]
  constructor
  . intro hkeeps hp hle
    by_contra hnot
    refine hnot (.inr (hkeeps (.inr hp) ?_))
    rintro (hstatus' | ⟨-, hanswer⟩)
    . exact hnot (.inl hstatus')
    . omega
  . intro hkeeps hpoll hnone
    by_cases hp : header.p
    . have hle : s.rxModBase s.vrMs ≤ s.rxModBase header.sn := by
        by_contra hlt'
        exact hnone (.inr ⟨hp, .inl (Nat.lt_of_not_le hlt')⟩)
      exact (hkeeps hp hle).resolve_left fun hstatus' => hnone (.inl hstatus')
    . exact hrunning (hpoll.resolve_right hp) fun hstatus' => hnone (.inl hstatus')

theorem pollKept_addSegmentAndCheck_iff (h : RxInv s) (hcfg : 0 ≤ s.cfg.tReordering) (hkept : s.PollKept) {sn : Nat}
    (hsn : sn < mod) {segments : List RlcAmdRxPdu} {segment : RlcAmdRxPdu}
    (hsegments : ∀ x ∈ segments, x.header.sn = sn) (hsegment : segment.header.sn = sn)
    : (s.addSegmentAndCheck sn segments segment).PollKept
        ↔
      ∀ pdu ∈ (addSegmentAndCheck.addSegment segments segment).2, s.DataKeepsPoll pdu.1 pdu.2 := by
  have ⟨_, hcomplete⟩ := addSegmentAndCheck.addSegment_sn hsegments hsegment
  unfold addSegmentAndCheck
  split
  . next segments' heq =>
    rw [heq]
    exact iff_of_true ((pollKept_rxSegments _ _).mpr hkept) nofun
  . next segments' payload header heq =>
    have hlt : header.sn < mod := by
      rw [hcomplete (payload, header) (by rw [heq])]
      exact hsn
    rw [heq]
    dsimp only
    rw [pollKept_rxSegments, pollKept_handleDataPdu_iff h hlt hcfg hkept]
    simp

theorem pollKept_handleDataPduSegment_iff (h : RxStored s) (hcfg : 0 ≤ s.cfg.tReordering) (hkept : s.PollKept)
    (hsn : header.sn < mod) (payload : List UInt8)
    : (s.handleDataPduSegment payload header).PollKept ↔ s.SegmentKeepsPoll payload header := by
  unfold handleDataPduSegment SegmentKeepsPoll
  by_cases hin : s.insideRxWindow header.sn
  . rw [if_neg (not_not.mpr hin)]
    simp only [hin, true_implies]
    cases hlookup : s.rxSegments.lookup header.sn with
    | some segments =>
      have hpolled : RxInv (s.pollUnstored header) := .congr (s := s) rfl h.toRxInv
      have hiff := pollKept_addSegmentAndCheck_iff hpolled hcfg (hkept.pollUnstored header) hsn
        (h.segmented _ _ hlookup) (show (s.rxPdu payload header).header.sn = header.sn from rfl)
      refine hiff.trans ?_
      by_cases hp : header.p
      . refine iff_of_true ?_ (fun hnot => absurd hp hnot)
        intro pdu _ _ hstatus
        exact absurd (by simp [pollUnstored, hp]) hstatus
      . rw [pollUnstored_of_no_poll hp]
        exact ⟨fun hkeeps _ => hkeeps, fun hkeeps => hkeeps hp⟩
    | none => exact pollKept_firstSegment_iff h.toRxInv hsn hin hkept _
  . rw [if_pos hin]
    exact iff_of_true (hkept.pollUnstored header) (fun hin' => absurd hin' hin)

theorem pollKept_writePdu_iff (h : RxStored s) (hcfg : 0 ≤ s.cfg.tReordering) (hkept : s.PollKept)
    (payload : List UInt8)
    : (s.writePdu payload).PollKept ↔ s.KeepsPoll (.writePdu payload) := by
  unfold KeepsPoll
  dsimp only
  cases s.writePdu_rx_cases payload with
  | inl hnone =>
    have ⟨hread, hrx⟩ := hnone
    rw [hread]
    refine iff_of_true ?_ nofun
    exact .of_rxPart hrx hkept
  | inr hsome =>
    have ⟨header, rest, hread, hsn, hwrite⟩ := hsome
    rw [hread, hwrite]
    simp only [Option.mem_def, Option.some.injEq, forall_eq']
    split
    . exact pollKept_handleDataPduSegment_iff h hcfg hkept hsn rest
    . exact pollKept_handleDataPdu_iff h.toRxInv hsn hcfg hkept rest

theorem pollKept_checkReorderingTimeout (hkept : s.PollKept) : s.checkReorderingTimeout.PollKept := by
  by_cases hexpired : s.reorderingTimeout.isRunning && s.reorderingTimeout.expired
  . have ⟨_, _, _, _, hframe, hstatus⟩ := s.checkReorderingTimeout_frame
    rw [Bool.and_eq_true_iff] at hexpired
    rw [hframe, pollKept_iff]
    intro hreceived hnot
    exact absurd (hstatus.mpr (.inr ⟨hexpired.1, hexpired.2, hreceived⟩)) hnot
  . unfold checkReorderingTimeout
    rw [if_neg hexpired]
    exact hkept

theorem pollKept_getBufferState (hkept : s.PollKept) : s.getBufferState.1.PollKept := by
  have ⟨status, hrx, _⟩ := s.getBufferState_rxPart
  exact .of_rxPart hrx (pollKept_checkReorderingTimeout hkept)

theorem pollKept_readPdu (hkept : s.PollKept) (nofBytes : Nat) : (s.readPdu nofBytes).1.PollKept := by
  by_cases hstatus : s.doStatus ∧ ¬ s.statusProhibited
  . unfold readPdu buildStatusPdu
    rw [if_pos hstatus]
    dsimp only
    split
    . exact pollKept_iff.mpr nofun
    . exact hkept
  . have hrx := readPdu_rxPart_of_no_status nofBytes hstatus
    exact .of_rxPart hrx hkept

theorem pollKept_step_iff (h : RxStored s) (hcfg : 0 ≤ s.cfg.tReordering) (hkept : s.PollKept) (e : Event)
    : (s.step e).PollKept ↔ s.KeepsPoll e := by
  cases e with
  | writeSdu sdu =>
    have hrx := s.writeSdu_rxPart sdu
    refine iff_of_true ?_ trivial
    exact .of_rxPart hrx hkept
  | elapse pollRetx reordering statusProhibit =>
    have hsame : (s.elapse pollRetx reordering statusProhibit).PollKept ↔ s.PollKept := PollKept.congr rfl rfl rfl
    exact iff_of_true (hsame.mpr hkept) trivial
  | getBufferState => exact iff_of_true (pollKept_getBufferState hkept) trivial
  | readPdu nofBytes => exact iff_of_true (pollKept_readPdu hkept nofBytes) trivial
  | writePdu payload => exact pollKept_writePdu_iff h hcfg hkept payload

theorem throughout_pollKept_iff (cfg : SrslteRlcAmConfig) (es : List Event) (hcfg : 0 ≤ cfg.tReordering)
    : Trace.Throughout step PollKept (init cfg) es ↔ Trace.Along step KeepsPoll (init cfg) es := by
  apply Trace.throughout_iff_along (I := fun s : RlcAm => RxStored s ∧ 0 ≤ s.cfg.tReordering)
  . rintro s e ⟨hstored, hcfg⟩ _
    rw [cfg_step]
    exact ⟨(rxStored_step hstored e).1, hcfg⟩
  . rintro s e ⟨hstored, hcfg⟩ hkept
    exact pollKept_step_iff hstored hcfg hkept e
  . exact ⟨rxStored_init cfg, hcfg⟩
  . exact pollKept_iff.mpr nofun

theorem throughout_pollKept_in_order
    : Trace.Throughout step PollKept (init basicTestConfig) [.writePdu [0x80, 0x00, 0x05], .writePdu [0xA0, 0x01, 0x05]] := by
  rw [throughout_pollKept_iff basicTestConfig _ (by decide)]
  refine ⟨?_, ?_, trivial⟩
  . intro pdu hpdu
    cases hpdu
    exact nofun
  . intro pdu hpdu
    cases hpdu
    exact nofun

theorem not_pollKept_out_of_order
    : ¬ PollKept (Trace.exec step (init basicTestConfig)
        [.writePdu [0xA0, 0x01, 0x05], .writePdu [0x80, 0x00, 0x05]]) := by
  intro h
  have hrunning := h.running (by decide) (by decide)
  revert hrunning
  decide

end SrsLte.RlcAm

import SrsLte.Rlc.Am.Lemmas.PollReceived

/-!
This module contains whether a status report that is sent describes the receive window. It is prepared by
`get_buffer_state` and written by `read_pdu`.
-/

namespace SrsLte.RlcAm

open List

structure ReportFresh (s : RlcAm) (status : RlcStatusPdu) : Prop where
  ackSn : status.ackSn = s.vrMs
  nacks : ∀ sn, sn ∈ status.nacks.map (fun nack => nack.nackSn) ↔ sn ∈ Cyclic.Ico mod s.vrR s.vrMs ∧ sn ∉ s.rxWindow

def SendsFresh (s : RlcAm) (e : Event) : Prop :=
  match e with
  | .readPdu nofBytes =>
    s.doStatus → ¬ s.statusProhibited → 0 < (s.readPdu nofBytes).2.1 →
      ∃ status, rlcAmReadStatusPdu (s.readPdu nofBytes).2.2 = some status ∧ s.ReportFresh status
  | _ => True

def DataOutdates (s : RlcAm) (payload : List UInt8) (header : RlcAmdPduHeader) : Prop :=
  s.Accepts payload header ∧ s.rxModBase header.sn ≤ s.rxModBase s.vrMs

def Outdates (s : RlcAm) (e : Event) : Prop :=
  match e with
  | .getBufferState => s.reorderingTimeout.isRunning ∧ s.reorderingTimeout.expired ∧ s.vrX ≠ s.vrMs
  | .writePdu payload =>
    ∃ pdu ∈ readData payload,
      if pdu.1.rf then
        s.insideRxWindow pdu.1.sn ∧ ∃ segments ∈ s.rxSegments.lookup pdu.1.sn,
          ∃ complete ∈ (addSegmentAndCheck.addSegment segments (s.rxPdu pdu.2 pdu.1)).2,
            s.DataOutdates complete.1 complete.2
      else
        s.DataOutdates pdu.2 pdu.1
  | _ => False

def Prepares (s : RlcAm) (e : Event) : Prop :=
  match e with
  | .getBufferState => s.checkReorderingTimeout.doStatus ∧ ¬ s.checkReorderingTimeout.statusProhibited
  | _ => False

structure Reporter where
  am : RlcAm
  prepared : Prop

namespace Reporter

def step (r : Reporter) (e : Event) : Reporter :=
  {
    am := r.am.step e
    prepared := r.am.Prepares e ∨ (r.prepared ∧ ¬ r.am.Outdates e)
  }

def init (cfg : SrslteRlcAmConfig) : Reporter :=
  { am := .init cfg, prepared := True }

def SendsPrepared (r : Reporter) (e : Event) : Prop :=
  match e with
  | .readPdu nofBytes =>
    r.am.doStatus → ¬ r.am.statusProhibited → r.am.status.packedLength ≤ nofBytes → r.prepared
  | _ => True

end Reporter

variable {s s' : RlcAm}

structure Reported (s : RlcAm) : Prop extends ReportFresh s s.status where
  fits : s.status.Fits

namespace prepareStatus

variable (h : RxInv s)

include h

theorem mem_nacks {fuel i : Nat} (hi : i < mod) (hfuel : s.rxDist i + fuel = s.rxDist s.vrMs) (sn : Nat)
    : sn ∈ (nacks s fuel i).map (fun nack => nack.nackSn)
        ↔
      sn < mod ∧ s.rxDist i ≤ s.rxDist sn ∧ s.rxDist sn < s.rxDist s.vrMs ∧ sn ∉ s.rxWindow := by
  induction fuel generalizing i with
  | zero =>
    simp only [nacks, map_nil, not_mem_nil, false_iff]
    omega
  | succ fuel ih =>
    have hvrMs := Cyclic.dist_spec h.vrR h.vrMs
    have hsucc : s.rxDist ((i + 1) % mod) = s.rxDist i + 1 := by
      apply Cyclic.dist_succ_right h.vrR hi
      unfold rxDist at hfuel
      omega
    have hih := ih (Cyclic.succ_lt hi) (by omega)
    have heq : sn < mod → s.rxDist sn = s.rxDist i → sn = i := fun hsn => advanceVrMs.eq_of_rxDist_eq h.vrR hsn hi
    unfold nacks
    rw [if_pos (by rw [h.rxModBase_eq hi, h.rxModBase_eq h.vrMs]; omega)]
    split
    . next hmem =>
      rw [hih, hsucc]
      constructor
      . rintro ⟨hsn, hge, hlt, hnot⟩
        exact ⟨hsn, by omega, hlt, hnot⟩
      . rintro ⟨hsn, hge, hlt, hnot⟩
        refine ⟨hsn, ?_, hlt, hnot⟩
        have hne : s.rxDist sn ≠ s.rxDist i := by
          intro hdist
          rw [heq hsn hdist] at hnot
          exact hnot hmem
        omega
    . next hmem =>
      rw [map_cons, mem_cons, hih, hsucc]
      constructor
      . rintro (rfl | ⟨hsn, hge, hlt, hnot⟩)
        . exact ⟨hi, Nat.le_refl _, by omega, hmem⟩
        . exact ⟨hsn, by omega, hlt, hnot⟩
      . rintro ⟨hsn, hge, hlt, hnot⟩
        by_cases hdist : s.rxDist sn = s.rxDist i
        . exact .inl (heq hsn hdist)
        . exact .inr ⟨hsn, by omega, hlt, hnot⟩

omit h in
theorem nacks_hasSo (fuel i : Nat) : ∀ nack ∈ nacks s fuel i, nack = { nackSn := nack.nackSn } := by
  induction fuel generalizing i with
  | zero => simp [nacks]
  | succ fuel ih =>
    unfold nacks
    split
    . split
      . exact ih _
      . intro nack hnack
        cases mem_cons.mp hnack with
        | inl heq => rw [heq]
        | inr hmem => exact ih _ nack hmem
    . simp

end prepareStatus

theorem reported_prepareStatus (h : RxInv s) : s.prepareStatus.1.Reported := by
  have hnacks : ∀ sn, sn ∈ s.prepareStatus.1.status.nacks.map (fun nack => nack.nackSn)
      ↔ sn ∈ Cyclic.Ico mod s.vrR s.vrMs ∧ sn ∉ s.rxWindow := by
    intro sn
    have hfuel : s.rxDist s.vrR + s.rxModBase s.vrMs = s.rxDist s.vrMs := by
      rw [RxPending.rxDist_vrR, h.rxModBase_eq h.vrMs, Nat.zero_add]
    refine (prepareStatus.mem_nacks h h.vrR hfuel sn).trans ?_
    rw [RxPending.rxDist_vrR, Cyclic.mem_Ico]
    unfold rxDist
    simp [and_assoc]
  refine ⟨⟨rfl, hnacks⟩, ⟨h.vrMs, ?_⟩⟩
  intro nack hnack
  have hsn := (hnacks nack.nackSn).mp (mem_map_of_mem hnack)
  have heq := prepareStatus.nacks_hasSo _ _ nack hnack
  rw [heq]
  exact ⟨(Cyclic.mem_Ico.mp hsn.1).1, by simp, by simp, fun _ => ⟨rfl, rfl⟩⟩

theorem Reported.congr (h : s.Reported) (hstatus : s'.status = s.status) (hvrR : s'.vrR = s.vrR)
    (hvrMs : s'.vrMs = s.vrMs)
    (hwindow : ∀ sn ∈ Cyclic.Ico mod s.vrR s.vrMs, sn ∈ s'.rxWindow ↔ sn ∈ s.rxWindow)
    : s'.Reported := by
  refine ⟨⟨by rw [hstatus, hvrMs]; exact h.ackSn, ?_⟩, by rw [hstatus]; exact h.fits⟩
  intro sn
  rw [hstatus, hvrR, hvrMs, h.nacks]
  constructor
  . rintro ⟨hin, hnot⟩
    exact ⟨hin, fun hmem => hnot ((hwindow sn hin).mp hmem)⟩
  . rintro ⟨hin, hnot⟩
    exact ⟨hin, fun hmem => hnot ((hwindow sn hin).mpr hmem)⟩

theorem Reported.of_window (h : s.Reported) (hw : s'.rxPart.window = s.rxPart.window) (hstatus : s'.status = s.status)
    : s'.Reported := by
  have hwindow : s'.rxWindow = s.rxWindow := congrArg WindowPart.rxWindow hw
  refine h.congr hstatus (congrArg WindowPart.vrR hw) (congrArg WindowPart.vrMs hw) ?_
  intro sn _
  rw [hwindow]

theorem advanceVrMs_of_not_mem (h : s.vrMs ∉ s.rxWindow) : s.advanceVrMs = s :=
  Loop.whileDo_of_not_cond _ _ _ h

theorem reassembleRxSdus_of_not_mem (h : s.vrR ∉ s.rxWindow)
    : s.reassembleRxSdus = { s with rxSdu := some (s.rxSdu.getD []) } :=
  Loop.whileDo_of_not_cond _ _ _ h

variable {header : RlcAmdPduHeader} {payload : List UInt8}

theorem storePdu_of_ahead (h : RxInv s) (hahead : s.rxDist s.vrMs < s.rxDist header.sn) (payload : List UInt8)
    : ∃ vrH pollReceived doStatus, s.storePdu payload header = {
        s with
        rxWindow := s.rxWindow.insert header.sn (s.rxPdu payload header)
        vrH
        pollReceived
        doStatus
      } := by
  unfold storePdu
  dsimp only
  generalize s.rxPdu payload header = pdu
  have ⟨vrH, hvrH⟩ := updateVrH_frame { s with rxWindow := s.rxWindow.insert header.sn pdu } header
  have hnot : s.vrMs ∉ s.rxWindow.insert header.sn pdu := by
    rw [Finmap.mem_insert]
    rintro (heq | hmem)
    . rw [heq] at hahead
      exact Nat.lt_irrefl _ hahead
    . exact h.vrMs_not_mem hmem
  rw [hvrH, advanceVrMs_of_not_mem (s := { s with rxWindow := s.rxWindow.insert header.sn pdu, vrH }) hnot]
  have ⟨pollReceived, doStatus, hframe⟩ := checkPollBit_frame
    { s with rxWindow := s.rxWindow.insert header.sn pdu, vrH } header
  exact ⟨vrH, pollReceived, doStatus, hframe⟩

theorem reported_handleDataPdu (h : RxInv s) (hsn : header.sn < mod)
    (hcurrent : ¬ s.DataOutdates payload header) (hreported : s.Reported)
    : (s.handleDataPdu payload header).Reported := by
  by_cases hacc : s.Accepts payload header
  . have hahead : s.rxDist s.vrMs < s.rxDist header.sn := by
      rw [← h.rxModBase_eq hsn, ← h.rxModBase_eq h.vrMs]
      by_contra hle
      exact hcurrent ⟨hacc, Nat.le_of_not_lt hle⟩
    have ⟨vrH, pollReceived, doStatus, hstore⟩ := storePdu_of_ahead h hahead payload
    have hnot : s.vrR ∉ s.rxWindow.insert header.sn (s.rxPdu payload header) := by
      rw [Finmap.mem_insert]
      rintro (heq | hmem)
      . rw [← heq, RxPending.rxDist_vrR] at hahead
        exact Nat.not_lt_zero _ hahead
      . exact h.vrR_not_mem hmem
    rw [handleDataPdu_of_accepts hacc, hstore, reassembleRxSdus_of_not_mem hnot]
    have ⟨_, _, hframe⟩ := updateReordering_frame {
      s with
      rxWindow := s.rxWindow.insert header.sn (s.rxPdu payload header)
      vrH
      pollReceived
      doStatus
      rxSdu := some (s.rxSdu.getD [])
    }
    rw [hframe]
    refine hreported.congr rfl rfl rfl ?_
    intro sn hin
    rw [Finmap.mem_insert, or_iff_right]
    rintro rfl
    have hlt := (Cyclic.mem_Ico.mp hin).2
    unfold rxDist at hahead
    omega
  . have ⟨doStatus, hframe⟩ := handleDataPdu_of_not_accepts hacc
    rw [hframe]
    exact hreported.of_window rfl rfl

theorem reported_handleDataPduSegment (h : RxStored s) (hsn : header.sn < mod)
    (hcurrent : s.insideRxWindow header.sn → ∀ segments ∈ s.rxSegments.lookup header.sn,
      ∀ complete ∈ (addSegmentAndCheck.addSegment segments (s.rxPdu payload header)).2,
        ¬ s.DataOutdates complete.1 complete.2)
    (hreported : s.Reported)
    : (s.handleDataPduSegment payload header).Reported := by
  have hpolled : (s.pollUnstored header).Reported := hreported.of_window rfl rfl
  unfold handleDataPduSegment
  split
  . exact hpolled
  . next hin =>
    dsimp only
    split
    . next segments hlookup =>
      have hsegments := addSegmentAndCheck.addSegment_sn (h.segmented _ _ hlookup)
        (show (s.rxPdu payload header).header.sn = header.sn from rfl)
      have hcurrent := hcurrent (not_not.mp hin) segments hlookup
      unfold addSegmentAndCheck
      split
      . exact hpolled.of_window rfl rfl
      . next payload' header' heq =>
        rw [heq] at hcurrent hsegments
        have hsn' : header'.sn < mod := by
          rw [hsegments.2 (payload', header') rfl]
          exact hsn
        have hpolledInv : RxInv (s.pollUnstored header) := .congr (s := s) rfl h.toRxInv
        have hcomplete : ((s.pollUnstored header).handleDataPdu payload' header').Reported :=
          reported_handleDataPdu hpolledInv hsn' (hcurrent (payload', header') rfl) hpolled
        exact hcomplete.of_window rfl rfl
    . have ⟨_, _, _, hframe⟩ := firstSegment_frame
        { s with rxSegments := s.rxSegments.insert header.sn [s.rxPdu payload header] } header
      rw [hframe]
      exact hreported.congr rfl rfl rfl fun sn _ => Iff.rfl

theorem reported_writePdu (h : RxStored s) (hcurrent : ¬ s.Outdates (.writePdu payload)) (hreported : s.Reported)
    : (s.writePdu payload).Reported := by
  cases s.writePdu_rx_cases payload with
  | inl hnone =>
    have hrx := hnone.2
    exact hreported.of_window (congrArg RxPart.window hrx) (congrArg RxPart.status hrx)
  | inr hsome =>
    have ⟨header, rest, hread, hsn, hwrite⟩ := hsome
    have hcurrent : ¬ (if header.rf then _ else s.DataOutdates rest header) := fun h => hcurrent ⟨_, hread, h⟩
    rw [hwrite]
    split at hcurrent
    . next hrf =>
      rw [if_pos hrf]
      apply reported_handleDataPduSegment h hsn _ hreported
      intro hin segments hsegments complete hcomplete hdata
      exact hcurrent ⟨hin, segments, hsegments, complete, hcomplete, hdata⟩
    . next hrf =>
      rw [if_neg hrf]
      exact reported_handleDataPdu h.toRxInv hsn hcurrent hreported

theorem reported_checkReorderingTimeout (h : RxInv s) (hcurrent : ¬ s.Outdates .getBufferState) (hreported : s.Reported)
    : s.checkReorderingTimeout.Reported := by
  unfold checkReorderingTimeout
  split
  . next hexpired =>
    have hexpired := Bool.and_eq_true_iff.mp hexpired
    have hvrX : s.vrX = s.vrMs := by
      by_contra hne
      exact hcurrent ⟨hexpired.1, hexpired.2, hne⟩
    have hnot : s.vrX ∉ s.rxWindow := by
      rw [hvrX]
      exact h.vrMs_not_mem
    dsimp only
    rw [advanceVrMs_of_not_mem
      (s := { s with reorderingTimeout := s.reorderingTimeout.reset, vrMs := s.vrX }) hnot]
    split <;> exact hreported.congr rfl rfl hvrX fun sn _ => Iff.rfl
  . exact hreported

theorem reported_of_prepares (h : RxInv s) (hprepares : s.Prepares .getBufferState) : s.getBufferState.1.Reported := by
  have hbuf : s.getBufferState = s.checkReorderingTimeout.prepareStatus := if_pos hprepares
  rw [hbuf]
  exact reported_prepareStatus (rxInv_checkReorderingTimeout h).1

theorem reported_getBufferState (h : RxInv s) (hcurrent : ¬ s.Outdates .getBufferState) (hreported : s.Reported)
    : s.getBufferState.1.Reported := by
  have ⟨status, hrx, hstatus⟩ := s.getBufferState_rxPart
  have hw : s.getBufferState.1.rxPart.window = s.checkReorderingTimeout.rxPart.window := by
    rw [hrx]
    rfl
  have hstatus' : s.getBufferState.1.status = status := congrArg RxPart.status hrx
  cases hstatus with
  | inl hold =>
    exact (reported_checkReorderingTimeout h hcurrent hreported).of_window hw (hstatus'.trans hold)
  | inr hnew =>
    exact (reported_prepareStatus (rxInv_checkReorderingTimeout h).1).of_window hw (hstatus'.trans hnew)

theorem reported_step (h : RxStored s) {e : Event} (hcurrent : ¬ s.Outdates e) (hreported : s.Reported)
    : (s.step e).Reported := by
  cases e with
  | writeSdu sdu =>
    have hrx := s.writeSdu_rxPart sdu
    exact hreported.of_window (congrArg RxPart.window hrx) (congrArg RxPart.status hrx)
  | elapse pollRetx reordering statusProhibit => exact hreported.of_window (by rfl) (by rfl)
  | getBufferState => exact reported_getBufferState h.toRxInv hcurrent hreported
  | readPdu nofBytes =>
    have ⟨_, _, hrx⟩ := s.readPdu_rxPart nofBytes
    have hw := congrArg RxPart.window hrx
    have hstatus := congrArg RxPart.status hrx
    exact hreported.of_window hw hstatus
  | writePdu payload => exact reported_writePdu h hcurrent hreported

theorem sendsFresh_readPdu {nofBytes : Nat} (h : s.status.packedLength ≤ nofBytes → s.Reported)
    : s.SendsFresh (.readPdu nofBytes) := by
  intro hstatus hprohibited hpos
  have hread : s.readPdu nofBytes = s.buildStatusPdu nofBytes := by
    unfold readPdu
    rw [if_pos ⟨hstatus, hprohibited⟩]
  rw [hread] at hpos ⊢
  unfold buildStatusPdu at hpos ⊢
  dsimp only at hpos ⊢
  split at hpos
  . next hlen =>
    rw [if_pos hlen]
    have hreported := h hlen.2
    exact ⟨s.status, rlcAmReadStatusPdu_write s.status hreported.fits, hreported.toReportFresh⟩
  . exact absurd hpos (Int.lt_irrefl 0)

structure Reporter.Inv (r : Reporter) : Prop where
  stored : RxStored r.am
  reported : r.prepared → r.am.Reported

theorem Reporter.inv_step {r : Reporter} (h : r.Inv) (e : Event) : (r.step e).Inv where
  stored := (rxStored_step h.stored e).1
  reported := by
    rintro (hprepares | ⟨hprepared, hcurrent⟩)
    . cases e with
      | getBufferState => exact reported_of_prepares h.stored.toRxInv hprepares
      | _ => exact hprepares.elim
    . exact reported_step h.stored hcurrent (h.reported hprepared)

theorem Reporter.sendsFresh {r : Reporter} (h : r.Inv) {e : Event} (hprepared : r.SendsPrepared e)
    : r.am.SendsFresh e := by
  cases e with
  | readPdu nofBytes =>
    intro hstatus hprohibited
    exact sendsFresh_readPdu (fun hlen => h.reported (hprepared hstatus hprohibited hlen)) hstatus hprohibited
  | _ => trivial

theorem Reporter.inv_init (cfg : SrslteRlcAmConfig) : (Reporter.init cfg).Inv where
  stored := rxStored_init cfg
  reported := by
    intro _
    refine ⟨⟨rfl, ?_⟩, ⟨by simp [Reporter.init, RlcAm.init], nofun⟩⟩
    intro sn
    show sn ∈ [] ↔ sn ∈ Cyclic.Ico mod 0 0 ∧ _
    simp [Cyclic.Ico_self]

theorem sendsFresh_of_sendsPrepared (cfg : SrslteRlcAmConfig) (es : List Event)
    (h : Trace.Along Reporter.step Reporter.SendsPrepared (Reporter.init cfg) es)
    : Trace.Along step SendsFresh (init cfg) es := by
  have hfresh : Trace.Along Reporter.step (fun r e => r.am.SendsFresh e) (Reporter.init cfg) es :=
    Trace.along_of_along (I := Reporter.Inv) (fun _ _ hinv hprepared => Reporter.sendsFresh hinv hprepared)
      (fun _ e hinv _ => Reporter.inv_step hinv e) (Reporter.inv_init cfg) h
  exact (Trace.along_map Reporter.am fun _ _ => rfl).mp hfresh

def pollThenNext : List Event :=
  [.writePdu [0xA0, 0x00, 0x05], .getBufferState, .writePdu [0x80, 0x01, 0x05]]

theorem sendsFresh_pollThenNext
    : Trace.Along step SendsFresh (init basicTestConfig) (pollThenNext ++ [.getBufferState, .readPdu 2]) := by
  apply sendsFresh_of_sendsPrepared
  refine ⟨trivial, trivial, trivial, trivial, ?_, trivial⟩
  intro _ _ _
  left
  constructor
  . decide
  . decide

theorem not_sendsFresh_pollThenNext
    : ¬ (Trace.exec step (init basicTestConfig) pollThenNext).SendsFresh (.readPdu 2) := by
  intro h
  have ⟨status, hread, hfresh⟩ := h (by decide) (by decide) (by decide)
  have hstatus : rlcAmReadStatusPdu ((Trace.exec step (init basicTestConfig) pollThenNext).readPdu 2).2.2
      = some { ackSn := 1 } := by
    decide
  cases hread.symm.trans hstatus
  have hack := hfresh.ackSn
  revert hack
  decide

end SrsLte.RlcAm

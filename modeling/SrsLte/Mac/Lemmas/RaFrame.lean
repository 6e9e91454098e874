import SrsLte.Mac.Impl.RaProc

/-!
This module contains what the callbacks and the steps of a random access procedure leave alone.
-/

namespace SrsLte

open List

def RaCall.isPrachSend (call : RaCall) : Bool :=
  match call with
  | .prachSend .. => true
  | _ => false

def RaEvent.isStart (e : RaEvent) : Bool :=
  match e with
  | .startMacOrder .. | .startNoncont .. | .startPdcchOrder => true
  | _ => false

def RaState.settled (state : RaState) : Bool :=
  match state with
  | .idle | .pdcchSetup | .responseReception | .responseError | .contentionResolution | .completion
  | .completionDone => true
  | _ => false

namespace RaProc

def limits (ra : RaProc) : Nat × Nat × Nat × Nat × Nat × RaGroup :=
  (ra.preambleTransMax, ra.nofGroupAPreambles, ra.nofGroupBPreambles, ra.messageSizeGroupA, ra.newRaMsgLen,
    ra.lastMsg3Group)

structure Quiet (ra : RaProc) (res : RaProc × List RaCall) : Prop where
  counter : res.1.preambleTransmissionCounter = ra.preambleTransmissionCounter
  limits : res.1.limits = ra.limits
  sends : res.2.countP RaCall.isPrachSend = 0
  problems : res.2.count .raProblem = 0
  state : res.1.state = ra.state ∨ res.1.state.settled

def identity (ra : RaProc) : Option Msg3Pdu × Bool × Option UInt64 × UInt64 × UInt64 :=
  (ra.msg3.startPdu, ra.msg3.hasBeenTransmitted, ra.sent, ra.transmittedContentionId, ra.rntis.contentionId)

structure Keeps (ra ra' : RaProc) : Prop where
  identity : ra'.identity = ra.identity
  crnti : ra'.rntis.crnti = ra.rntis.crnti
  index : ra'.preambleIndex = ra.preambleIndex
  completion : ra.preambleIndex ≤ 0 → ra.state ≠ .completion → ra'.state ≠ .completion

structure Frames (ra : RaProc) (res : RaProc × List RaCall) : Prop extends Quiet ra res, Keeps ra res.1

variable (ra : RaProc)

theorem Keeps.refl : Keeps ra ra :=
  ⟨rfl, rfl, rfl, fun _ h => h⟩

theorem Frames.refl : Frames ra (ra, []) :=
  ⟨⟨rfl, rfl, rfl, rfl, Or.inl rfl⟩, Keeps.refl ra⟩

section

variable {ra ra' : RaProc} {calls : List RaCall} {res : RaProc × List RaCall}

theorem Quiet.trans (h : Quiet ra (ra', calls)) (h' : Quiet ra' res) : Quiet ra (res.1, calls ++ res.2) := by
  constructor
  . rw [h'.counter, h.counter]
  . rw [h'.limits, h.limits]
  . rw [countP_append, h.sends, h'.sends]
  . rw [count_append, h.problems, h'.problems]
  . cases h'.state with
    | inl heq =>
      rw [heq]
      exact h.state
    | inr hsettled => exact Or.inr hsettled

theorem Keeps.trans {ra'' : RaProc} (h : Keeps ra ra') (h' : Keeps ra' ra'') : Keeps ra ra'' := by
  refine ⟨h'.identity.trans h.identity, h'.crnti.trans h.crnti, h'.index.trans h.index, ?_⟩
  intro hindex hne
  apply h'.completion
  . rw [h.index]
    exact hindex
  . exact h.completion hindex hne

theorem Frames.trans (h : Frames ra (ra', calls)) (h' : Frames ra' res) : Frames ra (res.1, calls ++ res.2) :=
  ⟨h.toQuiet.trans h'.toQuiet, h.toKeeps.trans h'.toKeeps⟩

end

theorem frames_processTimeadvCmd (ta : Nat) : Frames ra (ra.processTimeadvCmd ta) := by
  unfold processTimeadvCmd
  split
  . exact ⟨⟨rfl, rfl, rfl, rfl, Or.inl rfl⟩, ⟨rfl, rfl, rfl, fun _ h => h⟩⟩
  . split
    . exact ⟨⟨rfl, rfl, rfl, rfl, Or.inl rfl⟩, ⟨rfl, rfl, rfl, fun _ h => h⟩⟩
    . exact Frames.refl ra

theorem frames_saveCrnti : Frames ra ra.saveCrnti := by
  unfold saveCrnti
  split
  . refine ⟨⟨rfl, rfl, ?_, ?_, Or.inl rfl⟩, ⟨rfl, rfl, rfl, fun _ h => h⟩⟩
    all_goals
      dsimp only
      split
      . rfl
      . rfl
  . exact Frames.refl ra

theorem frames_startContentionResolution : Frames ra (ra.startContentionResolution, []) :=
  ⟨⟨rfl, rfl, rfl, rfl, Or.inr rfl⟩, ⟨rfl, rfl, rfl, fun _ _ => RaState.noConfusion⟩⟩

theorem frames_rarForUs (rar : RarSubh) : Frames ra (ra.rarForUs rar) := by
  have hreceived : Frames ra ({ ra with rarReceived := true }, []) :=
    ⟨⟨rfl, rfl, rfl, rfl, Or.inl rfl⟩, ⟨rfl, rfl, rfl, fun _ h => h⟩⟩
  have hta := hreceived.trans (frames_processTimeadvCmd _ rar.ta)
  unfold rarForUs
  dsimp only
  generalize { ra with rarReceived := true }.processTimeadvCmd rar.ta = res at hta ⊢
  split
  next hindex =>
    have hdone : Quiet res.1 ({ res.1 with state := .completion },
        [.pdcchDlSearchReset, .setRarGrant res.1.rarGrantTti rar.grant]) :=
      ⟨rfl, rfl, rfl, rfl, Or.inr rfl⟩
    refine ⟨hta.toQuiet.trans hdone, ⟨hta.identity, hta.crnti, hta.index, ?_⟩⟩
    intro hle
    rw [hta.index] at hindex
    omega
  . have hprepare : Frames res.1 (res.1.prepareMsg3 rar.tempRnti,
        [.pdcchDlSearchReset, .setRarGrant res.1.rarGrantTti rar.grant, .pdcchDlSearch .temp rar.tempRnti (-1) (-1)])
          :=
      ⟨⟨rfl, rfl, rfl, rfl, Or.inl rfl⟩, ⟨rfl, rfl, rfl, fun _ h => h⟩⟩
    have hcrnti := (hta.trans hprepare).trans (frames_saveCrnti _)
    simpa using hcrnti.trans (frames_startContentionResolution _)

theorem frames_processRars (rars : List RarSubh) : Frames ra (ra.processRars rars) := by
  induction rars generalizing ra with
  | nil => exact Frames.refl ra
  | cons rar rars ih =>
    unfold processRars
    split
    . exact (frames_rarForUs ra rar).trans (ih _)
    . exact ih ra

theorem frames_tbDecodedOk (rarPduBuffer : List UInt8) : Frames ra (ra.tbDecodedOk rarPduBuffer) := by
  unfold tbDecodedOk
  have hparse : ∀ backoffParamMs, Frames ra ({ ra with rarPduMsg := ra.parseRar rarPduBuffer, backoffParamMs }, []) := by
    intro backoffParamMs
    exact ⟨⟨rfl, rfl, rfl, rfl, Or.inl rfl⟩, ⟨rfl, rfl, rfl, fun _ h => h⟩⟩
  exact (hparse _).trans (frames_processRars _ _)

theorem frames_newGrantDl (nBytes tti : Nat) : Frames ra (ra.newGrantDl nBytes tti) := by
  unfold newGrantDl
  split
  . exact ⟨⟨rfl, rfl, rfl, rfl, Or.inl rfl⟩, ⟨rfl, rfl, rfl, fun _ h => h⟩⟩
  . exact ⟨⟨rfl, rfl, rfl, rfl, Or.inr rfl⟩, ⟨rfl, rfl, rfl, fun _ _ => RaState.noConfusion⟩⟩

theorem frames_timersStep : Frames ra ra.timersStep := by
  unfold timersStep
  dsimp only
  split
  . exact ⟨⟨rfl, rfl, rfl, rfl, Or.inr rfl⟩, ⟨rfl, rfl, rfl, fun _ _ => RaState.noConfusion⟩⟩
  . exact ⟨⟨rfl, rfl, rfl, rfl, Or.inl rfl⟩, ⟨rfl, rfl, rfl, fun _ h => h⟩⟩

theorem frames_pdcchToCrnti (containsUplinkGrant : Bool) : Frames ra (ra.pdcchToCrnti containsUplinkGrant, []) := by
  unfold pdcchToCrnti
  split
  . exact ⟨⟨rfl, rfl, rfl, rfl, Or.inl rfl⟩, ⟨rfl, rfl, rfl, fun _ h => h⟩⟩
  . split
    . exact ⟨⟨rfl, rfl, rfl, rfl, Or.inl rfl⟩, ⟨rfl, rfl, rfl, fun _ h => h⟩⟩
    . exact Frames.refl ra

theorem frames_stepPdcchSetup (raTti : Int) : Frames ra (ra.stepPdcchSetup raTti) := by
  unfold stepPdcchSetup
  split
  . exact ⟨⟨rfl, rfl, rfl, rfl, Or.inr rfl⟩, ⟨rfl, rfl, rfl, fun _ _ => RaState.noConfusion⟩⟩
  . exact Frames.refl ra

theorem frames_stepResponseReception (currentTti : Nat) (raTti : Int)
    : Frames ra (ra.stepResponseReception currentTti raTti, []) := by
  unfold stepResponseReception
  dsimp only
  split
  . split
    . exact ⟨⟨rfl, rfl, rfl, rfl, Or.inr rfl⟩, ⟨rfl, rfl, rfl, fun _ _ => RaState.noConfusion⟩⟩
    . exact Frames.refl ra
  . exact Frames.refl ra
section

variable {ra : RaProc} {e : RaEvent} (he : e.isStart = true)

include he

theorem next_of_startable (hra : ra.startable = true)
    : (ra.next e).state = .initialization ∧ (ra.next e).rntis.crnti = ra.rntis.crnti := by
  cases e with
  | startMacOrder msgLenBits isHo => simp [next, handle, startMacOrder, hra]
  | startNoncont preambleIndex prachMask =>
    have hra' : { ra with
        nextPreambleIdx := preambleIndex, nextPrachMask := prachMask, noncontentionEnabled := true }.startable
          = true := hra
    simp [next, handle, startNoncont, startMacOrder, hra']
  | startPdcchOrder => simp [next, handle, startPdcchOrder, hra]
  | _ => cases he

theorem frames_of_not_startable (hra : ra.startable = false)
    : ra.Frames (ra.handle e) ∧ (ra.next e).state = ra.state := by
  cases e with
  | startMacOrder msgLenBits isHo =>
    simp only [next, handle, startMacOrder, hra]
    exact ⟨Frames.refl ra, rfl⟩
  | startNoncont preambleIndex prachMask =>
    have hra' : { ra with
        nextPreambleIdx := preambleIndex, nextPrachMask := prachMask, noncontentionEnabled := true }.startable
          = false := hra
    simp only [next, handle, startNoncont, startMacOrder, hra']
    exact ⟨⟨⟨rfl, rfl, rfl, rfl, Or.inl rfl⟩, ⟨rfl, rfl, rfl, fun _ h => h⟩⟩, rfl⟩
  | startPdcchOrder =>
    simp only [next, handle, startPdcchOrder, hra]
    exact ⟨Frames.refl ra, rfl⟩
  | _ => cases he

end

end RaProc

end SrsLte

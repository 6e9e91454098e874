import SrsLte.Phy.Common
import SrsLte.Mac.Impl.Pdu
import SrsLte.Common.Timers

/-!
This module contains the random access procedure of the UE in `proc_ra.cc` (Section 5.1 of 36.321): the step
functions, the callbacks of the other threads, and the parts of the multiplexing unit, of RRC and of `phch_common.cc`
that they work on. A TTI is a number below 10240.
-/

namespace SrsLte

def msg3DelayMs : Nat := 2

structure DciRarGrant where
  rba : Nat := 0
  truncMcs : Nat := 0
  tpcPusch : Nat := 0
  ulDelay : Bool := false
  cqiRequest : Bool := false
  hoppingFlag : Bool := false
  deriving DecidableEq, Repr

def dciRarGrantUnpack (grant : RarGrant) : DciRarGrant :=
  let bits := grant.val
  {
    hoppingFlag := Bits.toNat (bits.take 1) ≠ 0
    rba := Bits.toNat ((bits.drop 1).take 10)
    truncMcs := Bits.toNat ((bits.drop 11).take 4)
    tpcPusch := Bits.toNat ((bits.drop 15).take 3)
    ulDelay := Bits.toNat ((bits.drop 18).take 1) ≠ 0
    cqiRequest := Bits.toNat ((bits.drop 19).take 1) ≠ 0
  }

structure PhchCommon where
  dlRnti : Nat := 0
  dlRntiType : RntiType := .user
  dlRntiStart : Int := -1
  dlRntiEnd : Int := -1
  rarGrant : DciRarGrant := {}
  rarGrantPending : Bool := false
  rarGrantTti : Nat := 0
  deriving DecidableEq

namespace PhchCommon

def dlRntiActive (phy : PhchCommon) (tti : Nat) : Bool :=
  if ((tti ≥ phy.dlRntiStart ∧ phy.dlRntiStart ≥ 0) ∨ phy.dlRntiStart < 0)
      ∧ ((tti < phy.dlRntiEnd ∧ phy.dlRntiEnd ≥ 0) ∨ phy.dlRntiEnd < 0) then
    -- Skip subframe #5 for which SFN mod 2 = 0, unless this is SIB1
    !(phy.dlRntiType = .si ∧ phy.dlRntiEnd - phy.dlRntiStart > 1 ∧ tti / 10 % 2 = 0 ∧ tti % 10 = 5)
  else
    false

def getDlRnti (phy : PhchCommon) (tti : Nat) : Nat :=
  if phy.dlRntiActive tti then phy.dlRnti else 0

def setDlRnti (phy : PhchCommon) (type : RntiType) (rntiValue : Nat) (ttiStart ttiEnd : Int) : PhchCommon :=
  { phy with dlRnti := rntiValue, dlRntiType := type, dlRntiStart := ttiStart, dlRntiEnd := ttiEnd }

def setRarGrant (phy : PhchCommon) (tti : Nat) (grantPayload : RarGrant) : PhchCommon :=
  let rarGrant := dciRarGrantUnpack grantPayload
  {
    phy with
    rarGrant
    rarGrantPending := true
    rarGrantTti := if rarGrant.ulDelay then (tti + msg3DelayMs + 1) % 10240 else (tti + msg3DelayMs) % 10240
  }

def getPendingRar (phy : PhchCommon) (tti : Nat) : PhchCommon × Option DciRarGrant :=
  if phy.rarGrantPending ∧ tti ≥ phy.rarGrantTti then
    ({ phy with rarGrantPending := false }, some phy.rarGrant)
  else
    (phy, none)

end PhchCommon


inductive RaState where
  | idle
  | initialization
  | resourceSelection
  | preambleTransmission
  | pdcchSetup
  | responseReception
  | responseError
  | backoffWait
  | contentionResolution
  | completion
  | completionDone
  | raProblem
  deriving DecidableEq, Repr

inductive RaGroup where
  | a
  | b
  deriving DecidableEq, Repr

inductive PdcchCrnti where
  | notReceived
  | ulGrant
  | dlGrant
  deriving DecidableEq, Repr

structure RachConfig where
  prachConfigIndex : Nat := 0
  numRaPreambles : Fin 16 := 0
  preamblesGroupA : Option (Fin 15 × Fin 4) := none
  raRespWinSize : Fin 8 := 0
  pwrRampingStep : Fin 4 := 0
  preambleTransMax : Fin 11 := 0
  preambleInitRxTargetPwr : Fin 16 := 0
  macConResTimer : Fin 8 := 0
  deriving DecidableEq, Repr

def numberOfRaPreamblesNum : Vector Nat 16 :=
  #v[4, 8, 12, 16, 20, 24, 28, 32, 36, 40, 44, 48, 52, 56, 60, 64]

def sizeOfRaPreamblesGroupANum : Vector Nat 15 :=
  #v[4, 8, 12, 16, 20, 24, 28, 32, 36, 40, 44, 48, 52, 56, 60]

def messageSizeGroupANum : Vector Nat 4 :=
  #v[56, 144, 208, 256]

def raResponseWindowSizeNum : Vector Nat 8 :=
  #v[2, 3, 4, 5, 6, 7, 8, 10]

def powerRampingStepNum : Vector Nat 4 :=
  #v[0, 2, 4, 6]

def preambleTransMaxNum : Vector Nat 11 :=
  #v[3, 4, 5, 6, 7, 8, 10, 20, 50, 100, 200]

def preambleInitialReceivedTargetPowerNum : Vector Int 16 :=
  #v[-120, -118, -116, -114, -112, -110, -108, -106, -104, -102, -100, -98, -96, -94, -92, -90]

def macContentionResolutionTimerNum : Vector Nat 8 :=
  #v[8, 16, 24, 32, 40, 48, 56, 64]

def backoffTable : Vector Nat 16 :=
  #v[0, 10, 20, 30, 40, 60, 80, 120, 160, 240, 320, 480, 960, 960, 960, 960]

def deltaPreambleDbTable : Vector Int 5 :=
  #v[0, 0, -3, -3, 8]

def maxRarPduLen : Nat := 2048

def msg3BuffSz : Nat := 1024

structure UeRnti where
  crnti : Nat := 0
  tempRnti : Nat := 0
  contentionId : UInt64 := 0
  deriving DecidableEq, Repr

abbrev Msg3Pdu := Option UInt64

structure Msg3 where
  hasBeenTransmitted : Bool := false
  pending : Bool := false
  startPdu : Option Msg3Pdu := none
  deriving DecidableEq, Repr

inductive RaCall where
  | configurePrachParams
  | prachSend (preambleIdx : Nat) (allowedSubframe targetPowerDbm : Int)
  | pdcchDlSearch (type : RntiType) (rnti : Nat) (ttiStart ttiEnd : Int)
  | pdcchDlSearchReset
  | pdcchUlSearch (type : RntiType) (rnti : Nat)
  | setTimeadvRar (ta : Nat)
  | setRarGrant (tti : Nat) (grant : RarGrant)
  | setCrnti (crnti : Nat)
  | decodeEnabled (enabled : Bool)
  | appendCrntiCeNextTx (crnti : Nat)
  | raProblem
  | hoRaCompleted (successful : Bool)
  deriving DecidableEq

structure RaStep where
  currentTti : Nat := 0
  prachTxTti : Int := -1
  rand : Nat := 0
  deriving DecidableEq, Repr

structure RaProc where
  nofGroupAPreambles : Nat
  nofGroupBPreambles : Nat
  messageSizeGroupA : Nat
  responseWindowSize : Nat
  powerRampingStep : Nat
  preambleTransMax : Nat
  iniReceivedTargetPower : Int
  deltaPreambleDb : Int
  maskIndex : Nat
  preambleIndex : Int
  newRaMsgLen : Nat
  preambleTransmissionCounter : Nat
  backoffParamMs : Nat
  selMaskIndex : Nat
  selPreamble : Nat
  raIsHo : Bool
  rarReceived : Bool
  noncontentionEnabled : Bool := false
  nextPreambleIdx : Nat := 0
  nextPrachMask : Nat := 0
  backoffIntervalStart : Nat := 0
  backoffInteval : Nat := 0
  state : RaState := .idle
  lastMsg3Group : RaGroup := .a
  msg3Transmitted : Bool := false
  firstRarReceived : Bool := false
  transmittedContentionId : UInt64 := 0
  transmittedCrnti : Nat := 0
  pdcchToCrntiReceived : PdcchCrnti := .notReceived
  startedByPdcch : Bool := false
  rarGrantTti : Nat := 0
  msg3Flushed : Bool := false
  rarPduMsg : RarPdu := RarPdu.init 20 0
  rntis : UeRnti := {}
  msg3 : Msg3 := {}
  contentionResolutionTimer : Timer := {}
  timeAlignmentTimer : Timer := {}
  macCfg : RachConfig := {}
  sent : Option UInt64 := none

def Msg3.flush (_ : Msg3) : Msg3 :=
  { hasBeenTransmitted := false, pending := false, startPdu := none }

def RarPdu.initRx (p : RarPdu) : RarPdu :=
  {
    p with
    used := []
    spare := (p.used ++ p.spare).map fun subh => { preamble := subh.preamble }
  }

namespace RaProc

def zeroed : RaProc :=
  {
    nofGroupAPreambles := 0, nofGroupBPreambles := 0, messageSizeGroupA := 0, responseWindowSize := 0,
    powerRampingStep := 0, preambleTransMax := 0, iniReceivedTargetPower := 0, deltaPreambleDb := 0, maskIndex := 0,
    preambleIndex := 0, newRaMsgLen := 0, preambleTransmissionCounter := 0, backoffParamMs := 0, selMaskIndex := 0,
    selPreamble := 0, raIsHo := false, rarReceived := false
  }

def nofGroupA (cfg : RachConfig) : Nat :=
  let nofPreambles := numberOfRaPreamblesNum[cfg.numRaPreambles]
  let nofGroupA :=
    match cfg.preamblesGroupA with
    | some (sizeOfRa, _) => sizeOfRaPreamblesGroupANum[sizeOfRa]
    | none => nofPreambles
  if nofGroupA > nofPreambles then nofPreambles else nofGroupA

def nofGroupB (cfg : RachConfig) : Nat :=
  numberOfRaPreamblesNum[cfg.numRaPreambles] - nofGroupA cfg

def readParams (ra : RaProc) : RaProc :=
  let cfg := ra.macCfg
  let timer := macContentionResolutionTimerNum[cfg.macConResTimer]
  {
    ra with
    preambleIndex := if ra.noncontentionEnabled then Int.bmod ra.nextPreambleIdx (2 ^ 32) else 0
    maskIndex := if ra.noncontentionEnabled then ra.nextPrachMask else 0
    noncontentionEnabled := false
    nofGroupAPreambles := nofGroupA cfg
    nofGroupBPreambles := nofGroupB cfg
    -- Only read if there is a group B
    messageSizeGroupA :=
      match cfg.preamblesGroupA with
      | some (_, msgSize) => if nofGroupB cfg ≠ 0 then messageSizeGroupANum[msgSize] else ra.messageSizeGroupA
      | none => ra.messageSizeGroupA
    responseWindowSize := raResponseWindowSizeNum[cfg.raRespWinSize]
    powerRampingStep := powerRampingStepNum[cfg.pwrRampingStep]
    preambleTransMax := preambleTransMaxNum[cfg.preambleTransMax]
    iniReceivedTargetPower := preambleInitialReceivedTargetPowerNum[cfg.preambleInitRxTargetPwr]
    deltaPreambleDb := deltaPreambleDbTable[cfg.prachConfigIndex % 5]
    contentionResolutionTimer :=
      if timer > 0 then ra.contentionResolutionTimer.set timer else ra.contentionResolutionTimer
  }

def stepInitialization (ra : RaProc) : RaProc × List RaCall :=
  let ra := ra.readParams
  ({
    ra with
    pdcchToCrntiReceived := .notReceived
    transmittedContentionId := 0
    preambleTransmissionCounter := 1
    firstRarReceived := true
    msg3 := ra.msg3.flush
    msg3Flushed := false
    backoffParamMs := 0
    transmittedCrnti := ra.rntis.crnti
    state := .resourceSelection
  }, [.configurePrachParams])

def selGroup (ra : RaProc) : RaGroup :=
  if ra.msg3Transmitted then ra.lastMsg3Group
  else if ra.nofGroupBPreambles > 0 ∧ ra.newRaMsgLen > ra.messageSizeGroupA then .b
  else .a

def nofPreamblesOf (ra : RaProc) (group : RaGroup) : Nat :=
  match group with
  | .a => ra.nofGroupAPreambles
  | .b => ra.nofGroupBPreambles

def stepResourceSelection (ra : RaProc) (rand : Nat) : RaProc :=
  if ra.preambleIndex > 0 then
    -- Preamble is chosen by Higher layers (ie Network)
    {
      ra with
      selMaskIndex := ra.maskIndex
      selPreamble := ra.preambleIndex.toNat
      state := .preambleTransmission
    }
  else
    let group := ra.selGroup
    let nof := ra.nofPreamblesOf group
    let ra := { ra with lastMsg3Group := group }
    if nof ≠ 0 then
      let first := match group with | .a => 0 | .b => ra.nofGroupAPreambles
      { ra with selPreamble := first + rand % nof, selMaskIndex := 0, state := .preambleTransmission }
    else
      { ra with state := .raProblem }

def receivedTargetPowerDbm (ra : RaProc) : Int :=
  Int.bmod
    (ra.iniReceivedTargetPower + ra.deltaPreambleDb + (ra.preambleTransmissionCounter - 1) * ra.powerRampingStep)
    (2 ^ 32)

def stepPreambleTransmission (ra : RaProc) : RaProc × List RaCall :=
  ({ ra with rarReceived := false, state := .pdcchSetup },
    [.prachSend ra.selPreamble (Int.bmod (ra.selMaskIndex - 1) (2 ^ 32)) ra.receivedTargetPowerDbm])

def stepPdcchSetup (ra : RaProc) (raTti : Int) : RaProc × List RaCall :=
  if raTti > 0 then
    ({ ra with state := .responseReception },
      [.pdcchDlSearch .rar (1 + raTti % 10).toNat (raTti + 3) (raTti + 3 + ra.responseWindowSize)])
  else
    (ra, [])

def newGrantDl (ra : RaProc) (nBytes tti : Nat) : RaProc × List RaCall :=
  if nBytes < maxRarPduLen then
    ({ ra with rarGrantTti := tti }, [.decodeEnabled true])
  else
    ({ ra with state := .responseError }, [.decodeEnabled false])

def processTimeadvCmd (ra : RaProc) (ta : Nat) : RaProc × List RaCall :=
  if ra.preambleIndex = 0 then
    ({ ra with timeAlignmentTimer := ra.timeAlignmentTimer.reset.run }, [.setTimeadvRar ta])
  else if !ra.timeAlignmentTimer.isRunning then
    ({ ra with timeAlignmentTimer := ra.timeAlignmentTimer.run }, [.setTimeadvRar ta])
  else
    (ra, [])

def saveCrnti (ra : RaProc) : RaProc × List RaCall :=
  if ra.firstRarReceived then
    let crnti := ra.rntis.crnti
    ({ ra with firstRarReceived := false, transmittedCrnti := crnti },
      if crnti ≠ 0 then
        [.appendCrntiCeNextTx crnti, .pdcchUlSearch .user crnti, .pdcchDlSearch .user crnti (-1) (-1)]
      else
        [])
  else
    (ra, [])

def prepareMsg3 (ra : RaProc) (tempRnti : Nat) : RaProc :=
  { ra with msg3 := { ra.msg3 with pending := true }, rntis := { ra.rntis with tempRnti } }

def startContentionResolution (ra : RaProc) : RaProc :=
  {
    ra with
    state := .contentionResolution
    contentionResolutionTimer := ra.contentionResolutionTimer.reset.run
  }

def rarForUs (ra : RaProc) (rar : RarSubh) : RaProc × List RaCall :=
  let (ra, taCalls) := { ra with rarReceived := true }.processTimeadvCmd rar.ta
  let calls := taCalls ++ [.pdcchDlSearchReset, .setRarGrant ra.rarGrantTti rar.grant]
  if ra.preambleIndex > 0 then
    -- Preamble selected by Network
    ({ ra with state := .completion }, calls)
  else
    -- Preamble selected by UE MAC
    let (ra, crntiCalls) := (ra.prepareMsg3 rar.tempRnti).saveCrnti
    (ra.startContentionResolution, calls ++ [.pdcchDlSearch .temp rar.tempRnti (-1) (-1)] ++ crntiCalls)

def processRars (ra : RaProc) (rars : List RarSubh) : RaProc × List RaCall :=
  match rars with
  | [] => (ra, [])
  | rar :: rars =>
    if rar.preamble = ra.selPreamble then
      let (ra, calls) := ra.rarForUs rar
      let (ra, calls') := ra.processRars rars
      (ra, calls ++ calls')
    else
      ra.processRars rars

def parseRar (ra : RaProc) (rarPduBuffer : List UInt8) : RarPdu :=
  (ra.rarPduMsg.initRx.parsePacket rarPduBuffer).getD ra.rarPduMsg.initRx

def tbDecodedOk (ra : RaProc) (rarPduBuffer : List UInt8) : RaProc × List RaCall :=
  let msg := ra.parseRar rarPduBuffer
  let backoffParamMs := if msg.hasBackoffIndicator then backoffTable[msg.backoffIndicator % 16] else 0
  { ra with rarPduMsg := msg, backoffParamMs }.processRars msg.used

def stepResponseReception (ra : RaProc) (currentTti : Nat) (raTti : Int) : RaProc :=
  if raTti ≥ 0 ∧ !ra.rarReceived then
    let interval := srslteTtiInterval currentTti (raTti.toNat + 3 + ra.responseWindowSize)
    if interval > 1 ∧ interval < 100 then { ra with state := .responseError } else ra
  else
    ra

def stepResponseError (ra : RaProc) (currentTti rand : Nat) : RaProc × List RaCall :=
  let counter := (ra.preambleTransmissionCounter + 1) % 2 ^ 32
  let ra := { ra with preambleTransmissionCounter := counter }
  if counter ≥ (ra.preambleTransMax + 1) % 2 ^ 32 then
    ({ ra with state := .raProblem }, .raProblem :: if ra.raIsHo then [.hoRaCompleted false] else [])
  else
    let inteval := if ra.backoffParamMs ≠ 0 then rand % ra.backoffParamMs else 0
    ({
      ra with
      backoffIntervalStart := currentTti
      backoffInteval := inteval
      state := if inteval ≠ 0 then .backoffWait else .resourceSelection
    }, [])

def stepBackoffWait (ra : RaProc) (currentTti : Nat) : RaProc :=
  if srslteTtiInterval currentTti ra.backoffIntervalStart ≥ ra.backoffInteval then
    { ra with state := .resourceSelection }
  else
    ra

def contentionResolutionIdReceived (ra : RaProc) (rxContentionId : UInt64) : RaProc × Bool :=
  let ra := { ra with contentionResolutionTimer := ra.contentionResolutionTimer.stop }
  if ra.transmittedContentionId = rxContentionId then
    -- UE Contention Resolution ID included in MAC CE matches the CCCH SDU transmitted in Msg3
    ({
      ra with
      rntis := { ra.rntis with crnti := ra.rntis.tempRnti, tempRnti := 0 }
      state := .completion
    }, true)
  else
    ({ ra with rntis := { ra.rntis with tempRnti := 0 }, state := .responseError }, false)

def pushPduTempCrnti (ra : RaProc) (ids : List UInt64) : RaProc :=
  match ids with
  | [] => ra
  | id :: ids =>
    let (ra, isUecridSuccessful) := ra.contentionResolutionIdReceived id
    if isUecridSuccessful then ra else ra.pushPduTempCrnti ids

def pdcchResolves (ra : RaProc) : Bool :=
  (!ra.startedByPdcch && ra.pdcchToCrntiReceived = .ulGrant)
    || (ra.startedByPdcch && ra.pdcchToCrntiReceived ≠ .notReceived)

def stepContentionResolution (ra : RaProc) : RaProc :=
  if ra.msg3.hasBeenTransmitted then
    let ra := { ra with msg3Transmitted := true }
    if ra.transmittedCrnti ≠ 0 then
      -- Random Access with transmission of MAC C-RNTI CE
      let resolved := ra.pdcchResolves
      let ra := { ra with pdcchToCrntiReceived := .notReceived }
      if resolved then
        {
          ra with
          contentionResolutionTimer := ra.contentionResolutionTimer.stop
          rntis := { ra.rntis with tempRnti := 0 }
          state := .completion
        }
      else
        ra
    else if ra.transmittedContentionId = 0 then
      -- Save transmitted UE contention id, as defined by higher layers
      {
        ra with
        transmittedContentionId := ra.rntis.contentionId
        rntis := { ra.rntis with contentionId := 0 }
      }
    else
      ra
  else
    ra

def stepCompletition (ra : RaProc) : RaProc × List RaCall :=
  let crnti := ra.rntis.crnti
  ({
    ra with
    msg3 := if !ra.msg3Flushed then ra.msg3.flush else ra.msg3
    msg3Flushed := true
    msg3Transmitted := false
    state := .completionDone
  }, [.pdcchUlSearch .user crnti, .pdcchDlSearch .user crnti (-1) (-1), .setCrnti crnti]
    ++ if ra.raIsHo then [.hoRaCompleted true] else [])

def step (ra : RaProc) (phy : RaStep) : RaProc × List RaCall :=
  match ra.state with
  | .idle => (ra, [])
  | .initialization => ra.stepInitialization
  | .resourceSelection => (ra.stepResourceSelection phy.rand, [])
  | .preambleTransmission => ra.stepPreambleTransmission
  | .pdcchSetup => ra.stepPdcchSetup phy.prachTxTti
  | .responseReception => (ra.stepResponseReception phy.currentTti phy.prachTxTti, [])
  | .responseError => ra.stepResponseError phy.currentTti phy.rand
  | .backoffWait => (ra.stepBackoffWait phy.currentTti, [])
  | .contentionResolution => (ra.stepContentionResolution, [])
  | .completion => ra.stepCompletition
  | .completionDone => (ra, [])
  | .raProblem => (ra, [])

def startable (ra : RaProc) : Bool :=
  ra.state = .idle || ra.state = .completionDone || ra.state = .raProblem

def startMacOrder (ra : RaProc) (msgLenBits : Nat) (isHo : Bool) : RaProc :=
  if ra.startable then
    {
      ra with
      raIsHo := isHo
      startedByPdcch := false
      newRaMsgLen := msgLenBits
      state := .initialization
      sent := none
    }
  else
    ra

def startNoncont (ra : RaProc) (preambleIndex prachMask : Nat) : RaProc :=
  { ra with nextPreambleIdx := preambleIndex, nextPrachMask := prachMask, noncontentionEnabled := true }.startMacOrder
    56 true

def startPdcchOrder (ra : RaProc) : RaProc :=
  if ra.startable then
    { ra with startedByPdcch := true, state := .initialization, sent := none }
  else
    ra

def timerExpired (ra : RaProc) : RaProc × List RaCall :=
  ({ ra with rntis := { ra.rntis with tempRnti := 0 }, state := .responseError }, [.pdcchDlSearchReset])

def timersStep (ra : RaProc) : RaProc × List RaCall :=
  let ra := { ra with timeAlignmentTimer := ra.timeAlignmentTimer.step.1 }
  let (timer, expired) := ra.contentionResolutionTimer.step
  let ra := { ra with contentionResolutionTimer := timer }
  if expired then ra.timerExpired else (ra, [])

def pdcchToCrnti (ra : RaProc) (containsUplinkGrant : Bool) : RaProc :=
  if containsUplinkGrant then
    { ra with pdcchToCrntiReceived := .ulGrant }
  else if ra.pdcchToCrntiReceived = .notReceived then
    { ra with pdcchToCrntiReceived := .dlGrant }
  else
    ra

def harqRetx (ra : RaProc) : RaProc :=
  { ra with contentionResolutionTimer := ra.contentionResolutionTimer.reset }

def msg3Get (ra : RaProc) (pduSz : Nat) (pdu : Option Msg3Pdu) : RaProc :=
  if pduSz < msg3BuffSz - 32 then
    match ra.msg3.startPdu with
    | none =>
      match pdu with
      | none => ra
      | some pdu =>
        { ra with msg3 := { hasBeenTransmitted := true, pending := false, startPdu := some pdu }, sent := pdu }
    | some pdu => { ra with msg3 := { ra.msg3 with hasBeenTransmitted := true }, sent := pdu }
  else
    ra

def setContentionId (ra : RaProc) (uecri : UInt64) : RaProc :=
  { ra with rntis := { ra.rntis with contentionId := uecri } }

def reset (ra : RaProc) : RaProc :=
  { ra with state := .idle, msg3Transmitted := false, startedByPdcch := false }

end RaProc

inductive RaEvent where
  | startMacOrder (msgLenBits : Nat) (isHo : Bool)
  | startNoncont (preambleIndex prachMask : Nat)
  | startPdcchOrder
  | step (phy : RaStep)
  | newGrantDl (nBytes tti : Nat)
  | tbDecodedOk (rarPduBuffer : List UInt8)
  | contentionResolutionIdReceived (rxContentionId : UInt64)
  | pdcchToCrnti (containsUplinkGrant : Bool)
  | harqRetx
  | timersStep
  | msg3Get (pduSz : Nat) (pdu : Option Msg3Pdu)
  | setContentionId (uecri : UInt64)
  | setConfig (cfg : RachConfig)
  | reset
  deriving DecidableEq

namespace RaProc

def handle (ra : RaProc) (e : RaEvent) : RaProc × List RaCall :=
  match e with
  | .startMacOrder msgLenBits isHo => (ra.startMacOrder msgLenBits isHo, [])
  | .startNoncont preambleIndex prachMask => (ra.startNoncont preambleIndex prachMask, [])
  | .startPdcchOrder => (ra.startPdcchOrder, [])
  | .step phy => ra.step phy
  | .newGrantDl nBytes tti => ra.newGrantDl nBytes tti
  | .tbDecodedOk rarPduBuffer => ra.tbDecodedOk rarPduBuffer
  | .contentionResolutionIdReceived rxContentionId => ((ra.contentionResolutionIdReceived rxContentionId).1, [])
  | .pdcchToCrnti containsUplinkGrant => (ra.pdcchToCrnti containsUplinkGrant, [])
  | .harqRetx => (ra.harqRetx, [])
  | .timersStep => ra.timersStep
  | .msg3Get pduSz pdu => (ra.msg3Get pduSz pdu, [])
  | .setContentionId uecri => (ra.setContentionId uecri, [])
  | .setConfig cfg => ({ ra with macCfg := cfg }, [])
  | .reset => (ra.reset, [])

def next (ra : RaProc) (e : RaEvent) : RaProc :=
  (ra.handle e).1

end RaProc

def PhchCommon.serve (phy : PhchCommon) (call : RaCall) : PhchCommon :=
  match call with
  | .pdcchDlSearch type rnti ttiStart ttiEnd => phy.setDlRnti type rnti ttiStart ttiEnd
  | .pdcchDlSearchReset => phy.setDlRnti .user 0 (-1) (-1)
  | .setRarGrant tti grant => phy.setRarGrant tti grant
  | _ => phy

structure RaRun where
  ra : RaProc
  calls : List RaCall := []

def RaRun.step (run : RaRun) (e : RaEvent) : RaRun :=
  { ra := run.ra.next e, calls := run.calls ++ (run.ra.handle e).2 }

end SrsLte

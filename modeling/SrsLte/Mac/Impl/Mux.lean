import SrsLte.Common.Timers
import SrsLte.Mac.Impl.Pdu
import SrsLte.Common.Basic

/-!
This module contains the multiplexer of the MAC layer of the UE in `mux.cc`, and the functions of the buffer status
report procedure in `proc_bsr.cc` and of the power headroom report procedure in `proc_phr.cc` that it calls.
-/

namespace SrsLte

inductive BsrFormat where
  | longBsr
  | shortBsr
  | truncBsr
  deriving DecidableEq, Repr

structure Bsr where
  format : BsrFormat
  buffSize : Fin 4 → Nat

inductive TriggeredBsrType where
  | none
  | regular
  | padding
  | periodic
  deriving DecidableEq, Repr

abbrev maxLcid : Nat := 6

structure BsrProc where
  lcg : Fin maxLcid → Option (Fin 4)
  priorities : Fin maxLcid → Int
  triggeredBsrType : TriggeredBsrType := .none
  resetSr : Bool := false
  nextTxTti : Nat := 0
  timerPeriodic : Timer := {}
  timerRetx : Timer := {}

namespace BsrProc

def init : BsrProc :=
  {
    lcg := fun i => if i = 0 then some 0 else none
    priorities := fun i => if i = 0 then 99 else -1
  }

def setupLcg (b : BsrProc) (lcid newLcg : Nat) : BsrProc :=
  if h : lcid < maxLcid ∧ newLcg < 4 then
    { b with lcg := Function.update b.lcg ⟨lcid, h.1⟩ (some ⟨newLcg, h.2⟩) }
  else
    b

def findMaxPriorityLcid (b : BsrProc) : Fin maxLcid :=
  ((List.finRange maxLcid).foldl
    (fun (maxPrio, maxIdx) i =>
      if b.priorities i > maxPrio then (b.priorities i, i) else (maxPrio, maxIdx))
    ((0 : Int), (0 : Fin maxLcid))).2

def nofLcg (b : BsrProc) (bufferState : Nat → Nat) : Nat :=
  (List.finRange maxLcid).countP fun i => (b.lcg i).isSome && bufferState i > 0

def lcgData (b : BsrProc) (bufferState : Nat → Nat) (g : Fin 4) : Nat :=
  (((List.finRange maxLcid).filter fun i => b.lcg i = some g).map fun i : Fin maxLcid => bufferState i).sum

def generateBsr (b : BsrProc) (bufferState : Nat → Nat) (nofPaddingBytes : Nat) : Bsr :=
  let nofLcg := b.nofLcg bufferState
  let buffSize := b.lcgData bufferState
  if b.triggeredBsrType = .padding then
    if nofPaddingBytes < 4 then
      -- If space only for short
      if nofLcg > 1 then
        let maxPrioCh := b.findMaxPriorityLcid
        { format := .truncBsr, buffSize := fun i => if b.lcg maxPrioCh ≠ some i then 0 else buffSize i }
      else
        { format := .shortBsr, buffSize }
    else
      -- If space for long BSR
      { format := .longBsr, buffSize }
  else
    { format := if nofLcg > 1 then .longBsr else .shortBsr, buffSize }

def addPendingData (bufferState : Nat → Nat) (grantSize : Nat) (lcids : List Nat) (totalData : Nat) : Nat :=
  match lcids with
  | [] => totalData
  | i :: lcids =>
    if totalData < grantSize then
      addPendingData bufferState grantSize lcids
        (totalData + (SchSubh.sizeHeaderSdu (bufferState i) + bufferState i))
    else
      totalData

def totalData (bufferState : Nat → Nat) (grantSize : Nat) : Int :=
  -- Because last SDU has no size header
  addPendingData bufferState grantSize (List.range maxLcid) 0 - 1

def bsrSz (bsr : Bsr) : Nat :=
  if bsr.format = .longBsr then 3 else 1

def restartPeriodic (b : BsrProc) (bsr : Bsr) : BsrProc :=
  if b.timerPeriodic.timeout ≠ 0 ∧ bsr.format ≠ .truncBsr then
    { b with timerPeriodic := b.timerPeriodic.reset.run }
  else
    b

def cancel (b : BsrProc) : BsrProc :=
  let b := { b with triggeredBsrType := .none, resetSr := true }
  if b.timerRetx.timeout ≠ 0 then { b with timerRetx := b.timerRetx.reset.run } else b

def needToSendBsrOnUlGrant (b : BsrProc) (bufferState : Nat → Nat) (grantSize : Nat)
    : Option Bsr × BsrProc :=
  if b.triggeredBsrType = .periodic ∨ b.triggeredBsrType = .regular then
    let totalData := totalData bufferState grantSize
    let bsr := b.generateBsr bufferState 0
    let ret :=
      if totalData ≤ grantSize ∧ totalData + 1 + bsrSz bsr > grantSize then none else some bsr
    (ret, (b.restartPeriodic bsr).cancel)
  else
    (none, b.cancel)

def generatePaddingBsr (b : BsrProc) (bufferState : Nat → Nat) (nofPaddingBytes : Nat)
    : Option Bsr × BsrProc :=
  if b.triggeredBsrType ≠ .none ∨ nofPaddingBytes ≥ 2 then
    let b := if b.triggeredBsrType = .none then { b with triggeredBsrType := .padding } else b
    let bsr := b.generateBsr bufferState nofPaddingBytes
    (some bsr, b.restartPeriodic bsr)
  else
    (none, b)

def setTxTti (b : BsrProc) (tti : Nat) : BsrProc :=
  { b with nextTxTti := tti }

end BsrProc

structure PhrProc where
  phrIsTriggered : Bool := false
  phr : ℚ := 0
  timerPeriodic : Timer := {}
  timerProhibit : Timer := {}

namespace PhrProc

def generatePhrOnUlGrant (h : PhrProc) : Option ℚ × PhrProc :=
  if h.phrIsTriggered then
    (
      some h.phr,
      {
        h with
        timerPeriodic := h.timerPeriodic.reset.run
        timerProhibit := h.timerProhibit.reset.run
        phrIsTriggered := false
      }
    )
  else
    (none, h)

end PhrProc


open List

def nRadioBearers : Nat := 11

structure RlcInterfaceMac (σ : Type) where
  getBufferState : σ → Nat → Nat
  readPdu : σ → Nat → Nat → List UInt8 × σ
  length_readPdu_le : ∀ rlc lcid nofBytes, (readPdu rlc lcid nofBytes).1.length ≤ nofBytes
  getBufferState_of_ge : ∀ rlc lcid, nRadioBearers ≤ lcid → getBufferState rlc lcid = 0

structure Lchid where
  id : Nat
  bj : Int := 0
  pbr : Int
  bsd : Nat
  priority : Nat
  schedLen : Int := 0
  bufferLen : Int := 0

structure Mux where
  lch : List Lchid
  pidHasBsr : Nat → Bool
  nofHarqProc : Nat
  bsrProcedure : BsrProc
  phrProcedure : Option PhrProc
  pendingCrntiCe : Nat := 0
  nodup : (lch.map Lchid.id).Nodup

namespace Mux

def maxNofSubheaders : Nat := 20

def minRlcSduLen : Int := 0

structure Assembly (σ : Type) where
  pdu : SchPdu
  rlc : σ
  taken : List (Nat × List UInt8) := []

section

variable {σ : Type} (itf : RlcInterfaceMac σ)

def setSdu (a : Assembly σ) (lcid requestedBytes : Nat) : Assembly σ × Int :=
  if a.pdu.hasSpaceSdu requestedBytes then
    let (sdu, rlc) := itf.readPdu a.rlc lcid requestedBytes
    let (pdu, ret) := a.pdu.setSduItf lcid requestedBytes (some sdu)
    ({ pdu, rlc, taken := a.taken ++ [(lcid, sdu)] }, ret)
  else
    (a, -1)

def requestLen (a : Assembly σ) (lcid : Nat) (maxSduSz : Int) : Int :=
  let sduLen : Int := itf.getBufferState a.rlc lcid
  let sduLen := if sduLen > maxSduSz ∧ maxSduSz ≥ 0 then maxSduSz else sduLen
  let sduSpace := a.pdu.getSduSpace
  if sduLen > sduSpace ∨ maxSduSz < 0 then sduSpace else sduLen

def allocateSdu (a : Assembly σ) (lcid : Nat) (maxSduSz : Int) : Assembly σ × Bool :=
  -- Get n-th pending SDU pointer and length
  if itf.getBufferState a.rlc lcid > 0 then
    let sduLen := requestLen itf a lcid maxSduSz
    if sduLen > minRlcSduLen then
      match a.pdu.newSubh with
      | some pdu =>
        -- there is space for a new subheader
        let (a, sduLen) := setSdu itf { a with pdu } lcid sduLen.toNat
        if sduLen > 0 then
          -- new SDU could be added
          (a, true)
        else
          ({ a with pdu := a.pdu.delSubh }, false)
      | none => (a, false)
    else
      (a, false)
  else
    (a, false)

def allocateSdus (a : Assembly σ) (lch : List Lchid) : Assembly σ :=
  lch.foldl (fun a ch => if ch.schedLen ≠ 0 then (allocateSdu itf a ch.id ch.schedLen).1 else a) a

end

def schedSdu (ch : Lchid) (sduSpace maxSduSz : Int) : Option (Lchid × Int) :=
  if sduSpace > 0 then
    let schedLen := ch.bufferLen
    if schedLen > 0 then
      let schedLen := if schedLen > maxSduSz ∧ maxSduSz ≥ 0 then maxSduSz else schedLen
      let schedLen := if schedLen > sduSpace then sduSpace else schedLen
      some (
        { ch with bufferLen := ch.bufferLen - schedLen, schedLen := ch.schedLen + schedLen },
        sduSpace - schedLen
      )
    else
      none
  else
    none

def schedBj (ch : Lchid) (sduSpace : Int) : Lchid × Int :=
  if ch.id ≠ 0 then
    match schedSdu ch sduSpace (if ch.pbr < 0 then -1 else ch.bj) with
    | some (ch, sduSpace) =>
      if ch.pbr ≥ 0 then ({ ch with bj := ch.bj - ch.schedLen }, sduSpace) else (ch, sduSpace)
    | none => (ch, sduSpace)
  else
    (ch, sduSpace)

def schedRest (ch : Lchid) (sduSpace : Int) : Lchid × Int :=
  if ch.id ≠ 0 then (schedSdu ch sduSpace (-1)).getD (ch, sduSpace) else (ch, sduSpace)

def schedLoop (sched : Lchid → Int → Lchid × Int) (lch : List Lchid) (sduSpace : Int)
    : List Lchid × Int :=
  match lch with
  | [] => ([], sduSpace)
  | ch :: lch =>
    let (ch, sduSpace) := sched ch sduSpace
    let (lch, sduSpace) := schedLoop sched lch sduSpace
    (ch :: lch, sduSpace)

def maximize (lch : List Lchid) : List Lchid :=
  match lch with
  | [] => []
  | ch :: lch =>
    if lch.any fun ch => ch.schedLen > 0 then
      ch :: maximize lch
    else if ch.schedLen > 0 then
      { ch with schedLen := -1 } :: lch
    else
      ch :: lch

def schedule (lch : List Lchid) (bufferState : Nat → Nat) (sduSpace : Int) : List Lchid :=
  let lch := lch.map fun ch => { ch with bufferLen := bufferState ch.id, schedLen := 0 }
  let (lch, sduSpace) := schedLoop schedBj lch sduSpace
  let (lch, _) := schedLoop schedRest lch sduSpace
  maximize lch

def updateBj (ch : Lchid) : Lchid :=
  let bj := if ch.pbr ≥ 0 then ch.bj + ch.pbr else ch.bj
  { ch with bj := if bj ≥ toInt32 ch.bsd then toInt32 (ch.bsd * ch.pbr) else bj }

def bsrFormatConvert (format : BsrFormat) : Nat :=
  match format with
  | .longBsr => SchSubh.longBsr
  | .truncBsr => SchSubh.truncBsr
  | .shortBsr => SchSubh.shortBsr

def insertCe (p : SchPdu) (set : SchPdu → SchPdu × Bool) : SchPdu × Bool :=
  match p.newSubh with
  | some p => ((set p).1, true)
  | none => (p, false)

def insertBsr (p : SchPdu) (bsr : Bsr) : SchPdu × Bool :=
  insertCe p fun p => p.setBsr bsr.buffSize (bsrFormatConvert bsr.format)

theorem map_schedLoop {β : Type} {f : Lchid → β} {sched : Lchid → Int → Lchid × Int}
    (hsched : ∀ ch sduSpace, f (sched ch sduSpace).1 = f ch) (lch : List Lchid) (sduSpace : Int)
    : (schedLoop sched lch sduSpace).1.map f = lch.map f := by
  induction lch generalizing sduSpace with
  | nil => rfl
  | cons ch lch ih => simp [schedLoop, hsched, ih]

theorem schedSdu_frame {ch ch' : Lchid} {sduSpace sduSpace' maxSduSz : Int}
    (h : schedSdu ch sduSpace maxSduSz = some (ch', sduSpace'))
    : ∃ bufferLen schedLen, ch' = { ch with bufferLen, schedLen } := by
  simp only [schedSdu, Option.ite_none_right_eq_some, Option.some.injEq, Prod.mk.injEq] at h
  exact ⟨_, _, h.2.2.1.symm⟩

variable (ch : Lchid) (sduSpace : Int)

theorem schedBj_frame
    : ∃ bufferLen schedLen bj, (schedBj ch sduSpace).1 = { ch with bufferLen, schedLen, bj } := by
  unfold schedBj
  split
  . split
    next ch' sduSpace' h =>
      have ⟨_, _, heq⟩ := schedSdu_frame h
      rw [heq]
      split
      . exact ⟨_, _, _, rfl⟩
      . exact ⟨_, _, _, rfl⟩
    . exact ⟨_, _, _, rfl⟩
  . exact ⟨_, _, _, rfl⟩

theorem schedRest_frame
    : ∃ bufferLen schedLen, (schedRest ch sduSpace).1 = { ch with bufferLen, schedLen } := by
  unfold schedRest
  split
  . cases h : schedSdu ch sduSpace (-1) with
    | none => exact ⟨_, _, rfl⟩
    | some result => exact schedSdu_frame h
  . exact ⟨_, _, rfl⟩

theorem id_schedBj : (schedBj ch sduSpace).1.id = ch.id := by
  have ⟨_, _, _, heq⟩ := schedBj_frame ch sduSpace
  rw [heq]

theorem id_schedRest : (schedRest ch sduSpace).1.id = ch.id := by
  have ⟨_, _, heq⟩ := schedRest_frame ch sduSpace
  rw [heq]

theorem map_maximize {β : Type} {f : Lchid → β} (hf : ∀ ch schedLen, f { ch with schedLen } = f ch) (lch : List Lchid)
    : (maximize lch).map f = lch.map f := by
  induction lch with
  | nil => rfl
  | cons ch lch ih =>
    unfold maximize
    split
    . rw [map_cons, ih, map_cons]
    . split
      . rw [map_cons, hf, map_cons]
      . rfl

theorem map_id_schedule (lch : List Lchid) (bufferState : Nat → Nat) (sduSpace : Int)
    : (schedule lch bufferState sduSpace).map Lchid.id = lch.map Lchid.id := by
  unfold schedule
  simp only []
  rw [map_maximize fun _ _ => rfl, map_schedLoop id_schedRest, map_schedLoop id_schedBj, map_map]
  rfl

theorem map_id_updateBj (lch : List Lchid) : (lch.map updateBj).map Lchid.id = lch.map Lchid.id := by
  rw [map_map]
  rfl

def setChannel (lch : List Lchid) (lchId newPriority : Nat) (setPbr : Int) (setBsd : Nat) : List Lchid :=
  if lch.any fun ch => ch.id = lchId then
    lch.map fun ch =>
      if ch.id = lchId then { ch with priority := newPriority, pbr := setPbr, bsd := setBsd } else ch
  else
    -- Create new channel if it does not exist
    lch ++ [{ id := lchId, priority := newPriority, bsd := setBsd, pbr := setPbr }]

theorem nodup_setChannel {lch : List Lchid} (h : (lch.map Lchid.id).Nodup) (lchId newPriority : Nat)
    (setPbr : Int) (setBsd : Nat)
    : ((setChannel lch lchId newPriority setPbr setBsd).map Lchid.id).Nodup := by
  unfold setChannel
  split
  . have hids : ∀ ch : Lchid,
        (if ch.id = lchId then { ch with priority := newPriority, pbr := setPbr, bsd := setBsd } else ch).id
          = ch.id := by
      intro ch
      split
      . rfl
      . rfl
    simpa [map_map, Function.comp_def, hids] using h
  next hnew =>
    rw [map_append, nodup_append]
    refine ⟨h, by simp, ?_⟩
    intro id hid id' hid' heq
    have ⟨ch, hch, hchId⟩ := mem_map.mp hid
    apply hnew
    rw [any_eq_true]
    exact ⟨ch, hch, by simpa [hchId, heq] using hid'⟩

def setPriority (m : Mux) (lchId newPriority : Nat) (setPbr : Int) (setBsd : Nat) : Mux :=
  {
    m with
    lch := (setChannel m.lch lchId newPriority setPbr setBsd).mergeSort fun ch ch' =>
      ch.priority ≤ ch'.priority
    nodup := ((mergeSort_perm _ _).map Lchid.id).nodup_iff.mpr
      (nodup_setChannel m.nodup lchId newPriority setPbr setBsd)
  }

def insertPhr (p : SchPdu) (phrProcedure : Option PhrProc) : SchPdu × Option PhrProc :=
  match phrProcedure with
  | none => (p, none)
  | some proc =>
    match proc.generatePhrOnUlGrant with
    | (some phr, proc) => ((insertCe p fun p => p.setPhr phr).1, some proc)
    | (none, proc) => (p, some proc)

section

variable {σ : Type} (itf : RlcInterfaceMac σ)

def insertFirst (a : Assembly σ) (pendingCrntiCe : Nat) : Assembly σ × Bool :=
  match allocateSdu itf a 0 (-1) with
  | (a, true) => (a, true)
  | (a, false) =>
    if pendingCrntiCe ≠ 0 then
      ({ a with pdu := (insertCe a.pdu fun p => p.setCRnti pendingCrntiCe).1 }, true)
    else
      (a, false)

def insertRegularBsr (p : SchPdu) (regularBsr : Option Bsr) : SchPdu × Bool :=
  match regularBsr with
  | some bsr => insertBsr p bsr
  | none => (p, false)

def insertSdus (a : Assembly σ) (lch : List Lchid) (isRar : Bool) : Assembly σ × List Lchid :=
  if ¬ isRar then
    let lch := schedule lch (itf.getBufferState a.rlc) a.pdu.getSduSpace
    (allocateSdus itf a lch, lch)
  else
    (a, lch)

theorem map_id_insertSdus (a : Assembly σ) (lch : List Lchid) (isRar : Bool)
    : (insertSdus itf a lch isRar).2.map Lchid.id = lch.map Lchid.id := by
  unfold insertSdus
  split
  . exact map_id_schedule lch _ _
  . rfl

def insertPaddingBsr (a : Assembly σ) (b : BsrProc) (regularBsr : Option Bsr) (bsrIsInserted : Bool)
    : SchPdu × Bool × BsrProc :=
  if regularBsr.isNone then
    match b.generatePaddingBsr (itf.getBufferState a.rlc) a.pdu.remSize with
    | (some bsr, b) =>
      let (pdu, isNew) := insertBsr a.pdu bsr
      (pdu, bsrIsInserted || isNew, b)
    | (none, b) => (a.pdu, bsrIsInserted, b)
  else
    (a.pdu, bsrIsInserted, b)

structure PduGet (σ : Type) where
  ret : Option (List UInt8)
  mux : Mux
  rlc : σ
  taken : List (Nat × List UInt8)

def pduGet (m : Mux) (rlc : σ) (pduSz txTti pid : Nat) : PduGet σ :=
  -- Update Bj
  let lch := m.lch.map updateBj
  -- Logical Channel Procedure
  let a : Assembly σ := { pdu := SchPdu.init maxNofSubheaders pduSz true, rlc }
  let (a, isRar) := insertFirst itf a m.pendingCrntiCe
  let (regularBsr, bsrProcedure) :=
    m.bsrProcedure.needToSendBsrOnUlGrant (itf.getBufferState a.rlc) a.pdu.remSize
  let (pdu, bsrIsInserted) := insertRegularBsr a.pdu regularBsr
  let (pdu, phrProcedure) := insertPhr pdu m.phrProcedure
  let a := { a with pdu }
  let sdus := insertSdus itf a lch isRar
  let a := sdus.1
  let (pdu, bsrIsInserted, bsrProcedure) := insertPaddingBsr itf a bsrProcedure regularBsr bsrIsInserted
  -- Generate MAC PDU and save to buffer
  {
    ret := pdu.writePacket
    mux :=
      {
        m with
        lch := sdus.2
        pidHasBsr := Function.update m.pidHasBsr (pid % m.nofHarqProc) bsrIsInserted
        bsrProcedure := if bsrIsInserted then bsrProcedure.setTxTti txTti else bsrProcedure
        phrProcedure
        pendingCrntiCe := 0
        nodup := by
          rw [map_id_insertSdus, map_id_updateBj]
          exact m.nodup
      }
    rlc := a.rlc
    taken := a.taken
  }

end

end Mux

end SrsLte

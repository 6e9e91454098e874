import SrsLte.Common.Nas
import SrsLte.Epc.Impl.Gtpc
import SrsLte.Epc.Impl.Hss

/-!
This module contains the contexts of `s1ap_common.h` and the functions of `s1ap.cc` that manage them. The
maps of the MME hold pointers, a context itself lives in a heap. An operation that uses a pointer to
nothing has no result.
-/

namespace SrsLte

inductive EmmState where
  | deregistered
  | commonProcedureInitiated
  | registered
  | deregisteredInitiated
  deriving DecidableEq, Repr

inductive EcmState where
  | idle
  | connected
  deriving DecidableEq, Repr

inductive ErabState where
  | deactivated
  | ctxRequested
  | ctxSetup
  | active
  deriving DecidableEq, Repr

structure EpsSecCtx where
  eksi : Nat
  kAsme : Bytes 32
  xres : Bytes 16
  dlNasCount : UInt32
  ulNasCount : UInt32
  kNasEnc : Bytes 32
  kNasInt : Bytes 32
  kEnb : Bytes 32
  ueNetworkCap : UeNetworkCap

structure UeEmmCtx where
  imsi : Nat
  securityCtxt : EpsSecCtx
  state : EmmState
  attachType : Nat

structure ErabCtx where
  state : ErabState
  enbFteid : GtpFteid
  pdnAddrAlloc : Nat

structure UeEcmCtx where
  imsi : Nat
  enbUeS1apId : Nat
  mmeUeS1apId : Nat
  enbSri : Nat
  state : EcmState
  erabsCtx : Nat → ErabCtx
  eit : Bool

structure UeHistory where
  /-- the subscriber for whom the HSS generated what `k_asme` and `xres` hold -/
  vectorOf : Option Nat := none
  /-- the subscriber whose XRES was the RES, and the NAS integrity key that followed from it -/
  accepted : Option (Nat × Bytes 32) := none
  /-- the same for the last of them under whose key a MAC was right afterwards -/
  verified : Option (Nat × Bytes 32) := none
  /-- whether the NAS keys have been derived -/
  keysSet : Bool := false
  /-- the COUNT from which K_eNB was derived last -/
  kEnbCount : Option UInt32 := none

structure UeCtx where
  emmCtx : UeEmmCtx
  ecmCtx : UeEcmCtx
  history : UeHistory := {}

def UeCtx.releaseEcm (ueCtx : UeCtx) : UeCtx :=
  { ueCtx with
    ecmCtx.state := .idle
    ecmCtx.mmeUeS1apId := 0
    ecmCtx.enbUeS1apId := 0
  }

inductive S1apMsg where
  | downlinkNasTransport (mmeUeS1apId enbUeS1apId : Nat) (nasPdu : NasPdu DlNasMsg)
  | initialContextSetupRequest (mmeUeS1apId enbUeS1apId : Nat) (securityKey : Bytes 32)
      (nasPdu : Option (NasPdu DlNasMsg))
  | ueContextReleaseCommand (mmeUeS1apId enbUeS1apId : Nat)

structure Mme where
  ueCtxs : Map UeCtx
  nextUeCtx : Nat
  imsiToUeCtx : Map Nat
  mmeUeS1apIdToUeCtx : Map Nat
  tmsiToImsi : Map Nat
  enbAssocToUeIds : Map (List Nat)
  sctpToEnbId : Map Nat
  activeEnbs : Finset Nat
  nextMmeUeS1apId : Nat
  nextMTmsi : Nat
  plmn : Nat
  hss : Hss
  gtpc : Gtpc
  sent : List (Nat × S1apMsg)

namespace Mme

def init (plmn nextMTmsi : Nat) (hss : Hss) (gtpc : Gtpc) : Mme where
  ueCtxs := ∅
  nextUeCtx := 0
  imsiToUeCtx := ∅
  mmeUeS1apIdToUeCtx := ∅
  tmsiToImsi := ∅
  enbAssocToUeIds := ∅
  sctpToEnbId := ∅
  activeEnbs := ∅
  nextMmeUeS1apId := 1
  nextMTmsi
  plmn
  hss
  gtpc
  sent := []

def send (mme : Mme) (enbSri : Nat) (msg : S1apMsg) : Mme :=
  { mme with sent := mme.sent ++ [(enbSri, msg)] }

def newUeCtx (mme : Mme) (ueCtx : UeCtx) : Mme × Nat :=
  ({ mme with ueCtxs := mme.ueCtxs.insert mme.nextUeCtx ueCtx, nextUeCtx := mme.nextUeCtx + 1 }, mme.nextUeCtx)

def updateUeCtx (mme : Mme) (ptr : Nat) (f : UeCtx → UeCtx) : Option Mme := do
  let ueCtx ← mme.ueCtxs.lookup ptr
  return { mme with ueCtxs := mme.ueCtxs.insert ptr (f ueCtx) }

def getNextMmeUeS1apId (mme : Mme) : Mme × Nat :=
  ({ mme with nextMmeUeS1apId := (mme.nextMmeUeS1apId + 1) % 2 ^ 32 }, mme.nextMmeUeS1apId)

def findUeCtxFromMmeUeS1apId (mme : Mme) (mmeUeS1apId : Nat) : Option Nat :=
  mme.mmeUeS1apIdToUeCtx.lookup mmeUeS1apId

def findUeCtxFromImsi (mme : Mme) (imsi : Nat) : Option Nat :=
  mme.imsiToUeCtx.lookup imsi

def addNewEnbCtx (mme : Mme) (enbSri enbId : Nat) : Mme :=
  { mme with
    activeEnbs := insert (enbId % 2 ^ 16) mme.activeEnbs
    sctpToEnbId := Map.insertNew enbSri (enbId % 2 ^ 16) mme.sctpToEnbId
    enbAssocToUeIds := Map.insertNew enbSri [] mme.enbAssocToUeIds
  }

def addUeCtxToImsiMap (mme : Mme) (ptr : Nat) : Option Mme := do
  let ueCtx ← mme.ueCtxs.lookup ptr
  if ueCtx.emmCtx.imsi ∈ mme.imsiToUeCtx then
    return mme
  else if ueCtx.ecmCtx.mmeUeS1apId ≠ 0
      ∧ (mme.mmeUeS1apIdToUeCtx.lookup ueCtx.ecmCtx.mmeUeS1apId).getD ptr ≠ ptr then
    return mme
  else
    return { mme with imsiToUeCtx := mme.imsiToUeCtx.insert ueCtx.emmCtx.imsi ptr }

def addUeCtxToMmeUeS1apIdMap (mme : Mme) (ptr : Nat) : Option Mme := do
  let ueCtx ← mme.ueCtxs.lookup ptr
  if ueCtx.ecmCtx.mmeUeS1apId = 0 ∨ ueCtx.ecmCtx.mmeUeS1apId ∈ mme.mmeUeS1apIdToUeCtx then
    return mme
  else
    return { mme with mmeUeS1apIdToUeCtx := mme.mmeUeS1apIdToUeCtx.insert ueCtx.ecmCtx.mmeUeS1apId ptr }

def addUeToEnbSet (mme : Mme) (enbSri mmeUeS1apId : Nat) : Mme :=
  match mme.enbAssocToUeIds.lookup enbSri with
  | none => mme
  | some ueIds =>
    if mmeUeS1apId ∈ ueIds then
      mme
    else
      { mme with
        enbAssocToUeIds := mme.enbAssocToUeIds.insert enbSri (ueIds.orderedInsert (· ≤ ·) mmeUeS1apId)
      }

def releaseUeEcmCtx (mme : Mme) (mmeUeS1apId : Nat) : Option Mme :=
  match mme.findUeCtxFromMmeUeS1apId mmeUeS1apId with
  | none => some mme
  | some ptr => do
    let ueCtx ← mme.ueCtxs.lookup ptr
    if ueCtx.ecmCtx.enbSri ∈ mme.sctpToEnbId then
      match mme.enbAssocToUeIds.lookup ueCtx.ecmCtx.enbSri with
      | none => some mme
      | some ueIds =>
        let mme := { mme with
          enbAssocToUeIds := mme.enbAssocToUeIds.insert ueCtx.ecmCtx.enbSri (ueIds.erase mmeUeS1apId)
          mmeUeS1apIdToUeCtx := mme.mmeUeS1apIdToUeCtx.erase mmeUeS1apId
        }
        mme.updateUeCtx ptr UeCtx.releaseEcm
    else
      some mme

def deleteUeCtx (mme : Mme) (imsi : Nat) : Option Mme :=
  match mme.findUeCtxFromImsi imsi with
  | none => some mme
  | some ptr => do
    let ueCtx ← mme.ueCtxs.lookup ptr
    let mme ←
      (if ueCtx.ecmCtx.mmeUeS1apId ≠ 0 then
        mme.releaseUeEcmCtx ueCtx.ecmCtx.mmeUeS1apId
      else
        some mme)
    return { mme with imsiToUeCtx := mme.imsiToUeCtx.erase imsi, ueCtxs := mme.ueCtxs.erase ptr }

def allocateMTmsi (mme : Mme) (imsi : Nat) : Mme × Nat :=
  ({ mme with
    nextMTmsi := (mme.nextMTmsi + 1) % (2 ^ 32 - 1)
    tmsiToImsi := Map.insertNew mme.nextMTmsi imsi mme.tmsiToImsi
  }, mme.nextMTmsi)

def sendDeleteSessionRequest (mme : Mme) (imsi : Nat) : Mme :=
  { mme with gtpc := mme.gtpc.step (fun _ => false) (.deleteSession imsi) }

def sendReleaseAccessBearersRequest (mme : Mme) (imsi : Nat) : Mme :=
  { mme with gtpc := mme.gtpc.step (fun _ => false) (.releaseAccessBearers imsi) }

def releaseUeInEnb (enbSri : Nat) (mme : Mme) (mmeUeS1apId : Nat) : Option Mme := do
  let ptr ← mme.mmeUeS1apIdToUeCtx.lookup mmeUeS1apId
  let ueCtx ← mme.ueCtxs.lookup ptr
  let mme ←
    (if ueCtx.emmCtx.state = .registered then
      (mme.sendDeleteSessionRequest ueCtx.emmCtx.imsi).updateUeCtx ptr fun ueCtx =>
        { ueCtx with emmCtx.state := .deregistered }
    else
      some mme)
  let mme ← mme.updateUeCtx ptr UeCtx.releaseEcm
  let ueIds ← mme.enbAssocToUeIds.lookup enbSri
  return { mme with enbAssocToUeIds := mme.enbAssocToUeIds.insert enbSri (ueIds.erase mmeUeS1apId) }

def releaseUesEcmCtxInEnb (mme : Mme) (enbSri : Nat) : Option Mme := do
  let ueIds ← mme.enbAssocToUeIds.lookup enbSri
  ueIds.foldlM (releaseUeInEnb enbSri) mme

def deleteEnbCtx (mme : Mme) (enbSri : Nat) : Option Mme := do
  let enbId ← mme.sctpToEnbId.lookup enbSri
  if enbId ∈ mme.activeEnbs then
    let mme ← mme.releaseUesEcmCtxInEnb enbSri
    return { mme with activeEnbs := mme.activeEnbs.erase enbId, sctpToEnbId := mme.sctpToEnbId.erase enbSri }
  else
    return mme

def activateEpsBearer (mme : Mme) (imsi ebi : Nat) : Option Mme :=
  match mme.imsiToUeCtx.lookup imsi with
  | none => some mme
  | some ptr => do
    let ueCtx ← mme.ueCtxs.lookup ptr
    if ueCtx.ecmCtx.mmeUeS1apId ∈ mme.mmeUeS1apIdToUeCtx ∧ (ueCtx.ecmCtx.erabsCtx ebi).state = .ctxSetup then
      mme.updateUeCtx ptr fun ueCtx =>
        { ueCtx with
          ecmCtx.erabsCtx := Function.update ueCtx.ecmCtx.erabsCtx ebi
            { ueCtx.ecmCtx.erabsCtx ebi with state := .active }
          ecmCtx.state := .connected
        }
    else
      return mme

end Mme

end SrsLte

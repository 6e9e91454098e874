import SrsLte.Epc.Impl.MmeCtx

/-!
This module contains the procedures of `s1ap_ctx_mngmt_proc.cc`, the parts of `mme_gtpc.cc` that use the contexts of the
UEs, the handlers of `s1ap_nas_transport.cc`, and the events that the thread of `mme.cc` handles with their dispatch in
`s1ap.cc` and `s1ap_mngmt_proc.cc`. What a handler returns is not used by its callers, so it is left out.
-/

namespace SrsLte

structure MmeEnv where
  rand : Bytes 16
  stackUeCtx : UeCtx
  stackResponse : ModifyBearerResponse
  sctpSend : Bool

def EpsSecCtx.protect (alg : NasAlgorithms) (sec : EpsSecCtx) (secHdrType : SecHdrType) (msg : DlNasMsg)
    : NasPdu DlNasMsg :=
  let bytes := alg.encodeDl sec.dlNasCount msg
  { secHdrType, mac := alg.eia1 sec.kNasInt sec.dlNasCount .downlink bytes, bytes, msg }

namespace UeCtx

def incrementDlNasCount (ueCtx : UeCtx) : UeCtx :=
  { ueCtx with emmCtx.securityCtxt.dlNasCount := ueCtx.emmCtx.securityCtxt.dlNasCount + 1 }

def incrementUlNasCount (ueCtx : UeCtx) : UeCtx :=
  { ueCtx with emmCtx.securityCtxt.ulNasCount := ueCtx.emmCtx.securityCtxt.ulNasCount + 1 }

def setEmmState (state : EmmState) (ueCtx : UeCtx) : UeCtx :=
  { ueCtx with emmCtx.state := state }

def updateErab (erabId : Nat) (f : ErabCtx → ErabCtx) (ueCtx : UeCtx) : UeCtx :=
  { ueCtx with
    ecmCtx.erabsCtx := Function.update ueCtx.ecmCtx.erabsCtx erabId (f (ueCtx.ecmCtx.erabsCtx erabId))
  }

def deactivateErabs (ueCtx : UeCtx) : UeCtx :=
  { ueCtx with ecmCtx.erabsCtx := fun i => { ueCtx.ecmCtx.erabsCtx i with state := .deactivated } }

end UeCtx

namespace Mme

variable (alg : NasAlgorithms)

def sendUeContextReleaseCommand (mme : Mme) (ecmCtx : UeEcmCtx) : Mme :=
  mme.send ecmCtx.enbSri (.ueContextReleaseCommand ecmCtx.mmeUeS1apId ecmCtx.enbUeS1apId)

def packAttachAccept (mme : Mme) (ptr : Nat) : Option (Mme × NasPdu DlNasMsg) := do
  let ueCtx ← mme.ueCtxs.lookup ptr
  let (mme, mTmsi) := mme.allocateMTmsi ueCtx.emmCtx.imsi
  let attachAccept := {
    epsAttachResult := ueCtx.emmCtx.attachType
    guti := some mTmsi
    ipv4 := some (UInt32.ofNat (ntohl (ueCtx.ecmCtx.erabsCtx 5).pdnAddrAlloc))
    epsBearerId := 5
  }
  let nasPdu := ueCtx.incrementDlNasCount.emmCtx.securityCtxt.protect alg .integrityAndCiphered
    (.attachAccept attachAccept)
  let mme ← mme.updateUeCtx ptr UeCtx.incrementDlNasCount
  return (mme, nasPdu)

def sendInitialContextSetupRequest (mme : Mme) (ptr : Nat) (env : MmeEnv) : Option Mme := do
  let ueCtx ← mme.ueCtxs.lookup ptr
  let (mme, nasPdu) ←
    (if ueCtx.emmCtx.state = .deregistered then
      (mme.packAttachAccept alg ptr).map fun (mme, nasPdu) => (mme, some nasPdu)
    else
      some (mme, none))
  if env.sctpSend then
    let mme := mme.send ueCtx.ecmCtx.enbSri (.initialContextSetupRequest ueCtx.ecmCtx.mmeUeS1apId
      ueCtx.ecmCtx.enbUeS1apId ueCtx.emmCtx.securityCtxt.kEnb nasPdu)
    mme.updateUeCtx ptr (UeCtx.updateErab 5 fun erab => { erab with state := .ctxRequested })
  else
    return mme

def sendCreateSessionRequest (mme : Mme) (imsi : Nat) (env : MmeEnv) : Option Mme := do
  let (gtpc, response, accepted) := mme.gtpc.createSession (fun imsi => (mme.findUeCtxFromImsi imsi).isSome) imsi
  let mme := { mme with gtpc }
  match accepted with
  | none => return mme
  | some imsi =>
    let ptr ← mme.findUeCtxFromImsi imsi
    let mme ← mme.updateUeCtx ptr (UeCtx.updateErab 5 fun erab => { erab with pdnAddrAlloc := response.paaIpv4 })
    mme.sendInitialContextSetupRequest alg ptr env

def handleModifyBearerResponse (mme : Mme) (response : ModifyBearerResponse) : Option Mme :=
  match mme.gtpc.mme.mmeCtrTeidToImsi.lookup response.teid with
  | none => some mme
  | some imsi => mme.activateEpsBearer imsi response.ebi

def sendModifyBearerRequest (mme : Mme) (imsi : Nat) (enbFteid : GtpFteid) (env : MmeEnv) : Option Mme :=
  match mme.gtpc.mme.imsiToGtpcCtx.lookup imsi with
  | none => some mme
  | some gtpcCtx =>
    let (spgw, response) := mme.gtpc.spgw.handleModifyBearerRequest gtpcCtx.sgwCtrFteid.teid enbFteid
    let mme := { mme with gtpc.spgw := spgw }
    mme.handleModifyBearerResponse (response.getD env.stackResponse)

def setupErabs (ptr : Nat) (mme : Mme) (erabs : List (Nat × GtpFteid)) : Option (Mme × Bool) :=
  match erabs with
  | [] => some (mme, true)
  | (erabId, enbFteid) :: erabs => do
    let ueCtx ← mme.ueCtxs.lookup ptr
    if (ueCtx.ecmCtx.erabsCtx erabId).state = .ctxRequested then
      let mme ← mme.updateUeCtx ptr (UeCtx.updateErab erabId fun erab => { erab with state := .ctxSetup, enbFteid })
      setupErabs ptr mme erabs
    else
      return (mme, false)

def handleInitialContextSetupResponse (mme : Mme) (mmeUeS1apId : Nat) (erabs : List (Nat × GtpFteid))
    (env : MmeEnv)
    : Option Mme :=
  match mme.findUeCtxFromMmeUeS1apId mmeUeS1apId with
  | none => some mme
  | some ptr => do
    let (mme, done) ← setupErabs ptr mme erabs
    let ueCtx ← mme.ueCtxs.lookup ptr
    if done ∧ ueCtx.emmCtx.state = .registered then
      mme.sendModifyBearerRequest ueCtx.emmCtx.imsi (ueCtx.ecmCtx.erabsCtx 5).enbFteid env
    else
      return mme

def releaseErabs (mme : Mme) (ptr : Nat) (ueCtx : UeCtx) : Option Mme :=
  match ueCtx.ecmCtx.state with
  | .connected => some (mme.sendReleaseAccessBearersRequest ueCtx.ecmCtx.imsi)
  | .idle => mme.updateUeCtx ptr UeCtx.deactivateErabs

def handleUeContextReleaseRequest (mme : Mme) (mmeUeS1apId : Nat) : Option Mme :=
  match mme.findUeCtxFromMmeUeS1apId mmeUeS1apId with
  | none => some mme
  | some ptr => do
    let ueCtx ← mme.ueCtxs.lookup ptr
    let mme ← mme.releaseErabs ptr ueCtx
    let mme := if ueCtx.ecmCtx.state = .connected then mme.sendUeContextReleaseCommand ueCtx.ecmCtx else mme
    mme.updateUeCtx ptr UeCtx.releaseEcm

def handleUeContextReleaseComplete (mme : Mme) (mmeUeS1apId : Nat) : Option Mme :=
  match mme.findUeCtxFromMmeUeS1apId mmeUeS1apId with
  | none => some mme
  | some ptr => do
    let ueCtx ← mme.ueCtxs.lookup ptr
    let mme ← mme.releaseErabs ptr ueCtx
    mme.releaseUeEcmCtx ueCtx.ecmCtx.mmeUeS1apId

end Mme


def NasPdu.uncheckedUl (nasMsg : NasPdu UlNasMsg) : Bool :=
  match nasMsg.secHdrType, nasMsg.msg with
  | .plainNas, _ => true
  | .integrity, .identityResponse _ => true
  | .integrity, .authenticationResponse _ => true
  | .integrity, .authenticationFailure _ _ => true
  | _, _ => false

def NasPdu.needsImsi (nasMsg : NasPdu UlNasMsg) : Bool :=
  match nasMsg.secHdrType, nasMsg.msg with
  | .plainNas, _ => false
  | .integrity, .identityResponse _ => false
  | _, _ => true

namespace EpsSecCtx

variable (alg : NasAlgorithms)

def integrityCheck (sec : EpsSecCtx) (nasMsg : NasPdu UlNasMsg) : Bool :=
  alg.eia1 sec.kNasInt sec.ulNasCount .uplink nasMsg.bytes = nasMsg.mac

def shortIntegrityCheck (sec : EpsSecCtx) (nasMsg : NasPdu UlNasMsg) (shortMac : List UInt8) : Bool :=
  (alg.eia1 sec.kNasInt sec.ulNasCount .uplink nasMsg.bytes).val.drop 2 = shortMac

def resValid (sec : EpsSecCtx) (res : Bytes 8) : Bool :=
  ∀ i : Fin 8, res i = sec.xres (i.castLE (by decide))

end EpsSecCtx

namespace UeCtx

variable (alg : NasAlgorithms)

def attach (stack : UeCtx) (imsi mmeUeS1apId enbUeS1apId enbSri : Nat) (attachReq : AttachRequest) : UeCtx where
  emmCtx := {
    imsi
    state := .deregistered
    attachType := attachReq.epsAttachType
    securityCtxt := { stack.emmCtx.securityCtxt with
      ulNasCount := 0
      dlNasCount := 0
      ueNetworkCap := attachReq.ueNetworkCap
    }
  }
  ecmCtx := { stack.deactivateErabs.ecmCtx with
    imsi
    mmeUeS1apId
    enbUeS1apId
    enbSri
    eit := attachReq.esmInfoTransferFlagPresent
  }

def reattach (mmeUeS1apId enbUeS1apId enbSri : Nat) (attachReq : AttachRequest) (ueCtx : UeCtx) : UeCtx :=
  { ueCtx with
    emmCtx.attachType := attachReq.epsAttachType
    ecmCtx := { ueCtx.deactivateErabs.ecmCtx with
      mmeUeS1apId
      enbUeS1apId
      enbSri
      eit := attachReq.esmInfoTransferFlagPresent
    }
  }

def reconnect (mmeUeS1apId enbUeS1apId enbSri : Nat) (ueCtx : UeCtx) : UeCtx :=
  { ueCtx with
    ecmCtx := { ueCtx.ecmCtx with
      imsi := ueCtx.emmCtx.imsi
      mmeUeS1apId
      enbUeS1apId
      enbSri
      eit := false
    }
  }

def resetNasCounts (ueCtx : UeCtx) : UeCtx :=
  { ueCtx with
    emmCtx.securityCtxt.ulNasCount := 0
    emmCtx.securityCtxt.dlNasCount := 0
  }

def generateKEnb (ueCtx : UeCtx) : UeCtx :=
  let sec := ueCtx.emmCtx.securityCtxt
  { ueCtx with
    emmCtx.securityCtxt.kEnb := SrsLte.generateKEnb alg.crypto sec.kAsme sec.ulNasCount
    history.kEnbCount := some sec.ulNasCount
  }

def setVector (imsi : Nat) (vector : AuthVector) (eksi : Nat → Nat) (ueCtx : UeCtx) : UeCtx :=
  { ueCtx with
    emmCtx.securityCtxt.kAsme := vector.kAsme
    emmCtx.securityCtxt.xres := fun i => vector.xres.getD i (ueCtx.emmCtx.securityCtxt.xres i)
    emmCtx.securityCtxt.eksi := eksi ueCtx.emmCtx.securityCtxt.eksi
    history.vectorOf := some imsi
  }

def setImsi (imsi : Nat) (ueCtx : UeCtx) : UeCtx :=
  { ueCtx with
    emmCtx.imsi := imsi
    ecmCtx.imsi := imsi
    history.accepted := none
    history.verified := none
  }

def generateKeys (ueCtx : UeCtx) : UeCtx :=
  let (kNasEnc, kNasInt) := generateKNas alg.crypto ueCtx.emmCtx.securityCtxt.kAsme 0 1
  let ueCtx := { ueCtx with
    emmCtx.securityCtxt.kNasEnc := kNasEnc
    emmCtx.securityCtxt.kNasInt := kNasInt
    history.accepted := ueCtx.history.vectorOf.map fun imsi => (imsi, kNasInt)
    history.keysSet := true
  }
  ueCtx.generateKEnb alg

def acceptAuthentication (ueCtx : UeCtx) : UeCtx :=
  { ueCtx with emmCtx.securityCtxt.ulNasCount := 0 }.generateKeys alg

def verify (ueCtx : UeCtx) : UeCtx :=
  match ueCtx.history.accepted with
  | none => ueCtx
  | some (imsi, kNasInt) =>
    if kNasInt = ueCtx.emmCtx.securityCtxt.kNasInt then
      { ueCtx with history.verified := some (imsi, kNasInt) }
    else
      ueCtx

end UeCtx

namespace Mme

variable (alg : NasAlgorithms)

def sendNas (mme : Mme) (enbSri : Nat) (ecmCtx : UeEcmCtx) (nasPdu : NasPdu DlNasMsg) : Mme :=
  mme.send enbSri (.downlinkNasTransport ecmCtx.mmeUeS1apId ecmCtx.enbUeS1apId nasPdu)

def sendPlainNas (mme : Mme) (enbSri : Nat) (ecmCtx : UeEcmCtx) (msg : DlNasMsg) : Mme :=
  mme.sendNas enbSri ecmCtx (.plain (alg.encodeDl 0 msg) msg)

def genAuthInfoAnswer (mme : Mme) (ptr imsi : Nat) (eksi : Nat → Nat) (env : MmeEnv)
    : Option (Mme × Option AuthVector) := do
  let (hss, vector) := mme.hss.genAuthInfoAnswer alg.crypto imsi env.rand
  let mme := { mme with hss }
  match vector with
  | none => return (mme, none)
  | some vector =>
    let mme ← mme.updateUeCtx ptr (UeCtx.setVector imsi vector eksi)
    return (mme, some vector)

def packAuthenticationRequest (mme : Mme) (ptr enbSri : Nat) (vector : AuthVector) : Option Mme := do
  let ueCtx ← mme.ueCtxs.lookup ptr
  return mme.sendPlainNas alg enbSri ueCtx.ecmCtx
    (.authenticationRequest true ueCtx.emmCtx.securityCtxt.eksi vector.autn vector.rand)

def packEsmInformationRequest (mme : Mme) (ptr enbSri : Nat) : Option Mme := do
  let mme ← mme.updateUeCtx ptr UeCtx.incrementDlNasCount
  let ueCtx ← mme.ueCtxs.lookup ptr
  return mme.sendNas enbSri ueCtx.ecmCtx
    (ueCtx.emmCtx.securityCtxt.protect alg .integrityAndCiphered .esmInformationRequest)

def packEmmInformation (mme : Mme) (ptr enbSri : Nat) : Option Mme := do
  let mme ← mme.updateUeCtx ptr UeCtx.incrementDlNasCount
  let ueCtx ← mme.ueCtxs.lookup ptr
  return mme.sendNas enbSri ueCtx.ecmCtx
    (ueCtx.emmCtx.securityCtxt.protect alg .integrityAndCiphered .emmInformation)

def establishSession (mme : Mme) (ptr enbSri : Nat) (env : MmeEnv) : Option Mme := do
  let ueCtx ← mme.ueCtxs.lookup ptr
  if ueCtx.ecmCtx.eit then
    mme.packEsmInformationRequest alg ptr enbSri
  else
    mme.sendCreateSessionRequest alg ueCtx.emmCtx.imsi env

def detachPrevious (mme : Mme) (imsi : Nat) : Option Mme :=
  match mme.findUeCtxFromImsi imsi with
  | none => some mme
  | some ptr => do
    let oldCtx ← mme.ueCtxs.lookup ptr
    let mme := mme.sendDeleteSessionRequest imsi
    let mme := if oldCtx.ecmCtx.mmeUeS1apId ≠ 0 then mme.sendUeContextReleaseCommand oldCtx.ecmCtx else mme
    mme.deleteUeCtx imsi

def handleNasImsiAttachRequest (mme : Mme) (enbUeS1apId enbSri imsi : Nat) (attachReq : AttachRequest)
    (env : MmeEnv)
    : Option Mme := do
  let mme ← mme.detachPrevious imsi
  let (mme, mmeUeS1apId) := mme.getNextMmeUeS1apId
  let ueCtx := env.stackUeCtx.attach imsi mmeUeS1apId enbUeS1apId enbSri attachReq
  let (hss, vector) := mme.hss.genAuthInfoAnswer alg.crypto imsi env.rand
  let mme := { mme with hss }
  match vector with
  | none => return mme
  | some vector =>
    let (mme, ptr) := mme.newUeCtx (ueCtx.setVector imsi vector fun _ => 0)
    let mme ← mme.addUeCtxToImsiMap ptr
    let mme ← mme.addUeCtxToMmeUeS1apIdMap ptr
    let mme := mme.addUeToEnbSet enbSri mmeUeS1apId
    mme.packAuthenticationRequest alg ptr enbSri vector

def requestIdentity (mme : Mme) (enbUeS1apId enbSri : Nat) (attachReq : AttachRequest) (env : MmeEnv)
    : Option Mme := do
  let (mme, mmeUeS1apId) := mme.getNextMmeUeS1apId
  let ueCtx := env.stackUeCtx.attach 0 mmeUeS1apId enbUeS1apId enbSri attachReq
  let (mme, ptr) := mme.newUeCtx ueCtx
  let mme ← mme.addUeCtxToMmeUeS1apIdMap ptr
  let mme := mme.addUeToEnbSet enbSri mmeUeS1apId
  return mme.sendPlainNas alg enbSri ueCtx.ecmCtx .identityRequest

def resumeAttach (mme : Mme) (ptr enbUeS1apId enbSri : Nat) (attachReq : AttachRequest) (env : MmeEnv)
    : Option Mme := do
  let (mme, mmeUeS1apId) := mme.getNextMmeUeS1apId
  let mme ← mme.updateUeCtx ptr (UeCtx.reattach mmeUeS1apId enbUeS1apId enbSri attachReq)
  let mme ← mme.addUeCtxToMmeUeS1apIdMap ptr
  let mme := mme.addUeToEnbSet enbSri mmeUeS1apId
  let mme ← mme.updateUeCtx ptr (UeCtx.generateKEnb alg)
  mme.establishSession alg ptr enbSri env

def restartAttach (mme : Mme) (ptr enbUeS1apId enbSri : Nat) (attachReq : AttachRequest) (env : MmeEnv)
    : Option Mme := do
  let ueCtx ← mme.ueCtxs.lookup ptr
  let mme := if ueCtx.emmCtx.state ≠ .deregistered then mme.sendDeleteSessionRequest ueCtx.emmCtx.imsi else mme
  let mme :=
    if ueCtx.emmCtx.state ≠ .deregistered ∧ ueCtx.ecmCtx.mmeUeS1apId ≠ 0 then
      mme.sendUeContextReleaseCommand ueCtx.ecmCtx
    else
      mme
  let mme ← mme.updateUeCtx ptr UeCtx.resetNasCounts
  let (mme, _) := mme.getNextMmeUeS1apId
  let mme ←
    (if ueCtx.ecmCtx.mmeUeS1apId ≠ 0 then
      mme.releaseUeEcmCtx ueCtx.ecmCtx.mmeUeS1apId
    else
      some mme)
  let (mme, mmeUeS1apId) := mme.getNextMmeUeS1apId
  let mme ← mme.updateUeCtx ptr fun ueCtx =>
    (ueCtx.reattach mmeUeS1apId enbUeS1apId enbSri attachReq).setEmmState .deregistered
  let mme ← mme.addUeCtxToMmeUeS1apIdMap ptr
  let mme := mme.addUeToEnbSet enbSri mmeUeS1apId
  match ← mme.genAuthInfoAnswer alg ptr ueCtx.emmCtx.imsi (fun _ => 0) env with
  | (mme, none) => return mme
  | (mme, some vector) => mme.packAuthenticationRequest alg ptr enbSri vector

def handleNasGutiAttachRequest (mme : Mme) (enbUeS1apId enbSri mTmsi : Nat) (attachReq : AttachRequest)
    (nasMsg : NasPdu UlNasMsg) (env : MmeEnv)
    : Option Mme :=
  match mme.tmsiToImsi.lookup mTmsi with
  | none => mme.requestIdentity alg enbUeS1apId enbSri attachReq env
  | some imsi =>
    match mme.findUeCtxFromImsi imsi with
    | none => some mme
    | some ptr => do
      let mme ← mme.updateUeCtx ptr UeCtx.incrementUlNasCount
      let ueCtx ← mme.ueCtxs.lookup ptr
      if ueCtx.emmCtx.securityCtxt.integrityCheck alg nasMsg ∧ ueCtx.emmCtx.state = .deregistered then
        mme.resumeAttach alg ptr enbUeS1apId enbSri attachReq env
      else
        mme.restartAttach alg ptr enbUeS1apId enbSri attachReq env

def handleNasAttachRequest (mme : Mme) (enbUeS1apId enbSri : Nat) (attachReq : AttachRequest)
    (nasMsg : NasPdu UlNasMsg) (env : MmeEnv)
    : Option Mme :=
  match attachReq.epsMobileId with
  | .imsi imsi => mme.handleNasImsiAttachRequest alg enbUeS1apId enbSri imsi attachReq env
  | .guti mTmsi => mme.handleNasGutiAttachRequest alg enbUeS1apId enbSri mTmsi attachReq nasMsg env
  | .other => some mme

def packServiceReject (mme : Mme) (enbUeS1apId enbSri : Nat) : Mme :=
  let (mme, mmeUeS1apId) := mme.getNextMmeUeS1apId
  mme.send enbSri (.downlinkNasTransport mmeUeS1apId enbUeS1apId
    (.plain (alg.encodeDl 0 .serviceReject) .serviceReject))

def reconnectUe (mme : Mme) (ptr enbUeS1apId enbSri : Nat) (env : MmeEnv) : Option Mme := do
  let ueCtx ← mme.ueCtxs.lookup ptr
  let mme ←
    (if ueCtx.ecmCtx.state = .connected then
      (mme.sendUeContextReleaseCommand ueCtx.ecmCtx).releaseUeEcmCtx ueCtx.ecmCtx.mmeUeS1apId
    else
      some mme)
  let (mme, mmeUeS1apId) := mme.getNextMmeUeS1apId
  let mme ← mme.updateUeCtx ptr fun ueCtx =>
    (ueCtx.reconnect mmeUeS1apId enbUeS1apId enbSri).generateKEnb alg
  let mme ← mme.addUeCtxToMmeUeS1apIdMap ptr
  mme.sendInitialContextSetupRequest alg ptr env

def handleNasServiceRequest (mme : Mme) (mTmsi enbUeS1apId enbSri : Nat) (shortMac : List UInt8)
    (nasMsg : NasPdu UlNasMsg) (env : MmeEnv)
    : Option Mme :=
  match (mme.tmsiToImsi.lookup mTmsi).bind mme.findUeCtxFromImsi with
  | none => some (mme.packServiceReject alg enbUeS1apId enbSri)
  | some ptr => do
    let ueCtx ← mme.ueCtxs.lookup ptr
    if ueCtx.emmCtx.state = .registered then
      let mme ← mme.updateUeCtx ptr UeCtx.incrementUlNasCount
      if ueCtx.incrementUlNasCount.emmCtx.securityCtxt.shortIntegrityCheck alg nasMsg shortMac then
        mme.reconnectUe alg ptr enbUeS1apId enbSri env
      else
        return mme
    else
      return mme.packServiceReject alg enbUeS1apId enbSri

def handleInitialDetachRequest (mme : Mme) (mTmsi enbUeS1apId : Nat) : Option Mme :=
  match mme.tmsiToImsi.lookup mTmsi with
  | none => some mme
  | some imsi => do
    let ptr ← mme.findUeCtxFromImsi imsi
    let ueCtx ← mme.ueCtxs.lookup ptr
    let mme := mme.sendDeleteSessionRequest ueCtx.emmCtx.imsi
    let (mme, mmeUeS1apId) := mme.getNextMmeUeS1apId
    let mme ← mme.updateUeCtx ptr fun ueCtx =>
      let ueCtx := (ueCtx.setEmmState .deregistered).incrementUlNasCount
      { ueCtx with ecmCtx := { ueCtx.ecmCtx with mmeUeS1apId, enbUeS1apId } }
    let ueCtx ← mme.ueCtxs.lookup ptr
    return mme.sendUeContextReleaseCommand ueCtx.ecmCtx

def handleNasDetachRequest (mme : Mme) (ptr : Nat) : Option Mme := do
  let ueCtx ← mme.ueCtxs.lookup ptr
  let mme := mme.sendDeleteSessionRequest ueCtx.emmCtx.imsi
  let mme ← mme.updateUeCtx ptr (UeCtx.setEmmState .deregistered)
  if ueCtx.ecmCtx.mmeUeS1apId ≠ 0 then
    return mme.sendUeContextReleaseCommand ueCtx.ecmCtx
  else
    return mme

def handleInitialTrackingAreaUpdateRequest (mme : Mme) (mTmsi : Nat) : Option Mme :=
  match mme.tmsiToImsi.lookup mTmsi with
  | none => some mme
  | some imsi => do
    let ptr ← mme.findUeCtxFromImsi imsi
    mme.updateUeCtx ptr UeCtx.incrementUlNasCount

def handleInitialUeMessage (mme : Mme) (enbUeS1apId enbSri : Nat) (sTmsi : Option Nat) (nasMsg : NasPdu UlNasMsg)
    (env : MmeEnv)
    : Option Mme :=
  match nasMsg.msg, sTmsi with
  | .attachRequest attachReq, _ => mme.handleNasAttachRequest alg enbUeS1apId enbSri attachReq nasMsg env
  | .serviceRequest shortMac, some mTmsi =>
    mme.handleNasServiceRequest alg mTmsi enbUeS1apId enbSri shortMac nasMsg env
  | .detachRequest, some mTmsi => mme.handleInitialDetachRequest mTmsi enbUeS1apId
  | .trackingAreaUpdateRequest, some mTmsi => mme.handleInitialTrackingAreaUpdateRequest mTmsi
  | _, _ => some mme

def handleNasAuthenticationResponse (mme : Mme) (ptr enbSri : Nat) (res : Bytes 8) : Option Mme := do
  let ueCtx ← mme.ueCtxs.lookup ptr
  if ueCtx.emmCtx.securityCtxt.resValid res then
    let mme ← mme.updateUeCtx ptr (UeCtx.acceptAuthentication alg)
    let sec := (ueCtx.acceptAuthentication alg).emmCtx.securityCtxt
    let secModeCmd := {
      native := true
      nasKsi := sec.eksi
      typeOfEea := 0
      typeOfEia := 1
      ueSecurityCap := sec.ueNetworkCap
    }
    return mme.sendNas enbSri ueCtx.ecmCtx
      (sec.protect alg .integrityWithNewEpsSecurityContext (.securityModeCommand secModeCmd))
  else
    return mme.sendPlainNas alg enbSri ueCtx.ecmCtx .authenticationReject

def handleNasAttachComplete (mme : Mme) (ptr enbSri epsBearerId : Nat) (env : MmeEnv) : Option Mme := do
  let ueCtx ← mme.ueCtxs.lookup ptr
  if epsBearerId < 5 ∨ 15 < epsBearerId then
    return mme
  else
    let mme ←
      (if ueCtx.emmCtx.state = .deregistered then do
        let mme ← mme.sendModifyBearerRequest ueCtx.emmCtx.imsi (ueCtx.ecmCtx.erabsCtx epsBearerId).enbFteid env
        mme.packEmmInformation alg ptr enbSri
      else
        some mme)
    mme.updateUeCtx ptr (UeCtx.setEmmState .registered)

def handleIdentityResponse (mme : Mme) (ptr enbSri imsi : Nat) (env : MmeEnv) : Option Mme := do
  let mme ← mme.updateUeCtx ptr (UeCtx.setImsi imsi)
  match ← mme.genAuthInfoAnswer alg ptr imsi (fun _ => 0) env with
  | (mme, none) => return mme
  | (mme, some vector) =>
    let mme ← mme.addUeCtxToImsiMap ptr
    mme.packAuthenticationRequest alg ptr enbSri vector

def handleAuthenticationFailure (mme : Mme) (ptr enbSri emmCause : Nat) (authFailParam : Option (Bytes 14))
    (env : MmeEnv)
    : Option Mme := do
  let ueCtx ← mme.ueCtxs.lookup ptr
  match emmCause, authFailParam with
  | 21, some authFailParam =>
    let (hss, ret) := mme.hss.resyncSqn alg.crypto ueCtx.emmCtx.imsi authFailParam
    let mme := { mme with hss }
    if ret then
      match ← mme.genAuthInfoAnswer alg ptr ueCtx.emmCtx.imsi (fun eksi => (eksi + 1) % 6) env with
      | (mme, none) => return mme
      | (mme, some vector) => mme.packAuthenticationRequest alg ptr enbSri vector
    else
      return mme
  | _, _ => return mme

def handleUncheckedNas (mme : Mme) (ptr enbSri : Nat) (nasMsg : NasPdu UlNasMsg) (env : MmeEnv) : Option Mme := do
  match nasMsg.msg with
  | .identityResponse imsi =>
    let mme ← mme.handleIdentityResponse alg ptr enbSri imsi env
    mme.updateUeCtx ptr UeCtx.incrementUlNasCount
  | .authenticationResponse res =>
    let mme ← mme.handleNasAuthenticationResponse alg ptr enbSri res
    mme.updateUeCtx ptr UeCtx.incrementUlNasCount
  | .authenticationFailure emmCause authFailParam =>
    let mme ← mme.handleAuthenticationFailure alg ptr enbSri emmCause authFailParam env
    mme.updateUeCtx ptr UeCtx.incrementUlNasCount
  | .detachRequest =>
    let mme ← mme.handleNasDetachRequest ptr
    mme.updateUeCtx ptr UeCtx.incrementUlNasCount
  | _ => return mme

def handleNewContextNas (mme : Mme) (ptr enbSri : Nat) (nasMsg : NasPdu UlNasMsg) (env : MmeEnv) : Option Mme := do
  match nasMsg.msg with
  | .securityModeComplete =>
    let mme ← mme.updateUeCtx ptr UeCtx.resetNasCounts
    let ueCtx ← mme.ueCtxs.lookup ptr
    if ueCtx.emmCtx.securityCtxt.integrityCheck alg nasMsg then
      let mme ← mme.updateUeCtx ptr UeCtx.verify
      mme.establishSession alg ptr enbSri env
    else
      return mme
  | _ => return mme

def handleProtectedNas (mme : Mme) (ptr enbSri : Nat) (nasMsg : NasPdu UlNasMsg) (env : MmeEnv) : Option Mme := do
  let mme ← mme.updateUeCtx ptr UeCtx.incrementUlNasCount
  let ueCtx ← mme.ueCtxs.lookup ptr
  if ueCtx.emmCtx.securityCtxt.integrityCheck alg nasMsg then
    let mme ← mme.updateUeCtx ptr UeCtx.verify
    match nasMsg.msg with
    | .attachComplete epsBearerId => mme.handleNasAttachComplete alg ptr enbSri epsBearerId env
    | .esmInformationResponse => mme.sendCreateSessionRequest alg ueCtx.emmCtx.imsi env
    | .authenticationFailure emmCause authFailParam =>
      mme.handleAuthenticationFailure alg ptr enbSri emmCause authFailParam env
    | .detachRequest => mme.handleNasDetachRequest ptr
    | _ => return mme
  else
    return mme

def handleUplinkNasTransport (mme : Mme) (mmeUeS1apId enbSri : Nat) (nasMsg : NasPdu UlNasMsg) (env : MmeEnv)
    : Option Mme :=
  match mme.findUeCtxFromMmeUeS1apId mmeUeS1apId with
  | none => some mme
  | some ptr => do
    let ueCtx ← mme.ueCtxs.lookup ptr
    if nasMsg.needsImsi ∧ ueCtx.emmCtx.imsi = 0 then
      return mme
    else if nasMsg.uncheckedUl then
      mme.handleUncheckedNas alg ptr enbSri nasMsg env
    else
      match nasMsg.secHdrType with
      | .integrityWithNewEpsSecurityContext | .integrityAndCipheredWithNewEpsSecurityContext =>
        mme.handleNewContextNas alg ptr enbSri nasMsg env
      | .integrity | .integrityAndCiphered => mme.handleProtectedNas alg ptr enbSri nasMsg env
      | _ => return mme

end Mme


inductive MmeEvent where
  | s1SetupRequest (enbSri enbId plmn : Nat)
  | initialUeMessage (enbUeS1apId enbSri : Nat) (sTmsi : Option Nat) (nasMsg : NasPdu UlNasMsg)
  | uplinkNasTransport (mmeUeS1apId enbSri : Nat) (nasMsg : NasPdu UlNasMsg)
  | initialContextSetupResponse (mmeUeS1apId : Nat) (erabs : List (Nat × GtpFteid))
  | ueContextReleaseRequest (mmeUeS1apId : Nat)
  | ueContextReleaseComplete (mmeUeS1apId : Nat)
  | sctpShutdown (enbSri : Nat)

namespace Mme

variable (alg : NasAlgorithms)

def handleS1SetupRequest (mme : Mme) (enbSri enbId plmn : Nat) : Mme :=
  if plmn ≠ mme.plmn ∨ enbId % 2 ^ 16 ∈ mme.activeEnbs then
    mme
  else
    mme.addNewEnbCtx enbSri enbId

def handle (mme : Mme) (event : MmeEvent) (env : MmeEnv) : Option Mme :=
  match event with
  | .s1SetupRequest enbSri enbId plmn => some (mme.handleS1SetupRequest enbSri enbId plmn)
  | .initialUeMessage enbUeS1apId enbSri sTmsi nasMsg =>
    mme.handleInitialUeMessage alg enbUeS1apId enbSri sTmsi nasMsg env
  | .uplinkNasTransport mmeUeS1apId enbSri nasMsg => mme.handleUplinkNasTransport alg mmeUeS1apId enbSri nasMsg env
  | .initialContextSetupResponse mmeUeS1apId erabs => mme.handleInitialContextSetupResponse mmeUeS1apId erabs env
  | .ueContextReleaseRequest mmeUeS1apId => mme.handleUeContextReleaseRequest mmeUeS1apId
  | .ueContextReleaseComplete mmeUeS1apId => mme.handleUeContextReleaseComplete mmeUeS1apId
  | .sctpShutdown enbSri => mme.deleteEnbCtx enbSri

def step (mme : Option Mme) (event : MmeEvent × MmeEnv) : Option Mme :=
  mme.bind fun mme => mme.handle alg event.1 event.2

end Mme

end SrsLte

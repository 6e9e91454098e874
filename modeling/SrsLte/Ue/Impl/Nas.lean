import Mathlib.Data.Fin.VecNotation
import SrsLte.Common.Nas

/-!
This module contains the NAS of the UE, `nas.cc`. The RRC takes every message that it is handed, and the
USIM is what it returns.
-/

namespace SrsLte

inductive UeEmmState where
  | deregistered
  | registered
  | deregisteredInitiated
  deriving DecidableEq, Repr

structure NasSecCtxt where
  ksi : Nat
  kAsme : Bytes 32
  txCount : UInt32
  rxCount : UInt32
  cipherAlgo : Fin 8
  integAlgo : Fin 8
  guti : Nat

structure NasConfig where
  apn : String
  forceImsiAttach : Bool
  imsi : Nat
  deriving DecidableEq, Repr

def eiaCaps : Fin 8 → Bool :=
  ![false, true, true, false, false, false, false, false]

def eeaCaps : Fin 8 → Bool :=
  ![true, true, true, false, false, false, false, false]

inductive UsimAuthResult where
  | authOk (res : Bytes 8)
  | authSynchFailure (auts : Bytes 14)
  | authFailed

structure UeNasEnv where
  auth : UsimAuthResult
  kAsme : Bytes 32
  stackMac : MacI

structure UeNasMemory where
  ctxt : NasSecCtxt
  kNasEnc : Bytes 32
  kNasInt : Bytes 32

structure UeNas where
  cfg : NasConfig
  state : UeEmmState
  haveGuti : Bool
  haveCtxt : Bool
  ctxt : NasSecCtxt
  ipAddr : UInt32
  epsBearerId : Nat
  kNasEnc : Bytes 32
  kNasInt : Bytes 32
  ctxtFile : Option NasSecCtxt
  sent : List (NasPdu UlNasMsg)
  ciphered : List UInt32

def NasAlgorithms.eia2 (alg : NasAlgorithms) (key : Bytes 32) (count : UInt32) (direction : SecurityDirection)
    (msg : List UInt8)
    : MacI :=
  alg.security.eia2 (List.ofFn (key.slice 16 16 keyBytes_le)) count 0 direction msg

namespace UeNas

variable (alg : NasAlgorithms)

def cipherKey (nas : UeNas) : Bytes 16 :=
  nas.kNasEnc.slice 16 16 keyBytes_le

def writeSdu (nas : UeNas) (pdu : NasPdu UlNasMsg) : UeNas :=
  { nas with sent := nas.sent ++ [pdu] }

def writePlainSdu (nas : UeNas) (msg : UlNasMsg) : UeNas :=
  nas.writeSdu (.plain (alg.encodeUl 0 msg) msg)

def integrityGenerate (nas : UeNas) (count : UInt32) (direction : SecurityDirection) (msg : List UInt8) (mac : MacI)
    : MacI :=
  match nas.ctxt.integAlgo with
  | 1 => alg.eia1 nas.kNasInt count direction msg
  | 2 => alg.eia2 nas.kNasInt count direction msg
  | _ => mac

def integrityCheck (nas : UeNas) (mac : MacI) (bytes : List UInt8) : Bool :=
  bytes ≠ [] ∧ nas.integrityGenerate alg nas.ctxt.rxCount .downlink bytes .zero = mac

def keystream (nas : UeNas) (count : UInt32) (direction : SecurityDirection) : Option (Nat → UInt8) :=
  match nas.ctxt.cipherAlgo with
  | 1 => some (alg.security.eea1 (List.ofFn nas.cipherKey) count 0 direction)
  | 2 => some (alg.security.eea2 (List.ofFn nas.cipherKey) count 0 direction)
  | _ => none

def cipher (nas : UeNas) (direction : SecurityDirection) (bytes : List UInt8) : List UInt8 :=
  match bytes with
  | [] => []
  | sn :: body =>
    match nas.keystream alg sn.toUInt32 direction with
    | none => bytes
    | some keystream => sn :: xorKeystream keystream body

def packUl (count : UInt32) (msg : UlNasMsg) : List UInt8 :=
  count.toUInt8 :: (alg.encodeUl count msg).tail

def sendCiphered (nas : UeNas) (secHdrType : SecHdrType) (msg : UlNasMsg) (env : UeNasEnv) : UeNas :=
  let count := nas.ctxt.txCount
  let bytes := nas.cipher alg .uplink (packUl alg count msg)
  let mac := nas.integrityGenerate alg count .uplink bytes env.stackMac
  let nas := nas.writeSdu { secHdrType, mac, bytes, msg }
  { nas with
    ctxt.txCount := count + 1
    ciphered :=
      if (nas.keystream alg count.toUInt8.toUInt32 .uplink).isSome then
        nas.ciphered ++ [count.toUInt8.toUInt32]
      else
        nas.ciphered
  }

def generateNasKeys (nas : UeNas) : UeNas :=
  let (kNasEnc, kNasInt) := generateKNas alg.crypto nas.ctxt.kAsme (UInt8.ofNat nas.ctxt.cipherAlgo)
    (UInt8.ofNat nas.ctxt.integAlgo)
  { nas with
    kNasEnc
    kNasInt
    ciphered := if kNasEnc.slice 16 16 keyBytes_le = nas.cipherKey then nas.ciphered else []
  }

def checkCapReplay (caps : UeNetworkCap) : Bool :=
  ∀ i, caps.eea i = eeaCaps i ∧ caps.eia i = eiaCaps i

def parseAttachAccept (nas : UeNas) (bytes : List UInt8) (attachAccept : AttachAccept) (env : UeNasEnv) : UeNas :=
  if bytes = [] then
    nas
  else if attachAccept.epsAttachResult = 1 then
    let nas :=
      match attachAccept.guti with
      | some guti => { nas with ctxt.guti := guti, haveGuti := true }
      | none => nas
    match attachAccept.ipv4 with
    | none => nas
    | some addr =>
      let nas := { nas with
        ipAddr := nas.ipAddr ||| addr
        epsBearerId := attachAccept.epsBearerId
        state := .registered
        ctxt.rxCount := nas.ctxt.rxCount + 1
      }
      nas.sendCiphered alg .integrityAndCiphered (.attachComplete nas.epsBearerId) env
  else
    { nas with state := .deregistered }

def parseReject (nas : UeNas) : UeNas :=
  { nas with state := .deregistered }

def parseAuthenticationRequest (nas : UeNas) (native : Bool) (nasKsi : Nat) (env : UeNasEnv) : UeNas :=
  let nas := { nas with
    ctxt.rxCount := nas.ctxt.rxCount + 1
    ctxt.kAsme := env.kAsme
    ctxt.ksi := if native then nasKsi else nas.ctxt.ksi
  }
  match env.auth with
  | .authOk res => nas.writePlainSdu alg (.authenticationResponse res)
  | .authSynchFailure auts => nas.writePlainSdu alg (.authenticationFailure 21 (some auts))
  | .authFailed => nas.writePlainSdu alg (.authenticationFailure 20 none)

def parseIdentityRequest (nas : UeNas) : UeNas :=
  nas.writePlainSdu alg (.identityResponse nas.cfg.imsi)

def takeSecurityMode (nas : UeNas) (mac : MacI) (bytes : List UInt8) (secModeCmd : SecurityModeCommand) (env : UeNasEnv)
    : UeNas :=
  let nas := { nas with
    ctxt.rxCount := 0
    ctxt.txCount := 0
    ctxt.cipherAlgo := secModeCmd.typeOfEea
    ctxt.integAlgo := secModeCmd.typeOfEia
  }
  if eeaCaps nas.ctxt.cipherAlgo = false ∨ eiaCaps nas.ctxt.integAlgo = false then
    nas.writePlainSdu alg (.securityModeReject 23)
  else
    let nas := nas.generateNasKeys alg
    if nas.integrityCheck alg mac bytes then
      let nas := { nas with ctxt.rxCount := nas.ctxt.rxCount + 1, haveCtxt := true }
      nas.sendCiphered alg .integrityAndCipheredWithNewEpsSecurityContext .securityModeComplete env
    else
      nas.writePlainSdu alg (.securityModeReject 20)

def parseSecurityModeCommand (nas : UeNas) (mac : MacI) (bytes : List UInt8) (secModeCmd : SecurityModeCommand)
    (env : UeNasEnv)
    : UeNas :=
  if bytes = [] then
    nas
  else if secModeCmd.native = false then
    nas
  else if nas.haveCtxt ∧ secModeCmd.nasKsi ≠ nas.ctxt.ksi then
    nas.writePlainSdu alg (.securityModeReject 24)
  else if checkCapReplay secModeCmd.ueSecurityCap then
    nas.takeSecurityMode alg mac bytes secModeCmd env
  else
    nas.writePlainSdu alg (.securityModeReject 23)

def parseEsmInformationRequest (nas : UeNas) (env : UeNasEnv) : UeNas :=
  let nas := { nas with ctxt.rxCount := nas.ctxt.rxCount + 1 }
  nas.sendCiphered alg .integrityAndCiphered .esmInformationResponse env

def parseEmmInformation (nas : UeNas) : UeNas :=
  { nas with ctxt.rxCount := nas.ctxt.rxCount + 1 }

def decrypted (nas : UeNas) (pdu : NasPdu DlNasMsg) : List UInt8 :=
  match pdu.secHdrType with
  | .integrityAndCiphered => nas.cipher alg .downlink pdu.bytes
  | _ => pdu.bytes

def writePdu (nas : UeNas) (pdu : NasPdu DlNasMsg) (env : UeNasEnv) : UeNas :=
  let bytes := nas.decrypted alg pdu
  match pdu.secHdrType, pdu.msg with
  | .unknown, _ => nas
  | _, .attachAccept attachAccept => nas.parseAttachAccept alg bytes attachAccept env
  | _, .attachReject => nas.parseReject
  | _, .authenticationRequest native nasKsi _ _ => nas.parseAuthenticationRequest alg native nasKsi env
  | _, .authenticationReject => nas.parseReject
  | _, .identityRequest => nas.parseIdentityRequest alg
  | _, .securityModeCommand secModeCmd => nas.parseSecurityModeCommand alg pdu.mac bytes secModeCmd env
  | _, .serviceReject => nas
  | _, .esmInformationRequest => nas.parseEsmInformationRequest alg env
  | _, .emmInformation => nas.parseEmmInformation
  | _, .other => nas

def genAttachRequest (nas : UeNas) (env : UeNasEnv) : UeNas :=
  let count := nas.ctxt.txCount
  let attachReq : AttachRequest := {
    epsAttachType := 1
    epsMobileId := if nas.haveGuti ∧ nas.haveCtxt then .guti nas.ctxt.guti else .imsi nas.cfg.imsi
    ueNetworkCap := ⟨eeaCaps, eiaCaps⟩
    esmInfoTransferFlagPresent := !nas.cfg.apn.isEmpty
  }
  let nas :=
    if nas.haveGuti ∧ nas.haveCtxt then
      let bytes := packUl alg count (.attachRequest attachReq)
      let mac := nas.integrityGenerate alg count .uplink bytes env.stackMac
      nas.writeSdu { secHdrType := .integrity, mac, bytes, msg := .attachRequest attachReq }
    else
      nas.writePlainSdu alg (.attachRequest attachReq)
  if nas.haveCtxt then { nas with ctxt.txCount := count + 1 } else nas

def genServiceRequest (nas : UeNas) (env : UeNasEnv) : UeNas :=
  let count := nas.ctxt.txCount
  let bytes := [0xC7, UInt8.ofNat ((nas.ctxt.ksi % 8) * 32 + count.toNat % 32)]
  let mac := nas.integrityGenerate alg count .uplink bytes env.stackMac
  let nas := nas.writeSdu { secHdrType := .serviceRequest, mac, bytes, msg := .serviceRequest (mac.val.drop 2) }
  { nas with ctxt.txCount := count + 1 }

def rrcConnect (nas : UeNas) (isConnected : Bool) (env : UeNasEnv) : UeNas :=
  if isConnected then
    nas
  else if nas.state = .registered then
    nas.genServiceRequest alg env
  else
    nas.genAttachRequest alg env

def attachRequest (nas : UeNas) (isConnected : Bool) (env : UeNasEnv) : UeNas :=
  match nas.state with
  | .deregistered | .registered => nas.rrcConnect alg isConnected env
  | .deregisteredInitiated => nas

def paging (nas : UeNas) (isConnected : Bool) (env : UeNasEnv) : UeNas :=
  if nas.state = .registered then nas.rrcConnect alg isConnected env else nas

def deattachRequest (nas : UeNas) : UeNas :=
  { nas with state := .deregisteredInitiated }

def stop (nas : UeNas) : UeNas :=
  if nas.haveGuti ∧ nas.haveCtxt then { nas with ctxtFile := some nas.ctxt } else nas

def new (cfg : NasConfig) (ctxtFile : Option NasSecCtxt) (memory : UeNasMemory) : UeNas where
  cfg
  state := .deregistered
  haveGuti := false
  haveCtxt := false
  ctxt := { memory.ctxt with rxCount := 0, txCount := 0, cipherAlgo := 0, integAlgo := 0 }
  ipAddr := 0
  epsBearerId := 0
  kNasEnc := memory.kNasEnc
  kNasInt := memory.kNasInt
  ctxtFile
  sent := []
  ciphered := []

def init (nas : UeNas) : UeNas :=
  match nas.ctxtFile with
  | none => nas
  | some ctxt =>
    if nas.cfg.forceImsiAttach then
      nas
    else
      let nas := { nas with ctxt, haveGuti := true, haveCtxt := true }
      nas.generateNasKeys alg

def restart (nas : UeNas) (cfg : NasConfig) (memory : UeNasMemory) : UeNas :=
  let nas' := (new cfg nas.stop.ctxtFile memory).init alg
  { nas' with
    sent := nas.sent
    ciphered := if nas'.cipherKey = nas.cipherKey then nas.ciphered else []
  }

end UeNas

inductive UeNasEvent where
  | writePdu (pdu : NasPdu DlNasMsg)
  | attachRequest (isConnected : Bool)
  | paging (isConnected : Bool)
  | deattachRequest
  | restart (cfg : NasConfig) (memory : UeNasMemory)

namespace UeNas

variable (alg : NasAlgorithms)

def handle (nas : UeNas) (event : UeNasEvent) (env : UeNasEnv) : UeNas :=
  match event with
  | .writePdu pdu => nas.writePdu alg pdu env
  | .attachRequest isConnected => nas.attachRequest alg isConnected env
  | .paging isConnected => nas.paging alg isConnected env
  | .deattachRequest => nas.deattachRequest
  | .restart cfg memory => nas.restart alg cfg memory

def step (nas : UeNas) (event : UeNasEvent × UeNasEnv) : UeNas :=
  nas.handle alg event.1 event.2

end UeNas

end SrsLte

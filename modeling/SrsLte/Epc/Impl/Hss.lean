import SrsLte.Common.Security
import SrsLte.Data.Map

/-!
This module contains the authentication functions of `hss.cc`. The bytes that `gen_rand` draws are an
argument of the call.
-/

namespace SrsLte

structure HssUeCtx where
  key : Bytes 16
  opc : Bytes 16
  amf : Bytes 2
  sqn : Bytes 6
  lastRand : Bytes 16

inductive HssAuthAlgo where
  | xor
  | milenage
  deriving DecidableEq, Repr

structure Hss where
  imsiToUeCtx : Map HssUeCtx
  authAlgo : HssAuthAlgo
  mcc : UInt16
  mnc : UInt16

structure AuthVector where
  kAsme : Bytes 32
  autn : Bytes 16
  rand : Bytes 16
  xres : List UInt8

namespace Hss

variable (crypto : Crypto)

def updateUeCtx (hss : Hss) (imsi : Nat) (f : HssUeCtx → HssUeCtx) : Hss :=
  match hss.imsiToUeCtx.lookup imsi with
  | none => hss
  | some ueCtx => { hss with imsiToUeCtx := hss.imsiToUeCtx.insert imsi (f ueCtx) }

def incrementSqn (sqn : Bytes 6) : Bytes 6 :=
  let tmpSqn := (sqn.toNat + 1) % 2 ^ 64
  Bytes.ofNat 6 tmpSqn

def incrementUeSqn (hss : Hss) (imsi : Nat) : Hss :=
  hss.updateUeCtx imsi fun ueCtx => { ueCtx with sqn := incrementSqn ueCtx.sqn }

def setSqn (hss : Hss) (imsi : Nat) (sqn : Bytes 6) : Hss :=
  hss.updateUeCtx imsi fun ueCtx => { ueCtx with sqn }

def setLastRand (hss : Hss) (imsi : Nat) (rand : Bytes 16) : Hss :=
  hss.updateUeCtx imsi fun ueCtx => { ueCtx with lastRand := rand }

def genAuthInfoAnswerMilenage (hss : Hss) (imsi : Nat) (rand : Bytes 16) : Hss × Option AuthVector :=
  match hss.imsiToUeCtx.lookup imsi with
  | none => (hss, none)
  | some ⟨k, opc, amf, sqn, _⟩ =>
    let (xres, ck, ik, ak) := crypto.f2345 k opc rand
    let mac := crypto.f1 k opc rand sqn amf
    let kAsme := generateKAsme crypto ck ik ak sqn hss.mcc hss.mnc
    let autn := constructAutn (Bytes.xor sqn ak) amf mac
    (hss.setLastRand imsi rand, some { kAsme, autn, rand, xres := List.ofFn xres })

def genAuthInfoAnswerXor (hss : Hss) (imsi : Nat) (rand : Bytes 16) : Hss × Option AuthVector :=
  match hss.imsiToUeCtx.lookup imsi with
  | none => (hss, none)
  | some ⟨k, _, amf, sqn, _⟩ =>
    let xdout := Bytes.xor k rand
    let xres := xdout
    let ck : Bytes 16 := fun i => xdout (i + 1)
    let ik : Bytes 16 := fun i => xdout (i + 2)
    let ak : Bytes 6 := xdout.slice 3 6 akBytes_le
    let cdout : Bytes 8 := Fin.append sqn amf
    let mac : Bytes 8 := Bytes.xor (xdout.slice 0 8 macBytes_le) cdout
    let kAsme := generateKAsme crypto ck ik ak sqn hss.mcc hss.mnc
    let autn := constructAutn (Bytes.xor sqn ak) amf mac
    (hss.setLastRand imsi rand, some { kAsme, autn, rand, xres := List.ofFn xres })

def genAuthInfoAnswer (hss : Hss) (imsi : Nat) (rand : Bytes 16) : Hss × Option AuthVector :=
  let (hss', ret) :=
    match hss.authAlgo with
    | .xor => hss.genAuthInfoAnswerXor crypto imsi rand
    | .milenage => hss.genAuthInfoAnswerMilenage crypto imsi rand
  (hss'.incrementUeSqn imsi, ret)

def sqnMs (ueCtx : HssUeCtx) (auts : Bytes 14) : Bytes 6 :=
  let ak := crypto.f5Star ueCtx.key ueCtx.opc ueCtx.lastRand
  Bytes.xor (auts.slice 0 6 (by decide)) ak

def resyncSqnMilenage (hss : Hss) (imsi : Nat) (auts : Bytes 14) : Hss × Bool :=
  match hss.imsiToUeCtx.lookup imsi with
  | none => (hss, false)
  | some ueCtx => (hss.setSqn imsi (sqnMs crypto ueCtx auts), true)

def resyncSqnXor (hss : Hss) (_imsi : Nat) (_auts : Bytes 14) : Hss × Bool :=
  (hss, false)

def resyncSqn (hss : Hss) (imsi : Nat) (auts : Bytes 14) : Hss × Bool :=
  let (hss', ret) :=
    match hss.authAlgo with
    | .xor => hss.resyncSqnXor imsi auts
    | .milenage => hss.resyncSqnMilenage crypto imsi auts
  (hss'.incrementUeSqn imsi, ret)

end Hss

end SrsLte

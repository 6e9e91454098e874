import SrsLte.Common.Basic

/-!
This module contains the PDCP entity of `pdcp_entity.cc`. The ciphering and integrity algorithms of
`security.h` are parameters.
-/

namespace SrsLte

inductive SecurityDirection where
  | uplink
  | downlink
  deriving DecidableEq, Repr

namespace SecurityDirection

def opposite (direction : SecurityDirection) : SecurityDirection :=
  if direction = downlink then uplink else downlink

theorem opposite_of_ne {direction other : SecurityDirection} (h : other ≠ direction)
    : opposite other = direction := by
  cases direction <;> cases other <;> simp_all [opposite]

end SecurityDirection

inductive CipheringAlgorithmId where
  | eea0
  | eea1
  | eea2
  deriving DecidableEq, Repr

inductive IntegrityAlgorithmId where
  | eia0
  | eia1
  | eia2
  deriving DecidableEq, Repr

abbrev MacI := { mac : List UInt8 // mac.length = 4 }

def MacI.zero : MacI :=
  ⟨[0, 0, 0, 0], rfl⟩

structure Security where
  eea1 : List UInt8 → UInt32 → UInt8 → SecurityDirection → Nat → UInt8
  eea2 : List UInt8 → UInt32 → UInt8 → SecurityDirection → Nat → UInt8
  eia1 : List UInt8 → UInt32 → UInt8 → SecurityDirection → List UInt8 → MacI
  eia2 : List UInt8 → UInt32 → UInt8 → SecurityDirection → List UInt8 → MacI

def xorKeystream (keystream : Nat → UInt8) (msg : List UInt8) : List UInt8 :=
  msg.mapIdx fun i b => b ^^^ keystream i

structure SrsltePdcpConfig where
  direction : SecurityDirection := .uplink
  isControl : Bool := false
  isData : Bool := false
  snLen : Nat := 12
  deriving DecidableEq, Repr

inductive PdcpUpper where
  | gw
  | rrc
  deriving DecidableEq, Repr

structure PdcpEntity where
  active : Bool := false
  lcid : UInt32 := 0
  cfg : SrsltePdcpConfig := {}
  snLenBytes : Nat := 0
  doIntegrity : Bool := false
  doEncryption : Bool := false
  rxCount : UInt32 := 0
  txCount : UInt32 := 0
  kEnc : List UInt8 := []
  kInt : List UInt8 := []
  cipherAlgo : CipheringAlgorithmId := .eea0
  integAlgo : IntegrityAlgorithmId := .eia0
  ciphered : List UInt32 := []
  deciphered : List UInt32 := []
  deriving DecidableEq, Repr

def pdcpDCDataPdu : UInt32 := (1 : UInt32) <<< 7

def pdcpPackControlPdu (sn : UInt32) (sdu : ByteBuffer) : ByteBuffer :=
  (sn &&& 0x1F).toUInt8 :: sdu ++ [0, 0, 0, 0]

def pdcpUnpackControlPdu (pdu : ByteBuffer) : ByteBuffer :=
  let pdu := pdu.drop 1
  pdu.take (pdu.length - 4)

def pdcpPackDataPduShortSn (sn : UInt32) (sdu : ByteBuffer) : ByteBuffer :=
  (pdcpDCDataPdu ||| (sn &&& 0x7F)).toUInt8 :: sdu

def pdcpUnpackDataPduShortSn (pdu : ByteBuffer) : ByteBuffer :=
  pdu.drop 1

def pdcpPackDataPduLongSn (sn : UInt32) (sdu : ByteBuffer) : ByteBuffer :=
  (pdcpDCDataPdu ||| ((sn >>> 8) &&& 0x0F)).toUInt8 :: (sn &&& 0xFF).toUInt8 :: sdu

def pdcpUnpackDataPduLongSn (pdu : ByteBuffer) : ByteBuffer :=
  pdu.drop 2

namespace PdcpEntity

def init (lcid : UInt32) (cfg : SrsltePdcpConfig) : PdcpEntity :=
  let e : PdcpEntity := { active := true, lcid, cfg := { cfg with snLen := 0 }, snLenBytes := 0 }
  let e := if cfg.isControl then { e with cfg.snLen := 5, snLenBytes := 1 } else e
  if cfg.isData then { e with cfg.snLen := 12, snLenBytes := 2 } else e

def configSecurity (e : PdcpEntity) (kEnc kInt : List UInt8) (cipherAlgo : CipheringAlgorithmId)
    (integAlgo : IntegrityAlgorithmId) : PdcpEntity :=
  { e with kEnc := kEnc.take 32, kInt := kInt.take 32, cipherAlgo, integAlgo }

def enableIntegrity (e : PdcpEntity) : PdcpEntity :=
  { e with doIntegrity := true }

def enableEncryption (e : PdcpEntity) : PdcpEntity :=
  { e with doEncryption := true }

def getBearerId (lcid : UInt8) : UInt8 :=
  if lcid ≤ 2 then lcid - 1 else lcid - 2 - 1

variable (sec : Security)

def cipher (e : PdcpEntity) (count : UInt32) (direction : SecurityDirection) (msg : List UInt8)
    : List UInt8 :=
  let key := e.kEnc.drop 16
  let bearer := getBearerId e.lcid.toUInt8
  match e.cipherAlgo with
  | .eea0 => msg
  | .eea1 => xorKeystream (sec.eea1 key count bearer direction) msg
  | .eea2 => xorKeystream (sec.eea2 key count bearer direction) msg

def cipherEncrypt (e : PdcpEntity) (msg : List UInt8) : List UInt8 :=
  e.cipher sec e.txCount e.cfg.direction msg

def cipherDecrypt (e : PdcpEntity) (count : UInt32) (ct : List UInt8) : List UInt8 :=
  e.cipher sec count e.cfg.direction.opposite ct

def computeMac (e : PdcpEntity) (count : UInt32) (direction : SecurityDirection) (msg : List UInt8)
    : Option MacI :=
  let key := e.kInt.drop 16
  let bearer := getBearerId e.lcid.toUInt8
  match e.integAlgo with
  | .eia0 => none
  | .eia1 => some (sec.eia1 key count bearer direction msg)
  | .eia2 => some (sec.eia2 key count bearer direction msg)

def integrityGenerate (e : PdcpEntity) (msg mac : List UInt8) : List UInt8 :=
  match e.computeMac sec e.txCount e.cfg.direction msg with
  | some mac => mac.val
  | none => mac

def integrityVerify (e : PdcpEntity) (count : UInt32) (msg mac : List UInt8) : Bool :=
  match e.computeMac sec count e.cfg.direction.opposite msg with
  | some macExp => mac == macExp.val
  | none => true

def packControl (e : PdcpEntity) (sdu : ByteBuffer) : ByteBuffer :=
  let pdu := pdcpPackControlPdu e.txCount sdu
  if e.doIntegrity then
    let msg := pdu.take (pdu.length - 4)
    msg ++ e.integrityGenerate sec msg (pdu.drop (pdu.length - 4))
  else
    pdu

def packData (e : PdcpEntity) (sdu : ByteBuffer) : ByteBuffer :=
  if e.cfg.snLen = 12 then
    pdcpPackDataPduLongSn e.txCount sdu
  else
    pdcpPackDataPduShortSn e.txCount sdu

def encrypt (e : PdcpEntity) (pdu : ByteBuffer) : PdcpEntity × ByteBuffer :=
  if e.doEncryption then
    (
      { e with ciphered := e.ciphered ++ [e.txCount] },
      pdu.take e.snLenBytes ++ e.cipherEncrypt sec (pdu.drop e.snLenBytes)
    )
  else
    (e, pdu)

def writeSdu (e : PdcpEntity) (sdu : ByteBuffer) : PdcpEntity × ByteBuffer :=
  let pdu := if e.cfg.isControl then e.packControl sec sdu else sdu
  let pdu := if e.cfg.isData then e.packData pdu else pdu
  let (e, pdu) := e.encrypt sec pdu
  ({ e with txCount := e.txCount + 1 }, pdu)

def decrypt (e : PdcpEntity) (pdu : ByteBuffer) : PdcpEntity × ByteBuffer :=
  if e.doEncryption then
    (
      { e with deciphered := e.deciphered ++ [e.rxCount] },
      pdu.take e.snLenBytes ++ e.cipherDecrypt sec e.rxCount (pdu.drop e.snLenBytes)
    )
  else
    (e, pdu)

def macAccepted (e : PdcpEntity) (pdu : ByteBuffer) : Bool :=
  e.integrityVerify sec e.rxCount (pdu.take (pdu.length - 4)) (pdu.drop (pdu.length - 4))

def unpackData (e : PdcpEntity) (pdu : ByteBuffer) : ByteBuffer :=
  if e.cfg.snLen = 12 then
    pdcpUnpackDataPduLongSn pdu
  else
    pdcpUnpackDataPduShortSn pdu

/--
The SDU that `write_pdu` hands on, with its `N_bytes`, and the lengths it passes to `cipher_decrypt` and
`integrity_verify`. All of them are differences in `uint32_t`.
-/
structure ReceivedPdu where
  decryptLen : Option Nat := none
  verifyLen : Option Nat := none
  sdu : Option (PdcpUpper × Nat × ByteBuffer) := none

def receivePdu (e : PdcpEntity) (pdu : ByteBuffer) : PdcpEntity × ReceivedPdu :=
  let nBytes := pdu.length
  let decryptLen := if e.doEncryption then some (u32Sub nBytes e.snLenBytes) else none
  if nBytes ≤ e.snLenBytes then
    (e, {})
  else if e.cfg.isData then
    let sduLen := u32Sub nBytes (if e.cfg.snLen = 12 then 2 else 1)
    let (e, pdu) := e.decrypt sec pdu
    ({ e with rxCount := e.rxCount + 1 }, { decryptLen, sdu := some (.gw, sduLen, e.unpackData pdu) })
  else if e.cfg.isControl then
    let verifyLen := if e.doIntegrity then some (u32Sub nBytes 4) else none
    let sduLen := u32Sub (u32Sub nBytes 1) 4
    let (e, pdu) := e.decrypt sec pdu
    let _isValid := if e.doIntegrity then e.macAccepted sec pdu else true
    (
      { e with rxCount := e.rxCount + 1 },
      { decryptLen, verifyLen, sdu := some (.rrc, sduLen, pdcpUnpackControlPdu pdu) }
    )
  else
    ({ e with rxCount := e.rxCount + 1 }, { sdu := some (.rrc, nBytes, pdu) })

def writePdu (e : PdcpEntity) (pdu : ByteBuffer) : PdcpEntity × Option (PdcpUpper × ByteBuffer) :=
  let (e, received) := e.receivePdu sec pdu
  (e, received.sdu.map fun sdu => (sdu.1, sdu.2.2))

end PdcpEntity

end SrsLte

import Mathlib.Tactic.Common
import SrsLte.Common.Basic
import SrsLte.Data.Bits
import Mathlib.Data.Finmap

/-!
This module contains the header of a GTP-U packet as `gtpu.cc` of the library writes and reads it, the tunnels between
the eNB and the SPGW of `gtpu.cc`, and the setup of bearers in `setup_ue_ctxt` and `setup_ue_erabs` of the RRC layer of
the eNB. The NAS PDUs that these put into the queue are in `Rrc.setupUe`.
-/

namespace SrsLte

def gtpuHeaderLen : Nat := 8

structure GtpuHeader where
  flags : UInt8
  messageType : UInt8
  length : Nat
  teid : Nat
  deriving DecidableEq, Repr

structure GtpuPdu where
  msg : List UInt8
  nBytes : Nat
  deriving DecidableEq, Repr

def GtpuPdu.bytes (pdu : GtpuPdu) : List UInt8 :=
  pdu.msg.take pdu.nBytes

def uint8ToUint16 (b0 b1 : UInt8) : Nat :=
  b0.toNat <<< 8 ||| b1.toNat

def uint8ToUint32 (b0 b1 b2 b3 : UInt8) : Nat :=
  b0.toNat <<< 24 ||| (b1.toNat <<< 16 ||| (b2.toNat <<< 8 ||| b3.toNat))

def uint16ToUint8 (i : Nat) : List UInt8 :=
  [UInt8.ofNat ((i >>> 8) &&& 0xFF), UInt8.ofNat (i &&& 0xFF)]

def uint32ToUint8 (i : Nat) : List UInt8 :=
  [
    UInt8.ofNat ((i >>> 24) &&& 0xFF),
    UInt8.ofNat ((i >>> 16) &&& 0xFF),
    UInt8.ofNat ((i >>> 8) &&& 0xFF),
    UInt8.ofNat (i &&& 0xFF)
  ]

def gtpuWriteHeader (header : GtpuHeader) (headroom : Nat) (pdu : List UInt8) : Option (List UInt8) :=
  if header.flags ≠ 0x30 then
    none
  else if header.messageType ≠ 0xFF then
    none
  else if headroom < gtpuHeaderLen then
    none
  else
    some ([header.flags, header.messageType] ++ uint16ToUint8 header.length ++ uint32ToUint8 header.teid ++ pdu)

def gtpuReadHeader (pdu : GtpuPdu) : Bool × GtpuHeader × GtpuPdu :=
  let byte (i : Nat) := pdu.msg.getD i 0
  let header := {
    flags := byte 0
    messageType := byte 1
    length := uint8ToUint16 (byte 2) (byte 3)
    teid := uint8ToUint32 (byte 4) (byte 5) (byte 6) (byte 7)
  }
  let pdu := { msg := pdu.msg.drop gtpuHeaderLen, nBytes := u32Sub pdu.nBytes gtpuHeaderLen }
  (header.flags == 0x30 && header.messageType == 0xFF, header, pdu)

theorem uint8ToUint32_eq (b0 b1 b2 b3 : UInt8)
    : uint8ToUint32 b0 b1 b2 b3 = ((b0.toNat * 256 + b1.toNat) * 256 + b2.toNat) * 256 + b3.toNat := by
  have h1 := b1.toNat_lt
  have h2 := b2.toNat_lt
  have h3 := b3.toNat_lt
  unfold uint8ToUint32
  rw [Bits.shiftLeft_or b2.toNat 8 (by omega)]
  rw [Bits.shiftLeft_or b1.toNat 16 (by omega)]
  rw [Bits.shiftLeft_or b0.toNat 24 (by omega)]
  omega

theorem uint8ToUint32_lt (b0 b1 b2 b3 : UInt8) : uint8ToUint32 b0 b1 b2 b3 < 2 ^ 32 := by
  have h0 := b0.toNat_lt
  have h1 := b1.toNat_lt
  have h2 := b2.toNat_lt
  have h3 := b3.toNat_lt
  rw [uint8ToUint32_eq]
  omega


def srsenbNSrb : Nat := 3

abbrev srsenbNRadioBearers : Nat := 11

def gtpuMaxRecv : Nat := 12756 - 1024

structure BearerMap where
  teidsIn : Fin srsenbNRadioBearers → Nat := fun _ => 0
  teidsOut : Fin srsenbNRadioBearers → Nat := fun _ => 0
  spgwAddrs : Fin srsenbNRadioBearers → Nat := fun _ => 0

structure Gtpu where
  rntiBearers : Finmap (fun _ : UInt16 => BearerMap) := ∅
  buffer : List UInt8 := []

structure GtpuSdu where
  rnti : UInt16
  lcid : Nat
  pdu : GtpuPdu
  deriving DecidableEq, Repr

structure GtpuPacket where
  addr : Nat
  bytes : List UInt8
  deriving DecidableEq, Repr

def teidinToRntilcid (teidin : Nat) : UInt16 × Nat :=
  (UInt16.ofNat ((teidin >>> 16) &&& 0xFFFF), teidin &&& 0xFFFF)

def rntilcidToTeidin (rnti : UInt16) (lcid : Nat) : Nat :=
  rnti.toNat <<< 16 ||| lcid

namespace Gtpu

def bearers (g : Gtpu) (rnti : UInt16) : BearerMap :=
  (g.rntiBearers.lookup rnti).getD {}

def addBearer (g : Gtpu) (rnti : UInt16) (lcid : Fin srsenbNRadioBearers) (addr teidOut : Nat) : Gtpu × Nat :=
  let teidIn := rntilcidToTeidin rnti lcid
  let map := g.bearers rnti
  let map := {
    teidsIn := Function.update map.teidsIn lcid teidIn
    teidsOut := Function.update map.teidsOut lcid teidOut
    spgwAddrs := Function.update map.spgwAddrs lcid addr
  }
  ({ g with rntiBearers := g.rntiBearers.insert rnti map }, teidIn)

def remBearer (g : Gtpu) (rnti : UInt16) (lcid : Fin srsenbNRadioBearers) : Gtpu :=
  let map := g.bearers rnti
  let map := {
    map with
    teidsIn := Function.update map.teidsIn lcid 0
    teidsOut := Function.update map.teidsOut lcid 0
  }
  -- Remove RNTI if all bearers are removed
  if ∀ i, map.teidsIn i = 0 then
    { g with rntiBearers := g.rntiBearers.erase rnti }
  else
    { g with rntiBearers := g.rntiBearers.insert rnti map }

def remUser (g : Gtpu) (rnti : UInt16) : Gtpu :=
  { g with rntiBearers := g.rntiBearers.erase rnti }

def writePdu (g : Gtpu) (rnti : UInt16) (lcid : Fin srsenbNRadioBearers) (headroom : Nat) (pdu : List UInt8)
    : Gtpu × GtpuPacket :=
  let map := g.bearers rnti
  let header : GtpuHeader := {
    flags := 0x30
    messageType := 0xFF
    length := pdu.length % 2 ^ 16
    teid := map.teidsOut lcid
  }
  ({ g with rntiBearers := g.rntiBearers.insert rnti map },
    { addr := map.spgwAddrs lcid, bytes := (gtpuWriteHeader header headroom pdu).getD pdu })

def recv (g : Gtpu) (datagram : List UInt8) : GtpuPdu :=
  let datagram := datagram.take gtpuMaxRecv
  { msg := datagram ++ g.buffer.drop datagram.length, nBytes := datagram.length }

def receive (g : Gtpu) (datagram next : List UInt8) : Gtpu × Option GtpuSdu :=
  let received := g.recv datagram
  -- the result of `gtpu_read_header` is not looked at
  let (_, header, pdu) := gtpuReadHeader received
  let (rnti, lcid) := teidinToRntilcid header.teid
  if rnti ∉ g.rntiBearers then
    ({ g with buffer := received.msg }, none)
  else if lcid < srsenbNSrb ∨ lcid ≥ srsenbNRadioBearers then
    ({ g with buffer := received.msg }, none)
  else
    ({ g with buffer := next }, some { rnti, lcid, pdu })

inductive Event where
  | addBearer (rnti : UInt16) (lcid : Fin srsenbNRadioBearers) (addr teidOut : Nat)
  | remBearer (rnti : UInt16) (lcid : Fin srsenbNRadioBearers)
  | remUser (rnti : UInt16)
  | writePdu (rnti : UInt16) (lcid : Fin srsenbNRadioBearers) (headroom : Nat) (pdu : List UInt8)
  | datagram (datagram next : List UInt8)

def step (g : Gtpu) (e : Event) : Gtpu :=
  match e with
  | .addBearer rnti lcid addr teidOut => (g.addBearer rnti lcid addr teidOut).1
  | .remBearer rnti lcid => g.remBearer rnti lcid
  | .remUser rnti => g.remUser rnti
  | .writePdu rnti lcid headroom pdu => (g.writePdu rnti lcid headroom pdu).1
  | .datagram datagram next => (g.receive datagram next).1

end Gtpu


structure Erab where
  id : UInt8
  teid : Nat
  addr : Nat

abbrev ErabSetupRes := List (UInt8 × Nat)

/--
`LIBLTE_S1AP_E_RABSETUPLISTCTXTSURES_STRUCT` and `LIBLTE_S1AP_E_RABSETUPLISTBEARERSURES_STRUCT` have room for so many.
-/
def erabSetupResMax : Nat := 32

namespace Gtpu

def setupErab (rnti : UInt16) (st : Gtpu × ErabSetupRes) (erab : Erab) : Option (Gtpu × ErabSetupRes) :=
  let lcid := erab.id - 2
  if h : lcid.toNat < srsenbNRadioBearers then
    let (g, teidIn) := st.1.addBearer rnti ⟨lcid.toNat, h⟩ erab.addr erab.teid
    if st.2.length < erabSetupResMax then
      some (g, st.2 ++ [(erab.id, teidIn)])
    else
      none
  else
    none

def setupErabs (g : Gtpu) (rnti : UInt16) (erabs : List Erab) : Option (Gtpu × ErabSetupRes) :=
  erabs.foldlM (setupErab rnti) (g, [])

def setupUeCtxt (g : Gtpu) (rnti : UInt16) (erabs : List Erab) : Option (Gtpu × ErabSetupRes) :=
  g.setupErabs rnti erabs

def setupUeErabs (g : Gtpu) (rnti : UInt16) (erabs : List Erab) : Option (Gtpu × ErabSetupRes) :=
  g.setupErabs rnti erabs

end Gtpu

end SrsLte

import SrsLte.Common.Basic
import SrsLte.Data.Bytes
import SrsLte.Data.Map

/-!
This module contains the RRC layer of the eNB in `rrc.cc`. It keeps the identities of the UEs and a queue
of what is to be sent to them.
-/

namespace SrsLte

abbrev UeId := Bytes 15

structure SockaddrIn where
  sinPort : Bytes 2
  sinAddr : Bytes 4
  deriving DecidableEq

structure RrcReceiveHead where
  type : UInt8
  ip : Bytes 4
  port : Bytes 2
  id : UeId
  lcid : UInt16
  cause : UInt32

/--
`sizeof(rrc_receive_head)`: the numbers are aligned, and their least significant byte comes first.
-/
def rrcReceiveLen : Nat := 28

def RrcReceiveHead.ofBytes (msg : List UInt8) : RrcReceiveHead where
  type := msg.getD 0 0
  ip i := msg.getD (1 + i) 0
  port i := msg.getD (5 + i) 0
  id i := msg.getD (7 + i) 0
  lcid := UInt16.ofNat (Bytes.toNat fun i : Fin 2 => msg.getD (23 - i) 0)
  cause := UInt32.ofNat (Bytes.toNat fun i : Fin 4 => msg.getD (27 - i) 0)

def srsenbRrcAttach : UInt8 := 0x01

def srsenbRrcNormal : UInt8 := 0x02

def srsenbRrcData : UInt8 := 0x03

def srsenbRrcPaging : UInt8 := 0x04

def srsenbDlPaging : Nat := 0xFFFF0001

def srsenbDlReleaseUser : Nat := 0xFFFF0004

def srsenbDlReleaseErab : Nat := 0xFFFF0005

def rbIdSrb1 : Nat := 1

/--
`rrc_pdu`. A buffer is known by a number, `none` is `NULL`.
-/
structure RrcPdu where
  rnti : Nat
  lcid : Nat
  pdu : Option Nat
  deriving DecidableEq, Repr

structure Rrc where
  pduQueue : List RrcPdu
  addrMap : Map SockaddrIn
  rntiMap : Map UeId
  ueidMap : Finmap fun _ : UeId => Nat

inductive UplinkCall where
  | s1apWritePdu (rnti : Nat)
  | s1apInitialUe (rnti : Nat) (cause : UInt32)
  | gtpuWritePdu (rnti lcid : Nat)
  deriving DecidableEq, Repr

inductive DownlinkCall where
  | sendto (addr : SockaddrIn) (type : UInt8) (id : UeId) (lcid : Nat)
  | gtpuRemUser (rnti : Nat)
  | gtpuRemBearer (rnti lcid : Nat)
  deriving DecidableEq

namespace Rrc

def init : Rrc where
  pduQueue := []
  addrMap := ∅
  rntiMap := ∅
  ueidMap := ∅

def push (rrc : Rrc) (pdu : RrcPdu) : Rrc :=
  { rrc with pduQueue := rrc.pduQueue ++ [pdu] }

def writeDlInfo (rrc : Rrc) (rnti : Nat) (sdu : Option Nat) : Rrc :=
  rrc.push ⟨rnti, rbIdSrb1, sdu⟩

def releaseComplete (rrc : Rrc) (rnti : Nat) : Rrc :=
  if rnti ∈ rrc.rntiMap then rrc.push ⟨rnti, srsenbDlReleaseUser, none⟩ else rrc

def setupUe (rrc : Rrc) (rnti : Nat) (sdus : List (Option Nat)) : Rrc :=
  if rnti ∈ rrc.rntiMap then
    sdus.foldl (fun rrc sdu => if sdu.isSome then rrc.writeDlInfo rnti sdu else rrc) rrc
  else
    rrc

def releaseErabs (rrc : Rrc) (rnti : Nat) : Rrc :=
  rrc.push ⟨rnti % 2 ^ 16, srsenbDlReleaseErab, none⟩

def writeSdu (rrc : Rrc) (rnti lcid : Nat) (pdu : Option Nat) : Rrc :=
  rrc.push ⟨rnti, lcid, pdu⟩

def handleNormal (rrc : Rrc) (head : RrcReceiveHead) : Option UplinkCall :=
  (rrc.ueidMap.lookup head.id).map fun rnti =>
    if head.lcid < 3 then .s1apWritePdu rnti else .gtpuWritePdu rnti head.lcid.toNat

def handleData (rrc : Rrc) (head : RrcReceiveHead) : Option UplinkCall :=
  (rrc.ueidMap.lookup head.id).map fun rnti => .gtpuWritePdu rnti head.lcid.toNat

def freeRnti (rrc : Rrc) : Option Nat :=
  (List.range' 1 0xFFFE).find? fun rnti => rnti ∉ rrc.rntiMap

def handleAttach (rrc : Rrc) (head : RrcReceiveHead) : Rrc × Option UplinkCall :=
  match rrc.freeRnti with
  | none => (rrc, none)
  | some rnti =>
    let rrc := { rrc with
      rntiMap := rrc.rntiMap.insert rnti head.id
      ueidMap := rrc.ueidMap.insert head.id rnti
      addrMap := rrc.addrMap.insert rnti ⟨head.port, head.ip⟩
    }
    (rrc, some (.s1apInitialUe rnti head.cause))

def receiveUplink (rrc : Rrc) (head : RrcReceiveHead) : Rrc × Option UplinkCall :=
  if head.type = srsenbRrcNormal then
    (rrc, rrc.handleNormal head)
  else if head.type = srsenbRrcAttach then
    rrc.handleAttach head
  else if head.type = srsenbRrcData then
    (rrc, rrc.handleData head)
  else
    (rrc, none)

def receiveRoom : Nat := srslteMaxBufferSizeBytes - srslteBufferHeaderOffset

def receiveDatagram (rrc : Rrc) (datagram : Option (List UInt8)) : Option (Rrc × Option UplinkCall × List UInt8) :=
  let msg := (datagram.getD []).take srslteMaxBufferSizeBytes
  let len := if datagram.isSome then msg.length else 2 ^ 32 - 1
  let nBytes := u32Sub len rrcReceiveLen
  if receiveRoom < msg.length ∨ receiveRoom < rrcReceiveLen + nBytes then
    none
  else
    let (rrc, call) := rrc.receiveUplink (.ofBytes msg)
    some (rrc, call, (msg.drop rrcReceiveLen).take nBytes)

def sendPdu (rrc : Rrc) (pdu : RrcPdu) (type : UInt8) : Rrc × Option DownlinkCall :=
  match rrc.rntiMap.lookup pdu.rnti with
  | none => (rrc, none)
  | some id =>
    let rrc := { rrc with addrMap := Map.insertNew pdu.rnti ⟨0, 0⟩ rrc.addrMap }
    let addr := (rrc.addrMap.lookup pdu.rnti).getD ⟨0, 0⟩
    (rrc, some (.sendto addr type id (pdu.lcid % 2 ^ 16)))

def sendEntry (rrc : Rrc) (pdu : RrcPdu) : Rrc × Option DownlinkCall :=
  if pdu.lcid = srsenbDlPaging then
    rrc.sendPdu pdu srsenbRrcPaging
  else if pdu.lcid = srsenbDlReleaseUser then
    (rrc, some (.gtpuRemUser pdu.rnti))
  else if pdu.lcid = srsenbDlReleaseErab then
    (rrc, some (.gtpuRemBearer pdu.rnti (pdu.lcid % 2 ^ 16)))
  else if pdu.lcid < 0x00010000 then
    rrc.sendPdu pdu (if pdu.lcid < 3 then srsenbRrcNormal else srsenbRrcData)
  else
    (rrc, none)

def sendDownlink (rrc : Rrc) : Rrc × Option RrcPdu × Option DownlinkCall :=
  match rrc.pduQueue with
  | [] => (rrc, none, none)
  | pdu :: pdus =>
    let (rrc, call) := { rrc with pduQueue := pdus }.sendEntry pdu
    (rrc, some pdu, call)

end Rrc

end SrsLte

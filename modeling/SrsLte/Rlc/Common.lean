import SrsLte.Common.Basic
import SrsLte.Data.Map

/-!
This module contains the types that the RLC entities share.
-/

namespace SrsLte

def rlcAmWindowSize : Nat := 512

inductive RlcDcField where
  | controlPdu
  | dataPdu
  deriving DecidableEq, Repr

inductive RlcFiField where
  | startAndEndAligned
  | notEndAligned
  | notStartAligned
  | notStartOrEndAligned
  deriving DecidableEq, Repr

namespace RlcFiField

def toNat (fi : RlcFiField) : Nat :=
  match fi with
  | startAndEndAligned => 0
  | notEndAligned => 1
  | notStartAligned => 2
  | notStartOrEndAligned => 3

def ofBits (n : Nat) : RlcFiField :=
  match n % 4 with
  | 0 => startAndEndAligned
  | 1 => notEndAligned
  | 2 => notStartAligned
  | _ => notStartOrEndAligned

instance : OrOp RlcFiField where
  or a b := ofBits (a.toNat ||| b.toNat)

instance : AndOp RlcFiField where
  and a b := ofBits (a.toNat &&& b.toNat)

def startAligned (fi : RlcFiField) : Bool :=
  fi == startAndEndAligned || fi == notEndAligned

def endAligned (fi : RlcFiField) : Bool :=
  fi == startAndEndAligned || fi == notStartAligned

def isNotStartAligned (fi : RlcFiField) : Bool :=
  fi == notStartAligned || fi == notStartOrEndAligned

@[simp]
theorem ofBits_toNat (fi : RlcFiField) : ofBits fi.toNat = fi := by
  cases fi <;> rfl

theorem toNat_lt (fi : RlcFiField) : fi.toNat < 4 := by
  cases fi <;> decide

end RlcFiField

structure RlcAmdPduHeader where
  dc : RlcDcField := .controlPdu
  rf : Bool := false
  p : Bool := false
  fi : RlcFiField := .startAndEndAligned
  sn : Nat := 0
  lsf : Bool := false
  so : Nat := 0
  li : List Nat := []
  deriving DecidableEq, Repr

inductive RlcUmdSnSize where
  | size5Bits
  | size10Bits
  deriving DecidableEq, Repr

structure RlcUmdPduHeader where
  fi : RlcFiField
  snSize : RlcUmdSnSize
  sn : Nat
  li : List Nat
  deriving DecidableEq, Repr

structure RlcStatusNack where
  nackSn : Nat := 0
  hasSo : Bool := false
  soStart : Nat := 0
  soEnd : Nat := 0
  deriving DecidableEq, Repr

structure RlcStatusPdu where
  ackSn : Nat := 0
  nacks : List RlcStatusNack := []
  deriving DecidableEq, Repr

structure SrslteRlcAmConfig where
  tPollRetx : Int
  pollPdu : Int
  pollByte : Int
  maxRetxThresh : Nat
  tReordering : Int
  tStatusProhibit : Int
  deriving DecidableEq, Repr

structure SrslteRlcUmConfig where
  tReordering : Int
  txSnFieldLength : RlcUmdSnSize
  rxSnFieldLength : RlcUmdSnSize
  rxWindowSize : Nat
  rxMod : Nat
  txMod : Nat
  isMrb : Bool := false
  deriving DecidableEq, Repr

structure Timeout where
  running : Bool := false
  elapsed : Bool := false
  starts : Nat := 0
  deriving DecidableEq, Repr

namespace Timeout

def start (t : Timeout) (durationMsec : Int) : Timeout :=
  if durationMsec < 0 then t else { running := true, elapsed := false, starts := t.starts + 1 }

def reset (t : Timeout) : Timeout :=
  { t with running := false }

def isRunning (t : Timeout) : Bool :=
  t.running

def expired (t : Timeout) : Bool :=
  t.running && t.elapsed

end Timeout

structure RlcTxQueue where
  queue : List ByteBuffer := []
  unreadBytes : Nat := 0
  deriving DecidableEq, Repr

namespace RlcTxQueue

def size (q : RlcTxQueue) : Nat :=
  q.queue.length

def sizeBytes (q : RlcTxQueue) : Nat :=
  q.unreadBytes

def write (q : RlcTxQueue) (msg : ByteBuffer) : RlcTxQueue :=
  { queue := q.queue ++ [msg], unreadBytes := (q.unreadBytes + msg.length) % 2 ^ 32 }

def popping (q : RlcTxQueue) (msg : ByteBuffer) : Nat :=
  if q.unreadBytes > msg.length then q.unreadBytes - msg.length else 0

end RlcTxQueue

/-- The local variables of `build_data_pdu` while it moves SDUs into a PDU. -/
structure PullState where
  li : List Nat
  headLen : Nat
  pduSpace : Nat
  lastLi : Nat
  pdu : ByteBuffer
  txSdu : Option ByteBuffer
  queue : RlcTxQueue

def PullState.nextLi (st : PullState) : List Nat :=
  if st.lastLi > 0 then st.li ++ [st.lastLi] else st.li

def PullState.framing (st : PullState) (segment : Bool) : RlcFiField :=
  let fi := .startAndEndAligned
  let fi := if segment then fi ||| .notStartAligned else fi
  if st.txSdu.isSome then fi ||| .notEndAligned else fi

end SrsLte

import SrsLte.Data.Trace
import SrsLte.Pdcp.Entity
import Mathlib.Data.List.Induction

/-!
This module contains the exchange between two PDCP entities.
-/

namespace SrsLte

open List

@[simp]
theorem length_xorKeystream (keystream : Nat → UInt8) (msg : List UInt8)
    : (xorKeystream keystream msg).length = msg.length := by
  simp [xorKeystream]

theorem xorKeystream_xorKeystream (keystream : Nat → UInt8) (msg : List UInt8)
    : xorKeystream keystream (xorKeystream keystream msg) = msg := by
  unfold xorKeystream
  apply ext_getElem
  . simp
  . intro i _ _
    simp only [getElem_mapIdx, UInt8.xor_assoc, UInt8.xor_self, UInt8.xor_zero]

theorem pdcpUnpackControlPdu_pack (header : UInt8) (sdu : ByteBuffer) (mac : MacI)
    : pdcpUnpackControlPdu (header :: sdu ++ mac.val) = sdu := by
  simp [pdcpUnpackControlPdu, mac.property]

inductive PdcpBearer where
  | control
  | dataShortSn
  | dataLongSn
  deriving DecidableEq, Repr

namespace PdcpBearer

def isData (b : PdcpBearer) : Bool :=
  b != control

def snLen (b : PdcpBearer) : Nat :=
  match b with
  | control => 5
  | dataShortSn => 7
  | dataLongSn => 12

def snLenBytes (b : PdcpBearer) : Nat :=
  match b with
  | control => 1
  | dataShortSn => 1
  | dataLongSn => 2

def upper (b : PdcpBearer) : PdcpUpper :=
  if b.isData then .gw else .rrc

end PdcpBearer

namespace PdcpEntity

structure Serves (e : PdcpEntity) (b : PdcpBearer) : Prop where
  isControl : e.cfg.isControl = !b.isData
  isData : e.cfg.isData = b.isData
  snLen : e.cfg.snLen = b.snLen
  snLenBytes : e.snLenBytes = b.snLenBytes

structure Context where
  lcid : UInt32
  doIntegrity : Bool
  doEncryption : Bool
  kEnc : List UInt8
  kInt : List UInt8
  cipherAlgo : CipheringAlgorithmId
  integAlgo : IntegrityAlgorithmId

def context (e : PdcpEntity) : Context :=
  { e with }

structure Peers (b : PdcpBearer) (tx rx : PdcpEntity) : Prop where
  sender : tx.Serves b
  receiver : rx.Serves b
  direction : rx.cfg.direction ≠ tx.cfg.direction
  context : rx.context = tx.context

variable (sec : Security)

theorem writeSdu_fst (e : PdcpEntity) (sdu : ByteBuffer)
    : (e.writeSdu sec sdu).1
        =
      {
        e with
        txCount := e.txCount + 1
        ciphered := if e.doEncryption then e.ciphered ++ [e.txCount] else e.ciphered
      } := by
  cases h : e.doEncryption <;> simp [writeSdu, encrypt, h]

variable {b : PdcpBearer} {e tx rx : PdcpEntity} {pdu : ByteBuffer} {s : PdcpEntity × PdcpEntity}

theorem writePdu_of_length_le (h : pdu.length ≤ e.snLenBytes)
    : e.writePdu sec pdu = (e, none) := by
  simp [writePdu, receivePdu, h]

theorem writePdu_fst (he : e.Serves b) (h : ¬ pdu.length ≤ e.snLenBytes)
    : (e.writePdu sec pdu).1
        =
      {
        e with
        rxCount := e.rxCount + 1
        deciphered := if e.doEncryption then e.deciphered ++ [e.rxCount] else e.deciphered
      } := by
  have hdata := he.isData
  have hcontrol := he.isControl
  cases hb : b.isData <;> cases henc : e.doEncryption
    <;> simp [writePdu, receivePdu, h, decrypt, hdata, hcontrol, hb, henc]

theorem length_cipher (e : PdcpEntity) (count : UInt32) (direction : SecurityDirection) (msg : List UInt8)
    : (e.cipher sec count direction msg).length = msg.length := by
  cases h : e.cipherAlgo <;> simp [cipher, h]

namespace Peers

variable {b : PdcpBearer} {tx rx : PdcpEntity}

section

variable (h : Peers b tx rx)

include h

theorem writeSdu (sdu : ByteBuffer) : Peers b (tx.writeSdu sec sdu).1 rx := by
  rw [writeSdu_fst]
  exact ⟨⟨h.sender.isControl, h.sender.isData, h.sender.snLen, h.sender.snLenBytes⟩, h.receiver,
    h.direction, h.context⟩

theorem writePdu (pdu : ByteBuffer) : Peers b tx (rx.writePdu sec pdu).1 := by
  by_cases hlen : pdu.length ≤ rx.snLenBytes
  . rw [writePdu_of_length_le sec hlen]
    exact h
  . rw [writePdu_fst sec h.receiver hlen]
    exact ⟨h.sender, ⟨h.receiver.isControl, h.receiver.isData, h.receiver.snLen,
      h.receiver.snLenBytes⟩, h.direction, h.context⟩

theorem doEncryption : rx.doEncryption = tx.doEncryption := by
  exact congrArg Context.doEncryption h.context

theorem cipherDecrypt_cipherEncrypt (hcount : rx.rxCount = tx.txCount) (msg : List UInt8)
    : rx.cipherDecrypt sec rx.rxCount (tx.cipherEncrypt sec msg) = msg := by
  have hdirection := SecurityDirection.opposite_of_ne h.direction
  have hkey : rx.kEnc = tx.kEnc := congrArg Context.kEnc h.context
  have hlcid : rx.lcid = tx.lcid := congrArg Context.lcid h.context
  have halgo : rx.cipherAlgo = tx.cipherAlgo := congrArg Context.cipherAlgo h.context
  unfold cipherDecrypt cipherEncrypt cipher
  rw [hdirection, hkey, hlcid, halgo, hcount]
  cases tx.cipherAlgo with
  | eea0 => rfl
  | eea1 => apply xorKeystream_xorKeystream
  | eea2 => apply xorKeystream_xorKeystream

end

end Peers

def pack (e : PdcpEntity) (sdu : ByteBuffer) : ByteBuffer :=
  let pdu := if e.cfg.isControl then e.packControl sec sdu else sdu
  if e.cfg.isData then e.packData pdu else pdu

def unpack (e : PdcpEntity) (pdu : ByteBuffer) : ByteBuffer :=
  if e.cfg.isData then e.unpackData pdu else pdcpUnpackControlPdu pdu

theorem writeSdu_snd (e : PdcpEntity) (sdu : ByteBuffer)
    : (e.writeSdu sec sdu).2 = (e.encrypt sec (e.pack sec sdu)).2 := by
  rfl

theorem writePdu_snd (he : e.Serves b) (h : ¬ pdu.length ≤ e.snLenBytes)
    : (e.writePdu sec pdu).2 = some (b.upper, e.unpack (e.decrypt sec pdu).2) := by
  have hdata := he.isData
  have hcontrol := he.isControl
  cases hb : b.isData <;> cases henc : e.doEncryption
    <;> simp [writePdu, receivePdu, h, decrypt, unpack, unpackData, PdcpBearer.upper, hdata, hcontrol, hb, henc]

theorem length_encrypt (e : PdcpEntity) (pdu : ByteBuffer)
    : (e.encrypt sec pdu).2.length = pdu.length := by
  unfold encrypt
  split
  . simp only [length_append, cipherEncrypt, length_cipher, length_take, length_drop]
    omega
  . rfl

theorem pack_control (he : e.Serves .control) (sdu : ByteBuffer)
    : ∃ header : UInt8, ∃ mac : MacI, e.pack sec sdu = header :: sdu ++ mac.val := by
  have hdata : e.cfg.isData = false := he.isData
  have hcontrol : e.cfg.isControl = true := he.isControl
  have htake : (pdcpPackControlPdu e.txCount sdu).length - 4 = sdu.length + 1 := by
    simp [pdcpPackControlPdu]
  simp only [pack, hdata, hcontrol, packControl, htake]
  cases e.doIntegrity with
  | false => exact ⟨(e.txCount &&& 0x1F).toUInt8, .zero, rfl⟩
  | true =>
    refine ⟨(e.txCount &&& 0x1F).toUInt8, ⟨e.integrityGenerate sec
      ((pdcpPackControlPdu e.txCount sdu).take (sdu.length + 1)) [0, 0, 0, 0], ?_⟩, ?_⟩
    . unfold integrityGenerate
      split
      . next mac _ => exact mac.property
      . rfl
    . simp [pdcpPackControlPdu]

theorem pack_data (he : e.Serves b) (hb : b.isData = true) (sdu : ByteBuffer)
    : ∃ header : List UInt8, header.length = b.snLenBytes ∧ e.pack sec sdu = header ++ sdu := by
  have hdata : e.cfg.isData = true := by rw [he.isData, hb]
  have hcontrol : e.cfg.isControl = false := by rw [he.isControl, hb]; rfl
  simp only [pack, hdata, hcontrol, packData]
  cases b with
  | control => simp [PdcpBearer.isData] at hb
  | dataShortSn =>
    have hsn : ¬ e.cfg.snLen = 12 := by rw [he.snLen]; decide
    simp only [hsn]
    exact ⟨[_], rfl, rfl⟩
  | dataLongSn =>
    have hsn : e.cfg.snLen = 12 := he.snLen
    simp only [hsn]
    exact ⟨[_, _], rfl, rfl⟩

theorem unpack_pack (htx : tx.Serves b) (hrx : rx.Serves b) (sdu : ByteBuffer)
    : rx.unpack (tx.pack sec sdu) = sdu := by
  unfold unpack
  rw [hrx.isData]
  cases b with
  | control =>
    have ⟨header, mac, hpack⟩ := pack_control sec htx sdu
    rw [hpack]
    apply pdcpUnpackControlPdu_pack
  | dataShortSn =>
    have ⟨header, hlen, hpack⟩ := pack_data sec htx rfl sdu
    have hsn : ¬ rx.cfg.snLen = 12 := by rw [hrx.snLen]; decide
    rw [hpack]
    simp only [PdcpBearer.snLenBytes] at hlen
    simp [unpackData, hsn, pdcpUnpackDataPduShortSn, PdcpBearer.isData, hlen]
  | dataLongSn =>
    have ⟨header, hlen, hpack⟩ := pack_data sec htx rfl sdu
    have hsn : rx.cfg.snLen = 12 := hrx.snLen
    rw [hpack]
    simp only [PdcpBearer.snLenBytes] at hlen
    simp [unpackData, hsn, pdcpUnpackDataPduLongSn, PdcpBearer.isData, hlen]

theorem length_writeSdu_le_iff (htx : tx.Serves b) (hrx : rx.Serves b) (sdu : ByteBuffer)
    : (tx.writeSdu sec sdu).2.length ≤ rx.snLenBytes ↔ b.isData = true ∧ sdu = [] := by
  rw [writeSdu_snd, length_encrypt, hrx.snLenBytes]
  cases hb : b.isData with
  | false =>
    have hb' : b = .control := by
      cases b <;> simp_all [PdcpBearer.isData]
    subst hb'
    have ⟨header, mac, hpack⟩ := pack_control sec htx sdu
    rw [hpack]
    simp [PdcpBearer.snLenBytes, mac.property]
  | true =>
    have ⟨header, hlen, hpack⟩ := pack_data sec htx hb sdu
    have hle : b.snLenBytes + sdu.length ≤ b.snLenBytes ↔ sdu.length = 0 := by
      omega
    rw [hpack, length_append, hlen, hle, length_eq_zero_iff]
    simp

theorem decrypt_encrypt (h : Peers b tx rx)
    (hcount : rx.rxCount = tx.txCount) (pdu : ByteBuffer) (hlen : tx.snLenBytes ≤ pdu.length)
    : (rx.decrypt sec (tx.encrypt sec pdu).2).2 = pdu := by
  have hbytes : rx.snLenBytes = tx.snLenBytes := by rw [h.receiver.snLenBytes, h.sender.snLenBytes]
  unfold decrypt encrypt
  rw [h.doEncryption, hbytes]
  cases tx.doEncryption with
  | false => rfl
  | true =>
    have htake : (pdu.take tx.snLenBytes).length = tx.snLenBytes := by
      rw [length_take]
      omega
    simp only [↓reduceIte]
    rw [take_left' htake, drop_left' htake, h.cipherDecrypt_cipherEncrypt sec hcount]
    apply take_append_drop

theorem writePdu_writeSdu (h : Peers b tx rx)
    (hcount : rx.rxCount = tx.txCount) {sdu : ByteBuffer} (hsdu : b.isData = true → sdu ≠ [])
    : (rx.writePdu sec (tx.writeSdu sec sdu).2).2 = some (b.upper, sdu)
        ∧
      (rx.writePdu sec (tx.writeSdu sec sdu).2).1.rxCount = (tx.writeSdu sec sdu).1.txCount := by
  have hlen : ¬ (tx.writeSdu sec sdu).2.length ≤ rx.snLenBytes := by
    rw [length_writeSdu_le_iff sec h.sender h.receiver]
    intro hempty
    exact hsdu hempty.1 hempty.2
  constructor
  . have hpack : tx.snLenBytes ≤ (tx.pack sec sdu).length := by
      have hbytes : rx.snLenBytes = tx.snLenBytes := by
        rw [h.receiver.snLenBytes, h.sender.snLenBytes]
      rw [writeSdu_snd, length_encrypt] at hlen
      omega
    rw [writePdu_snd sec h.receiver hlen, writeSdu_snd, decrypt_encrypt sec h hcount _ hpack,
      unpack_pack sec h.sender h.receiver]
  . rw [writePdu_fst sec h.receiver hlen, writeSdu_fst, hcount]

def writeSdus (e : PdcpEntity) (sdus : List ByteBuffer) : List ByteBuffer :=
  match sdus with
  | [] => []
  | sdu :: sdus => (e.writeSdu sec sdu).2 :: (e.writeSdu sec sdu).1.writeSdus sdus

def writePdus (e : PdcpEntity) (pdus : List ByteBuffer) : List (PdcpUpper × ByteBuffer) :=
  match pdus with
  | [] => []
  | pdu :: pdus => (e.writePdu sec pdu).2.toList ++ (e.writePdu sec pdu).1.writePdus pdus

theorem length_writeSdus (e : PdcpEntity) (sdus : List ByteBuffer) : (e.writeSdus sec sdus).length = sdus.length := by
  induction sdus generalizing e with
  | nil => rfl
  | cons sdu sdus ih => simp [writeSdus, ih]

theorem writePdus_take {b : PdcpBearer} {tx rx : PdcpEntity} (h : Peers b tx rx) (hcount : rx.rxCount = tx.txCount)
    {sdus : List ByteBuffer} (hsdus : b.isData = true → ∀ sdu ∈ sdus, sdu ≠ []) (n : Nat)
    : rx.writePdus sec ((tx.writeSdus sec sdus).take n) = (sdus.take n).map fun sdu => (b.upper, sdu) := by
  induction sdus generalizing tx rx n with
  | nil => simp [writeSdus, writePdus]
  | cons sdu sdus ih =>
    cases n with
    | zero => rfl
    | succ n =>
      have hstep := writePdu_writeSdu sec h hcount fun hb => hsdus hb sdu mem_cons_self
      rw [writeSdus, take_succ_cons, writePdus, hstep.1, ih ((h.writeSdu sec sdu).writePdu sec _) hstep.2]
      . rfl
      . intro hb sdu' hmem
        exact hsdus hb sdu' (mem_cons_of_mem sdu hmem)

theorem writePdus_writeSdus {b : PdcpBearer} {tx rx : PdcpEntity} (h : Peers b tx rx)
    (hcount : rx.rxCount = tx.txCount) (sdus : List ByteBuffer)
    (hsdus : b.isData = true → ∀ sdu ∈ sdus, sdu ≠ [])
    : rx.writePdus sec (tx.writeSdus sec sdus) = sdus.map fun sdu => (b.upper, sdu) := by
  have htake := writePdus_take sec h hcount hsdus sdus.length
  rw [take_length, take_of_length_le (by rw [length_writeSdus])] at htake
  exact htake

def drb (direction : SecurityDirection) : PdcpEntity :=
  ((init 3 { direction, isData := true }).configSecurity (List.replicate 32 0)
    (List.replicate 32 0) .eea1 .eia1).enableEncryption

theorem serves_drb (direction : SecurityDirection) : (drb direction).Serves .dataLongSn := by
  constructor <;> rfl

theorem peers_drb : Peers .dataLongSn (drb .uplink) (drb .downlink) := by
  constructor
  . apply serves_drb
  . apply serves_drb
  . decide
  . rfl

def countSecurity : Security :=
  {
    eea1 := fun _ count _ _ _ => count.toUInt8
    eea2 := fun _ count _ _ _ => count.toUInt8
    eia1 := fun _ count _ _ _ => ⟨List.replicate 4 count.toUInt8, rfl⟩
    eia2 := fun _ count _ _ _ => ⟨List.replicate 4 count.toUInt8, rfl⟩
  }

theorem writePdus_writeSdus_two
    : (drb .downlink).writePdus countSecurity ((drb .uplink).writeSdus countSecurity [[1, 2], [3]])
        =
      [(.gw, [1, 2]), (.gw, [3])] := by
  exact writePdus_writeSdus countSecurity peers_drb rfl [[1, 2], [3]] (by decide)

theorem writePdus_empty_sdu
    : (drb .downlink).writePdus countSecurity ((drb .uplink).writeSdus countSecurity [[], [2]])
        =
      [(.gw, [3])] := by
  decide

def transfer (s : PdcpEntity × PdcpEntity) (e : ByteBuffer × Bool) : PdcpEntity × PdcpEntity :=
  let (tx, pdu) := s.1.writeSdu sec e.1
  (tx, if e.2 then (s.2.writePdu sec pdu).1 else s.2)

def missing (es : List (ByteBuffer × Bool)) : Nat :=
  es.countP fun e => !e.2 || e.1.isEmpty

theorem missing_concat (es : List (ByteBuffer × Bool)) (e : ByteBuffer × Bool)
    : missing (es ++ [e]) = missing es + if e.2 ∧ e.1 ≠ [] then 0 else 1 := by
  cases h : e.2 <;> by_cases hsdu : e.1 = [] <;> simp_all [missing]

theorem peers_transfer (h : Peers b s.1 s.2) (e : ByteBuffer × Bool)
    : Peers b (transfer sec s e).1 (transfer sec s e).2 := by
  unfold transfer
  cases e.2 with
  | false => exact h.writeSdu sec e.1
  | true => exact (h.writeSdu sec e.1).writePdu sec _

theorem counts_transfer (hb : b.isData = true) (h : Peers b s.1 s.2) (e : ByteBuffer × Bool)
    : (transfer sec s e).1.txCount = s.1.txCount + 1
        ∧
      (transfer sec s e).2.rxCount = s.2.rxCount + if e.2 ∧ e.1 ≠ [] then 1 else 0 := by
  have hlen := length_writeSdu_le_iff sec h.sender h.receiver e.1
  rw [hb] at hlen
  constructor
  . simp only [transfer, writeSdu_fst]
  . unfold transfer
    cases harrives : e.2 with
    | false => simp
    | true =>
      by_cases hsdu : e.1 = []
      . have hdrop := hlen.mpr ⟨rfl, hsdu⟩
        simp only [↓reduceIte, writePdu_of_length_le sec hdrop]
        simp [hsdu]
      . have hkeep : ¬ (s.1.writeSdu sec e.1).2.length ≤ s.2.snLenBytes := by
          intro hle
          exact hsdu (hlen.mp hle).2
        simp only [↓reduceIte, writePdu_fst sec h.receiver hkeep]
        simp [hsdu]

theorem rxCount_add_missing (hb : b.isData = true)
    (h : Peers b tx rx) (hcount : rx.rxCount = tx.txCount) (es : List (ByteBuffer × Bool))
    : Peers b (Trace.exec (transfer sec) (tx, rx) es).1 (Trace.exec (transfer sec) (tx, rx) es).2
        ∧
      (Trace.exec (transfer sec) (tx, rx) es).2.rxCount + UInt32.ofNat (missing es)
        = (Trace.exec (transfer sec) (tx, rx) es).1.txCount := by
  induction es using List.reverseRecOn with
  | nil =>
    constructor
    . exact h
    . simp [Trace.exec, missing, hcount]
  | append_singleton es e ih =>
    have hcounts := counts_transfer sec hb ih.1 e
    rw [Trace.exec_append, Trace.exec_cons, Trace.exec_nil]
    constructor
    . exact peers_transfer sec ih.1 e
    . rw [hcounts.1, hcounts.2, ← ih.2, missing_concat]
      split
      . rw [Nat.add_zero, UInt32.add_assoc, UInt32.add_comm 1, UInt32.add_assoc]
      . rw [UInt32.ofNat_add, UInt32.add_zero, UInt32.add_assoc]
        rfl

theorem doEncryption_exec (tx rx : PdcpEntity) (es : List (ByteBuffer × Bool))
    : (Trace.exec (transfer sec) (tx, rx) es).1.doEncryption = tx.doEncryption := by
  induction es using List.reverseRecOn with
  | nil => rfl
  | append_singleton es e ih =>
    rw [Trace.exec_append, Trace.exec_cons, Trace.exec_nil, ← ih]
    simp only [transfer, writeSdu_fst]

theorem count_eq_add_iff (count : UInt32) (n : Nat)
    : count = count + UInt32.ofNat n ↔ n % 2 ^ 32 = 0 := by
  have hzero : count = count + UInt32.ofNat n ↔ UInt32.ofNat n = 0 := by
    simp
  rw [hzero, ← UInt32.toNat_inj]
  simp

theorem deciphered_count_eq_iff {b : PdcpBearer} (hb : b.isData = true) {tx rx : PdcpEntity}
    (h : Peers b tx rx) (henc : tx.doEncryption = true) (hcount : rx.rxCount = tx.txCount)
    (es : List (ByteBuffer × Bool)) {sdu : ByteBuffer} (hsdu : sdu ≠ [])
    : ∃ count count' : UInt32,
        (Trace.exec (transfer sec) (tx, rx) (es ++ [(sdu, true)])).1.ciphered
          = (Trace.exec (transfer sec) (tx, rx) es).1.ciphered ++ [count]
          ∧
        (Trace.exec (transfer sec) (tx, rx) (es ++ [(sdu, true)])).2.deciphered
          = (Trace.exec (transfer sec) (tx, rx) es).2.deciphered ++ [count']
          ∧
        (count' = count ↔ missing es % 2 ^ 32 = 0) := by
  have hrun := rxCount_add_missing sec hb h hcount es
  generalize hs : Trace.exec (transfer sec) (tx, rx) es = s at hrun
  have henc' : s.1.doEncryption = true ∧ s.2.doEncryption = true := by
    have hkeep := doEncryption_exec sec tx rx es
    rw [hs, henc] at hkeep
    exact ⟨hkeep, by rw [hrun.1.doEncryption, hkeep]⟩
  have hkeep : ¬ (s.1.writeSdu sec sdu).2.length ≤ s.2.snLenBytes := by
    rw [length_writeSdu_le_iff sec hrun.1.sender hrun.1.receiver]
    intro hempty
    exact hsdu hempty.2
  refine ⟨s.1.txCount, s.2.rxCount, ?_, ?_, ?_⟩
  . rw [Trace.exec_append, Trace.exec_cons, Trace.exec_nil, hs]
    simp only [transfer, writeSdu_fst, henc'.1, ↓reduceIte]
  . rw [Trace.exec_append, Trace.exec_cons, Trace.exec_nil, hs]
    simp only [transfer, ↓reduceIte, writePdu_fst sec hrun.1.receiver hkeep, henc'.2]
  . rw [← hrun.2]
    exact count_eq_add_iff s.2.rxCount (missing es)

theorem deciphered_count_eq_iff_third
    : ∃ count count' : UInt32,
        (Trace.exec (transfer countSecurity) (drb .uplink, drb .downlink)
            ([([1], true), ([2], true)] ++ [([3], true)])).1.ciphered
          = [0, 1] ++ [count]
          ∧
        (Trace.exec (transfer countSecurity) (drb .uplink, drb .downlink)
            ([([1], true), ([2], true)] ++ [([3], true)])).2.deciphered
          = [0, 1] ++ [count']
          ∧
        (count' = count ↔ missing [([1], true), ([2], true)] % 2 ^ 32 = 0) := by
  exact deciphered_count_eq_iff countSecurity rfl peers_drb rfl rfl [([1], true), ([2], true)]
    (by decide)

theorem deciphered_count_after_loss
    : (Trace.exec (transfer countSecurity) (drb .uplink, drb .downlink)
          [([1], true), ([2], false), ([3], true)]).1.ciphered
        = [0, 1, 2]
        ∧
      (Trace.exec (transfer countSecurity) (drb .uplink, drb .downlink)
          [([1], true), ([2], false), ([3], true)]).2.deciphered
        = [0, 1] := by
  decide

def verified (e : PdcpEntity) (pdu : ByteBuffer) : Bool :=
  (e.decrypt sec pdu).1.macAccepted sec (e.decrypt sec pdu).2

def EnforcesIntegrity (e : PdcpEntity) (pdu : ByteBuffer) : Prop :=
  (∀ sdu, (e.writePdu sec pdu).2 = some (.rrc, sdu) → e.verified sec pdu = true)
    ∧
  (e.verified sec pdu = false → (e.writePdu sec pdu).1 = e)

theorem enforcesIntegrity_iff {e : PdcpEntity} (he : e.Serves .control)
    (_hintegrity : e.doIntegrity = true) (pdu : ByteBuffer)
    : e.EnforcesIntegrity sec pdu ↔ pdu.length ≤ e.snLenBytes ∨ e.verified sec pdu = true := by
  by_cases hlen : pdu.length ≤ e.snLenBytes
  . unfold EnforcesIntegrity
    rw [writePdu_of_length_le sec hlen]
    simp [hlen]
  . have hsnd := writePdu_snd sec he hlen
    constructor
    . intro h
      exact Or.inr (h.1 _ hsnd)
    . intro h
      have hverified := h.resolve_left hlen
      constructor
      . intro _ _
        exact hverified
      . intro hrejected
        rw [hverified] at hrejected
        contradiction

def srb (direction : SecurityDirection) : PdcpEntity :=
  ((init 1 { direction, isControl := true }).configSecurity (List.replicate 32 0)
    (List.replicate 32 0) .eea1 .eia1).enableIntegrity

theorem serves_srb (direction : SecurityDirection) : (srb direction).Serves .control := by
  constructor <;> rfl

theorem enforcesIntegrity_srb
    : (srb .uplink).EnforcesIntegrity countSecurity [0, 7, 0, 0, 0, 0]
        ↔
      [0, 7, 0, 0, 0, 0].length ≤ (srb .uplink).snLenBytes
        ∨ (srb .uplink).verified countSecurity [0, 7, 0, 0, 0, 0] = true := by
  exact enforcesIntegrity_iff countSecurity (serves_srb .uplink) rfl _

theorem not_enforcesIntegrity_forged
    : (srb .uplink).verified countSecurity [0, 7, 9, 9, 9, 9] = false
        ∧
      ((srb .uplink).writePdu countSecurity [0, 7, 9, 9, 9, 9]).2 = some (.rrc, [7])
        ∧
      ((srb .uplink).writePdu countSecurity [0, 7, 9, 9, 9, 9]).1.rxCount = 1 := by
  decide

def Configured (e : PdcpEntity) : Prop :=
  (e.cfg.isData → e.snLenBytes = if e.cfg.snLen = 12 then 2 else 1)
    ∧ (¬ e.cfg.isData → e.cfg.isControl → e.snLenBytes = 1)

theorem configured_init (lcid : UInt32) (cfg : SrsltePdcpConfig) : (init lcid cfg).Configured := by
  unfold Configured init
  cases cfg.isData <;> cases cfg.isControl <;> simp

def overhead (e : PdcpEntity) : Nat :=
  if e.cfg.isData then e.snLenBytes else if e.cfg.isControl then e.snLenBytes + 4 else 0

structure HandlesPdu (e : PdcpEntity) (pdu : ByteBuffer) : Prop where
  decrypt : ∀ n, (e.receivePdu sec pdu).2.decryptLen = some n → n ≤ pdu.length
  verify : ∀ n, (e.receivePdu sec pdu).2.verifyLen = some n → n ≤ pdu.length
  sdu : ∀ upper n sdu, (e.receivePdu sec pdu).2.sdu = some (upper, n, sdu) → n ≤ pdu.length ∧ sdu.length = n
  short : pdu.length < e.overhead → (e.receivePdu sec pdu).2.sdu = none

theorem length_decrypt (e : PdcpEntity) (pdu : ByteBuffer) : (e.decrypt sec pdu).2.length = pdu.length := by
  unfold decrypt
  split
  . simp only [cipherDecrypt, length_append, length_cipher, length_take, length_drop]
    omega
  . rfl

theorem length_unpackData (he : e.Configured) (hdata : e.cfg.isData) (hlt : pdu.length < 2 ^ 32)
    (hlen : ¬ pdu.length ≤ e.snLenBytes)
    : ((e.decrypt sec pdu).1.unpackData (e.decrypt sec pdu).2).length = u32Sub pdu.length e.snLenBytes := by
  have hcfg : (e.decrypt sec pdu).1.cfg = e.cfg := by
    unfold decrypt
    split <;> rfl
  rw [u32Sub_of_le (by omega) hlt, he.1 hdata]
  unfold unpackData
  rw [hcfg]
  split
  . rw [pdcpUnpackDataPduLongSn, length_drop, length_decrypt]
  . rw [pdcpUnpackDataPduShortSn, length_drop, length_decrypt]

theorem le_of_ite_eq_some {c : Prop} [Decidable c] {m n nBytes : Nat} (hle : m ≤ nBytes)
    (h : (if c then some m else none) = some n)
    : n ≤ nBytes := by
  rw [Option.ite_none_right_eq_some] at h
  cases h.2
  exact hle

section

variable {e : PdcpEntity} (he : e.Configured) {pdu : ByteBuffer} (hlt : pdu.length < 2 ^ 32)

theorem handlesPdu_of_short (hlen : pdu.length ≤ e.snLenBytes) : e.HandlesPdu sec pdu := by
  have heq : e.receivePdu sec pdu = (e, {}) := if_pos hlen
  constructor <;> simp [heq]

theorem u32Sub_snLenBytes_le (hlt : pdu.length < 2 ^ 32) (hlen : ¬ pdu.length ≤ e.snLenBytes)
    : u32Sub pdu.length e.snLenBytes ≤ pdu.length := by
  rw [u32Sub_of_le (by omega) hlt]
  exact Nat.sub_le _ _

include he hlt

theorem handlesPdu_of_data (hlen : ¬ pdu.length ≤ e.snLenBytes) (hdata : e.cfg.isData) : e.HandlesPdu sec pdu := by
  have hle := u32Sub_snLenBytes_le hlt hlen
  have hsdu := length_unpackData sec he hdata hlt hlen
  have hover : e.overhead = e.snLenBytes := if_pos hdata
  constructor
  all_goals simp only [receivePdu, hlen, hdata, ↓reduceIte, ← he.1 hdata]
  . exact fun n => le_of_ite_eq_some hle
  . simp
  . rintro _ _ _ ⟨⟩
    exact ⟨hle, hsdu⟩
  . omega

theorem handlesPdu_of_control (hdata : ¬ e.cfg.isData) (hcontrol : e.cfg.isControl) (hlong : 5 ≤ pdu.length)
    : e.HandlesPdu sec pdu := by
  have hsn := he.2 hdata hcontrol
  have hlen : ¬ pdu.length ≤ e.snLenBytes := by omega
  have hover : e.overhead = 5 := by
    unfold overhead
    simp [hdata, hcontrol, hsn]
  have hverify := u32Sub_of_le (b := 4) (by omega) hlt
  have hsdu : u32Sub (u32Sub pdu.length 1) 4 = pdu.length - 1 - 4 := by
    rw [u32Sub_of_le (b := 1) (by omega) hlt, u32Sub_of_le (by omega) (by omega)]
  constructor
  all_goals simp only [receivePdu, hlen, hdata, hcontrol, Bool.false_eq_true, ↓reduceIte]
  . exact fun n => le_of_ite_eq_some (u32Sub_snLenBytes_le hlt hlen)
  . rw [hverify]
    exact fun n => le_of_ite_eq_some (Nat.sub_le _ _)
  . rw [hsdu]
    rintro _ _ _ ⟨⟩
    rw [pdcpUnpackControlPdu, length_take, length_drop, length_decrypt]
    omega
  . omega

end

theorem handlesPdu_iff {e : PdcpEntity} (he : e.Configured) {pdu : ByteBuffer} (hlt : pdu.length < 2 ^ 32)
    : e.HandlesPdu sec pdu ↔ (e.cfg.isControl ∧ ¬ e.cfg.isData → pdu.length ≤ 1 ∨ 5 ≤ pdu.length) := by
  constructor
  . intro h hcontrol
    have hshort := h.short
    have hsn := he.2 hcontrol.2 hcontrol.1
    simp only [receivePdu, overhead, hcontrol, Bool.false_eq_true, ↓reduceIte, hsn] at hshort
    by_cases hlen : pdu.length ≤ 1
    . exact Or.inl hlen
    . rw [if_neg hlen] at hshort
      right
      by_contra hless
      cases hshort (by omega)
  . intro h
    by_cases hlen : pdu.length ≤ e.snLenBytes
    . exact handlesPdu_of_short sec hlen
    . by_cases hdata : e.cfg.isData
      . exact handlesPdu_of_data sec he hlt hlen hdata
      . by_cases hcontrol : e.cfg.isControl
        . have hsn := he.2 hdata hcontrol
          exact handlesPdu_of_control sec he hlt hdata hcontrol ((h ⟨hcontrol, hdata⟩).resolve_left (by omega))
        . constructor <;> simp [receivePdu, hlen, overhead, hdata, hcontrol]

theorem handlesPdu_srb
    : (srb .uplink).HandlesPdu countSecurity [0, 7, 0, 0, 0, 0]
        ↔
      ((srb .uplink).cfg.isControl ∧ ¬ (srb .uplink).cfg.isData →
        [0, 7, 0, 0, 0, 0].length ≤ 1 ∨ 5 ≤ [0, 7, 0, 0, 0, 0].length) := by
  exact handlesPdu_iff countSecurity (e := srb .uplink) (configured_init 1 { isControl := true }) (by decide)

theorem not_handlesPdu_four : ¬ (srb .uplink).HandlesPdu countSecurity [0, 7, 0, 0] := by
  intro h
  have hsdu := h.sdu .rrc (2 ^ 32 - 1) [] (by decide)
  exact absurd hsdu.1 (by decide)

end PdcpEntity

end SrsLte

import Mathlib.Algebra.Order.BigOperators.Group.List
import SrsLte.Rlc.Am.Lemmas.Deliver
import SrsLte.Rlc.Am.Lemmas.TxWindow

/-!
This module contains the fidelity of the data transfer.
-/

namespace SrsLte.RlcAm

open List

variable {s s' : RlcAm} {pdus : List (RlcAmdPduHeader × ByteBuffer)}
variable (cfg : SrslteRlcAmConfig) {n m : Nat} {pdu : RlcAmdPduHeader × ByteBuffer}

theorem RxPending.rxDist_mod (h : RxPending s) (hge : s.consumed.length ≤ n) (hlt : n < s.consumed.length + mod)
    : s.rxDist (n % mod) = n - s.consumed.length := by
  have hn : n % mod = (s.vrR + (n - s.consumed.length)) % mod := by
    rw [← h.consumed, Nat.mod_add_mod]
    congr 1
    omega
  rw [hn]
  exact Cyclic.dist_add_mod h.vrR (by omega)

def IsPdu (pdus : List (RlcAmdPduHeader × ByteBuffer)) (n : Nat) (pdu : RlcAmdRxPdu) : Prop :=
  pdus[n]? = some (pdu.header, pdu.buf) ∧ pdu.buf.length ≤ ByteBuffer.getTailroom []

structure Holds (pdus : List (RlcAmdPduHeader × ByteBuffer)) (s : RlcAm) : Prop extends RxInv s where
  history : ∀ n pdu, s.consumed[n]? = some pdu → IsPdu pdus n pdu
  window : ∀ sn pdu, s.rxWindow.lookup sn = some pdu → IsPdu pdus (s.consumed.length + s.rxDist sn) pdu

def Has (s : RlcAm) (n : Nat) : Prop :=
  n < s.consumed.length ∨ (s.consumed.length ≤ n ∧ n < s.consumed.length + rlcAmWindowSize ∧ n % mod ∈ s.rxWindow)

section Store

variable {header : RlcAmdPduHeader} {payload : List UInt8} {n k : Nat}
variable (h : Holds pdus s) (hsn : header.sn = n % mod) (hge : s.consumed.length ≤ n)
variable (hlt : n < s.consumed.length + rlcAmWindowSize)
variable (hk : Consumed { s with rxWindow := s.rxWindow.insert header.sn (s.rxPdu payload header) } k s')

include h hsn hge hlt

theorem Holds.lookup_insert (hpdu : pdus[n]? = some (header, payload))
    (hlen : payload.length ≤ ByteBuffer.getTailroom []) {sn : Nat} {pdu : RlcAmdRxPdu}
    (hlookup : Finmap.lookup sn (s.rxWindow.insert header.sn (s.rxPdu payload header)) = some pdu)
    : IsPdu pdus (s.consumed.length + s.rxDist sn) pdu := by
  rw [Map.lookup_insert_ite] at hlookup
  split at hlookup
  . next heq =>
    cases hlookup
    have hdist := h.rxDist_mod hge (by simp only [mod, rlcAmWindowSize] at *; omega)
    rw [heq, hsn, hdist, Nat.add_sub_cancel' hge]
    exact ⟨hpdu, hlen⟩
  . exact h.window sn pdu hlookup

include hk

theorem holds_store (hinv : RxInv s') (hpdu : pdus[n]? = some (header, payload))
    (hlen : payload.length ≤ ByteBuffer.getTailroom [])
    : Holds pdus s' := by
  have hinsert : ∀ sn pdu,
      Finmap.lookup sn (s.rxWindow.insert header.sn (s.rxPdu payload header)) = some pdu →
        IsPdu pdus (s.consumed.length + s.rxDist sn) pdu :=
    fun sn pdu hlookup => h.lookup_insert hsn hge hlt hpdu hlen hlookup
  have hle := hk.le
  refine { hinv with history := ?_, window := ?_ }
  . intro n' pdu hlookup
    rw [hk.history n'] at hlookup
    split at hlookup
    . exact h.history n' pdu hlookup
    . next hge' =>
      split at hlookup
      . next hlt' =>
        change n' < s.consumed.length + k at hlt'
        have hge' : s.consumed.length ≤ n' := Nat.le_of_not_lt hge'
        have hdist := h.rxDist_mod hge' (by simp only [mod, rlcAmWindowSize] at *; omega)
        have hpdu' := hinsert _ _ hlookup
        rw [hdist, Nat.add_sub_cancel' hge'] at hpdu'
        exact hpdu'
      . cases hlookup
  . intro sn pdu hlookup
    have hmem : sn ∈ s'.rxWindow := Finmap.lookup_isSome.mp (by rw [hlookup]; rfl)
    rw [hk.lookup] at hlookup
    split at hlookup
    . cases hlookup
    . next hge' =>
      rw [hk.unwrapped h.vrR (hinv.keys sn hmem).1 (Nat.le_of_not_lt hge')]
      exact hinsert _ _ hlookup

theorem has_store_iff (m : Nat) : Has s' m ↔ Has s m ∨ m = n := by
  have hle := hk.le
  have hlength : s'.consumed.length = s.consumed.length + k := hk.length
  have hwindow := fun sn => hk.mem_iff sn
  simp only [Finmap.mem_insert] at hwindow
  have hsame : ∀ m, s.consumed.length ≤ m → m < s.consumed.length + mod → (m % mod = header.sn ↔ m = n) := by
    intro m hgem hltm
    have hm := h.rxDist_mod hgem hltm
    have hn := h.rxDist_mod hge (by simp only [mod, rlcAmWindowSize] at *; omega)
    constructor
    . intro heq
      rw [heq, hsn] at hm
      omega
    . intro heq
      rw [heq, hsn]
  unfold Has
  rw [hlength]
  by_cases hltc : m < s.consumed.length
  . simp only [hltc, true_or, iff_true]
    left
    omega
  . have hgem : s.consumed.length ≤ m := Nat.le_of_not_lt hltc
    by_cases hltm : m < s.consumed.length + mod
    . have hdist := h.rxDist_mod hgem hltm
      have hmem := hk.mem (m % mod) (Nat.mod_lt _ (by decide))
      change s.rxDist (m % mod) < k → m % mod ∈ s.rxWindow.insert _ _ at hmem
      have hw := hwindow (m % mod)
      change m % mod ∈ s'.rxWindow ↔ k ≤ s.rxDist (m % mod) ∧ _ at hw
      have hkeys := fun hkey => (h.keys (m % mod) hkey).2
      have hvrH := h.vrH_le
      rw [Finmap.mem_insert, hsame m hgem hltm, hdist] at hmem
      rw [hw, hsame m hgem hltm, hdist]
      rw [hdist] at hkeys
      constructor
      . rintro (hm | ⟨_, _, _, hm⟩)
        . cases hmem (by omega) with
          | inl heq => exact Or.inr heq
          | inr hold => exact Or.inl (Or.inr ⟨hgem, by omega, hold⟩)
        . cases hm with
          | inl heq => exact Or.inr heq
          | inr hold =>
            have := hkeys hold
            exact Or.inl (Or.inr ⟨hgem, by omega, hold⟩)
      . intro hm
        by_cases hkm : m < s.consumed.length + k
        . exact Or.inl hkm
        . right
          rcases hm with (hm | ⟨_, _, hold⟩) | heq
          . omega
          . exact ⟨by omega, by omega, by omega, Or.inr hold⟩
          . exact ⟨by omega, by omega, by omega, Or.inl heq⟩
    . simp only [mod, rlcAmWindowSize] at *
      omega

end Store

theorem writePdu_built (h : Built maxSdu maxGrant n pdu) (hmax : maxSdu < 2048) (s : RlcAm)
    : s.writePdu (rlcAmWriteDataPduHeader pdu.1 ++ pdu.2) = s.handleDataPdu pdu.2 pdu.1 := by
  have hfits := h.fits hmax
  have hlen : ¬ (rlcAmWriteDataPduHeader pdu.1 ++ pdu.2).length < 1 := by
    have := h.sum
    rw [length_append]
    omega
  unfold writePdu
  rw [if_neg hlen, rlcAmIsControlPdu_write _ _ hfits.dc, rlcAmReadDataPduHeader_write _ _ hfits]
  simp [h.rf]

structure Received (pdus : List (RlcAmdPduHeader × ByteBuffer)) (arrivals : List Nat) (s : RlcAm) : Prop
    extends Holds pdus s where
  delivered : Delivered s
  has_iff : ∀ n, Has s n ↔
    n ∈ arrivals ∧ ∃ pdu, pdus[n]? = some pdu ∧ pdu.2.length ≤ ByteBuffer.getTailroom []

variable {arrivals : List Nat}

section

variable (h : Received pdus arrivals s)

include h

theorem Received.poll (doStatus : Bool)
    : Received pdus arrivals { s with doStatus } :=
  { h with toRxInv := .congr (s := s) rfl h.toRxInv }

theorem Received.discard
    (hhas : Has s n ↔ ∃ pdu, pdus[n]? = some pdu ∧ pdu.2.length ≤ ByteBuffer.getTailroom [])
    : Received pdus (arrivals ++ [n]) s := by
  refine { h.toHolds with delivered := h.delivered, has_iff := ?_ }
  intro m
  rw [mem_append, mem_singleton]
  by_cases hm : m = n
  . rw [hm, hhas]
    simp
  . rw [h.has_iff]
    simp [hm]

theorem received_handleDataPdu
    (hpdu : pdus[n]? = some pdu) (hsn : pdu.1.sn = n % mod) (hbehind : s.consumed.length ≤ n + rlcAmWindowSize)
    (hahead : n < s.consumed.length + rlcAmWindowSize)
    : Received pdus (arrivals ++ [n]) (s.handleDataPdu pdu.2 pdu.1) := by
  have hsn' : pdu.1.sn < mod := by
    rw [hsn]
    exact Nat.mod_lt _ (by decide)
  have hfits : Has s n → ∃ pdu, pdus[n]? = some pdu ∧ pdu.2.length ≤ ByteBuffer.getTailroom [] :=
    fun hhas => ((h.has_iff n).mp hhas).2
  by_cases hacc : s.Accepts pdu.2 pdu.1
  . have hin := (h.insideRxWindow_iff hsn').mp hacc.1
    have hge : s.consumed.length ≤ n := by
      by_contra hlt
      have hdist := h.rxDist_mod (n := n + mod)
        (by simp only [mod, rlcAmWindowSize] at *; omega) (by omega)
      rw [Nat.add_mod_right, ← hsn] at hdist
      simp only [mod, rlcAmWindowSize] at *
      omega
    obtain ⟨k, hk⟩ := consumed_handleDataPdu h.toRxInv hsn' hacc
    have hinv := (rxInv_handleDataPdu h.toRxInv pdu.2 hsn').1
    refine {
      holds_store h.toHolds hsn hge hahead hk hinv hpdu hacc.2.2 with
      delivered := delivered_handleDataPdu h.delivered pdu.2 pdu.1
      has_iff := ?_
    }
    intro m
    rw [has_store_iff h.toHolds hsn hge hahead hk, h.has_iff, mem_append, mem_singleton]
    by_cases hm : m = n
    . simp [hm, hpdu, hacc.2.2]
    . simp [hm]
  . obtain ⟨doStatus, heq⟩ := handleDataPdu_of_not_accepts hacc
    rw [heq]
    apply (h.discard _).poll
    constructor
    . exact hfits
    . rintro ⟨pdu', hpdu', hlen⟩
      rw [hpdu] at hpdu'
      cases hpdu'
      by_contra hhas
      apply hacc
      have hge : s.consumed.length ≤ n := Nat.le_of_not_lt (fun hlt => hhas (Or.inl hlt))
      refine ⟨?_, ?_, hlen⟩
      . rw [h.insideRxWindow_iff hsn', hsn,
          h.rxDist_mod hge (by simp only [mod, rlcAmWindowSize] at *; omega)]
        omega
      . rw [hsn]
        exact fun hmem => hhas (Or.inr ⟨hge, hahead, hmem⟩)

end

inductive TxOp where
  | writeSdu (sdu : ByteBuffer)
  | buildDataPdu (nofBytes : Nat)
  | writePdu (payload : List UInt8)

def transmit (st : RlcAm × List (List UInt8)) (op : TxOp) : RlcAm × List (List UInt8) :=
  match op with
  | .writeSdu sdu => (st.1.writeSdu sdu, st.2)
  | .buildDataPdu nofBytes =>
    let (s, ret, payload) := st.1.buildDataPdu nofBytes
    (s, if ret > 0 then st.2 ++ [payload] else st.2)
  | .writePdu payload => (st.1.writePdu payload, st.2)

def TxOp.sdu (op : TxOp) : Option ByteBuffer :=
  match op with
  | .writeSdu sdu => some sdu
  | _ => none

def TxOp.grant (op : TxOp) : Nat :=
  match op with
  | .buildDataPdu nofBytes => nofBytes
  | _ => 0

def written (ops : List TxOp) : List ByteBuffer :=
  ops.filterMap TxOp.sdu

def sender (cfg : SrslteRlcAmConfig) (ops : List TxOp) : RlcAm × List (List UInt8) :=
  Trace.exec transmit (init cfg, []) ops

def receive (sent : List (List UInt8)) (s : RlcAm) (n : Nat) : RlcAm :=
  s.writePdu (sent.getD n [])

def pduBytes (pdu : RlcAmdPduHeader × ByteBuffer) : List UInt8 :=
  rlcAmWriteDataPduHeader pdu.1 ++ pdu.2

theorem txFramed_init (maxSdu maxGrant : Nat)
    : TxFramed maxSdu maxGrant [] (init cfg) where
  txEnabled := rfl
  vtS := by simp [init]
  sdus := by simp
  open_sdu := by simp [init]
  no_sdu := by simp [init, carried]
  splits := by
    intro m
    refine ⟨[], ?_, ?_⟩ <;> simp [init, carried]
  pdus := by simp [init]

variable {maxSdu maxGrant : Nat} {sdus : List ByteBuffer}

theorem txFramed_writePdu (h : TxFramed maxSdu maxGrant sdus s) (payload : List UInt8)
    : TxFramed maxSdu maxGrant sdus (s.writePdu payload)
        ∧ (s.writePdu payload).numbered = s.numbered := by
  cases s.writePdu_cases payload with
  | inl hsame =>
    have hnumbered := congrArg TxPart.numbered hsame
    exact ⟨h.congr (congrArg TxPart.txEnabled hsame) (congrArg TxPart.vtS hsame) (congrArg TxPart.txSdu hsame)
      (congrArg TxPart.txSduQueue hsame) hnumbered, hnumbered⟩
  | inr hcontrol =>
    have ⟨status, _, heq⟩ := hcontrol
    have ⟨_, _, _, _, _, hframe⟩ := s.handleStatus_frame status
    rw [heq, hframe]
    exact ⟨h.congr rfl rfl rfl rfl rfl, rfl⟩

open buildDataPdu in
theorem buildDataPdu_numbered (s : RlcAm) (nofBytes : Nat)
    : (s.buildDataPdu nofBytes).1.numbered = s.numbered ∧ (s.buildDataPdu nofBytes).2 = (0, [])
        ∨ ∃ pdu, (s.buildDataPdu nofBytes).1.numbered = s.numbered ++ [pdu]
          ∧ (s.buildDataPdu nofBytes).2 = (((pduBytes pdu).length : Int), pduBytes pdu) := by
  cases s.buildDataPdu_cases nofBytes with
  | inl hsame =>
    left
    rw [hsame.1]
    exact ⟨rfl, rfl⟩
  | inr hbuild =>
    rw [hbuild.2.2]
    dsimp only
    split
    . exact Or.inl ⟨rfl, rfl⟩
    . right
      exact ⟨_, number_numbered _ _ _, number_payload _ _ _⟩

theorem transmit_buildDataPdu (s : RlcAm) (sent : List (List UInt8)) (nofBytes : Nat)
    (h : sent = s.numbered.map pduBytes)
    : (transmit (s, sent) (.buildDataPdu nofBytes)).2 = (s.buildDataPdu nofBytes).1.numbered.map pduBytes := by
  show (if (s.buildDataPdu nofBytes).2.1 > 0 then sent ++ [(s.buildDataPdu nofBytes).2.2] else sent) = _
  cases s.buildDataPdu_numbered nofBytes with
  | inl hsame =>
    rw [hsame.1, hsame.2]
    exact h
  | inr hbuild =>
    have ⟨pdu, hnumbered, hret⟩ := hbuild
    have hpos : (0 : Int) < ((pduBytes pdu).length : Int) := by
      unfold pduBytes rlcAmWriteDataPduHeader
      simp
      omega
    rw [hret, hnumbered, map_append, ← h]
    exact if_pos hpos

theorem sender_append (ops : List TxOp) (op : TxOp)
    : sender cfg (ops ++ [op]) = transmit (sender cfg ops) op := by
  unfold sender
  rw [Trace.exec_append]
  rfl

theorem txFramed_sender {ops : List TxOp}
    (hsdus : ∀ sdu ∈ written ops, sdu ≠ [] ∧ sdu.length ≤ maxSdu) (hgrants : ∀ op ∈ ops, op.grant ≤ maxGrant)
    : TxFramed maxSdu maxGrant (written ops) (sender cfg ops).1
        ∧ (sender cfg ops).2 = (sender cfg ops).1.numbered.map pduBytes := by
  induction ops using List.reverseRecOn with
  | nil => exact ⟨txFramed_init cfg maxSdu maxGrant, rfl⟩
  | append_singleton ops op ih =>
    have hwritten : written (ops ++ [op]) = written ops ++ op.sdu.toList := by
      unfold written
      rw [filterMap_append]
      cases op <;> rfl
    rw [hwritten] at hsdus
    have ⟨hframed, hsent⟩ := ih
      (fun sdu hsdu => hsdus sdu (mem_append_left _ hsdu))
      (fun op' hop' => hgrants op' (mem_append_left _ hop'))
    rw [sender_append, hwritten]
    generalize sender cfg ops = st at *
    cases op with
    | writeSdu sdu =>
      have hsdu := hsdus sdu (by simp [TxOp.sdu])
      refine ⟨txFramed_writeSdu hframed hsdu.1 hsdu.2, ?_⟩
      show st.2 = (st.1.writeSdu sdu).numbered.map pduBytes
      rw [hsent]
      unfold writeSdu
      split <;> rfl
    | buildDataPdu nofBytes =>
      have hgrant := hgrants (.buildDataPdu nofBytes) (by simp)
      rw [show TxOp.sdu (.buildDataPdu nofBytes) = none from rfl, Option.toList_none, append_nil]
      exact ⟨txFramed_buildDataPdu hframed hgrant, transmit_buildDataPdu st.1 st.2 nofBytes hsent⟩
    | writePdu payload =>
      have ⟨hframed', hnumbered⟩ := txFramed_writePdu hframed payload
      rw [show TxOp.sdu (.writePdu payload) = none from rfl, Option.toList_none, append_nil]
      refine ⟨hframed', ?_⟩
      show st.2 = (st.1.writePdu payload).numbered.map pduBytes
      rw [hnumbered, hsent]

theorem received_init (pdus : List (RlcAmdPduHeader × ByteBuffer))
    : Received pdus [] (init cfg) where
  toRxInv := (rxStored_init cfg).toRxInv
  history := by simp [init]
  window := by
    intro sn pdu hlookup
    cases hlookup
  delivered := rfl
  has_iff := by
    intro n
    unfold Has
    simp only [not_mem_nil, false_and, iff_false, not_or]
    exact ⟨Nat.not_lt_zero n, fun h => Finmap.notMem_empty h.2.2⟩

def Near (sent : List (List UInt8)) (behind ahead : Nat) (s : RlcAm) (n : Nat) : Prop :=
  n < sent.length ∧ s.consumed.length ≤ n + behind ∧ n < s.consumed.length + ahead

instance (sent : List (List UInt8)) (behind ahead : Nat) (s : RlcAm) (n : Nat)
    : Decidable (Near sent behind ahead s n) := by
  unfold Near
  infer_instance

section Run

variable (hbuilt : ∀ n pdu, pdus[n]? = some pdu → Built maxSdu maxGrant n pdu) (hmax : maxSdu < 2048)

include hbuilt hmax

theorem received_receive (h : Received pdus arrivals s) {n : Nat}
    (hnear : Near (pdus.map pduBytes) rlcAmWindowSize rlcAmWindowSize s n)
    : Received pdus (arrivals ++ [n]) (receive (pdus.map pduBytes) s n) := by
  have ⟨hn, hbehind, hahead⟩ := hnear
  rw [length_map] at hn
  have hpdu : pdus[n]? = some (pdus.get ⟨n, hn⟩) := by simp [hn]
  generalize pdus.get ⟨n, hn⟩ = pdu at hpdu
  have hbytes : (pdus.map pduBytes).getD n [] = pduBytes pdu := by
    rw [getD_eq_getElem?_getD, getElem?_map, hpdu]
    rfl
  unfold receive
  rw [hbytes]
  have hwrite : s.writePdu (pduBytes pdu) = s.handleDataPdu pdu.2 pdu.1 :=
    writePdu_built (hbuilt n pdu hpdu) hmax s
  rw [hwrite]
  exact received_handleDataPdu h hpdu (hbuilt n pdu hpdu).sn hbehind hahead

theorem received_exec {more : List Nat} (h : Received pdus arrivals s)
    (hmore : Trace.Along (receive (pdus.map pduBytes))
      (Near (pdus.map pduBytes) rlcAmWindowSize rlcAmWindowSize) s more)
    : Received pdus (arrivals ++ more) (Trace.exec (receive (pdus.map pduBytes)) s more) := by
  induction more generalizing s arrivals with
  | nil =>
    rw [append_nil]
    exact h
  | cons n more ih =>
    have hnext := ih (received_receive hbuilt hmax h hmore.1) hmore.2
    rw [append_assoc] at hnext
    exact hnext

end Run

open reassembleRxSdus in
theorem Received.carried_eq (h : Received pdus arrivals s)
    (hbuilt : ∀ n pdu, pdus[n]? = some pdu → Built maxSdu maxGrant n pdu) (hmax : maxSdu < 2048)
    (hsdus : ∀ sdu ∈ sdus, sdu.length ≤ maxSdu) (hsplits : ∀ m, Framing.Splits sdus (carried (pdus.take m)))
    : (s.pdcp, s.rxSdu.getD []) = carried (pdus.take s.consumed.length) := by
  have hroom : maxSdu ≤ ByteBuffer.getTailroom [] := by
    have : ByteBuffer.getTailroom [] = 11736 := rfl
    omega
  have hsmall : ∀ m, Small (carried (pdus.take m)) := by
    intro m
    constructor
    . intro sdu hsdu
      exact Nat.le_trans (hsdus sdu ((hsplits m).isPrefix.subset hsdu)) hroom
    . exact Nat.le_trans ((hsplits m).length_le hsdus) hroom
  have hprefix : ∀ m ≤ s.consumed.length,
      (s.consumed.take m).foldl deliver ([], []) = carried (pdus.take m) := by
    intro m hm
    induction m with
    | zero => rfl
    | succ m ih =>
      obtain ⟨pdu, hpdu⟩ : ∃ pdu, s.consumed[m]? = some pdu := by
        rw [getElem?_eq_getElem (by omega)]
        exact ⟨_, rfl⟩
      have ⟨hpdu', hlen⟩ := h.history m pdu hpdu
      have hpdubuilt := hbuilt m _ hpdu'
      have htake : pdus.take (m + 1) = pdus.take m ++ [(pdu.header, pdu.buf)] := by
        rw [take_add_one, hpdu']
        rfl
      have hnext := hsmall (m + 1)
      rw [htake, carried_append] at hnext ⊢
      rw [take_add_one, hpdu, Option.toList_some, foldl_append, ih (by omega)]
      exact deliver_eq hlen (fun l hl => (hpdubuilt.li l hl).1) hpdubuilt.sum hnext
  have hall := hprefix s.consumed.length (Nat.le_refl _)
  rw [take_length] at hall
  rw [← hall]
  exact h.delivered

theorem Received.pdcp_eq (h : Received pdus arrivals s)
    (hbuilt : ∀ n pdu, pdus[n]? = some pdu → Built maxSdu maxGrant n pdu) (hmax : maxSdu < 2048)
    (hsdus : ∀ sdu ∈ sdus, sdu.length ≤ maxSdu) (hsplits : ∀ m, Framing.Splits sdus (carried (pdus.take m)))
    : s.pdcp = (carried (pdus.take s.consumed.length)).1 :=
  congrArg Prod.fst (h.carried_eq hbuilt hmax hsdus hsplits)

theorem length_carried (pdus : List (RlcAmdPduHeader × ByteBuffer))
    : ((carried pdus).1.flatten ++ (carried pdus).2).length = (pdus.map (fun pdu => pdu.2.length)).sum := by
  unfold carried
  rw [Framing.flatten_foldl_feed]
  induction pdus with
  | nil => rfl
  | cons pdu pdus ih =>
    rw [flatMap_cons, map_append, flatten_append, map_cons, sum_cons, ← ih]
    have hpdu : ((pieces pdu).map Prod.fst).flatten = pdu.2 := Framing.flatten_cut _ _ _
    rw [hpdu]
    simp

theorem sum_take_le (lengths : List Nat) (h : m ≤ n) : (lengths.take m).sum ≤ (lengths.take n).sum := by
  have hsplit := congrArg List.sum (take_append_drop m (lengths.take n))
  rw [sum_append, take_take, Nat.min_eq_left h] at hsplit
  omega

theorem Received.le_consumed (h : Received pdus arrivals s) (hhas : ∀ n < m, Has s n)
    : m ≤ s.consumed.length := by
  by_contra hlt
  cases hhas s.consumed.length (by omega) with
  | inl hconsumed => omega
  | inr hwindow =>
    have hmem := hwindow.2.2
    rw [h.consumed] at hmem
    exact h.vrR_not_mem hmem

def EndsWithin (cfg : SrslteRlcAmConfig) (ops : List TxOp) (m i : Nat) : Prop :=
  i < (written ops).length
    ∧ ((written ops).take (i + 1)).flatten.length
        ≤ (((sender cfg ops).1.numbered.take m).map (fun pdu => pdu.2.length)).sum

theorem pdcp_isPrefix_written (cfg cfg' : SrslteRlcAmConfig) (ops : List TxOp)
    (hsdus : ∀ sdu ∈ written ops, 1 ≤ sdu.length ∧ sdu.length ≤ 2047) (arrivals : List Nat)
    (harrivals : Trace.Along (receive (sender cfg ops).2) (Near (sender cfg ops).2 512 512) (init cfg') arrivals)
    : (Trace.exec (receive (sender cfg ops).2) (init cfg') arrivals).pdcp <+: written ops
        ∧ ∀ m i, (∀ n < m, n ∈ arrivals) →
          (∀ pdu ∈ (sender cfg ops).1.numbered.take m, pdu.2.length ≤ ByteBuffer.getTailroom []) →
            EndsWithin cfg ops m i →
              i < (Trace.exec (receive (sender cfg ops).2) (init cfg') arrivals).pdcp.length := by
  have hsdus' : ∀ sdu ∈ written ops, sdu ≠ [] ∧ sdu.length ≤ 2047 := by
    intro sdu hsdu
    exact ⟨length_pos_iff.mp (hsdus sdu hsdu).1, (hsdus sdu hsdu).2⟩
  have hgrants : ∀ op ∈ ops, op.grant ≤ (ops.map TxOp.grant).sum :=
    fun op hop => single_le_sum (fun _ _ => Nat.zero_le _) _ (mem_map_of_mem hop)
  have ⟨hframed, hsent⟩ := txFramed_sender cfg hsdus' hgrants
  have hbuilt := hframed.pdus
  have hsplits := hframed.splits
  clear hframed
  unfold EndsWithin
  generalize (sender cfg ops).1.numbered = pdus at *
  rw [hsent] at harrivals ⊢
  have hreceived := received_exec hbuilt (by decide) (received_init cfg' _) harrivals
  rw [nil_append] at hreceived
  generalize Trace.exec (receive (pdus.map pduBytes)) (init cfg') arrivals = peer at *
  rw [hreceived.pdcp_eq hbuilt (by decide) (fun sdu hsdu => (hsdus sdu hsdu).2) hsplits]
  constructor
  . exact (hsplits _).isPrefix
  . intro m i hall hfit hends
    have hm : m ≤ peer.consumed.length := by
      apply hreceived.le_consumed
      intro n hn
      rw [hreceived.has_iff]
      have ⟨_, hlt, _⟩ := harrivals.exists_of_mem (hall n hn)
      rw [length_map] at hlt
      refine ⟨hall n hn, pdus.get ⟨n, hlt⟩, by simp [hlt], ?_⟩
      apply hfit
      rw [mem_take_iff_getElem]
      exact ⟨n, by omega, rfl⟩
    apply (hsplits _).lt_length (fun sdu hsdu => (hsdus' sdu hsdu).1) hends.1
    rw [length_carried, map_take]
    have hbytes := hends.2
    rw [map_take] at hbytes
    exact Nat.le_trans hbytes (sum_take_le _ hm)

theorem pdcp_isPrefix_written_two
    : (Trace.exec (receive (sender basicTestConfig
        [.writeSdu [1, 2], .buildDataPdu 10, .writeSdu [3], .buildDataPdu 10]).2) (init basicTestConfig)
          [1, 0]).pdcp <+: [[1, 2], [3]] :=
  (pdcp_isPrefix_written basicTestConfig basicTestConfig
    [.writeSdu [1, 2], .buildDataPdu 10, .writeSdu [3], .buildDataPdu 10]
    (by simp [written, TxOp.sdu]) [1, 0] ⟨by decide, by decide, trivial⟩).1

def longSdu : List TxOp :=
  [.writeSdu (List.replicate 1027 0), .buildDataPdu 5] ++ List.replicate 511 (.buildDataPdu 4)

theorem sending_replicate {sdu : ByteBuffer} (hsdu : sdu.length = 1027) (n : Nat) (hn : n ≤ 512)
    : Sending 1027 (n + 1) (1024 - 2 * n)
        (sender cfg ([.writeSdu sdu, .buildDataPdu 5] ++ List.replicate n (.buildDataPdu 4))).1 := by
  induction n with
  | zero =>
    have hstart : Sending 1027 0 1027 ((init cfg).writeSdu sdu) :=
      ⟨rfl, rfl, fun _ => ⟨sdu, hsdu, .inr ⟨rfl, rfl, rfl⟩⟩⟩
    exact hstart.buildDataPdu (show 3 < 5 by decide) (by decide)
  | succ n ih =>
    have hnext := (ih (by omega)).buildDataPdu (show 3 < 4 by decide) (by omega)
    rw [replicate_succ', ← append_assoc, sender_append]
    exact hnext

theorem sending_longSdu : Sending 1027 513 0 (sender cfg (longSdu ++ [.buildDataPdu 4])).1 := by
  have hlast : List.replicate 511 (TxOp.buildDataPdu 4) ++ [.buildDataPdu 4] = List.replicate 512 (.buildDataPdu 4) :=
    replicate_succ'.symm
  unfold longSdu
  rw [append_assoc, hlast]
  exact sending_replicate cfg length_replicate 512 (Nat.le_refl _)

theorem carried_eq_nil {sdu : ByteBuffer} (h : Framing.Splits [sdu] (carried pdus))
    (hlt : (pdus.map fun pdu => pdu.2.length).sum < sdu.length)
    : (carried pdus).1 = [] := by
  cases hfirst : (carried pdus).1 with
  | nil => rfl
  | cons first rest =>
    have hprefix := h.isPrefix
    rw [hfirst, cons_prefix_cons] at hprefix
    rw [← length_carried, hfirst, flatten_cons, hprefix.1, length_append, length_append] at hlt
    omega

theorem near_of_lt (h : Received pdus arrivals s) (hlen : pdus.length = 513) (harrivals : ∀ n ∈ arrivals, n < 512)
    (hn : n < 512)
    : s.consumed.length ≤ 512 ∧ Near (pdus.map pduBytes) 512 512 s n := by
  have hconsumed : s.consumed.length ≤ 512 := by
    by_contra hlt
    have hmem := ((h.has_iff 512).mp (Or.inl (by omega))).1
    have := harrivals 512 hmem
    omega
  refine ⟨hconsumed, ?_, by omega, by omega⟩
  rw [length_map, hlen]
  omega

theorem along_of_lt (hbuilt : ∀ n pdu, pdus[n]? = some pdu → Built maxSdu maxGrant n pdu) (hmax : maxSdu < 2048)
    (hlen : pdus.length = 513) {more : List Nat} (h : Received pdus arrivals s)
    (harrivals : ∀ n ∈ arrivals, n < 512) (hmore : ∀ n ∈ more, n < 512)
    : Trace.Along (receive (pdus.map pduBytes)) (Near (pdus.map pduBytes) 512 512) s more := by
  induction more generalizing s arrivals with
  | nil => trivial
  | cons n more ih =>
    have hn := hmore n mem_cons_self
    have hnear := (near_of_lt h hlen harrivals hn).2
    refine ⟨hnear, ih (received_receive hbuilt hmax h hnear) ?_ ?_⟩
    . intro m hm
      rw [mem_append, mem_singleton] at hm
      cases hm with
      | inl hold => exact harrivals m hold
      | inr heq =>
        rw [heq]
        exact hn
    . intro m hm
      exact hmore m (mem_cons_of_mem _ hm)

theorem written_longSdu : written (longSdu ++ [.buildDataPdu 4]) = [List.replicate 1027 0] := by
  unfold longSdu written
  rw [filterMap_append, filterMap_append, filterMap_replicate]
  rfl

theorem txFramed_longSdu
    : TxFramed 2047 5 [List.replicate 1027 0] (sender cfg (longSdu ++ [.buildDataPdu 4])).1
        ∧ (sender cfg (longSdu ++ [.buildDataPdu 4])).2
            =
          (sender cfg (longSdu ++ [.buildDataPdu 4])).1.numbered.map pduBytes := by
  rw [← written_longSdu]
  apply txFramed_sender
  . rw [written_longSdu]
    intro sdu hsdu
    rw [mem_singleton.mp hsdu, ← length_pos_iff, length_replicate]
    decide
  . intro op hop
    simp only [longSdu, mem_append, mem_cons, mem_replicate, not_mem_nil, or_false] at hop
    rcases hop with ((rfl | rfl) | ⟨_, rfl⟩) | rfl <;> decide

theorem receive_window_edge (hbuilt : ∀ n pdu, pdus[n]? = some pdu → Built maxSdu maxGrant n pdu) (hmax : maxSdu < 2048)
    (hlen : 512 < pdus.length)
    : ∃ doStatus, receive (pdus.map pduBytes) (init cfg) 512 = { init cfg with doStatus } := by
  have hpdu : pdus[512]? = some (pdus.get ⟨512, hlen⟩) := by simp [hlen]
  generalize pdus.get ⟨512, hlen⟩ = pdu at hpdu
  have hinv := (rxStored_init cfg).toRxInv
  have hsn := (hbuilt 512 pdu hpdu).sn
  have hreceive : receive (pdus.map pduBytes) (init cfg) 512 = (init cfg).handleDataPdu pdu.2 pdu.1 := by
    unfold receive
    rw [getD_eq_getElem?_getD, getElem?_map, hpdu]
    exact writePdu_built (hbuilt 512 pdu hpdu) hmax (init cfg)
  rw [hreceive]
  apply handleDataPdu_of_not_accepts
  rintro ⟨hin, _⟩
  have hdist := hinv.rxDist_mod (Nat.zero_le 512) (by show 512 < 0 + mod; decide)
  rw [hinv.insideRxWindow_iff (by rw [hsn]; decide), hsn, hdist] at hin
  exact absurd hin (Nat.lt_irrefl 512)

def sixSdus : List TxOp :=
  List.replicate 6 (.writeSdu (List.replicate 2047 0)) ++ [.buildDataPdu 12300]

-- the PDU carries 12282 bytes, the peer has room for 11736
theorem pdcp_sixSdus
    : EndsWithin basicTestConfig sixSdus 1 5
        ∧ (Trace.exec (receive (sender basicTestConfig sixSdus).2) (init basicTestConfig) [0]).pdcp = [] := by
  unfold EndsWithin
  decide +kernel

theorem not_delivered_window_edge
    : (EndsWithin basicTestConfig sixSdus 1 5
          ∧ (Trace.exec (receive (sender basicTestConfig sixSdus).2) (init basicTestConfig) [0]).pdcp = [])
        ∧ Trace.Along (receive (sender basicTestConfig (longSdu ++ [.buildDataPdu 4])).2)
          (Near (sender basicTestConfig (longSdu ++ [.buildDataPdu 4])).2 512 513)
          (init basicTestConfig) (512 :: List.range 512)
        ∧ (∀ n < 513, n ∈ 512 :: List.range 512)
        ∧ EndsWithin basicTestConfig (longSdu ++ [.buildDataPdu 4]) 513 0
        ∧ (Trace.exec (receive (sender basicTestConfig (longSdu ++ [.buildDataPdu 4])).2)
          (init basicTestConfig) (512 :: List.range 512)).pdcp = [] := by
  refine ⟨pdcp_sixSdus, ?_⟩
  have hlength := (sending_longSdu basicTestConfig).numbered
  have hsum := (sending_longSdu basicTestConfig).sent
  have ⟨hframed, hsent⟩ := txFramed_longSdu basicTestConfig
  have hbuilt := hframed.pdus
  have hsplits := hframed.splits
  unfold EndsWithin
  rw [hsent, written_longSdu]
  clear hframed hsent
  generalize (sender basicTestConfig (longSdu ++ [.buildDataPdu 4])).1.numbered = pdus at *
  generalize hsdu : List.replicate 1027 (0 : UInt8) = sdu at *
  have hsdulen : sdu.length = 1027 := by rw [← hsdu, length_replicate]
  have ⟨doStatus, hedge⟩ := receive_window_edge basicTestConfig hbuilt (by decide) (by omega)
  have hstart := (received_init basicTestConfig pdus).poll doStatus
  have hrange : ∀ n, n ∈ List.range 512 ↔ n < 512 := fun n => mem_range
  generalize List.range 512 = rest at *
  have hrest := fun n hn => (hrange n).mp hn
  have halong := along_of_lt hbuilt (by decide) hlength hstart (by simp) hrest
  refine ⟨⟨?_, ?_⟩, ?_, ⟨Nat.one_pos, ?_⟩, ?_⟩
  . refine ⟨?_, Nat.zero_le _, by show 512 < 0 + 513; omega⟩
    rw [length_map]
    omega
  . rw [hedge]
    exact halong.mono (fun s n h => ⟨h.1, h.2.1, Nat.lt_succ_of_lt h.2.2⟩)
  . intro n hn
    rw [mem_cons, hrange]
    omega
  . rw [take_of_length_le (l := pdus) (by omega)]
    simp only [take_succ_cons, take_zero, flatten_cons, flatten_nil, append_nil]
    omega
  . have hreceived := received_exec hbuilt (by decide) hstart halong
    rw [Trace.exec_cons, hedge]
    rw [nil_append] at hreceived
    generalize Trace.exec (receive (pdus.map pduBytes)) _ rest = peer at hreceived ⊢
    have hle := (near_of_lt hreceived hlength hrest (Nat.succ_pos 511)).1
    rw [hreceived.pdcp_eq hbuilt (by decide) _ hsplits]
    . apply carried_eq_nil (hsplits _)
      obtain ⟨last, hlast⟩ : ∃ last, pdus[512]? = some last := ⟨_, getElem?_eq_getElem (by omega)⟩
      have hpos := (hbuilt 512 last hlast).sum
      have hle := sum_take_le (pdus.map fun pdu => pdu.2.length) hle
      have htake := take_add_one (l := pdus) (i := 512)
      rw [take_of_length_le (by omega), hlast] at htake
      rw [htake, map_append, sum_append, Option.toList_some, map_singleton, sum_singleton] at hsum
      rw [← map_take, ← map_take] at hle
      omega
    . intro sdu' hmem
      rw [mem_singleton.mp hmem, hsdulen]
      decide

end SrsLte.RlcAm

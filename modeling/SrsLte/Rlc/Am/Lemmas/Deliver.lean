import SrsLte.Rlc.Am.Lemmas.Pull
import SrsLte.Rlc.Am.Lemmas.Reassembly

/-!
This module contains what the reassembly delivers: the SDUs that the consumed PDUs carry.
-/

namespace SrsLte.RlcAm

open List

namespace reassembleRxSdus

def deliver (st : List ByteBuffer × ByteBuffer) (pdu : RlcAmdRxPdu) : List ByteBuffer × ByteBuffer :=
  let st := liLoop pdu.buf pdu.header.li { off := 0, rxSdu := st.2, pdcp := st.1, ok := true }
  let st := if st.ok then lastSegment pdu st else st
  (st.pdcp, st.rxSdu)

def Small (st : List ByteBuffer × ByteBuffer) : Prop :=
  (∀ sdu ∈ st.1, sdu.length ≤ ByteBuffer.getTailroom []) ∧ st.2.length ≤ ByteBuffer.getTailroom []

variable {st : List ByteBuffer × ByteBuffer} {pdu : RlcAmdRxPdu} {bytes : List UInt8}

theorem Small.of_feed {ends : Bool} (h : Small (Framing.feed st (bytes, ends)))
    : st.2.length + bytes.length ≤ ByteBuffer.getTailroom [] := by
  cases ends with
  | true =>
    have := h.1 (st.2 ++ bytes) (by simp)
    rw [length_append] at this
    exact this
  | false =>
    have := h.2
    rw [Framing.feed_false, length_append] at this
    exact this

theorem Small.of_foldl {pieces : List (List UInt8 × Bool)} (h : Small (((bytes, true) :: pieces).foldl Framing.feed st))
    : st.2.length + bytes.length ≤ ByteBuffer.getTailroom [] := by
  have hmem : st.2 ++ bytes ∈ (((bytes, true) :: pieces).foldl Framing.feed st).1 := by
    rw [foldl_cons, Framing.feed_true]
    apply (Framing.isPrefix_foldl_feed pieces _).subset
    simp
  have := h.1 _ hmem
  rw [length_append] at this
  exact this

theorem lastSegment_eq {st : LiState} (hoff : st.off ≤ pdu.buf.length)
    (hlen : pdu.buf.length ≤ ByteBuffer.getTailroom [])
    (hsmall : Small (Framing.feed (st.pdcp, st.rxSdu) (pdu.buf.drop st.off, pdu.header.fi.endAligned)))
    : ((lastSegment pdu st).pdcp, (lastSegment pdu st).rxSdu)
        =
      Framing.feed (st.pdcp, st.rxSdu) (pdu.buf.drop st.off, pdu.header.fi.endAligned) := by
  have hfits := hsmall.of_feed
  rw [length_drop] at hfits
  have hroom : st.rxSdu.getTailroom ≥ u32Sub pdu.buf.length st.off := by
    unfold ByteBuffer.getTailroom at *
    simp only [srslteMaxBufferSizeBytes, srslteBufferHeaderOffset, length_nil] at *
    rw [u32Sub_of_le hoff (by omega)]
    omega
  unfold lastSegment
  dsimp only
  rw [if_pos hroom]
  cases pdu.header.fi.endAligned <;> simp

theorem liLoop_eq (hlen : pdu.buf.length ≤ ByteBuffer.getTailroom []) (li : List Nat)
    (st : LiState) (hok : st.ok = true) (hpos : ∀ l ∈ li, 0 < l) (hsum : st.off + li.sum < pdu.buf.length)
    (hsmall : Small
      ((Framing.cut li (pdu.buf.drop st.off) pdu.header.fi.endAligned).foldl Framing.feed (st.pdcp, st.rxSdu)))
    : (liLoop pdu.buf li st).ok = true
        ∧ ((lastSegment pdu (liLoop pdu.buf li st)).pdcp, (lastSegment pdu (liLoop pdu.buf li st)).rxSdu)
            =
          (Framing.cut li (pdu.buf.drop st.off) pdu.header.fi.endAligned).foldl Framing.feed
            (st.pdcp, st.rxSdu) := by
  induction li generalizing st with
  | nil =>
    rw [sum_nil] at hsum
    have hoff : st.off ≤ pdu.buf.length := by omega
    exact ⟨hok, lastSegment_eq hoff hlen hsmall⟩
  | cons l li ih =>
    rw [sum_cons] at hsum
    have hl : 0 < l := hpos l mem_cons_self
    have hfits := hsmall.of_foldl
    rw [length_take, length_drop, Nat.min_eq_left (by omega)] at hfits
    have hroom : st.rxSdu.getTailroom ≥ l := by
      unfold ByteBuffer.getTailroom at *
      simp only [srslteMaxBufferSizeBytes, srslteBufferHeaderOffset, length_nil] at *
      omega
    have hinside : srslteBufferHeaderOffset + st.off + l < srslteMaxBufferSizeBytes := by
      unfold ByteBuffer.getTailroom at hlen
      simp only [srslteMaxBufferSizeBytes, srslteBufferHeaderOffset, length_nil] at *
      omega
    unfold liLoop
    rw [if_neg (by omega), if_pos hroom, if_pos hinside]
    simp only [Framing.cut, foldl_cons, drop_drop] at hsmall ⊢
    apply ih
    . exact hok
    . intro l' hl'
      exact hpos l' (mem_cons_of_mem _ hl')
    . dsimp only
      omega
    . exact hsmall

theorem deliver_eq (hlen : pdu.buf.length ≤ ByteBuffer.getTailroom [])
    (hpos : ∀ l ∈ pdu.header.li, 0 < l) (hsum : pdu.header.li.sum < pdu.buf.length)
    (hsmall : Small ((pieces (pdu.header, pdu.buf)).foldl Framing.feed st))
    : deliver st pdu = (pieces (pdu.header, pdu.buf)).foldl Framing.feed st := by
  have ⟨hok, heq⟩ := liLoop_eq hlen pdu.header.li
    { off := 0, rxSdu := st.2, pdcp := st.1, ok := true } rfl hpos (by dsimp only; omega) hsmall
  unfold deliver
  dsimp only
  rw [if_pos hok]
  exact heq

end reassembleRxSdus

open reassembleRxSdus

variable {s : RlcAm}

def Delivered (s : RlcAm) : Prop :=
  (s.pdcp, s.rxSdu.getD []) = s.consumed.foldl deliver ([], [])

theorem delivered_reassembleRxSdus (h : Delivered s) : Delivered s.reassembleRxSdus := by
  unfold reassembleRxSdus
  apply Loop.whileDo_invariant (I := Delivered)
  . intro s' hs' hmem
    have ⟨pdu, _, heq⟩ := body_eq hmem
    rw [heq]
    have hconsumed : (consume s' pdu).consumed = s'.consumed ++ [pdu] := rfl
    have hdeliver : ((consume s' pdu).pdcp, (consume s' pdu).rxSdu.getD [])
        = deliver (s'.pdcp, s'.rxSdu.getD []) pdu := rfl
    unfold Delivered
    rw [hconsumed, foldl_append, ← hs', hdeliver]
    rfl
  . exact h

theorem delivered_handleDataPdu (h : Delivered s) (payload : List UInt8) (header : RlcAmdPduHeader)
    : Delivered (s.handleDataPdu payload header) := by
  by_cases hacc : s.Accepts payload header
  . rw [handleDataPdu_of_accepts hacc]
    have hstore : Delivered (s.storePdu payload header) := by
      have ⟨_, _, _, _, heq⟩ := s.storePdu_frame payload header
      rw [heq]
      exact h
    have ⟨_, _, hframe⟩ := (s.storePdu payload header).reassembleRxSdus.updateReordering_frame
    rw [hframe]
    exact delivered_reassembleRxSdus hstore
  . have ⟨_, heq⟩ := handleDataPdu_of_not_accepts hacc
    rw [heq]
    exact h

end SrsLte.RlcAm

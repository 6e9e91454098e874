import SrsLte.Rlc.Am.Lemmas.Pull
import SrsLte.Rlc.Am.Lemmas.TxWindow

/-!
This module contains the bound on what `read_pdu` returns.
-/

namespace SrsLte.RlcAm

open List

namespace buildDataPdu

structure Fitting (nofBytes : Nat) (st : PullState) : Prop where
  li : ({ li := st.li } : RlcAmdPduHeader).packedLength ≤ st.headLen
  headLen : st.headLen ≤ st.pduSpace
  pdu : st.pduSpace + st.pdu.length = nofBytes

variable {nofBytes : Nat} {st : PullState}

theorem fitting_moveSdu (h : Fitting nofBytes st) (sdu : ByteBuffer)
    : Fitting nofBytes (moveSdu st sdu) := by
  have hhead := h.headLen
  have hpdu := h.pdu
  have hmove : ∃ toMove, toMove ≤ sdu.length ∧ toMove ≤ st.pduSpace - st.headLen
      ∧ toMove = if st.pduSpace - st.headLen ≥ sdu.length then sdu.length else st.pduSpace - st.headLen := by
    refine ⟨_, ?_, ?_, rfl⟩
    . split <;> omega
    . split <;> omega
  have ⟨toMove, hsdu, hspace, heq⟩ := hmove
  have hleft : (if st.pduSpace > toMove then st.pduSpace - toMove else 0) = st.pduSpace - toMove := by
    split <;> omega
  unfold moveSdu
  rw [← heq]
  exact {
    li := h.li
    headLen := by
      dsimp only
      omega
    pdu := by
      dsimp only
      rw [hleft, length_append, length_take, Nat.min_eq_left hsdu]
      omega
  }

theorem packedLength_nextLi_le (st : PullState)
    : ({ li := st.nextLi } : RlcAmdPduHeader).packedLength ≤ ({ li := st.li } : RlcAmdPduHeader).packedLength + 2 := by
  have hlen : st.nextLi.length ≤ st.li.length + 1 := by
    unfold PullState.nextLi
    split
    . rw [length_append]
      exact Nat.le_refl _
    . exact Nat.le_succ _
  unfold RlcAmdPduHeader.packedLength
  dsimp only
  omega

theorem headLen_pullSdus_le {queue : List ByteBuffer} (h : Fitting nofBytes st)
    : ({ li := (pullSdus queue st).li } : RlcAmdPduHeader).packedLength ≤ (pullSdus queue st).headLen
        ∧ (pullSdus queue st).pdu.length + (pullSdus queue st).headLen ≤ nofBytes := by
  have hli := h.li
  have hhead := h.headLen
  have hpdu := h.pdu
  induction queue generalizing st with
  | nil =>
    unfold pullSdus
    omega
  | cons sdu queue ih =>
    have hnextLi := packedLength_nextLi_le st
    unfold pullSdus
    split
    . dsimp only
      split
      . -- the length indicator that did not fit is taken back, the header length is not
        have hback : ({ li := st.nextLi.dropLast } : RlcAmdPduHeader).packedLength
            ≤ ({ li := st.nextLi } : RlcAmdPduHeader).packedLength := by
          unfold RlcAmdPduHeader.packedLength
          dsimp only
          rw [length_dropLast]
          omega
        refine ⟨hback, ?_⟩
        dsimp only
        omega
      next hroom =>
        have hnext : Fitting nofBytes
            {
              st with
              li := st.nextLi
              headLen := ({ li := st.nextLi } : RlcAmdPduHeader).packedLength
              queue := { queue, unreadBytes := st.queue.popping sdu }
            } := {
          li := Nat.le_refl _
          headLen := by
            dsimp only
            omega
          pdu := hpdu
        }
        have hmoved := fitting_moveSdu hnext sdu
        exact ih hmoved hmoved.li hmoved.headLen hmoved.pdu
    . omega

theorem fitting_start (s : RlcAm) (h : 3 < nofBytes) : Fitting nofBytes (start s nofBytes) where
  li := by simp [start, RlcAmdPduHeader.packedLength]
  headLen := by
    change 2 ≤ nofBytes
    omega
  pdu := rfl

theorem headLen_pull_le (s : RlcAm) (h : 3 < nofBytes)
    : ({ li := (pull s nofBytes).li } : RlcAmdPduHeader).packedLength ≤ (pull s nofBytes).headLen
        ∧ (pull s nofBytes).pdu.length + (pull s nofBytes).headLen ≤ nofBytes := by
  have hstart := fitting_start s h
  rw [pull_eq_start]
  split
  next sdu _ => exact headLen_pullSdus_le (fitting_moveSdu hstart sdu)
  . exact headLen_pullSdus_le hstart

theorem length_pull_le (s : RlcAm) (h : 3 < nofBytes)
    : ({ li := (pull s nofBytes).li } : RlcAmdPduHeader).packedLength + (pull s nofBytes).pdu.length ≤ nofBytes := by
  have hle := headLen_pull_le s h
  omega

end buildDataPdu

open buildDataPdu

def Respects (nofBytes : Nat) (result : RlcAm × Int × List UInt8) : Prop :=
  result.2.1 ≤ nofBytes ∧ result.2.2.length ≤ nofBytes

theorem respects_zero (s : RlcAm) (nofBytes : Nat) : Respects nofBytes (s, 0, []) := by
  constructor
  . exact Int.natCast_nonneg nofBytes
  . exact Nat.zero_le nofBytes

theorem respects_buildDataPdu (s : RlcAm) (nofBytes : Nat)
    : Respects nofBytes (s.buildDataPdu nofBytes) := by
  cases s.buildDataPdu_cases nofBytes with
  | inl hsame =>
    rw [hsame.1]
    exact respects_zero s nofBytes
  | inr hbuild =>
    have hle := length_pull_le s hbuild.1
    rw [hbuild.2.2]
    dsimp only
    split
    . exact respects_zero _ nofBytes
    . have hlen : (number { s with txSdu := (pull s nofBytes).txSdu, txSduQueue := (pull s nofBytes).queue }
          ((pull s nofBytes).framing s.txSdu.isSome) (pull s nofBytes)).2.2.length ≤ nofBytes := by
        unfold number
        dsimp only
        rw [length_append, RlcAmdPduHeader.length_writeDataPduHeader]
        exact hle
      exact ⟨Int.ofNat_le.mpr hlen, hlen⟩

theorem respects_buildStatusPdu (s : RlcAm) (nofBytes : Nat)
    : Respects nofBytes (s.buildStatusPdu nofBytes) := by
  unfold buildStatusPdu
  dsimp only
  split
  next h =>
    have hlen : (rlcAmWriteStatusPdu s.status).length ≤ nofBytes := by
      rw [length_rlcAmWriteStatusPdu]
      exact h.2
    exact ⟨Int.ofNat_le.mpr hlen, hlen⟩
  . exact respects_zero s nofBytes

namespace buildSegment

def boundaries (lower : Nat) (li : List Nat) : List Nat :=
  match li with
  | [] => []
  | l :: li => (lower + l) :: boundaries (lower + l) li

def later (soStart lower : Nat) (li : List Nat) : List Nat :=
  (boundaries lower li).filter (soStart < ·)

def headerLen (n : Nat) : Nat :=
  4 + (3 * n + 1) / 2

theorem packedLength_eq {header : RlcAmdPduHeader} (h : header.rf = true)
    : header.packedLength = headerLen header.li.length := by
  simp [RlcAmdPduHeader.packedLength, headerLen, h]

variable {nofBytes soStart : Nat} {st : LiState}

theorem liStep_rf (l : Nat) (h : st.header.rf = true)
    : (liStep nofBytes soStart l st).header.rf = true := by
  unfold liStep
  dsimp only
  rw [apply_ite RlcAmdPduHeader.rf, ite_self]
  exact h

theorem liStep_soEnd (l : Nat)
    : (liStep nofBytes soStart l st).soEnd
        =
      if u32Sub nofBytes st.header.packedLength < u32Sub st.soEnd soStart then
        soStart + u32Sub nofBytes st.header.packedLength
      else
        st.soEnd := by
  rfl

theorem liStep_li (l : Nat)
    : (liStep nofBytes soStart l st).header.li
        =
      if st.lower + l > soStart ∧ st.lower < (liStep nofBytes soStart l st).soEnd then
        st.header.li ++
          [
            l - (if st.lower + l > (liStep nofBytes soStart l st).soEnd then
                st.lower + l - (liStep nofBytes soStart l st).soEnd else 0)
              - (if st.lower < soStart then soStart - st.lower else 0)
          ]
      else
        st.header.li := by
  unfold liStep
  dsimp only
  rw [apply_ite RlcAmdPduHeader.li]

theorem liStep_soEnd_le (hle : soStart ≤ st.soEnd) (hlt : st.soEnd - soStart < 2 ^ 32) (l : Nat)
    : soStart ≤ (liStep nofBytes soStart l st).soEnd
        ∧
      (liStep nofBytes soStart l st).soEnd ≤ st.soEnd
        ∧
      (liStep nofBytes soStart l st).soEnd - soStart ≤ u32Sub nofBytes st.header.packedLength := by
  rw [liStep_soEnd, u32Sub_eq hle hlt]
  split <;> omega

theorem liLoop_invariant {P : LiState → Prop}
    (hstep : ∀ st l, 2 < st.pduSpace → P st → P (liStep nofBytes soStart l st)) (h : P st) (li : List Nat)
    : P (liLoop nofBytes soStart li st) := by
  induction li generalizing st with
  | nil => exact h
  | cons l li ih =>
    unfold liLoop
    split
    . exact h
    . split
      . exact h
      next hspace => exact ih (hstep st l (Nat.lt_of_not_le hspace) h)

theorem liLoop_soEnd_le (hle : soStart ≤ st.soEnd) (hlt : st.soEnd - soStart < 2 ^ 32) (li : List Nat)
    : soStart ≤ (liLoop nofBytes soStart li st).soEnd
        ∧
      (liLoop nofBytes soStart li st).soEnd ≤ st.soEnd := by
  apply liLoop_invariant (P := fun st' => soStart ≤ st'.soEnd ∧ st'.soEnd ≤ st.soEnd)
  . intro st' l _ h
    have hstep := @liStep_soEnd_le nofBytes soStart st' h.1 (by omega) l
    omega
  . exact ⟨hle, Nat.le_refl _⟩

theorem liLoop_rf (h : st.header.rf = true) (li : List Nat)
    : (liLoop nofBytes soStart li st).header.rf = true :=
  liLoop_invariant (P := fun st => st.header.rf = true) (fun _ l _ => liStep_rf l) h li

theorem later_cons (lower l : Nat) (li : List Nat)
    : later soStart lower (l :: li)
        =
      if soStart < lower + l then
        (lower + l) :: later soStart (lower + l) li
      else
        later soStart (lower + l) li := by
  simp [later, boundaries, filter_cons]

theorem length_liLoop_le {soEnd : Nat} (hle : soStart ≤ st.soEnd) (hlt : st.soEnd - soStart < 2 ^ 32)
    (hend : st.soEnd ≤ soEnd) (li : List Nat)
    : (liLoop nofBytes soStart li st).header.li.length
        ≤ st.header.li.length + (later soStart st.lower li).countP (· < soEnd)
          + (if soStart < st.lower ∧ soEnd ≤ st.lower then 0 else 1) := by
  induction li generalizing st with
  | nil =>
    unfold liLoop
    omega
  | cons l li ih =>
    unfold liLoop
    split
    . omega
    . split
      . omega
      . have hstep := @liStep_soEnd_le nofBytes soStart st hle hlt l
        have hrest := ih hstep.1 (by omega) (by omega)
        have hlower : (liStep nofBytes soStart l st).lower = st.lower + l := rfl
        have hlen : (liStep nofBytes soStart l st).header.li.length
            = st.header.li.length
              + (if st.lower + l > soStart ∧ st.lower < (liStep nofBytes soStart l st).soEnd then 1 else 0) := by
          rw [liStep_li]
          split <;> simp
        rw [hlower, hlen] at hrest
        rw [later_cons]
        by_cases hneeded : soStart < st.lower + l
        . rw [if_pos hneeded, countP_cons]
          by_cases hinside : st.lower + l < soEnd
          . simp only [hinside, decide_true, ↓reduceIte]
            split at hrest <;> split at hrest <;> split <;> omega
          . simp only [hinside, decide_false, Bool.false_eq_true, ↓reduceIte]
            split at hrest <;> split at hrest <;> split <;> omega
        . rw [if_neg hneeded]
          split at hrest <;> split at hrest <;> split <;> omega

variable {li : List Nat} {oldHeader : RlcAmdPduHeader}

theorem exists_later_of_singleton {soEnd : Nat} {ends : List Nat} (hle : soStart ≤ st.soEnd)
    (hlt : st.soEnd - soStart < 2 ^ 32) (hend : st.soEnd ≤ soEnd)
    (hends : ∀ u ∈ later soStart st.lower li, u ∈ ends) (hlower : soStart < st.lower → st.lower ∈ ends)
    (hst : ∀ l, st.header.li = [l] → soStart + l < st.soEnd → ∃ u ∈ ends, u < soEnd)
    : ∀ l, (liLoop nofBytes soStart li st).header.li = [l]
        → soStart + l < (liLoop nofBytes soStart li st).soEnd → ∃ u ∈ ends, u < soEnd := by
  induction li generalizing st with
  | nil => exact hst
  | cons l li ih =>
    unfold liLoop
    split
    . exact hst
    . split
      . exact hst
      . have hstep := @liStep_soEnd_le nofBytes soStart st hle hlt l
        rw [later_cons] at hends
        apply ih hstep.1 (by omega) (by omega)
        . intro u hu
          apply hends
          split
          . exact mem_cons_of_mem _ hu
          . exact hu
        . intro hneeded
          have hneeded' : soStart < st.lower + l := hneeded
          apply hends
          rw [if_pos hneeded']
          exact mem_cons_self
        . intro l' hli hl'
          rw [liStep_li] at hli
          split at hli
          next hneeded =>
            by_cases hbefore : soStart < st.lower
            . exact ⟨st.lower, hlower hbefore, by omega⟩
            . cases hnil : st.header.li with
              | nil =>
                rw [hnil, nil_append, singleton_inj] at hli
                refine ⟨st.lower + l, hends _ (by rw [if_pos hneeded.1]; exact mem_cons_self), ?_⟩
                split at hli <;> split at hli <;> omega
              | cons y ys =>
                rw [hnil] at hli
                simp at hli
          next => exact hst l' hli (by omega)

theorem liLoop_of_later_nil (hlt : nofBytes < 2 ^ 32) (hroom : 4 ≤ nofBytes) (hrf : st.header.rf = true)
    (hli : st.header.li = []) (hlen : u32Sub st.soEnd soStart ≤ nofBytes - 4)
    (h : later soStart st.lower li = [])
    : (liLoop nofBytes soStart li st).header = st.header
        ∧
      (liLoop nofBytes soStart li st).soEnd = st.soEnd := by
  induction li generalizing st with
  | nil => exact ⟨rfl, rfl⟩
  | cons l li ih =>
    unfold liLoop
    split
    . exact ⟨rfl, rfl⟩
    . split
      . exact ⟨rfl, rfl⟩
      . rw [later_cons] at h
        split at h
        . contradiction
        next hneeded =>
          have hspace : u32Sub nofBytes st.header.packedLength = nofBytes - 4 := by
            have hheader : headerLen ([] : List Nat).length = 4 := rfl
            rw [packedLength_eq hrf, hli, hheader]
            exact u32Sub_eq hroom (by omega)
          have hend : (liStep nofBytes soStart l st).soEnd = st.soEnd := by
            rw [liStep_soEnd, hspace, if_neg (by omega)]
          have hheader : (liStep nofBytes soStart l st).header = st.header := by
            unfold liStep
            dsimp only
            rw [if_neg (fun hcond => hneeded hcond.1)]
          have hrest := @ih (liStep nofBytes soStart l st) (by rw [hheader]; exact hrf)
            (by rw [hheader]; exact hli) (by rw [hend]; exact hlen) h
          rw [hheader, hend] at hrest
          exact hrest

theorem liLoop_of_pduSpace_le (h : st.pduSpace ≤ 2) (li : List Nat) : liLoop nofBytes soStart li st = st := by
  cases li with
  | nil => rfl
  | cons l li =>
    unfold liLoop
    split
    . rfl
    . rfl

structure LiFits (nofBytes soStart : Nat) (st : LiState) : Prop where
  rf : st.header.rf = true
  start : soStart ≤ st.soEnd
  bound : headerLen (st.header.li.length - 1) + (st.soEnd - soStart) ≤ nofBytes
  space : ∃ n, (n = st.header.li.length ∨ n + 1 = st.header.li.length)
    ∧ st.pduSpace + headerLen n = nofBytes

section

variable (h : LiFits nofBytes soStart st)

include h

theorem LiFits.u32Sub_packedLength (hlt : nofBytes < 2 ^ 32) (hspace : 2 < st.pduSpace)
    : headerLen st.header.li.length ≤ nofBytes
        ∧
      u32Sub nofBytes st.header.packedLength = nofBytes - headerLen st.header.li.length := by
  have ⟨n, hn, hgrant⟩ := h.space
  have hle : headerLen st.header.li.length ≤ nofBytes := by
    unfold headerLen at hgrant ⊢
    omega
  rw [packedLength_eq h.rf]
  exact ⟨hle, u32Sub_eq hle (by omega)⟩

theorem liFits_liStep (hlt : nofBytes < 2 ^ 32) (hspace : 2 < st.pduSpace) (l : Nat)
    : LiFits nofBytes soStart (liStep nofBytes soStart l st) := by
  have hstart := h.start
  have hbound := h.bound
  have ⟨hle, hsub⟩ := h.u32Sub_packedLength hlt hspace
  have hstep := @liStep_soEnd_le nofBytes soStart st hstart (by omega) l
  rw [hsub] at hstep
  have hlen : (liStep nofBytes soStart l st).header.li.length = st.header.li.length
      ∨ (liStep nofBytes soStart l st).header.li.length = st.header.li.length + 1 := by
    rw [liStep_li]
    split <;> simp
  exact {
    rf := liStep_rf l h.rf
    start := hstep.1
    bound := by
      cases hlen with
      | inl hlen =>
        rw [hlen]
        omega
      | inr hlen =>
        rw [hlen, Nat.add_sub_cancel]
        omega
    space := by
      refine ⟨st.header.li.length, by omega, ?_⟩
      change u32Sub nofBytes st.header.packedLength + _ = _
      omega
  }

theorem liFits_liLoop (hlt : nofBytes < 2 ^ 32) (li : List Nat)
    : LiFits nofBytes soStart (liLoop nofBytes soStart li st) :=
  liLoop_invariant (fun _ l hspace h => liFits_liStep h hlt hspace l) h li

end

theorem liLoop_cons_soEnd_le {x : Nat} (hlt : nofBytes < 2 ^ 32) (hgrant : 7 ≤ nofBytes)
    (hrf : st.header.rf = true) (hli : st.header.li = [x]) (hspace : 2 < st.pduSpace)
    (hle : soStart ≤ st.soEnd) (hend : st.soEnd - soStart < 2 ^ 32) (hlower : st.lower < st.soEnd) (l : Nat)
    (li : List Nat)
    : headerLen 1 + ((liLoop nofBytes soStart (l :: li) st).soEnd - soStart) ≤ nofBytes := by
  have hpacked : u32Sub nofBytes st.header.packedLength = nofBytes - 6 := by
    have hheader : headerLen [x].length = 6 := by simp [headerLen]
    rw [packedLength_eq hrf, hli, hheader]
    exact u32Sub_eq (by omega) (by omega)
  have hstep := @liStep_soEnd_le nofBytes soStart st hle hend l
  rw [hpacked] at hstep
  have hrest := @liLoop_soEnd_le nofBytes soStart _ hstep.1 (by omega) li
  rw [liLoop, if_neg (by omega), if_neg (by omega)]
  change 6 + _ ≤ _
  omega

theorem length_singleton_of_cut (hlt : nofBytes < 2 ^ 32) (hgrant : 7 ≤ nofBytes)
    (hrf : st.header.rf = true) (hnil : st.header.li = []) (hspace : st.pduSpace = nofBytes - 4)
    (hend : st.soEnd = soStart + (nofBytes - 4)) (hlower : st.lower ≤ soStart)
    (hcut : 2 ≤ (later soStart st.lower li).length
      ∨ ∀ u ∈ later soStart st.lower li, soStart + nofBytes ≤ u + 4)
    : ∀ l, (liLoop nofBytes soStart li st).header.li = [l]
        → soStart + l < (liLoop nofBytes soStart li st).soEnd
        → headerLen 1 + ((liLoop nofBytes soStart li st).soEnd - soStart) ≤ nofBytes := by
  induction li generalizing st with
  | nil =>
    intro l hl
    rw [liLoop, hnil] at hl
    cases hl
  | cons l li ih =>
    have hpacked : u32Sub nofBytes st.header.packedLength = nofBytes - 4 := by
      have hheader : headerLen ([] : List Nat).length = 4 := rfl
      rw [packedLength_eq hrf, hnil, hheader]
      exact u32Sub_eq (by omega) (by omega)
    have hstepEnd : (liStep nofBytes soStart l st).soEnd = soStart + (nofBytes - 4) := by
      rw [liStep_soEnd, hpacked, hend, u32Sub_add_left soStart (by omega), if_neg (by omega)]
    have hstepSpace : (liStep nofBytes soStart l st).pduSpace = nofBytes - 4 := hpacked
    have hstepLi := @liStep_li nofBytes soStart st l
    rw [later_cons] at hcut
    rw [liLoop, if_neg (by omega), if_neg (by omega)]
    by_cases hneeded : soStart < st.lower + l
    . rw [if_pos hneeded] at hcut
      rw [if_pos ⟨hneeded, by omega⟩, hnil, nil_append, hstepEnd] at hstepLi
      by_cases hinside : st.lower + l < soStart + (nofBytes - 4)
      . -- the next length indicator is looked at
        have hne : later soStart (st.lower + l) li ≠ [] := by
          intro hempty
          rw [hempty] at hcut
          simp at hcut
          omega
        have hli : li ≠ [] := by
          intro hempty
          rw [hempty] at hne
          exact hne rfl
        have ⟨l', li', hli'⟩ := exists_cons_of_ne_nil hli
        intro _ _ _
        rw [hli']
        exact liLoop_cons_soEnd_le hlt hgrant (liStep_rf l hrf) hstepLi (by omega) (by omega) (by omega)
          (by rw [hstepEnd]; exact hinside) l' li'
      . -- the segment ends in this SDU
        have hsame : liLoop nofBytes soStart li (liStep nofBytes soStart l st) = liStep nofBytes soStart l st := by
          cases li with
          | nil => rfl
          | cons l' li' =>
            have hge : (liStep nofBytes soStart l st).lower ≥ (liStep nofBytes soStart l st).soEnd := by
              rw [hstepEnd]
              exact Nat.le_of_not_lt hinside
            rw [liLoop, if_pos hge]
        rw [hsame, hstepLi, hstepEnd]
        intro x hx hlt'
        rw [singleton_inj] at hx
        split at hx <;> split at hx <;> omega
    . rw [if_neg hneeded] at hcut
      rw [if_neg (fun hcond => hneeded hcond.1)] at hstepLi
      exact ih (liStep_rf l hrf) (by rw [hstepLi, hnil]) hstepSpace hstepEnd (by change st.lower + l ≤ _; omega)
        hcut

/--
When a segment from `soStart` to `soEnd` of a PDU of `nBytes` bytes, which is the front of the
retransmission queue up to `frontSoEnd`, stays within the grant: no SDU ends behind `soStart`, or the
grant has room for the length indicators of all SDUs in the segment, or the grant does not reach the
end of the segment even without length indicators. In the last case the segment must not cross the
end of the only SDU that has a length indicator.
-/
def SegmentFits (nofBytes soStart soEnd nBytes frontSoEnd : Nat) (li : List Nat) : Prop :=
  nofBytes ≤ 6 ∨ later soStart 0 li = [] ∨
    (soStart ≤ soEnd ∧ soEnd ≤ nBytes ∧ soEnd ≤ frontSoEnd
      ∧ (headerLen ((later soStart 0 li).countP (· < soEnd) + 1) + (soEnd - soStart) ≤ nofBytes
        ∨ (nofBytes < 4 + u32Sub soEnd soStart
          ∧ (2 ≤ (later soStart 0 li).length
            ∨ ∀ u ∈ later soStart 0 li, soStart + nofBytes ≤ u + 4))))

theorem keepLi_cases (soStart : Nat) (st : LiState)
    : (keepLi soStart st = st.header)
        ∨ ∃ l, st.header.li = [l] ∧ soStart + l < st.soEnd
          ∧ keepLi soStart st = { st.header with li := [l, 0] } := by
  unfold keepLi
  split
  next l hl =>
    split
    next hcond => exact .inr ⟨l, hl, hcond.1, rfl⟩
    . exact .inl rfl
  . exact .inl rfl

theorem finish_cases (oldHeader : RlcAmdPduHeader) (nBytes : Nat) (header : RlcAmdPduHeader) (soEnd : Nat)
    (front : RlcAmdRetx) (rest : List RlcAmdRetx)
    : (finish oldHeader nBytes header soEnd front rest).1.rf = header.rf
        ∧ ((finish oldHeader nBytes header soEnd front rest).1.li = header.li
            ∧ (nBytes = soEnd ∨ front.soEnd = soEnd)
          ∨ (finish oldHeader nBytes header soEnd front rest).1.li = header.li.dropLast) := by
  unfold finish
  split
  next h => exact ⟨rfl, .inl ⟨rfl, .inl h⟩⟩
  . split
    next h => exact ⟨rfl, .inl ⟨rfl, .inr h⟩⟩
    . exact ⟨rfl, .inr rfl⟩

theorem segmentHeader_eq (oldHeader : RlcAmdPduHeader) (p : Bool) (nofBytes soStart soEnd : Nat)
    : ∃ st : LiState, st.header.rf = true ∧ st.header.li = [] ∧ st.pduSpace = nofBytes - 4 ∧ st.lower = 0
        ∧ st.soEnd = (if nofBytes - 4 < u32Sub soEnd soStart then soStart + (nofBytes - 4) else soEnd)
        ∧ segmentHeader oldHeader p nofBytes soStart soEnd
            = (keepLi soStart (liLoop nofBytes soStart oldHeader.li st),
              (liLoop nofBytes soStart oldHeader.li st).soEnd) := by
  unfold segmentHeader
  dsimp only
  refine ⟨_, ?_, ?_, ?_, ?_, ?_, rfl⟩
  . dsimp only
    split
    . rfl
    . rfl
  . dsimp only
    split
    . rfl
    . rfl
  . simp [RlcAmdPduHeader.packedLength]
  . rfl
  . simp [RlcAmdPduHeader.packedLength]

theorem length_segment_of_room {oldHeader : RlcAmdPduHeader} {soEnd : Nat} (hle : soStart ≤ soEnd)
    (hlt : nofBytes < 2 ^ 32) (hend : st.soEnd ≤ soEnd) (hstart : soStart ≤ st.soEnd)
    (hli : st.header.li = []) (hlower : st.lower = 0)
    (hroom : headerLen ((later soStart 0 oldHeader.li).countP (· < soEnd) + 1) + (soEnd - soStart) ≤ nofBytes)
    : headerLen (keepLi soStart (liLoop nofBytes soStart oldHeader.li st)).li.length
        + ((liLoop nofBytes soStart oldHeader.li st).soEnd - soStart) ≤ nofBytes := by
  have hdiff : st.soEnd - soStart < 2 ^ 32 := by
    omega
  have hloop := @liLoop_soEnd_le nofBytes soStart st hstart hdiff oldHeader.li
  have hlen := @length_liLoop_le nofBytes soStart st soEnd hstart hdiff hend oldHeader.li
  rw [hli, hlower] at hlen
  have hmono : ∀ n m, n ≤ m → headerLen n ≤ headerLen m := by
    intro n m hnm
    unfold headerLen
    omega
  have hkept : (keepLi soStart (liLoop nofBytes soStart oldHeader.li st)).li.length
      ≤ (later soStart 0 oldHeader.li).countP (· < soEnd) + 1 := by
    cases keepLi_cases soStart (liLoop nofBytes soStart oldHeader.li st) with
    | inl hkeep =>
      rw [hkeep]
      simpa using hlen
    | inr hkeep =>
      have ⟨l, hl, hcross, heq⟩ := hkeep
      have hexists : ∃ u ∈ later soStart 0 oldHeader.li, u < soEnd := by
        apply exists_later_of_singleton hstart hdiff hend _ _ _ l hl hcross
        . rw [hlower]
          exact fun u hu => hu
        . intro hpos
          omega
        . intro l' hl'
          rw [hli] at hl'
          cases hl'
      have hpos : 0 < (later soStart 0 oldHeader.li).countP (· < soEnd) := by
        rw [countP_pos_iff]
        simpa using hexists
      rw [heq]
      simpa using hpos
  have hheader := hmono _ _ hkept
  omega

theorem length_segment_of_cut (hlt : nofBytes < 2 ^ 32) (hgrant : 7 ≤ nofBytes)
    (hrf : st.header.rf = true) (hli : st.header.li = []) (hspace : st.pduSpace = nofBytes - 4)
    (hend : st.soEnd = soStart + (nofBytes - 4)) (hlower : st.lower = 0)
    (hcut : 2 ≤ (later soStart 0 oldHeader.li).length
      ∨ ∀ u ∈ later soStart 0 oldHeader.li, soStart + nofBytes ≤ u + 4)
    : headerLen (keepLi soStart (liLoop nofBytes soStart oldHeader.li st)).li.dropLast.length
        + ((liLoop nofBytes soStart oldHeader.li st).soEnd - soStart) ≤ nofBytes := by
  have hfits : LiFits nofBytes soStart st := {
    rf := hrf
    start := by omega
    bound := by
      rw [hli, hend]
      change 4 + _ ≤ _
      omega
    space := by
      refine ⟨0, .inl (by rw [hli]; rfl), ?_⟩
      rw [hspace]
      change _ + 4 = _
      omega
  }
  have hloop := liFits_liLoop hfits hlt oldHeader.li
  cases keepLi_cases soStart (liLoop nofBytes soStart oldHeader.li st) with
  | inl hkeep =>
    rw [hkeep, length_dropLast]
    exact hloop.bound
  | inr hkeep =>
    have ⟨l, hl, hcross, heq⟩ := hkeep
    rw [heq]
    rw [← hlower] at hcut
    exact length_singleton_of_cut hlt hgrant hrf hli hspace hend (by omega) hcut l hl hcross

theorem length_segment_of_nil {nBytes soEnd : Nat} {front : RlcAmdRetx}
    {rest : List RlcAmdRetx} (hroom : 4 < nofBytes) (hli : st.header.li = [])
    (hlen : u32Sub soEnd soStart ≤ nofBytes - 4)
    : headerLen (finish oldHeader nBytes (keepLi soStart st) soEnd front rest).1.li.length
        + u32Sub soEnd soStart ≤ nofBytes := by
  have hkeep : keepLi soStart st = st.header := by
    cases keepLi_cases soStart st with
    | inl hkeep => exact hkeep
    | inr hkeep =>
      have ⟨l, hl, _⟩ := hkeep
      rw [hli] at hl
      cases hl
  have hfinish : (finish oldHeader nBytes st.header soEnd front rest).1.li = [] := by
    cases (finish_cases oldHeader nBytes st.header soEnd front rest).2 with
    | inl h => rw [h.1, hli]
    | inr h => rw [h, hli, dropLast_nil]
  rw [hkeep, hfinish]
  change 4 + _ ≤ _
  omega

theorem length_segment_le {oldHeader : RlcAmdPduHeader} {p : Bool} {nBytes soEnd : Nat} {front : RlcAmdRetx}
    {rest : List RlcAmdRetx} (hlt : nofBytes < 2 ^ 32) (hroom : 4 < nofBytes)
    (hfits : SegmentFits nofBytes soStart soEnd nBytes front.soEnd oldHeader.li)
    : (finish oldHeader nBytes (segmentHeader oldHeader p nofBytes soStart soEnd).1
          (segmentHeader oldHeader p nofBytes soStart soEnd).2 front rest).1.packedLength
        + u32Sub (segmentHeader oldHeader p nofBytes soStart soEnd).2 soStart ≤ nofBytes := by
  have ⟨st, hrf, hli, hspace, hlower, hend, heq⟩ := segmentHeader_eq oldHeader p nofBytes soStart soEnd
  have hlen : u32Sub st.soEnd soStart ≤ nofBytes - 4 := by
    rw [hend]
    split
    . rw [u32Sub_add_left soStart (by omega)]
    . omega
  have hkeepRf : (keepLi soStart (liLoop nofBytes soStart oldHeader.li st)).rf = true := by
    cases keepLi_cases soStart (liLoop nofBytes soStart oldHeader.li st) with
    | inl hkeep =>
      rw [hkeep]
      exact liLoop_rf hrf oldHeader.li
    | inr hkeep =>
      have ⟨_, _, _, hkeep⟩ := hkeep
      rw [hkeep]
      exact liLoop_rf hrf oldHeader.li
  rw [heq]
  dsimp only
  have hcases := finish_cases oldHeader nBytes (keepLi soStart (liLoop nofBytes soStart oldHeader.li st))
    (liLoop nofBytes soStart oldHeader.li st).soEnd front rest
  rw [packedLength_eq (by rw [hcases.1, hkeepRf])]
  rcases hfits with hsmall | hnil | ⟨hle, hbytes, hfront, hroom' | hcut⟩
  . have hsame := @liLoop_of_pduSpace_le nofBytes soStart st (by omega) oldHeader.li
    rw [hsame]
    exact length_segment_of_nil hroom hli hlen
  . rw [← hlower] at hnil
    have hsame := liLoop_of_later_nil hlt (by omega) hrf hli hlen hnil
    apply length_segment_of_nil hroom
    . rw [hsame.1, hli]
    . rw [hsame.2]
      exact hlen
  . have hheader : 4 ≤ headerLen ((later soStart 0 oldHeader.li).countP (· < soEnd) + 1) := by
      unfold headerLen
      omega
    have hsub : u32Sub soEnd soStart = soEnd - soStart := u32Sub_eq hle (by omega)
    rw [hsub, if_neg (by omega)] at hend
    have hloop := @liLoop_soEnd_le nofBytes soStart st (by omega) (by omega) oldHeader.li
    have hsegment := @length_segment_of_room nofBytes soStart st oldHeader soEnd hle hlt (by omega) (by omega)
      hli hlower hroom'
    rw [u32Sub_eq hloop.1 (by omega)]
    cases hcases.2 with
    | inl h =>
      rw [h.1]
      exact hsegment
    | inr h =>
      rw [h, length_dropLast]
      unfold headerLen at hsegment ⊢
      omega
  . by_cases hsmall : nofBytes ≤ 6
    . have hsame := @liLoop_of_pduSpace_le nofBytes soStart st (by omega) oldHeader.li
      rw [hsame]
      exact length_segment_of_nil hroom hli hlen
    . have hcut' : nofBytes - 4 < u32Sub soEnd soStart := by
        omega
      have hmod : u32Sub soEnd soStart ≤ soEnd - soStart := by
        unfold u32Sub
        omega
      rw [if_pos hcut'] at hend
      have hloop := @liLoop_soEnd_le nofBytes soStart st (by omega) (by omega) oldHeader.li
      have hsegment := length_segment_of_cut hlt (by omega) hrf hli hspace hend hlower hcut.2
      rw [u32Sub_eq hloop.1 (by omega)]
      cases hcases.2 with
      | inl h => omega
      | inr h =>
        rw [h]
        exact hsegment

theorem length_copy (buf : ByteBuffer) (start len : Nat) : (copy buf start len).length = len := by
  simp [copy]

end buildSegment

open buildSegment

variable {s : RlcAm} {nofBytes : Nat} {retx : RlcAmdRetx} {rest : List RlcAmdRetx}

theorem respects_buildSegment (hlt : nofBytes < 2 ^ 32) (hqueue : s.retxQueue = retx :: rest)
    (hfits : ∀ pdu buf, s.txWindow.lookup retx.sn = some pdu → pdu.buf = some buf →
      SegmentFits nofBytes (if retx.isSegment then retx.soStart else 0)
        (if retx.isSegment then retx.soEnd else buf.length) buf.length retx.soEnd pdu.header.li)
    : Respects nofBytes (s.buildSegment nofBytes retx) := by
  unfold buildSegment
  split
  next oldHeader buf _ _ front rest' hpdu hcons =>
    rw [hqueue] at hcons
    cases hcons
    have hheader : ({ rf := true } : RlcAmdPduHeader).packedLength = 4 := rfl
    dsimp only
    rw [hheader]
    split
    . exact respects_zero _ nofBytes
    next hroom =>
      rw [Nat.not_le] at hroom
      have hle := @length_segment_le nofBytes _ oldHeader
        (s.setPollBit (buf.length + ({} : RlcAmdPduHeader).packedLength)).2 buf.length _ retx rest hlt hroom
        (hfits _ _ hpdu rfl)
      unfold Respects
      dsimp only
      rw [length_append, RlcAmdPduHeader.length_writeDataPduHeader, length_copy]
      exact ⟨Int.ofNat_le.mpr hle, hle⟩
  . exact respects_zero s nofBytes

def StoredFits (s : RlcAm) : Prop :=
  ∀ sn header buf, s.stored sn = some (header, buf) →
    header.packedLength + (buf.getD []).length < 2 ^ 32

theorem respects_whole {pdu : RlcAmdTxPdu} (h : s.StoredFits) (hpdu : s.txWindow.lookup retx.sn = some pdu)
    (hsegment : ¬ retx.isSegment) (hpos : ¬ s.requiredBufferSize retx < 0)
    (hsize : ¬ s.requiredBufferSize retx > u32ToInt nofBytes)
    : Respects nofBytes (buildRetxPdu.whole s retx rest pdu) := by
  have hstored : s.stored retx.sn = some (pdu.header, pdu.buf) := by
    unfold stored
    rw [hpdu]
    rfl
  have hlt := h _ _ _ hstored
  have hlen : pdu.header.packedLength + (pdu.buf.getD []).length ≤ nofBytes := by
    unfold requiredBufferSize at hpos hsize
    rw [hpdu] at hpos hsize
    dsimp only at hpos hsize
    rw [if_neg hsegment] at hpos hsize
    cases hbuf : pdu.buf with
    | none =>
      rw [hbuf] at hpos
      exact absurd (show (-1 : Int) < 0 by decide) hpos
    | some buf =>
      rw [hbuf] at hpos hsize hlt
      simp only [Option.getD_some] at hlt ⊢
      dsimp only at hpos hsize
      unfold u32ToInt at hpos hsize
      split at hpos
      . omega
      . omega
  unfold buildRetxPdu.whole Respects
  dsimp only
  rw [length_append, RlcAmdPduHeader.length_writeDataPduHeader]
  exact ⟨Int.ofNat_le.mpr hlen, hlen⟩

def RetxFits (s : RlcAm) (nofBytes : Nat) : Prop :=
  ∀ retx pdu buf, s.frontRetx = some retx → s.txWindow.lookup retx.sn = some pdu → pdu.buf = some buf →
    (retx.isSegment ∨ s.requiredBufferSize retx > u32ToInt nofBytes) →
    SegmentFits nofBytes (if retx.isSegment then retx.soStart else 0)
      (if retx.isSegment then retx.soEnd else buf.length) buf.length retx.soEnd pdu.header.li

theorem respects_buildRetxPdu (hlt : nofBytes < 2 ^ 32) (h : s.StoredFits) (hfits : s.RetxFits nofBytes)
    : Respects nofBytes (s.buildRetxPdu nofBytes) := by
  have hfail : ∀ s : RlcAm, Respects nofBytes (s, -1, []) := by
    intro s
    constructor
    . dsimp only
      omega
    . exact Nat.zero_le nofBytes
  have hhead := s.head?_dropStaleRetx
  have hstored : s.dropStaleRetx.StoredFits := h
  unfold RetxFits at hfits
  rw [← hhead] at hfits
  unfold buildRetxPdu
  split
  . exact hfail s
  . dsimp only
    split
    . exact respects_zero _ nofBytes
    next retx rest hcons =>
      rw [hcons, head?_cons] at hfits
      split
      next pdu hpdu =>
        split
        . exact hfail _
        next hpos =>
          split
          next hsegment =>
            apply respects_buildSegment hlt hcons
            intro pdu' buf hpdu' hbuf
            exact hfits retx pdu' buf rfl hpdu' hbuf hsegment
          next hwhole =>
            rw [not_or] at hwhole
            exact respects_whole hstored hpdu hwhole.1 hpos hwhole.2
      . exact hfail _

def EachStored (Q : RlcAmdPduHeader → Option ByteBuffer → Prop) (s : RlcAm) : Prop :=
  ∀ sn header buf, s.stored sn = some (header, buf) → Q header buf

section EachStored

variable {Q : RlcAmdPduHeader → Option ByteBuffer → Prop} {s s' : RlcAm} {nofBytes : Nat}

theorem EachStored.retxFrame (hframe : RetxFrame s s') (h : s.EachStored Q) : s'.EachStored Q := by
  intro sn header buf hstored
  rw [hframe.stored] at hstored
  exact h sn header buf hstored

theorem EachStored.insert {sn : Nat} {pdu : RlcAmdTxPdu} (h : s.EachStored Q)
    (hwindow : s'.txWindow = s.txWindow.insert sn pdu) (hpdu : Q pdu.header pdu.buf)
    : s'.EachStored Q := by
  intro sn' header buf hstored
  unfold stored at hstored
  rw [hwindow, Map.lookup_insert_ite] at hstored
  split at hstored
  . cases hstored
    exact hpdu
  . exact h sn' header buf hstored

theorem EachStored.erase {sn : Nat} (h : s.EachStored Q) (hwindow : s'.txWindow = s.txWindow.erase sn)
    : s'.EachStored Q := by
  intro sn' header buf hstored
  unfold stored at hstored
  rw [hwindow] at hstored
  by_cases heq : sn' = sn
  . rw [heq, Finmap.lookup_erase] at hstored
    cases hstored
  . rw [Finmap.lookup_erase_ne heq] at hstored
    exact h sn' header buf hstored

theorem foldl_handleNack_txWindow (i : Nat) (nacks : List RlcStatusNack) (s : RlcAm)
    : (nacks.foldl (handleControlPdu.handleNack i) s).txWindow = s.txWindow := by
  induction nacks generalizing s with
  | nil => rfl
  | cons nack nacks ih =>
    rw [foldl_cons, ih]
    unfold handleControlPdu.handleNack
    split
    . split
      . rfl
      . rfl
    . rfl

theorem EachStored.handleStatus (status : RlcStatusPdu) (h : s.EachStored Q) : (s.handleStatus status).EachStored Q := by
  unfold RlcAm.handleStatus
  apply Loop.whileDo_invariant (I := fun st : handleControlPdu.LoopState => st.am.EachStored Q)
  . intro st hst _
    have hnacks := foldl_handleNack_txWindow st.i (status.nacks.filter (fun nack => nack.nackSn == st.i)) st.am
    unfold handleControlPdu.loopBody
    dsimp only
    split
    . apply hst.erase
      rw [hnacks]
    . intro sn header buf hstored
      unfold stored at hstored
      rw [hnacks] at hstored
      exact hst sn header buf hstored
  . exact h

def Builds (Q : RlcAmdPduHeader → Option ByteBuffer → Prop) (nofBytes : Nat) : Prop :=
  ∀ (header : RlcAmdPduHeader) (buf : ByteBuffer), header.dc = .dataPdu → header.packedLength + buf.length ≤ nofBytes →
    Q header (some buf)

theorem EachStored.buildDataPdu (hbuilds : Builds Q nofBytes) (h : s.EachStored Q)
    : (s.buildDataPdu nofBytes).1.EachStored Q := by
  cases s.buildDataPdu_cases nofBytes with
  | inl hsame =>
    rw [hsame.1]
    exact h
  | inr hbuild =>
    have hle := length_pull_le s hbuild.1
    rw [hbuild.2.2]
    dsimp only
    split
    . exact h
    . have hnumber := buildDataPdu.number_txPart
        { s with txSdu := (pull s nofBytes).txSdu, txSduQueue := (pull s nofBytes).queue }
        ((pull s nofBytes).framing s.txSdu.isSome) (pull s nofBytes)
      exact h.insert (congrArg TxPart.txWindow hnumber) (hbuilds _ _ rfl hle)

variable (hnone : Q {} none)

include hnone

-- `tx_window[vt_a]` creates an entry without a buffer if there is none
theorem EachStored.scheduleFullWindowRetx (h : s.EachStored Q) : s.scheduleFullWindowRetx.EachStored Q := by
  unfold RlcAm.scheduleFullWindowRetx
  split
  . split
    . exact h
    . exact h
    . exact h.insert rfl hnone
  . exact h

theorem EachStored.readPdu (hbuilds : Builds Q nofBytes) (h : s.EachStored Q) : (s.readPdu nofBytes).1.EachStored Q := by
  unfold RlcAm.readPdu
  split
  . unfold buildStatusPdu
    dsimp only
    split
    . exact h
    . exact h
  . have hfull := h.scheduleFullWindowRetx hnone
    dsimp only
    split
    . have hretx := hfull.retxFrame (s.scheduleFullWindowRetx.retxFrame_buildRetxPdu nofBytes)
      split
      . exact hretx
      . exact hretx.buildDataPdu hbuilds
    . exact hfull.buildDataPdu hbuilds

theorem EachStored.step {e : Event} (he : ∀ nofBytes, e = .readPdu nofBytes → Builds Q nofBytes) (h : s.EachStored Q)
    : (s.step e).EachStored Q := by
  cases e with
  | writeSdu sdu =>
    unfold RlcAm.step writeSdu
    dsimp only
    split
    . exact h
    . exact h
  | elapse pollRetx reordering statusProhibit => exact h
  | getBufferState => exact h.retxFrame s.retxFrame_getBufferState
  | readPdu nofBytes => exact h.readPdu hnone (he nofBytes rfl)
  | writePdu payload =>
    unfold RlcAm.step
    dsimp only
    cases s.writePdu_cases payload with
    | inl htx => exact h.retxFrame (.of_txPart s.retxQueue htx)
    | inr hcontrol =>
      have ⟨status, _, heq⟩ := hcontrol
      rw [heq]
      exact h.handleStatus status

end EachStored

theorem eachStored_init (Q : RlcAmdPduHeader → Option ByteBuffer → Prop) (cfg : SrslteRlcAmConfig)
    : (init cfg).EachStored Q := by
  intro sn header buf hstored
  cases hstored

theorem storedFits_scheduleFullWindowRetx (h : s.StoredFits)
    : s.scheduleFullWindowRetx.StoredFits :=
  EachStored.scheduleFullWindowRetx (by decide) h

def Event.InRange (e : Event) : Prop :=
  match e with
  | .readPdu nofBytes => nofBytes < 2 ^ 32
  | _ => True

theorem storedFits_exec (cfg : SrslteRlcAmConfig) {es : List Event} (hes : ∀ e ∈ es, e.InRange)
    : (Trace.exec step (init cfg) es).StoredFits := by
  apply Trace.exec_of_mem (P := StoredFits)
  . intro s e he hs
    apply EachStored.step (by decide) _ hs
    rintro nofBytes rfl header buf - hle
    exact Nat.lt_of_le_of_lt hle (hes _ he)
  . exact eachStored_init _ cfg

/--
The grant of `nofBytes` goes to a status PDU, or the retransmission that is next has room in it. With a
full window and no retransmission queued it is the PDU at `vt_a`.
-/
def GrantFits (s : RlcAm) (nofBytes : Nat) : Prop :=
  (s.doStatus ∧ ¬ s.statusProhibited) ∨ s.scheduleFullWindowRetx.RetxFits nofBytes

theorem respects_readPdu (hlt : nofBytes < 2 ^ 32) (h : s.StoredFits) (hfits : s.GrantFits nofBytes)
    : Respects nofBytes (s.readPdu nofBytes) := by
  unfold readPdu
  split
  . apply respects_buildStatusPdu
  next hstatus =>
    have hretx := respects_buildRetxPdu hlt (storedFits_scheduleFullWindowRetx h) (hfits.resolve_left hstatus)
    dsimp only
    split
    . split
      . exact hretx
      . apply respects_buildDataPdu
    . apply respects_buildDataPdu

theorem respects_readPdu_exec (cfg : SrslteRlcAmConfig) (es : List Event) (hes : ∀ e ∈ es, e.InRange)
    (nofBytes : Nat) (hlt : nofBytes < 2 ^ 32)
    (hfits : (Trace.exec step (init cfg) es).GrantFits nofBytes)
    : Respects nofBytes ((Trace.exec step (init cfg) es).readPdu nofBytes) := by
  apply respects_readPdu hlt (storedFits_exec cfg hes) hfits

theorem respects_resegmented
    : ((Trace.exec step (init basicTestConfig)
          [.writeSdu (List.replicate 10 1), .writeSdu (List.replicate 10 2), .writeSdu (List.replicate 10 3),
            .readPdu 35, .writePdu (rlcAmWriteStatusPdu { ackSn := 1, nacks := [{ nackSn := 0 }] })]).readPdu 20).2.1
        = 20
      ∧ Respects 20 ((Trace.exec step (init basicTestConfig)
          [.writeSdu (List.replicate 10 1), .writeSdu (List.replicate 10 2), .writeSdu (List.replicate 10 3),
            .readPdu 35, .writePdu (rlcAmWriteStatusPdu { ackSn := 1, nacks := [{ nackSn := 0 }] })]).readPdu 20) := by
  refine ⟨by decide, respects_readPdu_exec _ _ ?_ _ (by decide) (.inr ?_)⟩
  . simp [Event.InRange]
  . intro retx pdu buf hretx hpdu hbuf _
    cases hretx
    cases hpdu
    cases hbuf
    exact .inr (.inr (by decide))

theorem not_respects_resegmented
    : ¬ Respects 23 ((Trace.exec step (init basicTestConfig)
        [.writeSdu (List.replicate 10 1), .writeSdu (List.replicate 10 2), .readPdu 24,
          .writePdu (rlcAmWriteStatusPdu { ackSn := 1, nacks := [{ nackSn := 0 }] })]).readPdu 23) := by
  intro h
  exact absurd h.1 (by decide)

end SrsLte.RlcAm

import SrsLte.Data.Framing
import SrsLte.Rlc.Am.Lemmas.Transmit

/-!
This module contains what the PDUs of `build_data_pdu` are made of.
-/

namespace SrsLte.RlcAm

open List

def pieces (pdu : RlcAmdPduHeader × ByteBuffer) : List (List UInt8 × Bool) :=
  Framing.cut pdu.1.li pdu.2 pdu.1.fi.endAligned

def carried (pdus : List (RlcAmdPduHeader × ByteBuffer)) : List ByteBuffer × ByteBuffer :=
  (pdus.flatMap pieces).foldl Framing.feed ([], [])

namespace buildDataPdu

variable {st : PullState} {sdu : ByteBuffer}

theorem moveSdu_spec (hhead : 0 < st.headLen) (hlt : st.headLen < st.pduSpace) (hne : sdu ≠ [])
    : ∃ k, 0 < k
        ∧ k ≤ sdu.length
        ∧ moveSdu st sdu = {
          st with
          pdu := st.pdu ++ sdu.take k
          lastLi := k
          txSdu := if k = sdu.length then none else some (sdu.drop k)
          pduSpace := st.pduSpace - k
        }
        ∧ st.headLen ≤ st.pduSpace - k
        ∧ (k ≠ sdu.length → st.pduSpace - k = st.headLen) := by
  have hpos := length_pos_iff.mpr hne
  unfold moveSdu
  by_cases hfits : st.pduSpace - st.headLen ≥ sdu.length
  . refine ⟨sdu.length, hpos, Nat.le_refl _, ?_, by omega, by omega⟩
    have hspace : st.pduSpace > sdu.length := by omega
    simp only [hfits, hspace, ↓reduceIte, Nat.sub_self]
  . refine ⟨st.pduSpace - st.headLen, by omega, by omega, ?_, by omega, by omega⟩
    have hspace : st.pduSpace > st.pduSpace - st.headLen := by omega
    have hleft : ¬ sdu.length - (st.pduSpace - st.headLen) = 0 := by omega
    have hne : ¬ st.pduSpace - st.headLen = sdu.length := by omega
    simp only [hfits, hspace, hleft, hne, ↓reduceIte]

structure Pulled (begun : List ByteBuffer × ByteBuffer) (written queue : List ByteBuffer) (st : PullState)
    : Prop where
  sum : st.li.sum + st.lastLi = st.pdu.length
  li_nil : st.lastLi = 0 → st.li = []
  open_sdu : ∀ sdu, st.txSdu = some sdu →
    sdu ≠ [] ∧ 0 < st.lastLi ∧ st.pduSpace ≤ st.headLen
      ∧ written = ((Framing.cut st.li st.pdu false).foldl Framing.feed begun).1
        ++ (((Framing.cut st.li st.pdu false).foldl Framing.feed begun).2 ++ sdu) :: queue
  no_sdu : st.txSdu = none →
    ((Framing.full st.nextLi st.pdu).foldl Framing.feed begun).2 = []
      ∧ written = ((Framing.full st.nextLi st.pdu).foldl Framing.feed begun).1 ++ queue

variable {begun : List ByteBuffer × ByteBuffer} {written queue : List ByteBuffer}

theorem pulled_moveSdu (hsum : st.li.sum = st.pdu.length) (hhead : 0 < st.headLen)
    (hlt : st.headLen < st.pduSpace) (hne : sdu ≠ [])
    (hwritten : written = ((Framing.full st.li st.pdu).foldl Framing.feed begun).1
      ++ (((Framing.full st.li st.pdu).foldl Framing.feed begun).2 ++ sdu) :: queue)
    : Pulled begun written queue (moveSdu st sdu) := by
  have ⟨k, hpos, hk, heq, _, hspace⟩ := moveSdu_spec hhead hlt hne
  have hlen : st.li.sum + k = (st.pdu ++ sdu.take k).length := by
    rw [length_append, length_take, Nat.min_eq_left hk, hsum]
  rw [heq]
  constructor
  case sum => exact hlen
  case li_nil =>
    intro hzero
    exact absurd hzero (Nat.ne_of_gt hpos)
  case open_sdu =>
    intro rest hrest
    dsimp only at hrest ⊢
    split at hrest
    . cases hrest
    . next hopen =>
      cases hrest
      refine ⟨?_, hpos, Nat.le_of_eq (hspace hopen), ?_⟩
      . rw [← length_pos_iff, length_drop]
        omega
      . rw [Framing.cut_append _ _ _ _ hsum, foldl_append, hwritten]
        simp
  case no_sdu =>
    intro hnone
    dsimp only at hnone ⊢
    split at hnone
    . next hall =>
      have hnext : ({ st with
          pdu := st.pdu ++ sdu.take k, lastLi := k, txSdu := none, pduSpace := st.pduSpace - k } : PullState).nextLi
            = st.li ++ [k] := by
        unfold PullState.nextLi
        exact if_pos hpos
      rw [if_pos hall, hnext, Framing.full_append _ _ _ hlen, Framing.cut_append _ _ _ _ hsum, foldl_append,
        hwritten, hall]
      simp
    . cases hnone

theorem pulled_pullSdus (h : Pulled begun written queue st) (hqueue : st.queue.queue = queue)
    (hne : ∀ sdu ∈ queue, sdu ≠ [])
    : Pulled begun written (pullSdus queue st).queue.queue (pullSdus queue st) := by
  induction queue generalizing st with
  | nil =>
    unfold pullSdus
    rw [hqueue]
    exact h
  | cons sdu queue ih =>
    unfold pullSdus
    split
    . next hspace =>
      have hnone : st.txSdu = none := by
        cases hsdu : st.txSdu with
        | none => rfl
        | some sdu =>
          have := (h.open_sdu sdu hsdu).2.2.1
          omega
      obtain ⟨hpart, hwritten⟩ := h.no_sdu hnone
      have hsum : st.nextLi.sum = st.pdu.length := by
        rw [← h.sum]
        unfold PullState.nextLi
        split
        . simp
        . omega
      dsimp only
      split
      . have hli : st.nextLi.dropLast = st.li := by
          unfold PullState.nextLi
          split
          . simp
          . next hzero =>
            rw [h.li_nil (by omega)]
            rfl
        rw [hli, hqueue]
        exact {
          h with
          open_sdu := by
            intro sdu hsdu
            rw [hnone] at hsdu
            cases hsdu
        }
      . next hlt =>
        have hfirst := hne sdu mem_cons_self
        apply ih
        . apply pulled_moveSdu hsum _ (Nat.lt_of_not_le hlt) hfirst
          . dsimp only
            rw [hpart]
            exact hwritten
          . show 0 < 2 + _ + _
            omega
        . rfl
        . intro sdu' hsdu'
          exact hne sdu' (mem_cons_of_mem _ hsdu')
    . rw [hqueue]
      exact h

structure Sized (nofBytes maxSdu : Nat) (st : PullState) : Prop where
  headLen : 2 ≤ st.headLen
  pduSpace : 2 ≤ st.pduSpace
  pdu : st.pduSpace + st.pdu.length = nofBytes
  li : ∀ l ∈ st.li, 0 < l ∧ l ≤ maxSdu
  lastLi : st.lastLi ≤ maxSdu

variable {nofBytes maxSdu : Nat}

section

variable (h : Sized nofBytes maxSdu st)

include h

theorem Sized.nextLi : ∀ l ∈ st.nextLi, 0 < l ∧ l ≤ maxSdu := by
  intro l hl
  unfold PullState.nextLi at hl
  split at hl
  . next hpos =>
    rw [mem_append, mem_singleton] at hl
    cases hl with
    | inl hold => exact h.li l hold
    | inr heq =>
      rw [heq]
      exact ⟨hpos, h.lastLi⟩
  . exact h.li l hl

theorem sized_moveSdu (hlt : st.headLen < st.pduSpace) (hne : sdu ≠ [])
    (hsdu : sdu.length ≤ maxSdu)
    : Sized nofBytes maxSdu (moveSdu st sdu) := by
  have hhead := h.headLen
  have hpdu := h.pdu
  have ⟨k, _, hk, heq, hspace, _⟩ := moveSdu_spec (by omega) hlt hne
  rw [heq]
  exact {
    headLen := hhead
    pduSpace := Nat.le_trans hhead hspace
    pdu := by
      simp only [length_append, length_take, Nat.min_eq_left hk]
      omega
    li := h.li
    lastLi := Nat.le_trans hk hsdu
  }

theorem sized_pullSdus (hqueue : ∀ sdu ∈ queue, sdu ≠ [] ∧ sdu.length ≤ maxSdu)
    : Sized nofBytes maxSdu (pullSdus queue st) := by
  induction queue generalizing st with
  | nil => exact h
  | cons sdu queue ih =>
    have hhead : 2 ≤ ({ li := st.nextLi } : RlcAmdPduHeader).packedLength := by
      show 2 ≤ 2 + _ + _
      omega
    have hsdu := hqueue sdu mem_cons_self
    unfold pullSdus
    split
    . dsimp only
      split
      . exact { h with headLen := hhead, li := fun l hl => h.nextLi l (mem_of_mem_dropLast hl) }
      . next hlt =>
        apply ih
        . refine sized_moveSdu ?_ (Nat.lt_of_not_le hlt) hsdu.1 hsdu.2
          exact { h with headLen := hhead, li := h.nextLi }
        . intro sdu' hsdu'
          exact hqueue sdu' (mem_cons_of_mem _ hsdu')
    . exact h

end

def start (s : RlcAm) (nofBytes : Nat) : PullState :=
  {
    li := []
    headLen := 2
    pduSpace := nofBytes
    lastLi := 0
    pdu := []
    txSdu := s.txSdu
    queue := s.txSduQueue
  }

theorem pull_eq_start (s : RlcAm) (nofBytes : Nat)
    : pull s nofBytes = match s.txSdu with
      | some sdu => pullSdus s.txSduQueue.queue (moveSdu (start s nofBytes) sdu)
      | none => pullSdus s.txSduQueue.queue (start s nofBytes) := rfl

theorem sized_start (s : RlcAm) (maxSdu : Nat) (hbytes : 3 < nofBytes)
    : Sized nofBytes maxSdu (start s nofBytes) where
  headLen := Nat.le_refl 2
  pduSpace := by show 2 ≤ nofBytes; omega
  pdu := rfl
  li := by simp [start]
  lastLi := Nat.zero_le _

theorem sized_pull (hbytes : 3 < nofBytes) (hsdu : ∀ sdu, s.txSdu = some sdu → sdu ≠ [] ∧ sdu.length ≤ maxSdu)
    (hqueue : ∀ sdu ∈ s.txSduQueue.queue, sdu ≠ [] ∧ sdu.length ≤ maxSdu)
    : Sized nofBytes maxSdu (pull s nofBytes) := by
  have hstart := sized_start s maxSdu hbytes
  rw [pull_eq_start]
  split
  . next sdu heq =>
    have hlt : (start s nofBytes).headLen < (start s nofBytes).pduSpace := by
      show 2 < nofBytes
      omega
    exact sized_pullSdus (sized_moveSdu hstart hlt (hsdu sdu heq).1 (hsdu sdu heq).2) hqueue
  . exact sized_pullSdus hstart hqueue

theorem pulled_pull (hbytes : 3 < nofBytes) (hqueue : ∀ sdu ∈ s.txSduQueue.queue, sdu ≠ [])
    (hsdu : ∀ sdu, s.txSdu = some sdu → sdu ≠ [] ∧ written = begun.1 ++ (begun.2 ++ sdu) :: s.txSduQueue.queue)
    (hnone : s.txSdu = none → begun.2 = [] ∧ written = begun.1 ++ s.txSduQueue.queue)
    : Pulled begun written (pull s nofBytes).queue.queue (pull s nofBytes) := by
  rw [pull_eq_start]
  split
  . next sdu heq =>
    have hlt : (start s nofBytes).headLen < (start s nofBytes).pduSpace := by
      show 2 < nofBytes
      omega
    refine pulled_pullSdus (pulled_moveSdu rfl (Nat.succ_pos 1) hlt (hsdu sdu heq).1 ?_) rfl hqueue
    exact (hsdu sdu heq).2
  . next heq =>
    refine pulled_pullSdus ?_ rfl hqueue
    exact {
      sum := rfl
      li_nil := fun _ => rfl
      open_sdu := by
        intro sdu hopen
        rw [show (start s nofBytes).txSdu = s.txSdu from rfl, heq] at hopen
        cases hopen
      no_sdu := fun _ => hnone heq
    }

theorem Pulled.lastLi_pos (h : Pulled begun written queue st) (hpdu : st.pdu.length ≠ 0) : 0 < st.lastLi := by
  rw [Nat.pos_iff_ne_zero]
  intro hzero
  have hsum := h.sum
  rw [hzero, h.li_nil hzero] at hsum
  exact hpdu hsum.symm

theorem Pulled.full_eq (h : Pulled begun written queue st) (hpdu : st.pdu.length ≠ 0)
    : Framing.full st.nextLi st.pdu = Framing.cut st.li st.pdu true := by
  have hnext : st.nextLi = st.li ++ [st.lastLi] := if_pos (h.lastLi_pos hpdu)
  rw [hnext, Framing.full_append _ _ _ h.sum]

theorem framing_endAligned (segment : Bool) (st : PullState)
    : (st.framing segment).endAligned = st.txSdu.isNone := by
  unfold PullState.framing
  cases segment <;> cases st.txSdu <;> rfl

end buildDataPdu

theorem carried_append (pdus : List (RlcAmdPduHeader × ByteBuffer)) (pdu : RlcAmdPduHeader × ByteBuffer)
    : carried (pdus ++ [pdu]) = (pieces pdu).foldl Framing.feed (carried pdus) := by
  unfold carried
  rw [flatMap_append, foldl_append]
  simp

structure Built (maxSdu maxGrant n : Nat) (pdu : RlcAmdPduHeader × ByteBuffer) : Prop where
  dc : pdu.1.dc = .dataPdu
  rf : pdu.1.rf = false
  noSegment : pdu.1.lsf = false ∧ pdu.1.so = 0
  sn : pdu.1.sn = n % mod
  li : ∀ l ∈ pdu.1.li, 0 < l ∧ l ≤ maxSdu
  sum : pdu.1.li.sum < pdu.2.length
  length : pdu.2.length + 2 ≤ maxGrant

variable {pdu : RlcAmdPduHeader × ByteBuffer}

theorem Built.fits {n : Nat} (h : Built maxSdu maxGrant n pdu) (hmax : maxSdu < 2048)
    : pdu.1.Fits where
  dc := h.dc
  sn := by
    rw [h.sn]
    exact Nat.mod_lt _ (by decide)
  li := by
    intro l hl
    have := (h.li l hl).2
    omega
  so := by
    rw [h.noSegment.2]
    decide
  noSegment := fun _ => h.noSegment

structure TxFramed (maxSdu maxGrant : Nat) (written : List ByteBuffer) (s : RlcAm) : Prop where
  txEnabled : s.txEnabled = true
  vtS : s.vtS = s.numbered.length % mod
  sdus : ∀ sdu ∈ written, sdu ≠ [] ∧ sdu.length ≤ maxSdu
  open_sdu : ∀ sdu, s.txSdu = some sdu →
    sdu ≠ [] ∧ written = (carried s.numbered).1 ++ ((carried s.numbered).2 ++ sdu) :: s.txSduQueue.queue
  no_sdu : s.txSdu = none →
    (carried s.numbered).2 = [] ∧ written = (carried s.numbered).1 ++ s.txSduQueue.queue
  splits : ∀ m, Framing.Splits written (carried (s.numbered.take m))
  pdus : ∀ n pdu, s.numbered[n]? = some pdu → Built maxSdu maxGrant n pdu

variable {s s' : RlcAm} {maxSdu maxGrant : Nat} {written : List ByteBuffer}

section

variable (h : TxFramed maxSdu maxGrant written s)

include h

theorem TxFramed.congr (henabled : s'.txEnabled = s.txEnabled)
    (hvtS : s'.vtS = s.vtS) (hsdu : s'.txSdu = s.txSdu) (hqueue : s'.txSduQueue = s.txSduQueue)
    (hnumbered : s'.numbered = s.numbered)
    : TxFramed maxSdu maxGrant written s' where
  txEnabled := by rw [henabled, h.txEnabled]
  vtS := by rw [hvtS, hnumbered, h.vtS]
  sdus := h.sdus
  open_sdu := by rw [hsdu, hnumbered, hqueue]; exact h.open_sdu
  no_sdu := by rw [hsdu, hnumbered, hqueue]; exact h.no_sdu
  splits := by rw [hnumbered]; exact h.splits
  pdus := by rw [hnumbered]; exact h.pdus

theorem TxFramed.queue
    : ∀ sdu ∈ s.txSduQueue.queue, sdu ≠ [] ∧ sdu.length ≤ maxSdu := by
  intro sdu hsdu
  apply h.sdus
  cases hopen : s.txSdu with
  | none =>
    rw [(h.no_sdu hopen).2]
    exact mem_append_right _ hsdu
  | some rest =>
    rw [(h.open_sdu rest hopen).2]
    exact mem_append_right _ (mem_cons_of_mem _ hsdu)

theorem TxFramed.txSdu
    : ∀ sdu, s.txSdu = some sdu → sdu ≠ [] ∧ sdu.length ≤ maxSdu := by
  intro sdu hsdu
  have ⟨hne, hwritten⟩ := h.open_sdu sdu hsdu
  refine ⟨hne, ?_⟩
  have := (h.sdus ((carried s.numbered).2 ++ sdu) (by rw [hwritten]; simp)).2
  rw [length_append] at this
  omega

theorem txFramed_writeSdu {sdu : ByteBuffer} (hne : sdu ≠ [])
    (hlen : sdu.length ≤ maxSdu)
    : TxFramed maxSdu maxGrant (written ++ [sdu]) (s.writeSdu sdu) := by
  have heq : s.writeSdu sdu = { s with txSduQueue := s.txSduQueue.write sdu } := if_pos h.txEnabled
  have hqueue : (s.txSduQueue.write sdu).queue = s.txSduQueue.queue ++ [sdu] := rfl
  rw [heq]
  exact {
    h with
    sdus := forall_mem_append.mpr ⟨h.sdus, forall_mem_singleton.mpr ⟨hne, hlen⟩⟩
    open_sdu := by
      intro rest hrest
      have ⟨hrest', hwritten⟩ := h.open_sdu rest hrest
      refine ⟨hrest', ?_⟩
      rw [hqueue, hwritten, append_assoc]
      rfl
    no_sdu := by
      intro hnone
      have ⟨hpart, hwritten⟩ := h.no_sdu hnone
      refine ⟨hpart, ?_⟩
      rw [hqueue, hwritten, append_assoc]
    splits := fun m => (h.splits m).append [sdu]
  }

theorem TxFramed.number (hbuilt : Built maxSdu maxGrant s.numbered.length pdu)
    (hnumbered : s'.numbered = s.numbered ++ [pdu])
    (henabled : s'.txEnabled = s.txEnabled) (hvtS : s'.vtS = (s.vtS + 1) % mod)
    (hopen : ∀ sdu, s'.txSdu = some sdu →
      sdu ≠ [] ∧ written = (carried s'.numbered).1 ++ ((carried s'.numbered).2 ++ sdu) :: s'.txSduQueue.queue)
    (hnone : s'.txSdu = none →
      (carried s'.numbered).2 = [] ∧ written = (carried s'.numbered).1 ++ s'.txSduQueue.queue)
    : TxFramed maxSdu maxGrant written s' where
  txEnabled := by rw [henabled, h.txEnabled]
  vtS := by
    rw [hvtS, hnumbered, h.vtS, length_append, Nat.mod_add_mod]
    rfl
  sdus := h.sdus
  open_sdu := hopen
  no_sdu := hnone
  splits := by
    intro m
    by_cases hm : m ≤ s.numbered.length
    . rw [hnumbered, take_append_of_le_length hm]
      exact h.splits m
    . have hall : s'.numbered.take m = s'.numbered := by
        apply take_of_length_le
        rw [hnumbered, length_append, length_singleton]
        omega
      rw [hall]
      cases hsdu : s'.txSdu with
      | none => exact ⟨s'.txSduQueue.queue, (hnone hsdu).2, Or.inl (hnone hsdu).1⟩
      | some sdu => exact ⟨_, (hopen sdu hsdu).2, Or.inr ⟨sdu, s'.txSduQueue.queue, (hopen sdu hsdu).1, rfl⟩⟩
  pdus := by
    intro n pdu' hpdu'
    rw [hnumbered] at hpdu'
    by_cases hn : n < s.numbered.length
    . rw [getElem?_append_left hn] at hpdu'
      exact h.pdus n pdu' hpdu'
    . rw [getElem?_append_right (Nat.le_of_not_lt hn), getElem?_singleton] at hpdu'
      split at hpdu'
      . next hlast =>
        cases hpdu'
        have hn' : n = s.numbered.length := by omega
        rw [hn']
        exact hbuilt
      . cases hpdu'

end

open buildDataPdu in
theorem txFramed_buildDataPdu (h : TxFramed maxSdu maxGrant written s) {nofBytes : Nat} (hgrant : nofBytes ≤ maxGrant)
    : TxFramed maxSdu maxGrant written (s.buildDataPdu nofBytes).1 := by
  cases s.buildDataPdu_cases nofBytes with
  | inl hsame =>
    rw [hsame.1]
    exact h
  | inr hbuild =>
    have ⟨hbytes, _, heq⟩ := hbuild
    have hpulled := pulled_pull hbytes (fun sdu hsdu => (h.queue sdu hsdu).1) h.open_sdu h.no_sdu
    have hsized := sized_pull hbytes h.txSdu h.queue
    rw [heq]
    dsimp only
    generalize hfi : (pull s nofBytes).framing s.txSdu.isSome = fi
    have hends : fi.endAligned = (pull s nofBytes).txSdu.isNone := by
      rw [← hfi]
      apply framing_endAligned
    generalize pull s nofBytes = st at *
    split
    . next hzero =>
      have hsum := hpulled.sum
      have hlast : st.lastLi = 0 := by omega
      have hnext : st.nextLi = [] := by
        unfold PullState.nextLi
        rw [if_neg (by omega), hpulled.li_nil hlast]
      exact {
        h with
        open_sdu := by
          intro sdu hsdu
          have := (hpulled.open_sdu sdu hsdu).2.1
          omega
        no_sdu := by
          intro hnone
          have hfull := hpulled.no_sdu hnone
          rw [hnext] at hfull
          exact hfull
      }
    . next hpdu =>
      generalize hs' : { s with txSdu := st.txSdu, txSduQueue := st.queue } = s'
      have hpart := number_txPart s' fi st
      have hnumbered : (buildDataPdu.number s' fi st).1.numbered = s.numbered ++ [(header s' fi st, st.pdu)] := by
        rw [number_numbered, ← hs']
      have hpieces : pieces (header s' fi st, st.pdu) = Framing.cut st.li st.pdu st.txSdu.isNone := by
        rw [← hends]
        rfl
      have hcarried : carried (buildDataPdu.number s' fi st).1.numbered
          = (Framing.cut st.li st.pdu st.txSdu.isNone).foldl Framing.feed (carried s.numbered) := by
        rw [hnumbered, carried_append, hpieces]
      have hlast := hpulled.lastLi_pos hpdu
      have hsum := hpulled.sum
      have hspace := hsized.pduSpace
      have hlength := hsized.pdu
      have hbuilt : Built maxSdu maxGrant s.numbered.length (header s' fi st, st.pdu) := {
        dc := rfl
        rf := rfl
        noSegment := ⟨rfl, rfl⟩
        sn := by
          rw [← h.vtS, ← hs']
          rfl
        li := hsized.li
        sum := by show st.li.sum < st.pdu.length; omega
        length := by show st.pdu.length + 2 ≤ maxGrant; omega
      }
      refine h.number hbuilt hnumbered ?_ ?_ ?_ ?_
      . rw [show s.txEnabled = s'.txEnabled by rw [← hs']]
        exact congrArg TxPart.txEnabled hpart
      . rw [show s.vtS = s'.vtS by rw [← hs']]
        exact congrArg TxPart.vtS hpart
      . intro sdu hsdu
        rw [number_txSdu, ← hs'] at hsdu
        have hsdu : st.txSdu = some sdu := hsdu
        have ⟨hne, _, _, hwritten⟩ := hpulled.open_sdu sdu hsdu
        rw [hcarried, number_txSduQueue, ← hs', hsdu]
        exact ⟨hne, hwritten⟩
      . intro hnone
        rw [number_txSdu, ← hs'] at hnone
        have hnone : st.txSdu = none := hnone
        have hfull := hpulled.no_sdu hnone
        rw [hpulled.full_eq hpdu] at hfull
        rw [hcarried, number_txSduQueue, ← hs', hnone]
        exact hfull

end SrsLte.RlcAm

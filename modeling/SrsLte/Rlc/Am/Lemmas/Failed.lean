import SrsLte.Rlc.Am.Lemmas.PollCounters
import SrsLte.Rlc.Am.Lemmas.Transmit

/-!
This module contains what a call of `read_pdu` that returns no PDU leaves behind.
-/

namespace SrsLte.RlcAm

open List Option Finmap

def unsent (s : RlcAm) : List UInt8 :=
  s.txSdu.getD [] ++ s.txSduQueue.queue.flatten

structure Untouched (s s' : RlcAm) : Prop where
  pduWithoutPoll : s'.pduWithoutPoll = s.pduWithoutPoll
  byteWithoutPoll : s'.byteWithoutPoll = s.byteWithoutPoll
  pollSn : s'.pollSn = s.pollSn
  pollRetxTimeout : s'.pollRetxTimeout = s.pollRetxTimeout
  vtS : s'.vtS = s.vtS
  txWindow : s'.txWindow = s.txWindow
  unsent : s'.unsent = s.unsent

def NoData (s : RlcAm) (nofBytes : Nat) : Prop :=
  nofBytes ≤ 3 ∨ s.unsent = [] ∨ (s.txSdu = none ∧ rlcAmWindowSize ≤ s.txWindow.size)

def SegmentFails (s : RlcAm) (nofBytes : Nat) : Prop :=
  nofBytes ≤ 4 ∧ ∃ retx pdu, s.frontRetx = some retx ∧ s.txWindow.lookup retx.sn = some pdu ∧ pdu.buf.isSome
    ∧ 0 ≤ s.requiredBufferSize retx ∧ (retx.isSegment ∨ s.requiredBufferSize retx > u32ToInt nofBytes)

def FirstMissing (s : RlcAm) : Prop :=
  rlcAmWindowSize ≤ s.txWindow.size ∧ s.retxQueue = [] ∧ s.vtA ∉ s.txWindow

def FailedTouches (s : RlcAm) (nofBytes : Nat) : Prop :=
  ¬ (s.doStatus ∧ ¬ s.statusProhibited) ∧ s.NoData nofBytes
    ∧ (s.FirstMissing ∨ s.scheduleFullWindowRetx.SegmentFails nofBytes)

variable {s s' : RlcAm} {nofBytes : Nat}

namespace buildDataPdu

structure Blank (st : PullState) : Prop where
  li : st.li = []
  headLen : st.headLen = 2
  pduSpace : 3 < st.pduSpace
  lastLi : st.lastLi = 0
  pdu : st.pdu = []
  txSdu : st.txSdu = none

theorem moveSdu_nil (st : PullState) (hspace : 0 < st.pduSpace)
    : moveSdu st [] = { st with lastLi := 0, txSdu := none } := by
  simp [moveSdu, hspace]

variable {st : PullState}

theorem pullSdus_moveSdu_ne {sdu : ByteBuffer} (hne : sdu ≠ []) (hspace : st.headLen < st.pduSpace)
    (queue : List ByteBuffer)
    : (pullSdus queue (moveSdu st sdu)).pdu ≠ [] := by
  have hpos := length_pos_iff.mpr hne
  rw [← length_pos_iff]
  refine Nat.lt_of_lt_of_le ?_ (le_length_pullSdus _ _)
  simp only [moveSdu, length_append, length_take]
  split <;> omega

theorem Blank.pullSdus {queue : List ByteBuffer} (h : Blank st) (hqueue : st.queue.queue = queue)
    : (queue.flatten = [] → Blank (pullSdus queue st) ∧ (pullSdus queue st).queue.queue.flatten = [])
        ∧ (queue.flatten ≠ [] → (pullSdus queue st).pdu ≠ []) := by
  induction queue generalizing st with
  | nil =>
    unfold buildDataPdu.pullSdus
    rw [hqueue]
    exact ⟨fun _ => ⟨h, rfl⟩, fun hne => absurd rfl hne⟩
  | cons sdu queue ih =>
    have hspace := h.pduSpace
    have hli : st.nextLi = [] := by
      unfold PullState.nextLi
      rw [h.lastLi, h.li]
      rfl
    have hlen : ({ li := [] } : RlcAmdPduHeader).packedLength = 2 := rfl
    unfold buildDataPdu.pullSdus
    rw [if_pos (by rw [h.headLen]; omega)]
    dsimp only
    rw [hli, hlen, if_neg (by omega)]
    by_cases hsdu : sdu = []
    . subst hsdu
      rw [moveSdu_nil _ (by dsimp only; omega), flatten_cons, nil_append]
      exact ih ⟨rfl, rfl, hspace, rfl, h.pdu, rfl⟩ rfl
    . exact ⟨fun hnil => absurd (append_eq_nil_iff.mp hnil).1 hsdu,
        fun _ => pullSdus_moveSdu_ne hsdu (by dsimp only; omega) queue⟩

theorem pull_pdu_nil_iff (s : RlcAm) (hbytes : 3 < nofBytes)
    : (s.unsent = [] → (pull s nofBytes).pdu = [] ∧ (pull s nofBytes).txSdu = none
        ∧ (pull s nofBytes).queue.queue.flatten = [])
      ∧ (s.unsent ≠ [] → (pull s nofBytes).pdu ≠ []) := by
  have hlen : ({} : RlcAmdPduHeader).packedLength = 2 := rfl
  have hblank : Blank {
      li := [], headLen := 2, pduSpace := nofBytes, lastLi := 0, pdu := [], txSdu := none,
      queue := s.txSduQueue } := ⟨rfl, rfl, hbytes, rfl, rfl, rfl⟩
  have hpull := hblank.pullSdus (show _ = s.txSduQueue.queue from rfl)
  have hnone := fun hnil => (hpull.1 hnil).imp_left fun hblank' => And.intro hblank'.pdu hblank'.txSdu
  simp only [and_assoc] at hnone
  unfold pull unsent
  dsimp only
  rw [hlen]
  cases hsdu : s.txSdu with
  | none => exact ⟨hnone, hpull.2⟩
  | some sdu =>
    dsimp only
    rw [getD_some]
    by_cases hne : sdu = []
    . subst hne
      rw [moveSdu_nil _ (by dsimp only; omega), nil_append]
      exact ⟨hnone, hpull.2⟩
    . exact ⟨fun hnil => absurd (append_eq_nil_iff.mp hnil).1 hne,
        fun _ => pullSdus_moveSdu_ne hne (by dsimp only; omega) _⟩

end buildDataPdu

theorem buildDataPdu_of_noData (h : s.NoData nofBytes)
    : ∃ txSdu txSduQueue, s.buildDataPdu nofBytes = ({ s with txSdu, txSduQueue }, 0, [])
        ∧ { s with txSdu, txSduQueue }.unsent = s.unsent := by
  cases s.buildDataPdu_cases nofBytes with
  | inl hsame => exact ⟨s.txSdu, s.txSduQueue, hsame.1, rfl⟩
  | inr hbuild =>
    have ⟨hbytes, hroom, heq⟩ := hbuild
    have hnil : s.unsent = [] := by
      rcases h with hfew | hnil | ⟨hsdu, hfull⟩
      . omega
      . exact hnil
      . simp only [hsdu, isSome_none, Bool.false_eq_true, false_or] at hroom
        omega
    have ⟨hpdu, hsdu, hqueue⟩ := (buildDataPdu.pull_pdu_nil_iff s hbytes).1 hnil
    rw [heq]
    dsimp only
    rw [if_pos (by rw [hpdu]; rfl)]
    refine ⟨_, _, rfl, ?_⟩
    rw [hnil]
    simp only [unsent, hsdu, hqueue, getD_none, append_nil]

theorem buildDataPdu_pos_of_data (h : ¬ s.NoData nofBytes) : 0 < (s.buildDataPdu nofBytes).2.1 := by
  unfold NoData at h
  cases s.buildDataPdu_cases nofBytes with
  | inl hsame =>
    exfalso
    obtain ⟨-, hfew | ⟨hsdu, hempty | hfull⟩⟩ := hsame
    . exact h (.inl hfew)
    . refine h (.inr (.inl ?_))
      have hqueue : s.txSduQueue.queue = [] := length_eq_zero_iff.mp hempty
      simp [unsent, hsdu, hqueue]
    . exact h (.inr (.inr ⟨hsdu, hfull⟩))
  | inr hbuild =>
    have ⟨hbytes, hroom, heq⟩ := hbuild
    have hpdu := (buildDataPdu.pull_pdu_nil_iff s hbytes).2 fun hnil => h (.inr (.inl hnil))
    rw [heq]
    dsimp only
    rw [if_neg (fun hlen => hpdu (length_eq_zero_iff.mp hlen))]
    simp only [buildDataPdu.number, length_append, RlcAmdPduHeader.length_writeDataPduHeader]
    unfold RlcAmdPduHeader.packedLength
    omega

variable {retx : RlcAmdRetx} {pdu : RlcAmdTxPdu}

theorem buildSegment_of_few {rest : List RlcAmdRetx}
    (hpdu : s.txWindow.lookup retx.sn = some pdu) (hbuf : pdu.buf.isSome) (hqueue : s.retxQueue = retx :: rest)
    (hfew : nofBytes ≤ 4)
    : ∃ k, s.buildSegment nofBytes retx = ((s.setPollBit k).1, 0, []) := by
  have ⟨buf, hbuf⟩ := isSome_iff_exists.mp hbuf
  have ⟨header, _, retxCount, isAcked⟩ := pdu
  cases hbuf
  have hlen : ({ rf := true } : RlcAmdPduHeader).packedLength = 4 := rfl
  unfold buildSegment
  rw [hpdu, hqueue]
  dsimp only
  rw [hlen, if_pos hfew]
  exact ⟨_, rfl⟩

theorem buildSegment_of_no_buf (hpdu : s.txWindow.lookup retx.sn = some pdu) (hbuf : ¬ pdu.buf.isSome)
    : s.buildSegment nofBytes retx = (s, 0, []) := by
  have ⟨header, buf, retxCount, isAcked⟩ := pdu
  cases buf with
  | some buf => exact absurd rfl hbuf
  | none =>
    unfold buildSegment
    rw [hpdu]

theorem buildRetxPdu_cases (s : RlcAm) (nofBytes : Nat)
    : (0 < (s.buildRetxPdu nofBytes).2.1 ∧ ¬ s.SegmentFails nofBytes)
        ∨ ((s.buildRetxPdu nofBytes).2.1 ≤ 0
          ∧ ((¬ s.SegmentFails nofBytes ∧ ∃ retxQueue, (s.buildRetxPdu nofBytes).1 = { s with retxQueue })
            ∨ (s.SegmentFails nofBytes
              ∧ ∃ retxQueue k, (s.buildRetxPdu nofBytes).1 = ({ s with retxQueue }.setPollBit k).1))) := by
  have hhead := s.head?_dropStaleRetx
  unfold buildRetxPdu
  by_cases hempty : s.retxQueue.isEmpty
  . rw [if_pos hempty]
    right
    refine ⟨by simp, .inl ⟨?_, s.retxQueue, rfl⟩⟩
    rintro ⟨-, retx, pdu, hfront, -⟩
    rw [List.isEmpty_iff] at hempty
    simp [frontRetx, hempty] at hfront
  . rw [if_neg hempty]
    dsimp only
    cases hcons : s.dropStaleRetx.retxQueue with
    | nil =>
      right
      refine ⟨by simp, .inl ⟨?_, [], ?_⟩⟩
      . rintro ⟨-, retx, pdu, hfront, -⟩
        rw [hcons, hfront] at hhead
        cases hhead
      . dsimp only
        rw [← hcons]
        rfl
    | cons retx rest =>
      rw [hcons, head?_cons] at hhead
      have hmem := mem_txWindow_of_frontRetx hhead.symm
      have hreq : s.dropStaleRetx.requiredBufferSize retx = s.requiredBufferSize retx := rfl
      obtain ⟨pdu, hpdu⟩ := isSome_iff_exists.mp (lookup_isSome.mpr hmem)
      have hpdu' : s.dropStaleRetx.txWindow.lookup retx.sn = some pdu := hpdu
      have honly : s.SegmentFails nofBytes → nofBytes ≤ 4 ∧ pdu.buf.isSome ∧ 0 ≤ s.requiredBufferSize retx
          ∧ (retx.isSegment ∨ s.requiredBufferSize retx > u32ToInt nofBytes) := by
        rintro ⟨hfew, retx', pdu', hfront', hpdu'', hrest⟩
        cases hhead.trans hfront'
        cases hpdu.symm.trans hpdu''
        exact ⟨hfew, hrest⟩
      dsimp only
      rw [hpdu', hreq]
      dsimp only
      split
      . next hneg =>
        right
        refine ⟨by simp, .inl ⟨fun hfails => ?_, rest, rfl⟩⟩
        have := (honly hfails).2.2.1
        omega
      . next hneg =>
        split
        . next hseg =>
          by_cases hbuf : pdu.buf.isSome
          . by_cases hfew : nofBytes ≤ 4
            . obtain ⟨k, hbuild⟩ := buildSegment_of_few hpdu' hbuf hcons hfew
              right
              rw [hbuild]
              refine ⟨by simp, .inr ⟨⟨hfew, retx, pdu, hhead.symm, hpdu, hbuf, by omega, hseg⟩, _, k, rfl⟩⟩
            . left
              refine ⟨(buildSegment_ret_pos_iff hpdu' hbuf hcons).mpr (by omega), fun hfails => ?_⟩
              exact hfew (honly hfails).1
          . right
            rw [buildSegment_of_no_buf hpdu' hbuf]
            exact ⟨by simp, .inl ⟨fun hfails => hbuf (honly hfails).2.1, _, rfl⟩⟩
        . next hseg =>
          left
          exact ⟨whole_ret_pos _ _ _ _, fun hfails => hseg (honly hfails).2.2.2⟩

theorem setPollBit_touches (hcfg : 0 ≤ s.cfg.tPollRetx) (k : Nat) : ¬ s.Untouched (s.setPollBit k).1 := by
  intro h
  have hpdu := h.pduWithoutPoll
  have htimer := h.pollRetxTimeout
  unfold setPollBit at hpdu htimer
  dsimp only at hpdu htimer
  split at hpdu
  . next hpoll =>
    rw [if_pos hpoll] at htimer
    have hstarts := congrArg Timeout.starts htimer
    simp only [Timeout.start, if_neg (Int.not_lt.mpr hcfg)] at hstarts
    omega
  . dsimp only at hpdu
    omega

theorem Untouched.trans {s'' : RlcAm} (h : s.Untouched s') (h' : s'.Untouched s'') : s.Untouched s'' where
  pduWithoutPoll := h'.pduWithoutPoll.trans h.pduWithoutPoll
  byteWithoutPoll := h'.byteWithoutPoll.trans h.byteWithoutPoll
  pollSn := h'.pollSn.trans h.pollSn
  pollRetxTimeout := h'.pollRetxTimeout.trans h.pollRetxTimeout
  vtS := h'.vtS.trans h.vtS
  txWindow := h'.txWindow.trans h.txWindow
  unsent := h'.unsent.trans h.unsent

theorem Untouched.symm (h : s.Untouched s') : s'.Untouched s where
  pduWithoutPoll := h.pduWithoutPoll.symm
  byteWithoutPoll := h.byteWithoutPoll.symm
  pollSn := h.pollSn.symm
  pollRetxTimeout := h.pollRetxTimeout.symm
  vtS := h.vtS.symm
  txWindow := h.txWindow.symm
  unsent := h.unsent.symm

theorem untouched_refl (s : RlcAm) : s.Untouched s :=
  ⟨rfl, rfl, rfl, rfl, rfl, rfl, rfl⟩

theorem untouched_retxQueue (s : RlcAm) (retxQueue : List RlcAmdRetx) : s.Untouched { s with retxQueue } :=
  ⟨rfl, rfl, rfl, rfl, rfl, rfl, rfl⟩

theorem scheduleFullWindowRetx_cases (s : RlcAm)
    : (¬ s.FirstMissing ∧ ∃ retxQueue, s.scheduleFullWindowRetx = { s with retxQueue })
        ∨ (s.FirstMissing ∧ s.scheduleFullWindowRetx = { s with txWindow := s.txWindow.insert s.vtA {} }) := by
  unfold scheduleFullWindowRetx FirstMissing
  by_cases hfull : s.txWindow.size ≥ rlcAmWindowSize ∧ s.retxQueue.length = 0
  . rw [if_pos hfull]
    split
    . next hfirst =>
      left
      refine ⟨fun hmissing => hmissing.2.2 ?_, _, rfl⟩
      exact lookup_isSome.mp (by rw [hfirst]; rfl)
    . next hfirst =>
      left
      refine ⟨fun hmissing => hmissing.2.2 ?_, s.retxQueue, rfl⟩
      exact lookup_isSome.mp (by rw [hfirst]; rfl)
    . next hfirst =>
      right
      exact ⟨⟨hfull.1, length_eq_zero_iff.mp hfull.2, lookup_eq_none.mp hfirst⟩, rfl⟩
  . rw [if_neg hfull]
    left
    refine ⟨fun hmissing => hfull ⟨hmissing.1, ?_⟩, s.retxQueue, rfl⟩
    rw [hmissing.2.1]
    rfl

theorem noData_congr (hunsent : s'.unsent = s.unsent) (hsdu : s'.txSdu = s.txSdu)
    (hsize : rlcAmWindowSize ≤ s'.txWindow.size ↔ rlcAmWindowSize ≤ s.txWindow.size)
    : s'.NoData nofBytes ↔ s.NoData nofBytes := by
  unfold NoData
  rw [hunsent, hsdu, hsize]

theorem untouched_buildDataPdu_iff (hno : s'.NoData nofBytes ↔ s.NoData nofBytes)
    : ((s'.buildDataPdu nofBytes).2.1 ≤ 0 → s.Untouched (s'.buildDataPdu nofBytes).1)
        ↔
      (s.NoData nofBytes → s.Untouched s') := by
  by_cases hdata : s.NoData nofBytes
  . have ⟨txSdu, txSduQueue, hbuild, hunsent⟩ := buildDataPdu_of_noData (hno.mpr hdata)
    have hlast : s'.Untouched { s' with txSdu, txSduQueue } := ⟨rfl, rfl, rfl, rfl, rfl, rfl, hunsent⟩
    rw [hbuild]
    constructor
    . intro h _
      exact (h (Int.le_refl 0)).trans hlast.symm
    . intro h _
      exact (h hdata).trans hlast
  . have hpos := buildDataPdu_pos_of_data fun h => hdata (hno.mp h)
    refine iff_of_true ?_ (fun h => absurd h hdata)
    intro hneg
    omega

theorem noData_scheduleFullWindowRetx (s : RlcAm) (nofBytes : Nat)
    : s.scheduleFullWindowRetx.NoData nofBytes ↔ s.NoData nofBytes := by
  cases s.scheduleFullWindowRetx_cases with
  | inl hkept =>
    have ⟨_, retxQueue, heq⟩ := hkept
    rw [heq]
    exact noData_congr rfl rfl Iff.rfl
  | inr hmissing =>
    have ⟨hmissing, heq⟩ := hmissing
    rw [heq]
    refine noData_congr rfl rfl (iff_of_true ?_ hmissing.1)
    exact Nat.le_trans hmissing.1 (Map.size_le_insert _ _ _)

theorem untouched_scheduleFullWindowRetx_iff (s : RlcAm)
    : s.Untouched s.scheduleFullWindowRetx ↔ ¬ s.FirstMissing := by
  cases s.scheduleFullWindowRetx_cases with
  | inl hkept =>
    have ⟨hfirst, retxQueue, heq⟩ := hkept
    rw [heq]
    exact iff_of_true (s.untouched_retxQueue retxQueue) hfirst
  | inr hmissing =>
    have ⟨hmissing, heq⟩ := hmissing
    rw [heq]
    refine iff_of_false ?_ (not_not.mpr hmissing)
    intro h
    apply hmissing.2.2
    rw [← h.txWindow]
    exact mem_insert.mpr (.inl rfl)

theorem retxQueue_of_firstMissing (h : s.FirstMissing) : s.scheduleFullWindowRetx.retxQueue = [] := by
  cases s.scheduleFullWindowRetx_cases with
  | inl hkept => exact absurd h hkept.1
  | inr hmissing =>
    rw [hmissing.2]
    exact h.2.1

theorem untouched_retransmit_iff (hcfg : 0 ≤ s.cfg.tPollRetx) (hstatus : ¬ (s.doStatus ∧ ¬ s.statusProhibited))
    : ((s.readPdu nofBytes).2.1 ≤ 0 → s.Untouched (s.readPdu nofBytes).1)
        ↔
      (s.NoData nofBytes → ¬ s.FirstMissing ∧ ¬ s.scheduleFullWindowRetx.SegmentFails nofBytes) := by
  have hno := s.noData_scheduleFullWindowRetx nofBytes
  have hfirst := s.untouched_scheduleFullWindowRetx_iff
  have hempty : s.FirstMissing → s.scheduleFullWindowRetx.retxQueue = [] := retxQueue_of_firstMissing
  have hcfg' : s.scheduleFullWindowRetx.cfg = s.cfg := congrArg PollPart.cfg s.scheduleFullWindowRetx_pollPart
  unfold readPdu
  rw [if_neg hstatus]
  dsimp only
  rw [← hcfg'] at hcfg
  generalize s.scheduleFullWindowRetx = s₁ at *
  split
  . next hlen =>
    have hkept : ¬ s.FirstMissing := by
      intro hmissing
      rw [hempty hmissing] at hlen
      exact absurd hlen (Nat.lt_irrefl 0)
    rcases s₁.buildRetxPdu_cases nofBytes with ⟨hpos, hfits⟩ | ⟨hneg, ⟨hfits, retxQueue, heq⟩ | ⟨hfails, retxQueue, k, heq⟩⟩
    . rw [if_pos hpos]
      exact iff_of_true (fun hneg => absurd hpos (Int.not_lt.mpr hneg)) (fun _ => ⟨hkept, hfits⟩)
    . rw [if_neg (Int.not_lt.mpr hneg), heq, untouched_buildDataPdu_iff (hno.symm.trans ?_).symm]
      . refine iff_of_true ?_ (fun _ => ⟨hkept, hfits⟩)
        intro _
        exact (hfirst.mpr hkept).trans (s₁.untouched_retxQueue retxQueue)
      . exact noData_congr rfl rfl Iff.rfl
    . rw [if_neg (Int.not_lt.mpr hneg), heq, untouched_buildDataPdu_iff (hno.symm.trans ?_).symm]
      . apply forall_congr'
        intro _
        refine iff_of_false ?_ (fun h => h.2 hfails)
        intro htouched
        have hback := ((hfirst.mpr hkept).trans (s₁.untouched_retxQueue retxQueue)).symm
        exact setPollBit_touches (s := { s₁ with retxQueue }) hcfg k (hback.trans htouched)
      . refine (noData_congr ?_ ?_ ?_).symm
        . unfold unsent
          rw [setPollBit_txSdu, setPollBit_txSduQueue]
        . rw [setPollBit_txSdu]
        . rw [setPollBit_txWindow]
  . next hlen =>
    rw [untouched_buildDataPdu_iff hno, hfirst]
    have hnil : s₁.retxQueue = [] := by
      rw [← length_eq_zero_iff]
      omega
    have hfits : ¬ s₁.SegmentFails nofBytes := by
      rintro ⟨-, retx, pdu, hfront, -⟩
      simp [frontRetx, hnil] at hfront
    simp only [hfits, not_false_eq_true, and_true]

theorem readPdu_of_status (hstatus : s.doStatus ∧ ¬ s.statusProhibited) (hret : (s.readPdu nofBytes).2.1 ≤ 0)
    : (s.readPdu nofBytes).1 = s := by
  unfold readPdu at hret ⊢
  rw [if_pos hstatus] at hret ⊢
  unfold buildStatusPdu at hret ⊢
  dsimp only at hret ⊢
  split at hret
  . next hlen =>
    dsimp only at hret
    rw [length_rlcAmWriteStatusPdu] at hret
    omega
  . next hlen => rw [if_neg hlen]

theorem untouched_readPdu_iff (s : RlcAm) (nofBytes : Nat) (hcfg : 0 ≤ s.cfg.tPollRetx)
    : ((s.readPdu nofBytes).2.1 ≤ 0 → s.Untouched (s.readPdu nofBytes).1) ↔ ¬ s.FailedTouches nofBytes := by
  unfold FailedTouches
  by_cases hstatus : s.doStatus ∧ ¬ s.statusProhibited
  . refine iff_of_true ?_ (fun h => h.1 hstatus)
    intro hret
    rw [readPdu_of_status hstatus hret]
    exact s.untouched_refl
  . rw [untouched_retransmit_iff hcfg hstatus]
    constructor
    . rintro h ⟨-, hdata, hmissing | hfails⟩
      . exact (h hdata).1 hmissing
      . exact (h hdata).2 hfails
    . intro h hdata
      exact ⟨fun hmissing => h ⟨hstatus, hdata, .inl hmissing⟩, fun hfails => h ⟨hstatus, hdata, .inr hfails⟩⟩

def oneNacked : RlcAm :=
  Trace.exec step (init basicTestConfig) [.writeSdu [1, 2, 3, 4], .readPdu 6, .writePdu [0x00, 0x06, 0x00, 0x00]]

def partlySent : RlcAm :=
  Trace.exec step (init basicTestConfig) [.writeSdu [1, 2, 3, 4, 5, 6, 7, 8], .readPdu 6, .writeSdu [9, 10]]

theorem untouched_readPdu_partlySent
    : partlySent.unsent ≠ [] ∧ (partlySent.readPdu 3).2.1 ≤ 0
        ∧ partlySent.Untouched (partlySent.readPdu 3).1 := by
  have hret : (partlySent.readPdu 3).2.1 ≤ 0 := by
    decide
  refine ⟨by decide, hret, (untouched_readPdu_iff partlySent 3 (by decide)).mpr ?_ hret⟩
  rintro ⟨-, -, hmissing | ⟨-, retx, pdu, hfront, -⟩⟩
  . exact absurd hmissing.1 (by decide)
  . have hnone : partlySent.scheduleFullWindowRetx.frontRetx = none := by
      decide
    cases hnone.symm.trans hfront

theorem not_untouched_readPdu_oneNacked
    : (oneNacked.readPdu 3).2.1 ≤ 0 ∧ ¬ oneNacked.Untouched (oneNacked.readPdu 3).1 := by
  refine ⟨by decide, ?_⟩
  intro h
  have hcount := h.pduWithoutPoll
  revert hcount
  decide

end SrsLte.RlcAm

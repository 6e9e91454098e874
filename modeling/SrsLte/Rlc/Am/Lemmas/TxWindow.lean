import SrsLte.Rlc.Am.Lemmas.Control
import SrsLte.Rlc.Am.Lemmas.Transmit

/-!
This module contains the transmit window invariant. It is kept by all steps but one: a grant that is of no use
for the queued retransmissions extends a full window by the rest of an SDU.
-/

namespace SrsLte.RlcAm

open List Option Finmap

structure TxWindowInv (s : RlcAm) : Prop extends TxWindowed s where
  size : s.txWindow.size ≤ rlcAmWindowSize

structure TxStored (s : RlcAm) : Prop where
  txSdu : s.txSdu ≠ some []
  buf : ∀ sn pdu, s.txWindow.lookup sn = some pdu → pdu.buf.isSome

def Overflows (s : RlcAm) (e : Event) : Prop :=
  match e with
  | .readPdu nofBytes =>
    ¬ (s.doStatus ∧ ¬ s.statusProhibited)
      ∧ s.txSdu.isSome
      ∧ rlcAmWindowSize ≤ s.txWindow.size
      ∧ 3 < nofBytes
      ∧ s.scheduleFullWindowRetx.RetxFails nofBytes
  | _ => False

variable {s s' : RlcAm} {status : RlcStatusPdu}

theorem TxWindowInv.congr (hkeys : s'.txWindow.keys = s.txWindow.keys)
    (hvtA : s'.vtA = s.vtA) (hvtS : s'.vtS = s.vtS) (hvtMs : s'.vtMs = s.vtMs) (h : s.TxWindowInv)
    : s'.TxWindowInv where
  vtA := by rw [hvtA]; exact h.vtA
  vtS := by rw [hvtS]; exact h.vtS
  keys := by rw [hkeys, hvtA, hvtS]; exact h.keys
  vtMs := by rw [hvtMs, hvtA]; exact h.vtMs
  size := by
    unfold Map.size
    rw [hkeys]
    exact h.size

theorem TxWindowInv.retxFrame (hframe : RetxFrame s s') (h : s.TxWindowInv)
    : s'.TxWindowInv :=
  h.congr hframe.keys hframe.vtA hframe.vtS hframe.vtMs

theorem TxStored.retxFrame (hframe : RetxFrame s s') (h : s.TxStored)
    : s'.TxStored where
  txSdu := by
    rw [hframe.txSdu]
    exact h.txSdu
  buf := by
    intro sn pdu hpdu
    have hstored := hframe.stored sn
    unfold stored at hstored
    rw [hpdu, map_some] at hstored
    have ⟨pdu', hpdu', heq⟩ := map_eq_some_iff.mp hstored.symm
    have hbuf : pdu'.buf = pdu.buf := congrArg Prod.snd heq
    rw [← hbuf]
    exact h.buf sn pdu' hpdu'

theorem TxWindowed.size_eq (h : s.TxWindowed)
    : s.txWindow.size = Cyclic.dist mod s.vtA s.vtS := by
  unfold Map.size
  rw [h.keys, Cyclic.card_Ico h.vtA h.vtS]

theorem TxWindowed.vtA_mem (h : s.TxWindowed) (hsize : 0 < s.txWindow.size)
    : s.vtA ∈ s.txWindow := by
  rw [← Finmap.mem_keys, h.keys, Cyclic.left_mem_Ico h.vtA h.vtS]
  rw [h.size_eq] at hsize
  intro heq
  rw [heq, Cyclic.dist_self] at hsize
  contradiction

theorem retxFrame_scheduleFullWindowRetx (hvtA : 0 < s.txWindow.size → s.vtA ∈ s.txWindow)
    : RetxFrame s s.scheduleFullWindowRetx := by
  unfold scheduleFullWindowRetx
  split
  . next hfull =>
    have hmem := hvtA (Nat.lt_of_lt_of_le (by decide) hfull.1)
    have ⟨pdu, hpdu⟩ := isSome_iff_exists.mp (lookup_isSome.mpr hmem)
    split
    . exact .of_txPart _ rfl
    . exact .refl s
    . next hnone =>
      rw [hpdu] at hnone
      contradiction
  . exact .refl s

theorem readPdu_cases (nofBytes : Nat) (hvtA : 0 < s.txWindow.size → s.vtA ∈ s.txWindow) (hstored : s.TxStored)
    (hstatus : ¬ (s.doStatus ∧ ¬ s.statusProhibited))
    : ∃ s', RetxFrame s s'
        ∧ ((¬ s.scheduleFullWindowRetx.RetxFails nofBytes ∧ (s.readPdu nofBytes).1 = s')
          ∨ (s.scheduleFullWindowRetx.RetxFails nofBytes
            ∧ s.readPdu nofBytes = s'.buildDataPdu nofBytes)) := by
  have hframe := retxFrame_scheduleFullWindowRetx hvtA
  unfold readPdu
  rw [if_neg hstatus]
  dsimp only
  split
  . refine ⟨_, hframe.trans (retxFrame_buildRetxPdu _ nofBytes), ?_⟩
    have hret := buildRetxPdu_ret_pos_iff nofBytes (hstored.retxFrame hframe).buf
    split
    . next hpos => exact Or.inl ⟨hret.mp hpos, rfl⟩
    . next hpos =>
      rw [hret, not_not] at hpos
      exact Or.inr ⟨hpos, rfl⟩
  . next hempty =>
    refine ⟨_, hframe, Or.inr ⟨?_, rfl⟩⟩
    have hnil : s.scheduleFullWindowRetx.retxQueue = [] := by
      rw [← length_eq_zero_iff]
      omega
    simp [RetxFails, frontRetx, hnil]

section BuildDataPdu

open buildDataPdu

variable {s : RlcAm}

theorem txWindowInv_number_iff (fi : RlcFiField) (st : PullState) (h : s.TxWindowInv)
    : (number s fi st).1.TxWindowInv ↔ s.txWindow.size < rlcAmWindowSize := by
  have htx := number_txPart s fi st
  have hwindow : (number s fi st).1.txWindow.keys = insert s.vtS s.txWindow.keys := by
    rw [← Map.keys_insert]
    exact congrArg (fun part => part.txWindow.keys) htx
  have hvtA : (number s fi st).1.vtA = s.vtA := congrArg TxPart.vtA htx
  have hvtMs : (number s fi st).1.vtMs = s.vtMs := congrArg TxPart.vtMs htx
  have hvtS : (number s fi st).1.vtS = (s.vtS + 1) % mod := congrArg TxPart.vtS htx
  have hnotMem : s.vtS ∉ s.txWindow.keys := by
    rw [h.keys]
    exact Cyclic.right_not_mem_Ico
  have hcard : (number s fi st).1.txWindow.size = s.txWindow.size + 1 := by
    unfold Map.size
    rw [hwindow, Finset.card_insert_of_notMem hnotMem]
  constructor
  . intro hinv
    have := hinv.size
    omega
  . intro hlt
    have hdist := h.size_eq
    simp only [rlcAmWindowSize] at hlt
    exact {
      vtA := by rw [hvtA]; exact h.vtA
      vtS := by rw [hvtS]; exact Cyclic.succ_lt h.vtS
      keys := by
        rw [hwindow, h.keys, hvtA, hvtS]
        apply Cyclic.insert_Ico h.vtA h.vtS
        simp only [mod] at *
        omega
      vtMs := by rw [hvtMs, hvtA]; exact h.vtMs
      size := by
        rw [hcard]
        simp only [rlcAmWindowSize]
        omega
    }

theorem txStored_number (fi : RlcFiField) (st : PullState) (h : s.TxStored)
    : (number s fi st).1.TxStored where
  txSdu := by
    have htxSdu : (number s fi st).1.txSdu = s.txSdu := congrArg TxPart.txSdu (number_txPart s fi st)
    rw [htxSdu]
    exact h.txSdu
  buf := by
    intro sn pdu hpdu
    have hwindow : (number s fi st).1.txWindow = s.txWindow.insert s.vtS _ :=
      congrArg TxPart.txWindow (number_txPart s fi st)
    rw [hwindow, Map.lookup_insert_ite] at hpdu
    split at hpdu
    . cases hpdu
      rfl
    . exact h.buf sn pdu hpdu

theorem txWindowInv_buildDataPdu_iff (nofBytes : Nat) (h : s.TxWindowInv) (hstored : s.TxStored)
    : (s.buildDataPdu nofBytes).1.TxWindowInv
        ↔
      ¬ (s.txSdu.isSome ∧ rlcAmWindowSize ≤ s.txWindow.size ∧ 3 < nofBytes) := by
  cases s.buildDataPdu_cases nofBytes with
  | inl hsame =>
    rw [hsame.1]
    simp only [h, true_iff]
    rintro ⟨hsome, hfull, hbytes⟩
    cases hsame.2 with
    | inl hle => omega
    | inr hnone => simp [hnone.1] at hsome
  | inr hbuild =>
    have ⟨hbytes, hroom, hbuild⟩ := hbuild
    rw [hbuild]
    dsimp only
    have hpulled : { s with
        txSdu := (pull s nofBytes).txSdu, txSduQueue := (pull s nofBytes).queue }.TxWindowInv :=
      .congr (s := s) rfl rfl rfl rfl h
    split
    . next hempty =>
      simp only [hpulled, true_iff]
      rintro ⟨hsome, hfull, hbytes⟩
      have ⟨sdu, hsdu⟩ := isSome_iff_exists.mp hsome
      have hne : sdu ≠ [] := by
        rintro rfl
        exact hstored.txSdu hsdu
      exact pull_pdu_ne hsdu hne hbytes hempty
    . rw [txWindowInv_number_iff _ _ hpulled]
      dsimp only
      constructor
      . omega
      . intro hno
        cases hroom with
        | inl hsome =>
          have : ¬ rlcAmWindowSize ≤ s.txWindow.size := fun hfull => hno ⟨hsome, hfull, hbytes⟩
          omega
        | inr hlt => exact hlt

theorem txStored_buildDataPdu (nofBytes : Nat) (h : s.TxStored)
    : (s.buildDataPdu nofBytes).1.TxStored := by
  cases s.buildDataPdu_cases nofBytes with
  | inl hsame =>
    rw [hsame.1]
    exact h
  | inr hbuild =>
    rw [hbuild.2.2]
    dsimp only
    have hpulled : { s with
        txSdu := (pull s nofBytes).txSdu, txSduQueue := (pull s nofBytes).queue }.TxStored :=
      { txSdu := pull_txSdu_ne nofBytes h.txSdu, buf := h.buf }
    split
    . exact hpulled
    . exact txStored_number _ _ hpulled

end BuildDataPdu

theorem txWindowInv_handleStatus (h : s.TxWindowInv) (hack : status.ackSn < mod)
    : (s.handleStatus status).TxWindowInv := by
  have hacks := handleStatus_acksUpTo h.toTxWindowed hack
  have ⟨_, _, _, _, _, hframe⟩ := s.handleStatus_frame status
  have hvtS : (s.handleStatus status).vtS = s.vtS := by rw [hframe]
  have hle : Cyclic.dist mod s.vtA (s.handleStatus status).vtA ≤ Cyclic.dist mod s.vtA s.vtS := by
    have := hacks.vtA_le
    unfold handleControlPdu.loopEnd at this
    split at this <;> omega
  have hadd := Cyclic.dist_add h.vtA hacks.vtA h.vtS hle
  have hkeys : (s.handleStatus status).txWindow.keys
      = Cyclic.Ico mod (s.handleStatus status).vtA s.vtS := by
    ext sn
    rw [Finmap.mem_keys, ← lookup_isSome, hacks.txWindow]
    rw [Cyclic.mem_Ico_iff_of_le h.vtA hacks.vtA h.vtS hle, ← h.keys, Finmap.mem_keys]
    split
    . next hmem => simp [hmem]
    . next hmem => simp [hmem, lookup_isSome]
  exact {
    vtA := hacks.vtA
    vtS := by rw [hvtS]; exact h.vtS
    keys := by rw [hvtS]; exact hkeys
    vtMs := hacks.vtMs
    size := by
      unfold Map.size
      rw [hkeys, Cyclic.card_Ico hacks.vtA h.vtS]
      have := h.size
      rw [h.size_eq] at this
      omega
  }

theorem txStored_handleStatus (hwindow : s.TxWindowed) (h : s.TxStored) (hack : status.ackSn < mod)
    : (s.handleStatus status).TxStored where
  txSdu := by
    have ⟨_, _, _, _, _, hframe⟩ := s.handleStatus_frame status
    rw [hframe]
    exact h.txSdu
  buf := by
    intro sn pdu hpdu
    rw [(handleStatus_acksUpTo hwindow hack).txWindow] at hpdu
    split at hpdu
    . cases hpdu
    . exact h.buf sn pdu hpdu

theorem writePdu_cases (s : RlcAm) (payload : List UInt8)
    : (s.writePdu payload).txPart = s.txPart
        ∨ ∃ status, status.ackSn < mod ∧ s.writePdu payload = s.handleStatus status := by
  unfold writePdu
  split
  . exact Or.inl rfl
  . split
    . unfold handleControlPdu
      split
      . next status hread => exact Or.inr ⟨status, rlcAmReadStatusPdu_ackSn_lt hread, rfl⟩
      . exact Or.inl rfl
    . left
      split
      . split
        . apply handleDataPduSegment_txPart
        . apply handleDataPdu_txPart
      . rfl

theorem txWindowInv_readPdu_iff (nofBytes : Nat) (h : s.TxWindowInv) (hstored : s.TxStored)
    : (s.readPdu nofBytes).1.TxWindowInv ↔ ¬ s.Overflows (.readPdu nofBytes) := by
  unfold Overflows
  by_cases hstatus : s.doStatus ∧ ¬ s.statusProhibited
  . have hsame : RetxFrame s (s.readPdu nofBytes).1 := by
      unfold readPdu buildStatusPdu
      rw [if_pos hstatus]
      dsimp only
      split <;> exact .of_txPart _ rfl
    simp only [h.retxFrame hsame, true_iff]
    intro hover
    exact hover.1 hstatus
  . have ⟨s', hframe, hcases⟩ := readPdu_cases nofBytes h.vtA_mem hstored hstatus
    have h' := h.retxFrame hframe
    cases hcases with
    | inl hretx =>
      rw [hretx.2]
      simp only [h', hretx.1, and_false, not_false_eq_true]
    | inr hbuild =>
      rw [hbuild.2, txWindowInv_buildDataPdu_iff nofBytes h' (hstored.retxFrame hframe)]
      unfold Map.size
      rw [hframe.txSdu, hframe.keys]
      simp only [hstatus, hbuild.1, not_false_eq_true, true_and, and_true]

theorem txStored_readPdu (nofBytes : Nat) (h : s.TxWindowInv) (hstored : s.TxStored)
    : (s.readPdu nofBytes).1.TxStored := by
  by_cases hstatus : s.doStatus ∧ ¬ s.statusProhibited
  . unfold readPdu buildStatusPdu
    rw [if_pos hstatus]
    dsimp only
    split <;> exact hstored.retxFrame (.of_txPart _ rfl)
  . have ⟨s', hframe, hcases⟩ := readPdu_cases nofBytes h.vtA_mem hstored hstatus
    have hstored' := hstored.retxFrame hframe
    cases hcases with
    | inl hretx =>
      rw [hretx.2]
      exact hstored'
    | inr hbuild =>
      rw [hbuild.2]
      exact txStored_buildDataPdu nofBytes hstored'

theorem txStored_step (s : RlcAm) (e : Event) (hstored : s.TxStored) (h : s.TxWindowInv)
    : (s.step e).TxStored := by
  cases e with
  | writeSdu sdu =>
    unfold step writeSdu
    dsimp only
    split
    . exact { txSdu := hstored.txSdu, buf := hstored.buf }
    . exact hstored
  | elapse pollRetx reordering statusProhibit => exact hstored.retxFrame (.of_txPart s.retxQueue rfl)
  | getBufferState => exact hstored.retxFrame s.retxFrame_getBufferState
  | readPdu nofBytes => exact txStored_readPdu nofBytes h hstored
  | writePdu payload =>
    unfold step
    dsimp only
    cases s.writePdu_cases payload with
    | inl htx => exact hstored.retxFrame (.of_txPart s.retxQueue htx)
    | inr hcontrol =>
      have ⟨status, hack, heq⟩ := hcontrol
      rw [heq]
      exact txStored_handleStatus h.toTxWindowed hstored hack

theorem txWindowInv_step_iff (s : RlcAm) (e : Event) (hstored : s.TxStored) (h : s.TxWindowInv)
    : (s.step e).TxWindowInv ↔ ¬ s.Overflows e := by
  cases e with
  | writeSdu sdu =>
    simp only [Overflows, not_false_eq_true, iff_true]
    unfold step writeSdu
    dsimp only
    split
    . exact .congr (s := s) rfl rfl rfl rfl h
    . exact h
  | elapse pollRetx reordering statusProhibit =>
    simp only [Overflows, not_false_eq_true, iff_true]
    exact h.retxFrame (.of_txPart s.retxQueue rfl)
  | getBufferState =>
    simp only [Overflows, not_false_eq_true, iff_true]
    exact h.retxFrame s.retxFrame_getBufferState
  | readPdu nofBytes => exact txWindowInv_readPdu_iff nofBytes h hstored
  | writePdu payload =>
    simp only [Overflows, not_false_eq_true, iff_true]
    unfold step
    dsimp only
    cases s.writePdu_cases payload with
    | inl htx => exact h.retxFrame (.of_txPart s.retxQueue htx)
    | inr hcontrol =>
      have ⟨status, hack, heq⟩ := hcontrol
      rw [heq]
      exact txWindowInv_handleStatus h hack

theorem txStored_init (cfg : SrslteRlcAmConfig) : (init cfg).TxStored where
  txSdu := by simp [init]
  buf := by simp [init]

theorem txWindowInv_init (cfg : SrslteRlcAmConfig) : (init cfg).TxWindowInv where
  vtA := by simp [init, mod]
  vtS := by simp [init, mod]
  keys := by
    have hvt : (init cfg).vtA = (init cfg).vtS := rfl
    rw [hvt, Cyclic.Ico_self]
    rfl
  vtMs := by simp [init, mod, rlcAmWindowSize]
  size := by simp [init, Map.size]

theorem throughout_txWindowInv_iff (cfg : SrslteRlcAmConfig) (es : List Event)
    : Trace.Throughout step TxWindowInv (init cfg) es
        ↔
      Trace.Along step (fun s e => ¬ s.Overflows e) (init cfg) es :=
  Trace.throughout_iff_along
    txStored_step
    txWindowInv_step_iff
    (txStored_init cfg)
    (txWindowInv_init cfg)

/--
The `total` bytes of the only SDU are sent but for `r` bytes, in `k` PDUs.
-/
structure Sending (total k r : Nat) (s : RlcAm) : Prop where
  numbered : s.numbered.length = k
  sent : (s.numbered.map fun pdu => pdu.2.length).sum + r = total
  sdu : 0 < r → ∃ sdu, sdu.length = r ∧ (s.txSdu = some sdu ∧ s.txSduQueue.queue = []
    ∨ s.txSdu = none ∧ s.txSduQueue.queue = [sdu] ∧ s.txWindow.size = 0)

section Sending

open buildDataPdu

variable {s : RlcAm} {total k r nofBytes : Nat}

theorem Sending.buildDataPdu_eq (h : Sending total k r s) (hbytes : 3 < nofBytes) (hr : nofBytes - 2 ≤ r)
    : ∃ st, s.buildDataPdu nofBytes
          = number { s with txSdu := st.txSdu, txSduQueue := st.queue } (st.framing s.txSdu.isSome) st
        ∧ st.li = [] ∧ st.pdu.length = nofBytes - 2
        ∧ (0 < r - (nofBytes - 2) →
          ∃ sdu, sdu.length = r - (nofBytes - 2) ∧ st.txSdu = some sdu ∧ st.queue.queue = []) := by
  obtain ⟨sdu, rfl, hsdu⟩ := h.sdu (by omega)
  have hhead : ({} : RlcAmdPduHeader).packedLength = 2 := rfl
  have hmove : (if nofBytes - 2 ≥ sdu.length then sdu.length else nofBytes - 2) = nofBytes - 2 := by
    split <;> omega
  have hpull : (pull s nofBytes).li = [] ∧ (pull s nofBytes).pdu.length = nofBytes - 2
      ∧ (0 < sdu.length - (nofBytes - 2) → ∃ rest, rest.length = sdu.length - (nofBytes - 2)
        ∧ (pull s nofBytes).txSdu = some rest ∧ (pull s nofBytes).queue.queue = []) := by
    have hlen : min (nofBytes - 2) sdu.length = nofBytes - 2 := by omega
    have hrest : 0 < sdu.length - (nofBytes - 2) → ¬ sdu.length - (nofBytes - 2) = 0 := by omega
    unfold pull
    obtain ⟨hsdu, hqueue⟩ | ⟨hsdu, hqueue, _⟩ := hsdu
    . rw [hsdu, hqueue, hhead]
      simp only [pullSdus, moveSdu, hmove, List.nil_append, length_take, hlen, true_and]
      exact fun hpos => ⟨_, length_drop, if_neg (hrest hpos), hqueue⟩
    . rw [hsdu, hqueue, hhead]
      have hroom : 2 + 1 < nofBytes := hbytes
      have hfits : ¬ nofBytes ≤ 2 := by omega
      simp only [pullSdus, PullState.nextLi, gt_iff_lt, Nat.lt_irrefl, ge_iff_le, hroom, hfits, hhead, ↓reduceIte, moveSdu,
        hmove, List.nil_append, length_take, hlen, true_and]
      exact fun hpos => ⟨_, length_drop, if_neg (hrest hpos), trivial⟩
  refine ⟨_, ?_, hpull⟩
  cases s.buildDataPdu_cases nofBytes with
  | inl hsame =>
    have hno := hsame.2
    obtain ⟨hsdu, _⟩ | ⟨hsdu, hqueue, hwindow⟩ := hsdu
    . simp [hsdu] at hno
      omega
    . simp [hsdu, hqueue, hwindow, RlcTxQueue.size, rlcAmWindowSize] at hno
      omega
  | inr hbuild =>
    rw [hbuild.2.2]
    dsimp only
    rw [if_neg (by omega)]

theorem Sending.buildDataPdu (h : Sending total k r s) (hbytes : 3 < nofBytes) (hr : nofBytes - 2 ≤ r)
    : Sending total (k + 1) (r - (nofBytes - 2)) (s.buildDataPdu nofBytes).1 := by
  have hsent := h.sent
  obtain ⟨st, hbuild, _, hlen, hrest⟩ := h.buildDataPdu_eq hbytes hr
  rw [hbuild]
  constructor
  . rw [number_numbered, length_append, h.numbered]
    rfl
  . rw [number_numbered, map_append, sum_append]
    simp only [map_cons, map_nil, sum_singleton]
    omega
  . intro hpos
    obtain ⟨sdu, hsdu, htxSdu, hqueue⟩ := hrest hpos
    rw [number_txSdu, number_txSduQueue]
    exact ⟨sdu, hsdu, .inl ⟨htxSdu, hqueue⟩⟩

structure Filling (total k r : Nat) (s : RlcAm) : Prop extends Sending total k r s where
  stored : s.TxStored
  inv : s.TxWindowInv
  doStatus : s.doStatus = false
  vtA : s.vtA = 0
  vtS : s.vtS = k
  retxQueue : s.retxQueue = []
  length : ∀ sn header buf, s.stored sn = some (header, buf) → header.packedLength + (buf.getD []).length = 5

namespace Filling

theorem size_eq (h : Filling total k r s) (hk : k < mod) : s.txWindow.size = k := by
  rw [h.inv.size_eq, h.vtA, h.vtS, Cyclic.dist, Nat.sub_zero, Nat.add_mod_right, Nat.mod_eq_of_lt hk]

theorem readPdu (h : Filling total k r s) (hk : k < rlcAmWindowSize) (hr : 3 ≤ r)
    : Filling total (k + 1) (r - 3) (s.readPdu 5).1 := by
  have hmod : k + 1 < mod := Nat.lt_of_le_of_lt hk (by decide)
  have hsize := h.size_eq (Nat.lt_of_succ_lt hmod)
  have hread : s.readPdu 5 = s.buildDataPdu 5 := by
    have hschedule : s.scheduleFullWindowRetx = s := if_neg (by omega)
    unfold RlcAm.readPdu
    rw [if_neg (by simp [h.doStatus]), hschedule]
    exact if_neg (by simp [h.retxQueue])
  have hstored := txStored_readPdu 5 h.inv h.stored
  have hinv := (txWindowInv_readPdu_iff 5 h.inv h.stored).mpr (fun hover => by have := hover.2.2.1; omega)
  rw [hread] at hstored hinv ⊢
  have hsending := h.toSending.buildDataPdu (show 3 < 5 by decide) hr
  obtain ⟨st, hbuild, hli, hlen, _⟩ := h.buildDataPdu_eq (show 3 < 5 by decide) hr
  rw [hbuild] at hsending hstored hinv ⊢
  generalize st.framing s.txSdu.isSome = fi at *
  have htx := number_txPart { s with txSdu := st.txSdu, txSduQueue := st.queue } fi st
  refine { hsending with stored := hstored, inv := hinv, doStatus := ?_, vtA := ?_, vtS := ?_, retxQueue := ?_, length := ?_ }
  . exact (congrArg RxPart.doStatus (number_rxPart _ fi st)).trans h.doStatus
  . exact (congrArg TxPart.vtA htx).trans h.vtA
  . refine (congrArg TxPart.vtS htx).trans ?_
    exact (congrArg (fun n => (n + 1) % mod) h.vtS).trans (Nat.mod_eq_of_lt hmod)
  . exact (congrArg TxPart.retxQueue htx).trans h.retxQueue
  . intro sn header buf hsome
    have hwindow := congrArg TxPart.txWindow htx
    change (number _ _ _).1.txWindow = s.txWindow.insert s.vtS _ at hwindow
    unfold RlcAm.stored at hsome
    rw [hwindow, Map.lookup_insert_ite] at hsome
    split at hsome
    . cases hsome
      simp [buildDataPdu.header, hli, hlen, RlcAmdPduHeader.packedLength]
    . exact h.length sn header buf hsome

theorem exec_readPdu (n : Nat) (h : Filling total k r s) (hk : k + n ≤ rlcAmWindowSize) (hr : 3 * n ≤ r)
    : Filling total (k + n) (r - 3 * n) (Trace.exec step s (List.replicate n (.readPdu 5))) := by
  induction n generalizing s k r with
  | zero => exact h
  | succ n ih =>
    have hrun := ih (h.readPdu (by omega) (by omega)) (by omega) (by omega)
    have hk' : k + (n + 1) = k + 1 + n := by omega
    have hr' : r - 3 * (n + 1) = r - 3 - 3 * n := by omega
    rw [replicate_succ, hk', hr']
    exact hrun

theorem overflows (h : Filling total rlcAmWindowSize r s) (hr : 0 < r) : s.Overflows (.readPdu 4) := by
  have hsize := h.size_eq (by decide)
  have hsdu : s.txSdu.isSome := by
    obtain ⟨sdu, _, ⟨hsdu, _⟩ | ⟨_, _, hempty⟩⟩ := h.sdu hr
    . rw [hsdu]
      rfl
    . rw [hsize] at hempty
      cases hempty
  have hmem := h.inv.vtA_mem (by rw [hsize]; decide)
  have ⟨pdu, hpdu⟩ := isSome_iff_exists.mp (lookup_isSome.mpr hmem)
  have ⟨buf, hbuf⟩ := isSome_iff_exists.mp (h.stored.buf _ pdu hpdu)
  have ⟨header, _, retxCount, isAcked⟩ := pdu
  cases hbuf
  have hlen : header.packedLength + buf.length = 5 :=
    h.length s.vtA header (some buf) (by rw [RlcAm.stored, hpdu]; rfl)
  have hschedule : s.scheduleFullWindowRetx = { s with retxQueue := [⟨s.vtA, false, 0, buf.length⟩] } := by
    unfold scheduleFullWindowRetx
    rw [if_pos (by simp [hsize, h.retxQueue]), hpdu, h.retxQueue]
    rfl
  refine ⟨by simp [h.doStatus], hsdu, by rw [hsize], by decide, ?_⟩
  rw [hschedule]
  have hfront : ({ s with retxQueue := [⟨s.vtA, false, 0, buf.length⟩] } : RlcAm).frontRetx
      = some ⟨s.vtA, false, 0, buf.length⟩ := by simp [frontRetx, hmem]
  have hrequired : ({ s with retxQueue := [⟨s.vtA, false, 0, buf.length⟩] } : RlcAm).requiredBufferSize
      ⟨s.vtA, false, 0, buf.length⟩ = u32ToInt (header.packedLength + buf.length) := by
    simp [requiredBufferSize, hpdu]
  unfold RetxFails
  rw [hfront]
  dsimp only
  rw [hrequired, hlen]
  exact .inr (by decide)

end Filling

end Sending

theorem not_txWindowInv_tiny_grant
    : ¬ (Trace.exec step (init basicTestConfig)
        ([.writeSdu (List.replicate 2000 0), .readPdu 5] ++ List.replicate 511 (.readPdu 5)
          ++ [.readPdu 4])).TxWindowInv := by
  have hlen : (List.replicate 2000 (0 : UInt8)).length = 2000 := length_replicate
  generalize List.replicate 2000 (0 : UInt8) = sdu at hlen ⊢
  have hstart : Filling 2000 0 2000 ((init basicTestConfig).step (.writeSdu sdu)) := {
    stored := txStored_step _ (.writeSdu _) (txStored_init _) (txWindowInv_init _)
    inv := (txWindowInv_step_iff _ (.writeSdu _) (txStored_init _) (txWindowInv_init _)).mpr id
    numbered := rfl
    sent := rfl
    sdu := fun _ => ⟨sdu, hlen, .inr ⟨rfl, rfl, rfl⟩⟩
    doStatus := rfl
    vtA := rfl
    vtS := rfl
    retxQueue := rfl
    length := nofun
  }
  have hfill := hstart.exec_readPdu 512 (by decide) (by decide)
  have hes : [.writeSdu sdu, .readPdu 5] ++ List.replicate 511 (.readPdu 5)
      = .writeSdu sdu :: List.replicate 512 (Event.readPdu 5) := rfl
  rw [hes, Trace.exec_append, Trace.exec_cons, Trace.exec_nil, Trace.exec_cons]
  generalize Trace.exec step _ (List.replicate 512 _) = s at hfill ⊢
  intro hinv
  exact (txWindowInv_step_iff s (.readPdu 4) hfill.stored hfill.inv).mp hinv (hfill.overflows (by decide))

end SrsLte.RlcAm

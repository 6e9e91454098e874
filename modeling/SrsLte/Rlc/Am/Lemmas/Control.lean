import SrsLte.Rlc.Am.Lemmas.Basic
import SrsLte.Rlc.Am.Lemmas.Header

/-!
This module contains the specification of `handle_control_pdu`.
-/

namespace SrsLte

open List Finmap

theorem srslteBitPack_lt {bits rest : List Bool} {nofBits value : Nat}
    (h : srslteBitPack bits nofBits = some (value, rest)) : value < 2 ^ nofBits := by
  unfold srslteBitPack at h
  split at h
  . next hle =>
    have hlt := Bits.toNat_lt (bits.take nofBits)
    rw [length_take, Nat.min_eq_left hle] at hlt
    cases h
    exact hlt
  . contradiction

theorem rlcAmReadStatusPdu_ackSn_lt {payload : List UInt8} {status : RlcStatusPdu}
    (h : rlcAmReadStatusPdu payload = some status) : status.ackSn < 1024 := by
  unfold rlcAmReadStatusPdu at h
  have ⟨⟨dc, bits⟩, _, h⟩ := Option.bind_eq_some_iff.mp h
  dsimp only at h
  split at h
  . have ⟨⟨cpt, bits⟩, _, h⟩ := Option.bind_eq_some_iff.mp h
    dsimp only at h
    split at h
    . have ⟨⟨ackSn, bits⟩, hack, h⟩ := Option.bind_eq_some_iff.mp h
      have ⟨⟨ext1, bits⟩, _, h⟩ := Option.bind_eq_some_iff.mp h
      have hlt := srslteBitPack_lt hack
      dsimp only at h
      split at h
      . cases h
        exact hlt
      . have ⟨nacks, _, h⟩ := Option.bind_eq_some_iff.mp h
        cases h
        exact hlt
    . cases h
      decide
  . cases h
    decide

namespace RlcStatusPdu

def nacked (status : RlcStatusPdu) (sn : Nat) : Bool :=
  status.nacks.any (fun nack => nack.nackSn == sn)

theorem filter_isEmpty (status : RlcStatusPdu) (sn : Nat)
    : (status.nacks.filter (fun nack => nack.nackSn == sn)).isEmpty = !status.nacked sn := by
  rw [Bool.eq_iff_iff]
  simp [nacked, filter_eq_nil_iff]

end RlcStatusPdu

namespace RlcAm

structure TxWindowed (s : RlcAm) : Prop where
  vtA : s.vtA < mod
  vtS : s.vtS < mod
  keys : s.txWindow.keys = Cyclic.Ico mod s.vtA s.vtS
  vtMs : s.vtMs = (s.vtA + rlcAmWindowSize) % mod

namespace handleControlPdu

theorem nackRetx_sn (i : Nat) (buf : ByteBuffer) (nack : RlcStatusNack) : (nackRetx i buf nack).sn = i := by
  unfold nackRetx
  split
  . dsimp only
    split_ifs <;> rfl
  . rfl

theorem foldl_handleNack_of_has {i : Nat} {s : RlcAm} (nacks : List RlcStatusNack)
    (h : s.retxQueueHasSn i)
    : nacks.foldl (handleNack i) s = s := by
  induction nacks with
  | nil => rfl
  | cons nack nacks ih =>
    have hnack : handleNack i s nack = s := by
      unfold handleNack
      split
      . rw [if_pos h]
      . rfl
    rw [foldl_cons, hnack, ih]

theorem foldl_handleNack (i : Nat) (s : RlcAm) (nacks : List RlcStatusNack) (h : ¬ s.retxQueueHasSn i)
    : nacks.foldl (handleNack i) s
        =
      {
        s with
        retxQueue := s.retxQueue ++ (nacks.head?.bind (fun nack =>
          (s.txWindow.lookup i).map (fun pdu => nackRetx i (pdu.buf.getD []) nack))).toList
      } := by
  cases nacks with
  | nil => simp
  | cons nack nacks =>
    rw [foldl_cons]
    cases hpdu : s.txWindow.lookup i with
    | none =>
      have hnack (nack : RlcStatusNack) : handleNack i s nack = s := by
        unfold handleNack
        rw [hpdu]
      have hfold : nacks.foldl (handleNack i) s = s := by
        induction nacks with
        | nil => rfl
        | cons nack nacks ih => rw [foldl_cons, hnack, ih]
      rw [hnack, hfold]
      simp
    | some pdu =>
      have hnack : handleNack i s nack
          = { s with retxQueue := s.retxQueue ++ [nackRetx i (pdu.buf.getD []) nack] } := by
        unfold handleNack
        rw [hpdu]
        dsimp only
        rw [if_neg h]
      rw [hnack, foldl_handleNack_of_has]
      . simp
      . simp [retxQueueHasSn, nackRetx_sn]

def requestedAt (s : RlcAm) (status : RlcStatusPdu) (sn : Nat) : Option RlcAmdRetx :=
  (status.nacks.find? (fun nack => nack.nackSn == sn)).bind (fun nack =>
    (s.txWindow.lookup sn).map (fun pdu => nackRetx sn (pdu.buf.getD []) nack))

def requested (s : RlcAm) (status : RlcStatusPdu) (n : Nat) : List RlcAmdRetx :=
  (List.range n).filterMap (fun j => requestedAt s status ((s.vtA + j) % mod))

theorem requestedAt_of_not_nacked {s : RlcAm} {status : RlcStatusPdu} {sn : Nat}
    (h : status.nacked sn = false)
    : requestedAt s status sn = none := by
  unfold requestedAt
  rw [find?_eq_none.mpr]
  . rfl
  . simpa [RlcStatusPdu.nacked] using h

theorem requestedAt_sn {s : RlcAm} {status : RlcStatusPdu} {sn : Nat} {retx : RlcAmdRetx}
    (h : requestedAt s status sn = some retx)
    : retx.sn = sn := by
  unfold requestedAt at h
  have ⟨nack, _, h⟩ := Option.bind_eq_some_iff.mp h
  obtain ⟨pdu, _, rfl⟩ := Option.map_eq_some_iff.mp h
  apply nackRetx_sn

theorem requested_succ (s : RlcAm) (status : RlcStatusPdu) (n : Nat)
    : requested s status (n + 1)
        =
      requested s status n ++ (requestedAt s status ((s.vtA + n) % mod)).toList := by
  unfold requested
  rw [range_succ, filterMap_append]
  congr 1

structure LoopInv (s : RlcAm) (status : RlcStatusPdu) (b : Nat) (st : LoopState) : Prop where
  vtS : st.am.vtS = s.vtS
  vtA : st.am.vtA < mod
  i : st.i < mod
  vtA_le : Cyclic.dist mod s.vtA st.am.vtA ≤ Cyclic.dist mod s.vtA st.i
  i_le : Cyclic.dist mod s.vtA st.i ≤ Cyclic.dist mod s.vtA b
  acked : ∀ sn ∈ Cyclic.Ico mod s.vtA st.am.vtA, status.nacked sn = false
  txWindow : ∀ sn, st.am.txWindow.lookup sn
    = if sn ∈ Cyclic.Ico mod s.vtA st.am.vtA then none else s.txWindow.lookup sn
  vtMs : st.am.vtMs = (st.am.vtA + rlcAmWindowSize) % mod
  retxQueue : st.am.retxQueue
    = if status.nacks.length > 0 then requested s status (Cyclic.dist mod s.vtA st.i) else s.retxQueue
  updating : st.updateVtA = true → st.i = st.am.vtA
  stopped : st.updateVtA = false → status.nacked st.am.vtA = true

theorem loopInv_start {s : RlcAm} (h : s.TxWindowed) (status : RlcStatusPdu) (b : Nat)
    : LoopInv s status b (loopStart s status) where
  vtS := rfl
  vtA := h.vtA
  i := h.vtA
  vtA_le := Nat.le_refl _
  i_le := by simp [loopStart]
  acked := by simp [loopStart, Cyclic.Ico_self]
  txWindow := by simp [loopStart, Cyclic.Ico_self]
  vtMs := h.vtMs
  retxQueue := by simp [loopStart, requested]
  updating := fun _ => rfl
  stopped := by simp [loopStart]

def loopEnd (s : RlcAm) (status : RlcStatusPdu) : Nat :=
  if Cyclic.dist mod s.vtA status.ackSn ≤ Cyclic.dist mod s.vtA s.vtS then status.ackSn else s.vtS

variable {s : RlcAm} {status : RlcStatusPdu} {st : LoopState}

theorem loopEnd_lt (h : s.TxWindowed) (hack : status.ackSn < mod) : loopEnd s status < mod := by
  unfold loopEnd
  split
  . exact hack
  . exact h.vtS

theorem LoopInv.loopCond_iff (h : s.TxWindowed) (hack : status.ackSn < mod)
    (hinv : LoopInv s status (loopEnd s status) st)
    : loopCond status st
        ↔
      Cyclic.dist mod s.vtA st.i < Cyclic.dist mod s.vtA (loopEnd s status) := by
  have hle := Nat.le_trans hinv.vtA_le hinv.i_le
  have hi := Cyclic.dist_add h.vtA hinv.vtA hinv.i hinv.vtA_le
  unfold loopCond
  rw [hinv.vtS, txModBase_eq hinv.vtA hinv.i, txModBase_eq hinv.vtA hack, txModBase_eq hinv.vtA h.vtS]
  unfold loopEnd at hle ⊢
  split
  . next hend =>
    rw [if_pos hend] at hle
    have := Cyclic.dist_add h.vtA hinv.vtA hack hle
    have := Cyclic.dist_add h.vtA hinv.vtA h.vtS (Nat.le_trans hle hend)
    simp only [mod] at *
    omega
  . next hend =>
    rw [if_neg hend] at hle
    have := Cyclic.dist_add h.vtA hinv.vtA h.vtS hle
    have := Cyclic.dist_add h.vtA hinv.vtA hack (by omega)
    simp only [mod] at *
    omega

theorem LoopInv.i_mem (h : s.TxWindowed) (hinv : LoopInv s status (loopEnd s status) st)
    (hlt : Cyclic.dist mod s.vtA st.i < Cyclic.dist mod s.vtA (loopEnd s status))
    : st.i ∈ s.txWindow := by
  rw [← Finmap.mem_keys, h.keys, Cyclic.mem_Ico]
  refine ⟨hinv.i, ?_⟩
  unfold loopEnd at hlt
  split at hlt <;> omega

theorem LoopInv.lookup_i (hinv : LoopInv s status (loopEnd s status) st)
    : st.am.txWindow.lookup st.i = s.txWindow.lookup st.i := by
  rw [hinv.txWindow, if_neg]
  rw [Cyclic.mem_Ico]
  have := hinv.vtA_le
  omega

theorem LoopInv.not_has (h : s.TxWindowed) (hinv : LoopInv s status (loopEnd s status) st)
    (hnack : status.nacked st.i = true)
    : ¬ st.am.retxQueueHasSn st.i := by
  have hpos : status.nacks.length > 0 := by
    rw [gt_iff_lt, length_pos_iff]
    intro hnil
    simp [RlcStatusPdu.nacked, hnil] at hnack
  intro hhas
  unfold retxQueueHasSn at hhas
  rw [hinv.retxQueue, if_pos hpos, any_eq_true] at hhas
  have ⟨retx, hmem, hsn⟩ := hhas
  have ⟨j, hj, hretx⟩ := mem_filterMap.mp hmem
  have hsn' := requestedAt_sn hretx
  have hlt := mem_range.mp hj
  have hdist := Cyclic.dist_spec h.vtA hinv.i
  have := Cyclic.dist_add_mod (k := j) h.vtA (by omega)
  rw [← hsn', eq_of_beq hsn] at this
  omega

theorem loopBody_nacked (hnack : status.nacked st.i = true) (hhas : ¬ st.am.retxQueueHasSn st.i)
    : loopBody status st
        =
      {
        am := {
          st.am with
          retxQueue := st.am.retxQueue ++ (requestedAt st.am status st.i).toList
        }
        i := (st.i + 1) % mod
        updateVtA := false
      } := by
  unfold loopBody
  dsimp only
  rw [status.filter_isEmpty, hnack, foldl_handleNack _ _ _ hhas, head?_filter]
  simp [requestedAt]

theorem loopBody_acked (hnack : status.nacked st.i = false) (hmem : st.i ∈ st.am.txWindow)
    (hupd : st.updateVtA = true)
    : loopBody status st
        =
      {
        am := {
          st.am with
          txWindow := st.am.txWindow.erase st.i
          vtA := (st.am.vtA + 1) % mod
          vtMs := (st.am.vtMs + 1) % mod
        }
        i := (st.i + 1) % mod
        updateVtA := true
      } := by
  have hfilter := status.filter_isEmpty st.i
  rw [hnack] at hfilter
  unfold loopBody
  dsimp only
  rw [hfilter, isEmpty_iff.mp hfilter]
  simp [hmem, hupd]

theorem loopBody_skipped (hnack : status.nacked st.i = false) (hupd : st.updateVtA = false)
    : loopBody status st = { st with i := (st.i + 1) % mod } := by
  have hfilter := status.filter_isEmpty st.i
  rw [hnack] at hfilter
  unfold loopBody
  dsimp only
  rw [hfilter, isEmpty_iff.mp hfilter]
  simp [hupd]

theorem LoopInv.step (h : s.TxWindowed) (hack : status.ackSn < mod)
    (hinv : LoopInv s status (loopEnd s status) st) (hcond : loopCond status st)
    : LoopInv s status (loopEnd s status) (loopBody status st) := by
  have hlt := (hinv.loopCond_iff h hack).mp hcond
  have hend := Cyclic.dist_spec h.vtA (loopEnd_lt h hack)
  have hsucc := Cyclic.dist_succ_right h.vtA hinv.i (by omega)
  have hat : (s.vtA + Cyclic.dist mod s.vtA st.i) % mod = st.i := Cyclic.add_dist_mod h.vtA hinv.i
  have hvtA := hinv.vtA_le
  cases hnack : status.nacked st.i with
  | true =>
    rw [loopBody_nacked hnack (hinv.not_has h hnack)]
    have hpos : status.nacks.length > 0 := by
      rw [gt_iff_lt, length_pos_iff]
      intro hnil
      simp [RlcStatusPdu.nacked, hnil] at hnack
    exact {
      hinv with
      i := Cyclic.succ_lt hinv.i
      vtA_le := by
        dsimp only
        omega
      i_le := by
        dsimp only
        omega
      retxQueue := by
        dsimp only
        rw [hsucc, hinv.retxQueue, if_pos hpos, if_pos hpos, requested_succ, hat]
        unfold requestedAt
        rw [hinv.lookup_i]
      updating := by simp
      stopped := by
        intro _
        dsimp only
        cases hupd : st.updateVtA with
        | true => rw [← hinv.updating hupd, hnack]
        | false => exact hinv.stopped hupd
    }
  | false =>
    have hretx : st.am.retxQueue
        = if status.nacks.length > 0 then
            requested s status (Cyclic.dist mod s.vtA ((st.i + 1) % mod))
          else
            s.retxQueue := by
      rw [hsucc, requested_succ, hat, requestedAt_of_not_nacked hnack, hinv.retxQueue]
      simp
    cases hupd : st.updateVtA with
    | true =>
      have hi := hinv.updating hupd
      have hmem : st.i ∈ st.am.txWindow := by
        rw [← lookup_isSome, hinv.lookup_i, lookup_isSome]
        exact hinv.i_mem h hlt
      have hIco : insert st.i (Cyclic.Ico mod s.vtA st.i) = Cyclic.Ico mod s.vtA ((st.i + 1) % mod) :=
        Cyclic.insert_Ico h.vtA hinv.i (by omega)
      rw [loopBody_acked hnack hmem hupd, ← hi]
      exact {
        vtS := hinv.vtS
        vtA := Cyclic.succ_lt hinv.i
        i := Cyclic.succ_lt hinv.i
        vtA_le := Nat.le_refl _
        i_le := by
          dsimp only
          omega
        acked := by
          dsimp only
          intro sn hsn
          rw [← hIco, Finset.mem_insert] at hsn
          cases hsn with
          | inl heq => rw [heq, hnack]
          | inr hsn =>
            rw [hi] at hsn
            exact hinv.acked sn hsn
        txWindow := by
          dsimp only
          intro sn
          rw [Map.lookup_erase_ite, hinv.txWindow, ← hIco, ← hi]
          by_cases hsn : sn = st.i
          . simp only [hsn, Finset.mem_insert_self, ↓reduceIte]
          . simp only [hsn, Finset.mem_insert, false_or, ↓reduceIte]
        vtMs := by
          dsimp only
          rw [hinv.vtMs, hi]
          simp only [mod]
          omega
        retxQueue := hretx
        updating := fun _ => rfl
        stopped := by simp
      }
    | false =>
      rw [loopBody_skipped hnack hupd]
      exact {
        hinv with
        i := Cyclic.succ_lt hinv.i
        vtA_le := by
          dsimp only
          omega
        i_le := by
          dsimp only
          omega
        retxQueue := hretx
        updating := by simp [hupd]
      }

end handleControlPdu

structure AcksUpTo (status : RlcStatusPdu) (b : Nat) (s s' : RlcAm) : Prop where
  vtA : s'.vtA < mod
  vtA_le : Cyclic.dist mod s.vtA s'.vtA ≤ Cyclic.dist mod s.vtA b
  acked : ∀ sn ∈ Cyclic.Ico mod s.vtA s'.vtA, status.nacked sn = false
  longest : s'.vtA = b ∨ status.nacked s'.vtA = true
  txWindow : ∀ sn, s'.txWindow.lookup sn
    = if sn ∈ Cyclic.Ico mod s.vtA s'.vtA then none else s.txWindow.lookup sn
  vtMs : s'.vtMs = (s'.vtA + rlcAmWindowSize) % mod

open handleControlPdu in
theorem handleStatus_loopInv {s : RlcAm} {status : RlcStatusPdu} (h : s.TxWindowed)
    (hack : status.ackSn < mod)
    : ∃ st, s.handleStatus status = st.am
        ∧ LoopInv s status (loopEnd s status) st
        ∧ st.i = loopEnd s status := by
  have hend := loopEnd_lt h hack
  have hle : Cyclic.dist mod s.vtA (loopEnd s status) ≤ Cyclic.dist mod s.vtA s.vtS := by
    unfold loopEnd
    split <;> omega
  have hloop : LoopInv s status (loopEnd s status) (Loop.whileDo (loopCond status) (loopBody status)
        (s.txModBase s.vtS) (loopStart s status))
      ∧ ¬ loopCond status (Loop.whileDo (loopCond status) (loopBody status)
        (s.txModBase s.vtS) (loopStart s status)) := Loop.whileDo_spec
    (fun st => Cyclic.dist mod s.vtA s.vtS - Cyclic.dist mod s.vtA st.i)
    (by
      intro st hinv hcond
      refine ⟨hinv.step h hack hcond, ?_⟩
      have hlt := (hinv.loopCond_iff h hack).mp hcond
      have hdist := Cyclic.dist_spec h.vtA hend
      have hsucc := Cyclic.dist_succ_right h.vtA hinv.i (by omega)
      have hi : (loopBody status st).i = (st.i + 1) % mod := rfl
      rw [hi, hsucc]
      omega)
    (s.txModBase s.vtS) (loopInv_start h status _)
    (by
      rw [txModBase_eq h.vtA h.vtS]
      apply Nat.sub_le)
  generalize hst : Loop.whileDo (loopCond status) (loopBody status) (s.txModBase s.vtS)
    (loopStart s status) = st at hloop
  have hinv := hloop.1
  refine ⟨st, ?_, hinv, ?_⟩
  . rw [← hst, handleStatus]
  . have hcond := hloop.2
    rw [hinv.loopCond_iff h hack] at hcond
    have hi := hinv.i_le
    have hdist : Cyclic.dist mod s.vtA st.i = Cyclic.dist mod s.vtA (loopEnd s status) := by omega
    rw [← Cyclic.add_dist_mod h.vtA hinv.i, hdist, Cyclic.add_dist_mod h.vtA hend]

open handleControlPdu in
theorem handleStatus_acksUpTo {s : RlcAm} {status : RlcStatusPdu} (h : s.TxWindowed)
    (hack : status.ackSn < mod)
    : AcksUpTo status (loopEnd s status) s (s.handleStatus status) := by
  have ⟨st, hst, hinv, hi⟩ := handleStatus_loopInv h hack
  rw [hst]
  have hle := hinv.vtA_le
  rw [hi] at hle
  exact {
    hinv with
    vtA_le := hle
    longest := by
      cases hupd : st.updateVtA with
      | true => exact Or.inl (by rw [← hinv.updating hupd, hi])
      | false => exact Or.inr (hinv.stopped hupd)
  }

def AckExact (status : RlcStatusPdu) (s s' : RlcAm) : Prop :=
  if Cyclic.dist mod s.vtA status.ackSn ≤ Cyclic.dist mod s.vtA s.vtS then
    AcksUpTo status status.ackSn s s'
  else
    s'.txWindow = s.txWindow ∧ s'.vtA = s.vtA ∧ s'.vtMs = s.vtMs

theorem AcksUpTo.unchanged {status : RlcStatusPdu} {s s' : RlcAm} {b : Nat}
    (h : s.TxWindowed) (hacks : AcksUpTo status b s s') (hvtA : s'.vtA = s.vtA)
    : s'.txWindow = s.txWindow ∧ s'.vtA = s.vtA ∧ s'.vtMs = s.vtMs := by
  refine ⟨?_, hvtA, ?_⟩
  . apply ext_lookup
    intro sn
    rw [hacks.txWindow, hvtA, Cyclic.Ico_self]
    simp only [Finset.notMem_empty, ↓reduceIte]
  . rw [hacks.vtMs, hvtA, h.vtMs]

theorem ackExact_handleControlPdu_iff {s : RlcAm} {payload : List UInt8} {status : RlcStatusPdu}
    (h : s.TxWindowed) (hread : rlcAmReadStatusPdu payload = some status)
    : AckExact status s (s.handleControlPdu payload)
        ↔
      Cyclic.dist mod s.vtA status.ackSn ≤ Cyclic.dist mod s.vtA s.vtS
        ∨ s.vtA = s.vtS
        ∨ status.nacked s.vtA = true := by
  have hcontrol : s.handleControlPdu payload = s.handleStatus status := by
    unfold handleControlPdu
    rw [hread]
  have hacks := handleStatus_acksUpTo h (rlcAmReadStatusPdu_ackSn_lt hread)
  rw [hcontrol]
  unfold AckExact
  unfold handleControlPdu.loopEnd at hacks
  split
  . next hin =>
    rw [if_pos hin] at hacks
    simp only [hin, true_or, iff_true]
    exact hacks
  . next hout =>
    rw [if_neg hout] at hacks
    simp only [hout, false_or]
    constructor
    . rintro ⟨_, hvtA, _⟩
      rw [← hvtA]
      exact hacks.longest
    . intro hcases
      apply hacks.unchanged h
      cases hcases with
      | inl hempty =>
        have hle := hacks.vtA_le
        rw [← hempty, Cyclic.dist_self] at hle
        have hzero := (Cyclic.dist_eq_zero h.vtA hacks.vtA).mp (by omega)
        exact hzero.symm
      | inr hnack =>
        by_contra hne
        have hmem := (Cyclic.left_mem_Ico h.vtA hacks.vtA).mpr (Ne.symm hne)
        rw [hacks.acked _ hmem] at hnack
        contradiction

def oneSent : RlcAm :=
  Trace.exec step (init basicTestConfig) [.writeSdu [0], .readPdu 4]

theorem txWindowed_oneSent : oneSent.TxWindowed where
  vtA := by decide
  vtS := by decide
  keys := by
    have hkeys : oneSent.txWindow.keys = insert 0 (Cyclic.Ico mod 0 0) := by
      rw [Cyclic.Ico_self]
      decide
    rw [hkeys, Cyclic.insert_Ico (by decide) (by decide) (by decide)]
    rfl
  vtMs := by decide

theorem not_ackExact_outside_window
    : rlcAmReadStatusPdu [0x00, 0x14] = some { ackSn := 5 }
        ∧ ¬ AckExact { ackSn := 5 } oneSent (oneSent.handleControlPdu [0x00, 0x14]) := by
  refine ⟨by decide, ?_⟩
  unfold AckExact
  rw [if_neg (by decide)]
  rintro ⟨hwindow, _⟩
  have hkeys : (oneSent.handleControlPdu [0x00, 0x14]).txWindow.keys ≠ oneSent.txWindow.keys := by decide
  exact hkeys (congrArg Finmap.keys hwindow)

theorem ackExact_oneSent
    : AckExact { ackSn := 1 } oneSent (oneSent.handleControlPdu [0x00, 0x04]) := by
  have hread : rlcAmReadStatusPdu [0x00, 0x04] = some { ackSn := 1 } := by decide
  rw [ackExact_handleControlPdu_iff txWindowed_oneSent hread]
  exact Or.inl (by decide)

end RlcAm

end SrsLte

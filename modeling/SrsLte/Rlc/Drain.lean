import SrsLte.Rlc.Am.Lemmas.Grant
import SrsLte.Rlc.Um.Lemmas.Header

/-!
This module contains the drain law of `get_buffer_state` and `read_pdu`. It holds for `rlc_am` and `rlc_um`.
-/

namespace SrsLte

open List Option

def unsentBytes (txSdu : Option ByteBuffer) (queue : RlcTxQueue) : Nat :=
  (txSdu.getD []).length + (queue.queue.map List.length).sum

def unsentSdus (txSdu : Option ByteBuffer) (queue : RlcTxQueue) : Nat :=
  queue.size + (if txSdu.isSome then 1 else 0)

structure Backlog (txSdu : Option ByteBuffer) (queue : RlcTxQueue) : Prop where
  txSdu_ne : ∀ sdu, txSdu = some sdu → sdu ≠ []
  queue_ne : ∀ sdu ∈ queue.queue, sdu ≠ []
  unreadBytes : queue.unreadBytes = (queue.queue.map List.length).sum
  fits : unsentBytes txSdu queue ≤ ByteBuffer.getTailroom []

namespace Backlog

variable {txSdu : Option ByteBuffer} {queue : RlcTxQueue}

theorem length_le_sum {sdus : List ByteBuffer} (h : ∀ sdu ∈ sdus, sdu ≠ [])
    : sdus.length ≤ (sdus.map List.length).sum := by
  induction sdus with
  | nil => exact Nat.le_refl 0
  | cons sdu sdus ih =>
    have hpos := length_pos_iff.mpr (h sdu mem_cons_self)
    have hrest := ih (fun sdu' hsdu' => h sdu' (mem_cons_of_mem _ hsdu'))
    simp only [length_cons, map_cons, sum_cons]
    omega

theorem unsentSdus_le (h : Backlog txSdu queue) : unsentSdus txSdu queue ≤ unsentBytes txSdu queue := by
  have hqueue := length_le_sum h.queue_ne
  unfold unsentSdus unsentBytes RlcTxQueue.size
  cases hsdu : txSdu with
  | none =>
    simp only [isSome_none, Bool.false_eq_true, ↓reduceIte]
    omega
  | some sdu =>
    have hpos := length_pos_iff.mpr (h.txSdu_ne sdu hsdu)
    simp only [isSome_some, ↓reduceIte, getD_some]
    omega

theorem write (h : Backlog txSdu queue) {msg : ByteBuffer} (hne : msg ≠ [])
    (hfits : unsentBytes txSdu (queue.write msg) ≤ ByteBuffer.getTailroom [])
    : Backlog txSdu (queue.write msg) where
  txSdu_ne := h.txSdu_ne
  queue_ne := forall_mem_append.mpr ⟨h.queue_ne, forall_mem_singleton.mpr hne⟩
  unreadBytes := by
    have hsum : ((queue.write msg).queue.map List.length).sum = queue.unreadBytes + msg.length := by
      simp [RlcTxQueue.write, h.unreadBytes]
    have hlt : ByteBuffer.getTailroom [] < 2 ^ 32 := by
      decide
    unfold unsentBytes at hfits
    rw [hsum] at hfits ⊢
    apply Nat.mod_eq_of_lt
    omega
  fits := hfits

theorem read (h : Backlog none queue) {sdu : ByteBuffer} {sdus : List ByteBuffer} (hqueue : queue.queue = sdu :: sdus)
    : Backlog (some sdu) { queue := sdus, unreadBytes := queue.popping sdu } where
  txSdu_ne := by
    intro sdu' heq
    cases heq
    exact h.queue_ne sdu (by simp [hqueue])
  queue_ne := by
    intro sdu' hsdu'
    exact h.queue_ne sdu' (by simp [hqueue, hsdu'])
  unreadBytes := by
    have hbytes := h.unreadBytes
    rw [hqueue, map_cons, sum_cons] at hbytes
    unfold RlcTxQueue.popping
    dsimp only
    split <;> omega
  fits := by
    have hfits := h.fits
    unfold unsentBytes at hfits ⊢
    simpa [hqueue] using hfits

theorem bufferState_eq (h : Backlog txSdu queue) {fixed nSdus nBytes : Nat} (hfixed : fixed ≤ 3)
    (hsdus : nSdus = unsentSdus txSdu queue) (hbytes : nBytes = queue.sizeBytes + (txSdu.getD []).length)
    : (let nBytes := nBytes % 2 ^ 32
       let nBytes := if nSdus > 1 then (nBytes + (3 * (nSdus - 1) + 1) / 2) % 2 ^ 32 else nBytes
       if nBytes > 0 then (nBytes + fixed) % 2 ^ 32 else nBytes)
        =
      if unsentBytes txSdu queue > 0 then
        unsentBytes txSdu queue + (3 * (unsentSdus txSdu queue - 1) + 1) / 2 + fixed
      else
        0 := by
  have hfits := h.fits
  have hle := h.unsentSdus_le
  have hsum : nBytes = unsentBytes txSdu queue := by
    unfold unsentBytes
    rw [hbytes, RlcTxQueue.sizeBytes, h.unreadBytes, Nat.add_comm]
  rw [hsum, hsdus]
  generalize unsentBytes txSdu queue = bytes at *
  generalize unsentSdus txSdu queue = sdus at *
  simp only [ByteBuffer.getTailroom, srslteMaxBufferSizeBytes, srslteBufferHeaderOffset, length_nil] at hfits
  have hext : (3 * (sdus - 1) + 1) / 2 ≤ 2 * bytes := by omega
  have hnone : ¬ sdus > 1 → (3 * (sdus - 1) + 1) / 2 = 0 := by omega
  generalize (3 * (sdus - 1) + 1) / 2 = ext at *
  dsimp only
  rw [Nat.mod_eq_of_lt (show bytes < 2 ^ 32 by omega), Nat.mod_eq_of_lt (show bytes + ext < 2 ^ 32 by omega)]
  by_cases hmany : sdus > 1
  . rw [if_pos hmany, if_pos (by omega), if_pos (by omega)]
    exact Nat.mod_eq_of_lt (by omega)
  . rw [if_neg hmany, hnone hmany]
    split
    . exact Nat.mod_eq_of_lt (by omega)
    . omega

theorem bufferState_lt (h : Backlog txSdu queue) {fixed : Nat} (hfixed : fixed ≤ 3)
    : unsentBytes txSdu queue + (3 * (unsentSdus txSdu queue - 1) + 1) / 2 + fixed < 2 ^ 31 := by
  have hfits := h.fits
  have hle := h.unsentSdus_le
  simp only [ByteBuffer.getTailroom, srslteMaxBufferSizeBytes, srslteBufferHeaderOffset, length_nil] at hfits
  omega

end Backlog

def Drained (nofBytes : Nat) (ret : Int) (txSdu : Option ByteBuffer) (queue : RlcTxQueue) : Prop :=
  1 ≤ ret ∧ ret ≤ nofBytes ∧ txSdu = none ∧ queue.queue = []

/-! Both entities fill a PDU in the same way, only the length of the fixed part of the header differs. -/

namespace Pull

variable {fixed nofBytes : Nat} {F : List ByteBuffer → PullState → PullState} {sdu : ByteBuffer}
  {queue : List ByteBuffer} {st : PullState}

def start (fixed nofBytes : Nat) (txSdu : Option ByteBuffer) (queue : RlcTxQueue) : PullState :=
  { li := [], headLen := fixed, pduSpace := nofBytes, lastLi := 0, pdu := [], txSdu, queue }

def taken (st : PullState) (sdu : ByteBuffer) : PullState :=
  { st with pdu := st.pdu ++ sdu, lastLi := sdu.length, txSdu := none, pduSpace := st.pduSpace - sdu.length }

def next (fixed : Nat) (st : PullState) (queue : RlcTxQueue) : PullState :=
  { st with li := st.nextLi, headLen := fixed + (3 * st.nextLi.length + 1) / 2, queue }

structure Rule (fixed : Nat) (F : List ByteBuffer → PullState → PullState) : Prop where
  nil : ∀ st, F [] st = st
  cons : ∀ {sdu queue st}, sdu ≠ [] → st.pduSpace < 2 ^ 32 → st.headLen + 1 < st.pduSpace →
    sdu.length + (next fixed st st.queue).headLen ≤ st.pduSpace →
      F (sdu :: queue) st = F queue (taken (next fixed st { queue, unreadBytes := st.queue.popping sdu }) sdu)

structure Roomy (fixed : Nat) (queue : List ByteBuffer) (st : PullState) : Prop where
  txSdu : st.txSdu = none
  queue_eq : st.queue.queue = queue
  headLen : st.headLen ≤ fixed + (3 * st.li.length + 1) / 2
  lastLi : st.lastLi = 0 → st.li = []
  room : (queue.map List.length).sum + fixed + 1 + (3 * (st.nextLi.length + queue.length - 1) + 1) / 2 ≤ st.pduSpace
  pduSpace : st.pduSpace < 2 ^ 32

theorem length_le_nextLi (st : PullState) : st.li.length ≤ st.nextLi.length := by
  unfold PullState.nextLi
  split
  . simp
  . exact Nat.le_refl _

theorem length_nextLi_taken (st : PullState) (hne : sdu ≠ []) : (taken st sdu).nextLi.length = st.li.length + 1 := by
  have hpos : (taken st sdu).lastLi > 0 := length_pos_iff.mpr hne
  unfold PullState.nextLi
  rw [if_pos hpos, length_append]
  rfl

theorem Roomy.next (h : Roomy fixed (sdu :: queue) st) (hne : sdu ≠ []) (unreadBytes : Nat)
    : Roomy fixed queue (taken (next fixed st { queue, unreadBytes }) sdu) := by
  have hroom := h.room
  simp only [map_cons, sum_cons, length_cons] at hroom
  have hli : st.nextLi.length + 1 + queue.length - 1 = st.nextLi.length + (queue.length + 1) - 1 := by omega
  exact {
    txSdu := rfl
    queue_eq := rfl
    headLen := Nat.le_refl _
    lastLi := fun hzero => absurd hzero (Nat.ne_of_gt (length_pos_iff.mpr hne))
    room := by
      rw [length_nextLi_taken _ hne]
      change _ + (3 * (st.nextLi.length + 1 + queue.length - 1) + 1) / 2 ≤ st.pduSpace - sdu.length
      rw [hli]
      omega
    pduSpace := Nat.lt_of_le_of_lt (Nat.sub_le ..) h.pduSpace
  }

theorem Roomy.pulls (h : Roomy fixed queue st) (hF : Rule fixed F) (hne : ∀ sdu ∈ queue, sdu ≠ [])
    : (F queue st).txSdu = none ∧ (F queue st).queue.queue = [] ∧ (F queue st).pdu = st.pdu ++ queue.flatten
        ∧ (F queue st).li.length ≤ st.nextLi.length + queue.length - 1 := by
  induction queue generalizing st with
  | nil =>
    rw [hF.nil]
    refine ⟨h.txSdu, h.queue_eq, by simp, ?_⟩
    unfold PullState.nextLi
    split
    . simp
    next hzero =>
      rw [h.lastLi (by omega)]
      exact Nat.zero_le _
  | cons sdu queue ih =>
    have hsdu := hne sdu mem_cons_self
    have hpos := length_pos_iff.mpr hsdu
    have hroom := h.room
    have hhead := h.headLen
    have hnext := length_le_nextLi st
    simp only [map_cons, sum_cons, length_cons] at hroom
    have ⟨hnone, hempty, hall, hlen⟩ := ih (h.next hsdu (st.queue.popping sdu)) fun sdu' hsdu' => hne sdu' (mem_cons_of_mem _ hsdu')
    rw [length_nextLi_taken _ hsdu] at hlen
    rw [hF.cons hsdu h.pduSpace (by omega) (by dsimp only [Pull.next]; omega), hall]
    refine ⟨hnone, hempty, by simp [taken, Pull.next], ?_⟩
    change _ ≤ st.nextLi.length + 1 + queue.length - 1 at hlen
    rw [length_cons]
    omega

theorem drains (st : PullState) (hF : Rule fixed F) {txSdu : Option ByteBuffer} {queue : RlcTxQueue}
    (hsdu_ne : ∀ sdu, txSdu = some sdu → sdu ≠ []) (hqueue_ne : ∀ sdu ∈ queue.queue, sdu ≠ []) (hlt : nofBytes < 2 ^ 32)
    (hbytes : unsentBytes txSdu queue + (3 * (unsentSdus txSdu queue - 1) + 1) / 2 + fixed + 1 ≤ nofBytes)
    (hst : st = F queue.queue (txSdu.elim (start fixed nofBytes txSdu queue) (taken (start fixed nofBytes txSdu queue))))
    : st.txSdu = none ∧ st.queue.queue = [] ∧ st.pdu.length = unsentBytes txSdu queue
        ∧ st.li.length ≤ unsentSdus txSdu queue - 1 := by
  unfold unsentBytes unsentSdus RlcTxQueue.size at *
  rw [hst]
  cases txSdu with
  | none =>
    simp only [getD_none, length_nil, isSome_none, Bool.false_eq_true, ↓reduceIte, Nat.zero_add, Nat.add_zero] at hbytes ⊢
    have hroomy : Roomy fixed queue.queue (start fixed nofBytes none queue) := {
      txSdu := rfl
      queue_eq := rfl
      headLen := Nat.le_add_right ..
      lastLi := fun _ => rfl
      room := by
        change _ + (3 * (0 + queue.queue.length - 1) + 1) / 2 ≤ nofBytes
        omega
      pduSpace := hlt
    }
    have ⟨hnone, hempty, hpdu, hli⟩ := hroomy.pulls hF hqueue_ne
    rw [elim_none, hpdu]
    refine ⟨hnone, hempty, by simp [start, length_flatten], Nat.le_trans hli ?_⟩
    change 0 + queue.queue.length - 1 ≤ _
    omega
  | some sdu =>
    have hne := hsdu_ne sdu rfl
    simp only [getD_some, isSome_some, ↓reduceIte] at hbytes ⊢
    have hroomy : Roomy fixed queue.queue (taken (start fixed nofBytes (some sdu) queue) sdu) := {
      txSdu := rfl
      queue_eq := rfl
      headLen := Nat.le_add_right ..
      lastLi := fun hzero => absurd hzero (Nat.ne_of_gt (length_pos_iff.mpr hne))
      room := by
        rw [length_nextLi_taken _ hne]
        change _ + (3 * (0 + 1 + queue.queue.length - 1) + 1) / 2 ≤ nofBytes - sdu.length
        omega
      pduSpace := Nat.lt_of_le_of_lt (Nat.sub_le ..) hlt
    }
    have ⟨hnone, hempty, hpdu, hli⟩ := hroomy.pulls hF hqueue_ne
    rw [length_nextLi_taken _ hne] at hli
    rw [elim_some, hpdu]
    refine ⟨hnone, hempty, by simp [taken, start, length_flatten], Nat.le_trans hli ?_⟩
    change 0 + 1 + queue.queue.length - 1 ≤ _
    omega

end Pull

namespace RlcAm

open buildDataPdu

variable {s : RlcAm} {sdu : ByteBuffer}

theorem buildDataPdu.moveSdu_of_le (st : PullState) (h : sdu.length + st.headLen ≤ st.pduSpace)
    : moveSdu st sdu = Pull.taken st sdu := by
  have hspace : st.pduSpace - st.headLen ≥ sdu.length := by omega
  unfold moveSdu Pull.taken
  simp only [hspace, ↓reduceIte, take_length, Nat.sub_self, PullState.mk.injEq, true_and, and_true]
  split
  . rfl
  . omega

theorem buildDataPdu.pullRule : Pull.Rule 2 pullSdus where
  nil := fun _ => rfl
  cons := by
    intro sdu queue st hne _ hspace hroom
    have hpos := length_pos_iff.mpr hne
    have hfull : ¬ ({ li := st.nextLi } : RlcAmdPduHeader).packedLength ≥ st.pduSpace := by
      change ¬ (Pull.next 2 st st.queue).headLen ≥ st.pduSpace
      omega
    rw [pullSdus, if_pos hspace]
    dsimp only
    rw [if_neg hfull, moveSdu_of_le _ (by exact hroom)]
    rfl

theorem buildDataPdu.pull_drains {s : RlcAm} (hsdu_ne : ∀ sdu, s.txSdu = some sdu → sdu ≠ [])
    (hqueue_ne : ∀ sdu ∈ s.txSduQueue.queue, sdu ≠ []) {nofBytes : Nat} (hlt : nofBytes < 2 ^ 32)
    (hbytes : unsentBytes s.txSdu s.txSduQueue + (3 * (unsentSdus s.txSdu s.txSduQueue - 1) + 1) / 2 + 3 ≤ nofBytes)
    : (pull s nofBytes).txSdu = none ∧ (pull s nofBytes).queue.queue = []
        ∧ (pull s nofBytes).pdu.length = unsentBytes s.txSdu s.txSduQueue := by
  have hpull := Pull.drains (pull s nofBytes) pullRule hsdu_ne hqueue_ne hlt hbytes <| by
    rw [pull_eq_start]
    split
    next sdu hsdu =>
      unfold unsentBytes at hbytes
      rw [hsdu, getD_some] at hbytes
      rw [hsdu, elim_some, moveSdu_of_le]
      . rw [← hsdu]
        rfl
      . change sdu.length + 2 ≤ nofBytes
        omega
    next hsdu =>
      rw [hsdu, elim_none, ← hsdu]
      rfl
  exact ⟨hpull.1, hpull.2.1, hpull.2.2.1⟩

theorem getBufferState_cases (s : RlcAm)
    : ∃ s' : RlcAm, (s'.doStatus ∧ ¬ s'.statusProhibited) ∧ s.getBufferState = s'.prepareStatus
        ∨ s.getBufferState = (s', 0)
        ∨ s'.retxQueue ≠ [] ∧ s.getBufferState.1 = s'
        ∨ s.getBufferState = (s', s'.txBufferState) := by
  unfold getBufferState
  generalize s.checkReorderingTimeout = s
  dsimp only
  split
  next hdo => exact ⟨s, .inl ⟨hdo, rfl⟩⟩
  . generalize (if s.pollRetx then s.schedulePollRetx else s) = s
    split
    next retx rest hqueue =>
      split
      . split
        . exact ⟨_, .inr (.inl rfl)⟩
        . refine ⟨s, .inr (.inr (.inl ⟨?_, rfl⟩))⟩
          rw [hqueue]
          nofun
      . exact ⟨s, .inr (.inr (.inr rfl))⟩
    . exact ⟨s, .inr (.inr (.inr rfl))⟩

theorem getBufferState_of_idle (hstatus : ¬ (s.getBufferState.1.doStatus ∧ ¬ s.getBufferState.1.statusProhibited))
    (hretx : s.getBufferState.1.retxQueue = []) (hpos : 0 < s.getBufferState.2)
    : s.getBufferState.2 = s.getBufferState.1.txBufferState := by
  have ⟨s', hcases⟩ := s.getBufferState_cases
  rcases hcases with ⟨hdo, heq⟩ | heq | ⟨hqueue, heq⟩ | heq
  . rw [heq] at hstatus
    exact absurd hdo hstatus
  . rw [heq] at hpos
    exact absurd hpos (Nat.lt_irrefl 0)
  . rw [heq] at hretx
    exact absurd hretx hqueue
  . rw [heq]

theorem txBufferState_eq (h : Backlog s.txSdu s.txSduQueue) (hwindow : s.txWindow.size < rlcAmWindowSize)
    : s.txBufferState
        =
      if unsentBytes s.txSdu s.txSduQueue > 0 then
        unsentBytes s.txSdu s.txSduQueue + (3 * (unsentSdus s.txSdu s.txSduQueue - 1) + 1) / 2 + 3
      else
        0 := by
  have hsize : s.txWindow.size < 1024 := Nat.lt_trans hwindow (by decide)
  rw [← h.bufferState_eq (Nat.le_refl 3) rfl rfl]
  unfold txBufferState
  rw [if_pos hsize, if_pos hsize]
  rfl

theorem drained_buildDataPdu (h : Backlog s.txSdu s.txSduQueue)
    (hwindow : s.txWindow.size < rlcAmWindowSize) (hpos : 0 < s.txBufferState)
    : Drained s.txBufferState (s.buildDataPdu s.txBufferState).2.1 (s.buildDataPdu s.txBufferState).1.txSdu
        (s.buildDataPdu s.txBufferState).1.txSduQueue := by
  have hstate := txBufferState_eq h hwindow
  have hrespects := (respects_buildDataPdu s s.txBufferState).1
  have hbytes : 0 < unsentBytes s.txSdu s.txSduQueue := by
    by_contra hzero
    rw [if_neg hzero] at hstate
    omega
  rw [if_pos hbytes] at hstate
  have hlt := h.bufferState_lt (Nat.le_refl 3)
  have ⟨hsdu, hqueue, hlen⟩ := pull_drains h.txSdu_ne h.queue_ne (by omega) (Nat.le_of_eq hstate.symm)
  cases s.buildDataPdu_cases s.txBufferState with
  | inl hsame =>
    exfalso
    cases hsame.2 with
    | inl hsmall => omega
    | inr hnone =>
      have ⟨hnone, hempty⟩ := hnone
      cases hempty with
      | inl hempty =>
        unfold unsentBytes at hbytes
        rw [hnone, eq_nil_of_length_eq_zero hempty] at hbytes
        exact absurd hbytes (by decide)
      | inr hfull => omega
  | inr hbuild =>
    rw [hbuild.2.2] at hrespects ⊢
    dsimp only at hrespects ⊢
    rw [if_neg (by omega)] at hrespects ⊢
    refine ⟨?_, hrespects, ?_, ?_⟩
    . rw [number_payload]
      dsimp only
      rw [length_append, hlen]
      omega
    . rw [number_txSdu]
      exact hsdu
    . rw [number_txSduQueue]
      exact hqueue

structure Idle (s : RlcAm) : Prop where
  status : ¬ (s.doStatus ∧ ¬ s.statusProhibited)
  retxQueue : s.retxQueue = []
  txWindow : s.txWindow.size < rlcAmWindowSize

theorem Idle.readPdu_eq (h : s.Idle) (nofBytes : Nat)
    : s.readPdu nofBytes = s.buildDataPdu nofBytes := by
  have hwindow := h.txWindow
  have hfull : s.scheduleFullWindowRetx = s := by
    unfold scheduleFullWindowRetx
    rw [if_neg (by omega)]
  unfold readPdu
  rw [if_neg h.status, hfull]
  simp [h.retxQueue]

def Drains (s : RlcAm) : Prop :=
  Drained s.getBufferState.2 (s.getBufferState.1.readPdu s.getBufferState.2).2.1
    (s.getBufferState.1.readPdu s.getBufferState.2).1.txSdu
    (s.getBufferState.1.readPdu s.getBufferState.2).1.txSduQueue

theorem drains_of_idle (h : Backlog s.txSdu s.txSduQueue) (hidle : s.getBufferState.1.Idle)
    (hpos : 0 < s.getBufferState.2)
    : s.Drains := by
  have hframe := s.retxFrame_getBufferState
  have hstate := getBufferState_of_idle hidle.status hidle.retxQueue hpos
  rw [← hframe.txSdu, ← hframe.txSduQueue] at h
  unfold Drains
  rw [hidle.readPdu_eq, hstate]
  exact drained_buildDataPdu h hidle.txWindow (hstate ▸ hpos)

end RlcAm

namespace RlcUm

open buildDataPdu

namespace buildDataPdu

def fixedLen (snSize : RlcUmdSnSize) : Nat :=
  headLen snSize []

theorem headLen_eq (snSize : RlcUmdSnSize) (li : List Nat)
    : headLen snSize li = fixedLen snSize + (3 * li.length + 1) / 2 := by
  cases snSize with
  | size5Bits => rfl
  | size10Bits => rfl

theorem moveSdu_of_le {sdu : ByteBuffer} (st : PullState) (hlt : st.pduSpace < 2 ^ 32)
    (h : sdu.length + st.headLen ≤ st.pduSpace)
    : moveSdu st sdu = Pull.taken st sdu := by
  have hspace : u32Sub st.pduSpace st.headLen ≥ sdu.length := by
    rw [u32Sub_of_le (by omega) hlt]
    omega
  unfold moveSdu
  simp only [hspace, ↓reduceIte, take_length, Nat.sub_self]
  rfl

theorem pullRule (snSize : RlcUmdSnSize) : Pull.Rule (fixedLen snSize) (pullSdus snSize) where
  nil := fun _ => rfl
  cons := by
    intro sdu queue st _ hlt hspace hroom
    have hlen := headLen_eq snSize st.nextLi
    dsimp only [Pull.next] at hroom ⊢
    rw [← hlen] at hroom ⊢
    rw [pullSdus, if_pos hspace]
    dsimp only
    rw [moveSdu_of_le _ (by exact hlt) (by exact hroom)]

end buildDataPdu

theorem buildDataPdu.pull_drains {s : RlcUm} (h : Backlog s.txSdu s.txSduQueue) (nofBytes : Nat)
    (hlt : nofBytes < 2 ^ 32)
    (hbytes : unsentBytes s.txSdu s.txSduQueue + (3 * (unsentSdus s.txSdu s.txSduQueue - 1) + 1) / 2
      + fixedLen s.cfg.txSnFieldLength + 1 ≤ nofBytes)
    : (pull s nofBytes).txSdu = none ∧ (pull s nofBytes).queue.queue = []
        ∧ (pull s nofBytes).pdu.length = unsentBytes s.txSdu s.txSduQueue
        ∧ (pull s nofBytes).li.length ≤ unsentSdus s.txSdu s.txSduQueue - 1 := by
  apply Pull.drains (pull s nofBytes) (pullRule s.cfg.txSnFieldLength) h.txSdu_ne h.queue_ne hlt hbytes
  unfold pull
  split
  next sdu hsdu =>
    unfold unsentBytes at hbytes
    rw [hsdu, getD_some] at hbytes
    rw [hsdu, elim_some, moveSdu_of_le _ (by exact hlt)]
    . rw [← hsdu]
      rfl
    . change sdu.length + fixedLen s.cfg.txSnFieldLength ≤ nofBytes
      omega
  next hsdu =>
    rw [hsdu, elim_none, ← hsdu]
    rfl

theorem getBufferState_eq {s : RlcUm} (h : Backlog s.txSdu s.txSduQueue)
    : s.getBufferState
        =
      if unsentBytes s.txSdu s.txSduQueue > 0 then
        unsentBytes s.txSdu s.txSduQueue + (3 * (unsentSdus s.txSdu s.txSduQueue - 1) + 1) / 2
          + (if s.cfg.isMrb then 2 else 3)
      else
        0 := by
  have hfixed : (if s.cfg.isMrb then 2 else 3) ≤ 3 := by
    split
    . decide
    . decide
  rw [← h.bufferState_eq hfixed rfl rfl]
  rfl

def Drains (s : RlcUm) : Prop :=
  Drained s.getBufferState (s.readPdu s.getBufferState).2.1 (s.readPdu s.getBufferState).1.txSdu
    (s.readPdu s.getBufferState).1.txSduQueue

theorem drains_of_backlog {s : RlcUm} (h : Backlog s.txSdu s.txSduQueue)
    (hmrb : s.cfg.isMrb → s.cfg.txSnFieldLength = .size5Bits) (hpos : 0 < s.getBufferState)
    : s.Drains := by
  have hstate := getBufferState_eq h
  have hbytes : 0 < unsentBytes s.txSdu s.txSduQueue := by
    by_contra hzero
    rw [if_neg hzero] at hstate
    omega
  rw [if_pos hbytes] at hstate
  have hfixed : fixedLen s.cfg.txSnFieldLength + 1 ≤ (if s.cfg.isMrb then 2 else 3) := by
    split
    next hmrb' =>
      rw [hmrb hmrb']
      decide
    . cases s.cfg.txSnFieldLength with
      | size5Bits => decide
      | size10Bits => decide
  have hmrbLe : (if s.cfg.isMrb then 2 else 3) ≤ 3 := by
    split
    . decide
    . decide
  have hsmall := h.bufferState_lt hmrbLe
  rw [← hstate] at hsmall
  have ⟨hsdu, hqueue, hlen, hli⟩ := pull_drains h s.getBufferState (by omega) (by omega)
  have hint : u32ToInt s.getBufferState = s.getBufferState := by
    unfold u32ToInt
    rw [Nat.mod_eq_of_lt (by omega), if_pos hsmall]
  have hhead : headLen s.cfg.txSnFieldLength [] = fixedLen s.cfg.txSnFieldLength := rfl
  have hsome : ¬ (s.txSdu.isNone ∧ s.txSduQueue.size = 0) := by
    intro hnone
    have hempty : s.txSduQueue.queue = [] := eq_nil_of_length_eq_zero hnone.2
    unfold unsentBytes at hbytes
    rw [isNone_iff_eq_none.mp hnone.1, hempty] at hbytes
    exact absurd hbytes (by decide)
  unfold Drains readPdu buildDataPdu
  rw [if_neg hsome, if_neg (by rw [hint, hhead]; omega)]
  dsimp only
  refine ⟨?_, ?_, hsdu, hqueue⟩
  . rw [length_append, hlen]
    omega
  . rw [length_append, RlcUmdPduHeader.length_writeDataPduHeader, hlen]
    change ((headLen s.cfg.txSnFieldLength _ + _ : Nat) : Int) ≤ _
    rw [headLen_eq]
    omega

end RlcUm

theorem drains_of_buffer_state
    : (∀ am : RlcAm, Backlog am.txSdu am.txSduQueue → am.getBufferState.1.Idle → 0 < am.getBufferState.2 →
        am.Drains)
      ∧ (∀ um : RlcUm, Backlog um.txSdu um.txSduQueue → (um.cfg.isMrb → um.cfg.txSnFieldLength = .size5Bits) →
        0 < um.getBufferState → um.Drains) :=
  ⟨fun _ h hidle hpos => RlcAm.drains_of_idle h hidle hpos, fun _ h hmrb hpos => RlcUm.drains_of_backlog h hmrb hpos⟩

theorem drains_two_sdus
    : (Trace.exec RlcAm.step (RlcAm.init RlcAm.basicTestConfig)
        [.writeSdu (List.replicate 10 1), .writeSdu (List.replicate 20 2), .readPdu 7]).Drains
      ∧ (Trace.exec RlcUm.step (RlcUm.init (RlcUm.umBiConfig .size10Bits 5))
        [.writeSdu (List.replicate 10 1), .writeSdu (List.replicate 20 2), .readPdu 7]).Drains := by
  constructor
  . apply drains_of_buffer_state.1
    . exact { txSdu_ne := by decide, queue_ne := by decide, unreadBytes := by decide, fits := by decide }
    . exact { status := by decide, retxQueue := by decide, txWindow := by decide }
    . decide
  . apply drains_of_buffer_state.2
    . exact { txSdu_ne := by decide, queue_ne := by decide, unreadBytes := by decide, fits := by decide }
    . decide
    . decide

theorem length_pull_of_large (cfg : SrslteRlcAmConfig) {sdu : ByteBuffer} (hlen : sdu.length = 6000)
    : ByteBuffer.getTailroom [] < (RlcAm.buildDataPdu.pull
        (((RlcAm.init cfg).writeSdu sdu).writeSdu sdu) 12005).pdu.length := by
  have hqueue : (((RlcAm.init cfg).writeSdu sdu).writeSdu sdu).txSduQueue.queue = [sdu, sdu] := rfl
  have hsdu : (((RlcAm.init cfg).writeSdu sdu).writeSdu sdu).txSdu = none := rfl
  have hne : sdu ≠ [] := by
    rw [← length_pos_iff, hlen]
    decide
  have hbytes : unsentBytes none (((RlcAm.init cfg).writeSdu sdu).writeSdu sdu).txSduQueue = 12000 := by
    unfold unsentBytes
    rw [hqueue]
    simp [hlen]
  have hsdus : unsentSdus none (((RlcAm.init cfg).writeSdu sdu).writeSdu sdu).txSduQueue = 2 := rfl
  have hpull := @RlcAm.buildDataPdu.pull_drains (((RlcAm.init cfg).writeSdu sdu).writeSdu sdu) nofun
    (by rw [hqueue]; simp [hne]) 12005 (by decide) (by rw [hsdu, hbytes, hsdus])
  rw [hpull.2.2, hsdu, hbytes]
  decide

theorem not_drains_timers
    : ((Trace.exec RlcAm.step (RlcAm.init RlcAm.basicTestConfig)
          [.writeSdu (List.replicate 20 1), .readPdu 7, .elapse true false false]).Idle
        ∧ (Trace.exec RlcAm.step (RlcAm.init RlcAm.basicTestConfig)
          [.writeSdu (List.replicate 20 1), .readPdu 7, .elapse true false false]).getBufferState.2 = 7
        ∧ ¬ (Trace.exec RlcAm.step (RlcAm.init RlcAm.basicTestConfig)
          [.writeSdu (List.replicate 20 1), .readPdu 7, .elapse true false false]).Drains)
      ∧ ((Trace.exec RlcAm.step (RlcAm.init RlcAm.basicTestConfig)
          [.writePdu [0xA0, 1, 7], .elapse false true false, .writeSdu (List.replicate 20 1)]).Idle
        ∧ (Trace.exec RlcAm.step (RlcAm.init RlcAm.basicTestConfig)
          [.writePdu [0xA0, 1, 7], .elapse false true false, .writeSdu (List.replicate 20 1)]).getBufferState.2 = 4
        ∧ ¬ (Trace.exec RlcAm.step (RlcAm.init RlcAm.basicTestConfig)
          [.writePdu [0xA0, 1, 7], .elapse false true false, .writeSdu (List.replicate 20 1)]).Drains)
      ∧ ByteBuffer.getTailroom [] < (RlcAm.buildDataPdu.pull
        (((RlcAm.init RlcAm.basicTestConfig).writeSdu (List.replicate 6000 0)).writeSdu (List.replicate 6000 0))
          12005).pdu.length := by
  refine ⟨⟨⟨by decide, by decide, by decide⟩, by decide, ?_⟩, ⟨⟨by decide, by decide, by decide⟩, by decide, ?_⟩,
    length_pull_of_large _ length_replicate⟩
  . intro h
    exact absurd h.2.2.1 (by decide)
  . intro h
    exact absurd h.2.2.2 (by decide)

end SrsLte

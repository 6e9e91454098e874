import SrsLte.Data.Lists
import SrsLte.Rlc.Am.Lemmas.PollRetx

/-!
This module contains how often the PDUs that `read_pdu` sends poll the peer. The counters are at least the number
of PDUs and the number of bytes since the last poll as long as none of them is reset by a PDU that is not sent.
-/

namespace SrsLte.RlcAm

open List

structure Transmission where
  p : Bool
  bytes : Nat
  deriving DecidableEq, Repr

def transmission (s : RlcAm) (e : Event) : Option Transmission :=
  match e with
  | .readPdu nofBytes =>
    let payload := (s.readPdu nofBytes).2.2
    if (s.readPdu nofBytes).2.1 > 0 ∧ ¬ rlcAmIsControlPdu payload then
      (rlcAmReadDataPduHeader payload).map (fun pdu => { p := pdu.1.p, bytes := pdu.2.length })
    else
      none
  | _ => none

def transmissions (s : RlcAm) (es : List Event) : List Transmission :=
  (Trace.outputs step transmission s es).filterMap id

/--
Among any `poll_pdu` consecutive PDUs one polls, and PDUs without a poll between them stay below `poll_byte`.
-/
structure PollsOften (cfg : SrslteRlcAmConfig) (sent : List Transmission) : Prop where
  pdu : 0 < cfg.pollPdu → ∀ w, w <:+: sent → w.length = cfg.pollPdu.toNat → ∃ t ∈ w, t.p = true
  byte : 0 < cfg.pollByte → ∀ w, w <:+: sent → (∀ t ∈ w, t.p = false) →
    (w.map Transmission.bytes).sum < cfg.pollByte.toNat

def PollsAnyway (s : RlcAm) : Prop :=
  s.pollRetx ∨ (s.txSduQueue.queue = [] ∧ s.retxQueue = [] ∧ s.txWindow.size < rlcAmWindowSize)

def SegmentInside (s : RlcAm) : Prop :=
  ∀ retx pdu buf, s.frontRetx = some retx → retx.isSegment → s.txWindow.lookup retx.sn = some pdu →
    pdu.buf = some buf → retx.soStart ≤ retx.soEnd ∧ retx.soEnd ≤ buf.length + 1

/--
The counters do not wrap, no segment is counted that is not sent, no segment carries more than its PDU, and the
PDU with which `pdu_without_poll` becomes `poll_pdu` polls for another reason.
-/
def KeepsPolling (s : RlcAm) (e : Event) : Prop :=
  match e with
  | .readPdu nofBytes =>
    nofBytes < 2 ^ 31
      ∧ ((s.doStatus ∧ ¬ s.statusProhibited)
        ∨ (¬ s.scheduleFullWindowRetx.SegmentFails nofBytes ∧ s.SegmentInside
          ∧ (0 < s.cfg.pollPdu → s.pduWithoutPoll + 1 = s.cfg.pollPdu.toNat → s.PollsAnyway)))
  | _ => True

def Counts (s s' : RlcAm) (t : Transmission) : Prop :=
  ∃ k, t.bytes < k ∧ k < 2 ^ 31
    ∧ ((t.p = true ∧ s'.pduWithoutPoll = 0 ∧ s'.byteWithoutPoll = 0)
      ∨ (t.p = false ∧ ¬ s.PollsAnyway ∧ ¬ s.CountersPoll k
        ∧ s'.pduWithoutPoll = (s.pduWithoutPoll + 1) % 2 ^ 32
        ∧ s'.byteWithoutPoll = (s.byteWithoutPoll + k) % 2 ^ 32))

def Sends (s : RlcAm) (out : RlcAm × Int × List UInt8) : Prop :=
  (out.2.1 ≤ 0 ∧ out.1.pollPart = s.pollPart)
    ∨ (0 < out.2.1 ∧ ∃ header data, out.2.2 = rlcAmWriteDataPduHeader header ++ data ∧ header.dc = .dataPdu
      ∧ s.Counts out.1 { p := header.p, bytes := data.length })

section Counting

variable {s s₀ s' : RlcAm} {k nofBytes : Nat}

theorem setPollBit_counters (s : RlcAm) (k : Nat)
    : ((s.setPollBit k).2 = true ∧ (s.setPollBit k).1.pduWithoutPoll = 0 ∧ (s.setPollBit k).1.byteWithoutPoll = 0)
        ∨ ((s.setPollBit k).2 = false
          ∧ (s.setPollBit k).1.pduWithoutPoll = (s.pduWithoutPoll + 1) % 2 ^ 32
          ∧ (s.setPollBit k).1.byteWithoutPoll = (s.byteWithoutPoll + k) % 2 ^ 32) := by
  unfold setPollBit
  dsimp only
  split
  . exact .inl ⟨rfl, rfl, rfl⟩
  . exact .inr ⟨rfl, rfl, rfl⟩

theorem counts_setPollBit {t : Transmission} (hpart : s₀.pollPart = s.pollPart) (hvtS : s₀.vtS = s.vtS)
    (hany : s.PollsAnyway → s₀.pollRetx ∨ (s₀.txSduQueue.size = 0 ∧ s₀.retxQueue.length = 0))
    (hcount : s'.pollPart = (s₀.setPollBit k).1.pollPart) (hp : t.p = (s₀.setPollBit k).2)
    (hbytes : t.bytes < k) (hk : k < 2 ^ 31)
    : s.Counts s' t := by
  have hpdu : s'.pduWithoutPoll = (s₀.setPollBit k).1.pduWithoutPoll := congrArg PollPart.pduWithoutPoll hcount
  have hbyte : s'.byteWithoutPoll = (s₀.setPollBit k).1.byteWithoutPoll := congrArg PollPart.byteWithoutPoll hcount
  refine ⟨k, hbytes, hk, ?_⟩
  rw [hp, hpdu, hbyte]
  cases s₀.setPollBit_counters k with
  | inl hpoll => exact .inl hpoll
  | inr hpoll =>
    have hno := (s₀.setPollBit_iff k).not.mp (Bool.eq_false_iff.mp hpoll.1)
    rw [not_or, countersPoll_congr hpart hvtS] at hno
    have hpdu₀ : s₀.pduWithoutPoll = s.pduWithoutPoll := congrArg PollPart.pduWithoutPoll hpart
    have hbyte₀ : s₀.byteWithoutPoll = s.byteWithoutPoll := congrArg PollPart.byteWithoutPoll hpart
    rw [hpdu₀, hbyte₀] at hpoll
    exact .inr ⟨hpoll.1, fun h => hno.2 (hany h), hno.1, hpoll.2⟩

theorem Sends.congr {out : RlcAm × Int × List UInt8} (h : s₀.Sends out) (hpart : s₀.pollPart = s.pollPart)
    (hvtS : s₀.vtS = s.vtS) (hany : s.PollsAnyway → s₀.PollsAnyway)
    : s.Sends out := by
  cases h with
  | inl h =>
    rw [hpart] at h
    exact .inl h
  | inr h =>
    have ⟨hret, header, data, hpayload, hdc, k, hbytes, hk, hcount⟩ := h
    refine .inr ⟨hret, header, data, hpayload, hdc, k, hbytes, hk, hcount.imp_right ?_⟩
    rintro ⟨hp, hanyway, hcounters, hpdu, hbyte⟩
    rw [countersPoll_congr hpart hvtS] at hcounters
    have hpdu₀ : s₀.pduWithoutPoll = s.pduWithoutPoll := congrArg PollPart.pduWithoutPoll hpart
    have hbyte₀ : s₀.byteWithoutPoll = s.byteWithoutPoll := congrArg PollPart.byteWithoutPoll hpart
    rw [hpdu₀] at hpdu
    rw [hbyte₀] at hbyte
    exact ⟨hp, fun h => hanyway (hany h), hcounters, hpdu, hbyte⟩

theorem buildDataPdu.pull_of_nil (hqueue : s.txSduQueue.queue = []) (nofBytes : Nat)
    : (pull s nofBytes).queue = s.txSduQueue := by
  unfold pull
  rw [hqueue]
  cases s.txSdu with
  | none => rfl
  | some sdu => rfl

open buildDataPdu in
theorem sends_number {st : PullState} (fi : RlcFiField) (hpart : s₀.pollPart = s.pollPart) (hvtS : s₀.vtS = s.vtS)
    (hany : s.PollsAnyway → s₀.pollRetx ∨ (s₀.txSduQueue.size = 0 ∧ s₀.retxQueue.length = 0))
    (hpos : 0 < st.headLen) (hlt : st.pdu.length + st.headLen < 2 ^ 31)
    : s.Sends (number s₀ fi st) := by
  unfold number
  dsimp only
  refine .inr ⟨?_, _, st.pdu, rfl, rfl, ?_⟩
  . dsimp only
    rw [length_append, RlcAmdPduHeader.length_writeDataPduHeader]
    unfold RlcAmdPduHeader.packedLength
    omega
  . apply counts_setPollBit hpart hvtS hany _ _ _ hlt
    . rfl
    . rfl
    . dsimp only
      omega

open buildDataPdu in
theorem sends_buildDataPdu (s : RlcAm) (hlt : nofBytes < 2 ^ 31) : s.Sends (s.buildDataPdu nofBytes) := by
  cases s.buildDataPdu_cases nofBytes with
  | inl hsame =>
    rw [hsame.1]
    exact .inl ⟨Int.le_refl 0, rfl⟩
  | inr hbuild =>
    have ⟨hbytes, _, hbuild⟩ := hbuild
    have ⟨hli, hle⟩ := headLen_pull_le s hbytes
    have hpos : 0 < (pull s nofBytes).headLen := by
      unfold RlcAmdPduHeader.packedLength at hli
      omega
    rw [hbuild]
    dsimp only
    split
    . exact .inl ⟨Int.le_refl 0, rfl⟩
    . have hpart : pollPart { s with txSdu := (pull s nofBytes).txSdu, txSduQueue := (pull s nofBytes).queue }
          = s.pollPart := rfl
      refine sends_number _ hpart rfl ?_ hpos (Nat.lt_of_le_of_lt hle hlt)
      rintro (hpoll | ⟨hqueue, hretx, -⟩)
      . exact .inl hpoll
      . right
        dsimp only
        rw [pull_of_nil hqueue, hretx]
        unfold RlcTxQueue.size
        rw [hqueue]
        exact ⟨rfl, rfl⟩

variable {pdu : RlcAmdTxPdu} {retx : RlcAmdRetx} {rest : List RlcAmdRetx}

theorem sends_whole (hretx : s.retxQueue ≠ [])
    (hdc : pdu.header.dc = .dataPdu) (hlt : pdu.header.packedLength + (pdu.buf.getD []).length < 2 ^ 31)
    : s.Sends (buildRetxPdu.whole s retx rest pdu) := by
  refine .inr ⟨whole_ret_pos s retx rest pdu, _, pdu.buf.getD [], rfl, hdc, ?_⟩
  refine counts_setPollBit (k := (pdu.buf.getD []).length + pdu.header.packedLength) rfl rfl ?_ rfl rfl ?_ ?_
  . rintro (hpoll | ⟨-, hnil, -⟩)
    . exact .inl hpoll
    . exact absurd hnil hretx
  . have hpos : 0 < pdu.header.packedLength := by
      unfold RlcAmdPduHeader.packedLength
      omega
    dsimp only
    omega
  . omega

namespace buildSegment

theorem liStep_dc_p (nofBytes soStart l : Nat) (st : LiState)
    : (liStep nofBytes soStart l st).header.dc = st.header.dc ∧ (liStep nofBytes soStart l st).header.p = st.header.p := by
  unfold liStep
  dsimp only
  generalize (if u32Sub nofBytes st.header.packedLength < u32Sub st.soEnd soStart then
    soStart + u32Sub nofBytes st.header.packedLength else st.soEnd) = soEnd
  by_cases hneeded : st.lower + l > soStart ∧ st.lower < soEnd
  . rw [if_pos hneeded]
    exact ⟨rfl, rfl⟩
  . rw [if_neg hneeded]
    exact ⟨rfl, rfl⟩

theorem liLoop_dc_p (nofBytes soStart : Nat) (li : List Nat) (st : LiState)
    : (liLoop nofBytes soStart li st).header.dc = st.header.dc
        ∧ (liLoop nofBytes soStart li st).header.p = st.header.p := by
  refine liLoop_invariant (P := fun st' => st'.header.dc = st.header.dc ∧ st'.header.p = st.header.p) ?_ ⟨rfl, rfl⟩ li
  intro st' l _ ⟨hdc, hp⟩
  obtain ⟨hdc', hp'⟩ := liStep_dc_p nofBytes soStart l st'
  exact ⟨hdc'.trans hdc, hp'.trans hp⟩

theorem keepLi_dc_p (soStart : Nat) (st : LiState)
    : (keepLi soStart st).dc = st.header.dc ∧ (keepLi soStart st).p = st.header.p := by
  unfold keepLi
  split
  . split <;> exact ⟨rfl, rfl⟩
  . exact ⟨rfl, rfl⟩

variable (oldHeader : RlcAmdPduHeader)

theorem finish_dc_p (nBytes : Nat) (header : RlcAmdPduHeader) (soEnd : Nat)
    (front : RlcAmdRetx) (rest : List RlcAmdRetx)
    : (finish oldHeader nBytes header soEnd front rest).1.dc = header.dc
        ∧ (finish oldHeader nBytes header soEnd front rest).1.p = header.p := by
  unfold finish
  split
  . exact ⟨rfl, rfl⟩
  . split <;> exact ⟨rfl, rfl⟩

theorem segmentHeader_dc_p (p : Bool) (nofBytes soStart soEnd : Nat)
    : (segmentHeader oldHeader p nofBytes soStart soEnd).1.dc = .dataPdu
        ∧ (segmentHeader oldHeader p nofBytes soStart soEnd).1.p = p := by
  unfold segmentHeader
  dsimp only
  rw [(keepLi_dc_p _ _).1, (keepLi_dc_p _ _).2, (liLoop_dc_p _ _ _ _).1, (liLoop_dc_p _ _ _ _).2]
  dsimp only
  split <;> exact ⟨rfl, rfl⟩

theorem segmentHeader_soEnd_le (p : Bool) (nofBytes : Nat) {soStart soEnd : Nat}
    (hle : soStart ≤ soEnd) (hlt : soEnd - soStart < 2 ^ 32)
    : soStart ≤ (segmentHeader oldHeader p nofBytes soStart soEnd).2
        ∧ (segmentHeader oldHeader p nofBytes soStart soEnd).2 ≤ soEnd := by
  have ⟨st, _, _, _, _, hend, heq⟩ := segmentHeader_eq oldHeader p nofBytes soStart soEnd
  rw [u32Sub_eq hle hlt] at hend
  have hst : soStart ≤ st.soEnd ∧ st.soEnd ≤ soEnd := by
    rw [hend]
    split <;> omega
  have hloop := @liLoop_soEnd_le nofBytes soStart st hst.1 (by omega) oldHeader.li
  rw [heq]
  exact ⟨hloop.1, hloop.2.trans hst.2⟩

end buildSegment

open buildSegment in
theorem sends_buildSegment {buf : ByteBuffer}
    (hpdu : s.txWindow.lookup retx.sn = some pdu) (hbuf : pdu.buf = some buf) (hqueue : s.retxQueue = retx :: rest)
    (hroom : 4 < nofBytes) (hlt : pdu.header.packedLength + buf.length < 2 ^ 31)
    (hinside : retx.isSegment → retx.soStart ≤ retx.soEnd ∧ retx.soEnd ≤ buf.length + 1)
    : s.Sends (s.buildSegment nofBytes retx) := by
  have ⟨oldHeader, _, retxCount, isAcked⟩ := pdu
  cases hbuf
  dsimp only at hlt
  have hheader : ({ rf := true } : RlcAmdPduHeader).packedLength = 4 := rfl
  have hold : 2 ≤ oldHeader.packedLength := by
    unfold RlcAmdPduHeader.packedLength
    omega
  unfold buildSegment
  rw [hpdu, hqueue]
  dsimp only
  rw [hheader, if_neg (Nat.not_le.mpr hroom)]
  generalize hstart : (if retx.isSegment then retx.soStart else 0) = soStart
  generalize hend : (if retx.isSegment then retx.soEnd else buf.length) = soEnd
  have hspan : soStart ≤ soEnd ∧ soEnd ≤ buf.length + 1 := by
    rw [← hstart, ← hend]
    split
    . next hsegment => exact hinside hsegment
    . omega
  generalize hpoll : s.setPollBit (buf.length + ({} : RlcAmdPduHeader).packedLength) = polled
  have ⟨hfirst, hlast⟩ := segmentHeader_soEnd_le oldHeader polled.2 nofBytes hspan.1 (by omega)
  have ⟨hdc, hp⟩ := segmentHeader_dc_p oldHeader polled.2 nofBytes soStart soEnd
  generalize segmentHeader oldHeader polled.2 nofBytes soStart soEnd = segment at hfirst hlast hdc hp
  have ⟨hdc', hp'⟩ := finish_dc_p oldHeader buf.length segment.1 segment.2 retx rest
  refine .inr ⟨?_, _, _, rfl, hdc'.trans hdc, ?_⟩
  . dsimp only
    rw [length_append, RlcAmdPduHeader.length_writeDataPduHeader]
    unfold RlcAmdPduHeader.packedLength
    omega
  . have hlen : u32Sub segment.2 soStart ≤ buf.length + 1 := by
      rw [u32Sub_eq hfirst (by omega)]
      omega
    have hpacked : ({} : RlcAmdPduHeader).packedLength = 2 := rfl
    refine counts_setPollBit (k := buf.length + ({} : RlcAmdPduHeader).packedLength) (Eq.refl s.pollPart) rfl
      ?_ ?_ ?_ ?_ ?_
    . rintro (hpollRetx | ⟨-, hnil, -⟩)
      . exact .inl hpollRetx
      . rw [hqueue] at hnil
        cases hnil
    . rw [hpoll]
      rfl
    . rw [hpoll]
      exact hp'.trans hp
    . dsimp only
      rw [length_copy, hpacked]
      omega
    . rw [hpacked]
      omega

def DataBelow (header : RlcAmdPduHeader) (buf : Option ByteBuffer) : Prop :=
  header.packedLength + (buf.getD []).length < 2 ^ 31 ∧ (buf.isSome → header.dc = .dataPdu)

theorem EachStored.of_lookup {Q : RlcAmdPduHeader → Option ByteBuffer → Prop} (h : s.EachStored Q) {sn : Nat}
    (hpdu : s.txWindow.lookup sn = some pdu)
    : Q pdu.header pdu.buf := by
  apply h sn
  unfold stored
  rw [hpdu]
  rfl

theorem sends_buildRetxPdu (hstored : s.EachStored DataBelow) (hinside : s.SegmentInside)
    : 0 < (s.buildRetxPdu nofBytes).2.1 → s.Sends (s.buildRetxPdu nofBytes) := by
  have hhead := s.head?_dropStaleRetx
  unfold buildRetxPdu
  by_cases hempty : s.retxQueue.isEmpty
  . rw [if_pos hempty]
    intro hpos
    cases hpos
  rw [if_neg hempty]
  dsimp only
  cases hcons : s.dropStaleRetx.retxQueue with
  | nil =>
    intro hpos
    cases hpos
  | cons retx rest =>
    rw [hcons, head?_cons] at hhead
    have hmem := mem_txWindow_of_frontRetx hhead.symm
    have ⟨pdu, hpdu⟩ := Option.isSome_iff_exists.mp (Finmap.lookup_isSome.mpr hmem)
    have hpdu' : s.dropStaleRetx.txWindow.lookup retx.sn = some pdu := hpdu
    have ⟨hlt, hdc⟩ := hstored.of_lookup hpdu
    have hcongr {out : RlcAm × Int × List UInt8} (h : s.dropStaleRetx.Sends out) : s.Sends out := by
      refine Sends.congr (s := s) h rfl rfl ?_
      rintro (hpoll | ⟨-, hnil, -⟩)
      . exact .inl hpoll
      . rw [hnil] at hempty
        exact absurd rfl hempty
    dsimp only
    rw [hpdu']
    dsimp only
    split
    . intro hpos
      cases hpos
    . next hneg =>
      split
      . next hsegment =>
        intro hpos
        apply hcongr
        cases hbuf : pdu.buf with
        | none =>
          rw [buildSegment_of_no_buf hpdu' (by rw [hbuf]; nofun)] at hpos
          cases hpos
        | some buf =>
          rw [hbuf] at hlt
          have hroom := (buildSegment_ret_pos_iff hpdu' (by rw [hbuf]; rfl) hcons).mp hpos
          exact sends_buildSegment hpdu' hbuf hcons hroom hlt
            (fun hsegment => hinside retx pdu buf hhead.symm hsegment hpdu hbuf)
      . next hwhole =>
        intro _
        apply hcongr
        apply sends_whole _ _ hlt
        . rw [hcons]
          nofun
        . apply hdc
          rw [Option.isSome_iff_ne_none]
          intro hnone
          apply hneg
          unfold requiredBufferSize
          rw [hpdu']
          dsimp only
          rw [if_neg (fun hsegment => hwhole (.inl hsegment)), hnone]
          exact Int.negSucc_lt_zero 0

theorem segmentInside_scheduleFullWindowRetx (h : s.SegmentInside) : s.scheduleFullWindowRetx.SegmentInside := by
  unfold scheduleFullWindowRetx
  split
  . next hfull =>
    have hnil := length_eq_zero_iff.mp hfull.2
    split
    . next buf _ _ _ =>
      -- what is scheduled is a whole PDU
      intro retx pdu buf' hfront hsegment
      have hmem := mem_of_find?_eq_some hfront
      dsimp only at hmem
      rw [hnil, nil_append, mem_singleton] at hmem
      rw [hmem] at hsegment
      cases hsegment
    . exact h
    . intro retx pdu buf hfront
      have hmem := mem_of_find?_eq_some hfront
      rw [hnil] at hmem
      cases hmem
  . exact h

theorem pollsAnyway_scheduleFullWindowRetx (h : s.PollsAnyway) : s.scheduleFullWindowRetx.PollsAnyway := by
  cases h with
  | inl hpoll =>
    left
    cases s.scheduleFullWindowRetx_cases with
    | inl hkept =>
      have ⟨_, retxQueue, hframe⟩ := hkept
      rw [hframe]
      exact hpoll
    | inr hmissing =>
      rw [hmissing.2]
      exact hpoll
  | inr hqueues =>
    have hsame : s.scheduleFullWindowRetx = s := by
      unfold scheduleFullWindowRetx
      exact if_neg fun hfull => Nat.not_le.mpr hqueues.2.2 hfull.1
    rw [hsame]
    exact .inr hqueues

theorem sends_readPdu (hstored : s.EachStored DataBelow) (hlt : nofBytes < 2 ^ 31)
    (hstatus : ¬ (s.doStatus ∧ ¬ s.statusProhibited)) (hfails : ¬ s.scheduleFullWindowRetx.SegmentFails nofBytes)
    (hinside : s.SegmentInside)
    : s.Sends (s.readPdu nofBytes) := by
  have hnone : DataBelow {} none := ⟨by decide, nofun⟩
  have hstored' := hstored.scheduleFullWindowRetx hnone
  have hinside' := segmentInside_scheduleFullWindowRetx hinside
  have hcongr {out : RlcAm × Int × List UInt8} (h : s.scheduleFullWindowRetx.Sends out) : s.Sends out :=
    h.congr s.scheduleFullWindowRetx_pollPart s.vtS_scheduleFullWindowRetx pollsAnyway_scheduleFullWindowRetx
  unfold readPdu
  rw [if_neg hstatus]
  dsimp only
  apply hcongr
  generalize s.scheduleFullWindowRetx = s at hstored' hinside' hfails
  split
  . next hqueue =>
    split
    . next hpos => exact sends_buildRetxPdu hstored' hinside' hpos
    . next hpos =>
      cases s.buildRetxPdu_cases nofBytes with
      | inl hsent => exact absurd hsent.1 hpos
      | inr hkept =>
        obtain ⟨-, ⟨-, retxQueue, hframe⟩ | ⟨hfails', -⟩⟩ := hkept
        . rw [hframe]
          refine (sends_buildDataPdu { s with retxQueue } hlt).congr (s := s) rfl rfl ?_
          rintro (hpoll | ⟨-, hnil, -⟩)
          . exact .inl hpoll
          . rw [hnil] at hqueue
            cases hqueue
        . exact absurd hfails' hfails
  . exact sends_buildDataPdu s hlt

end Counting

structure Unpolled (s : RlcAm) (u : List Transmission) : Prop where
  pdu : 0 < s.cfg.pollPdu →
    u.length ≤ s.pduWithoutPoll ∧ s.pduWithoutPoll ≤ s.cfg.pollPdu.toNat ∧ u.length < s.cfg.pollPdu.toNat
  byte : 0 < s.cfg.pollByte →
    (u.map Transmission.bytes).sum + u.length ≤ s.byteWithoutPoll ∧ s.byteWithoutPoll ≤ s.cfg.pollByte.toNat

section Run

variable {s s' : RlcAm} {u : List Transmission} {t : Transmission}

theorem Unpolled.congr (h : s.Unpolled u) (hpart : s'.pollPart = s.pollPart) : s'.Unpolled u := by
  have hcfg : s'.cfg = s.cfg := congrArg PollPart.cfg hpart
  have hpdu : s'.pduWithoutPoll = s.pduWithoutPoll := congrArg PollPart.pduWithoutPoll hpart
  have hbyte : s'.byteWithoutPoll = s.byteWithoutPoll := congrArg PollPart.byteWithoutPoll hpart
  constructor
  . rw [hcfg, hpdu]
    exact h.pdu
  . rw [hcfg, hbyte]
    exact h.byte

theorem Unpolled.sum_lt (h : s.Unpolled u) (hpos : 0 < s.cfg.pollByte)
    : (u.map Transmission.bytes).sum < s.cfg.pollByte.toNat := by
  have hbyte := h.byte hpos
  cases u with
  | nil =>
    rw [map_nil, sum_nil]
    omega
  | cons t u =>
    rw [length_cons] at hbyte
    omega

section Counts

variable (hcfg : s'.cfg = s.cfg) (hcounts : s.Counts s' t)

include hcfg hcounts

theorem unpolled_of_poll (hp : t.p = true) : s'.Unpolled [] := by
  obtain ⟨k, -, -, ⟨-, hpdu, hbyte⟩ | ⟨hp', -⟩⟩ := hcounts
  . constructor
    . rw [hcfg, hpdu, length_nil]
      omega
    . rw [hbyte, map_nil, sum_nil, length_nil]
      omega
  . rw [hp] at hp'
    cases hp'

theorem Unpolled.append (h : s.Unpolled u) (hpollPdu : s.cfg.pollPdu < 2 ^ 31) (hpollByte : s.cfg.pollByte < 2 ^ 31)
    (hlast : 0 < s.cfg.pollPdu → s.pduWithoutPoll + 1 = s.cfg.pollPdu.toNat → s.PollsAnyway) (hp : t.p = false)
    : s'.Unpolled (u ++ [t]) := by
  obtain ⟨k, hbytes, hk, ⟨hp', -⟩ | ⟨-, hanyway, hcounters, hpdu, hbyte⟩⟩ := hcounts
  . rw [hp] at hp'
    cases hp'
  unfold CountersPoll at hcounters
  rw [not_or, not_or] at hcounters
  constructor
  . rw [hcfg, hpdu, length_append, length_singleton]
    intro hpos
    have hold := h.pdu hpos
    have hmore : ¬ s.cfg.pollPdu.toNat < (s.pduWithoutPoll + 1) % 2 ^ 32 := fun hlt => hcounters.1 ⟨hpos, hlt⟩
    have hnext : s.pduWithoutPoll + 1 ≠ s.cfg.pollPdu.toNat := fun heq => hanyway (hlast hpos heq)
    omega
  . rw [hcfg, hbyte, length_append, length_singleton, map_append, sum_append]
    intro hpos
    have hold := h.byte hpos
    have hmore : ¬ s.cfg.pollByte.toNat < (s.byteWithoutPoll + k) % 2 ^ 32 := fun hlt => hcounters.2.1 ⟨hpos, hlt⟩
    simp only [map_cons, map_nil, sum_cons, sum_nil]
    omega

end Counts

variable {e : Event} {w : List Transmission}

theorem unpolled_step (h : s.Unpolled u) (hstored : s.EachStored DataBelow)
    (hpollPdu : s.cfg.pollPdu < 2 ^ 31) (hpollByte : s.cfg.pollByte < 2 ^ 31) (hkeeps : s.KeepsPolling e)
    : (s.transmission e = none ∧ (s.step e).Unpolled u)
        ∨ ∃ t, s.transmission e = some t
          ∧ ((t.p = true ∧ (s.step e).Unpolled []) ∨ (t.p = false ∧ (s.step e).Unpolled (u ++ [t]))) := by
  cases e with
  | writeSdu sdu => exact .inl ⟨rfl, h.congr (s.writeSdu_pollPart sdu)⟩
  | elapse pollRetx reordering statusProhibit => exact .inl ⟨rfl, h.congr rfl⟩
  | getBufferState => exact .inl ⟨rfl, h.congr s.getBufferState_pollPart⟩
  | writePdu payload => exact .inl ⟨rfl, h.congr (s.writePdu_pollPart payload)⟩
  | readPdu nofBytes =>
    have ⟨hlt, hkeeps⟩ := hkeeps
    by_cases hstatus : s.doStatus ∧ ¬ s.statusProhibited
    . left
      unfold transmission step readPdu buildStatusPdu
      dsimp only
      rw [if_pos hstatus]
      split
      . refine ⟨if_neg ?_, h.congr rfl⟩
        rw [rlcAmIsControlPdu_writeStatusPdu]
        exact fun hpos => hpos.2 rfl
      . exact ⟨if_neg fun hpos => absurd hpos.1 (Int.lt_irrefl 0), h.congr rfl⟩
    . have ⟨hfails, hinside, hlast⟩ := hkeeps.resolve_left hstatus
      cases sends_readPdu hstored hlt hstatus hfails hinside with
      | inl hnone =>
        left
        exact ⟨if_neg fun hpos => absurd hpos.1 (Int.not_lt.mpr hnone.1), h.congr hnone.2⟩
      | inr hsends =>
        have ⟨hpos, header, data, hpayload, hdc, hcounts⟩ := hsends
        right
        refine ⟨{ p := header.p, bytes := data.length }, ?_, ?_⟩
        . unfold transmission
          dsimp only
          rw [hpayload, rlcAmIsControlPdu_write header data hdc, if_pos ⟨hpos, nofun⟩,
            rlcAmReadDataPduHeader_write_truncate data hdc]
          rfl
        . have hcfg : (s.step (.readPdu nofBytes)).cfg = s.cfg := cfg_step s _
          cases hp : header.p with
          | true => exact .inl ⟨rfl, unpolled_of_poll hcfg hcounts hp⟩
          | false =>
            refine .inr ⟨rfl, ?_⟩
            rw [← hp]
            exact h.append hcfg hcounts hpollPdu hpollByte hlast hp

def Few (cfg : SrslteRlcAmConfig) (w : List Transmission) : Prop :=
  (0 < cfg.pollPdu → w.length < cfg.pollPdu.toNat)
    ∧ (0 < cfg.pollByte → (w.map Transmission.bytes).sum < cfg.pollByte.toNat)

theorem Unpolled.few (h : s.Unpolled u) : Few s.cfg u :=
  ⟨fun hpos => (h.pdu hpos).2.2, h.sum_lt⟩

theorem Few.infix {cfg : SrslteRlcAmConfig} (h : Few cfg u) (hw : w <:+: u) : Few cfg w := by
  constructor
  . intro hpos
    exact Nat.lt_of_le_of_lt hw.length_le (h.1 hpos)
  . intro hpos
    have hsum := h.2 hpos
    obtain ⟨x, y, rfl⟩ := hw
    rw [map_append, map_append, sum_append, sum_append] at hsum
    omega

theorem transmissions_cons_of_none (h : s.transmission e = none) (es : List Event)
    : s.transmissions (e :: es) = (s.step e).transmissions es := by
  unfold transmissions
  rw [Trace.outputs, h, filterMap_cons_none rfl]

theorem transmissions_cons_of_some (h : s.transmission e = some t) (es : List Event)
    : s.transmissions (e :: es) = t :: (s.step e).transmissions es := by
  unfold transmissions
  rw [Trace.outputs, h]
  rfl

theorem few_of_infix_transmissions {es : List Event} (h : s.Unpolled u) (hstored : s.EachStored DataBelow)
    (hpollPdu : s.cfg.pollPdu < 2 ^ 31) (hpollByte : s.cfg.pollByte < 2 ^ 31)
    (hkeeps : Trace.Along step KeepsPolling s es) (hw : w <:+: u ++ s.transmissions es)
    (hnone : ∀ t ∈ w, t.p = false)
    : Few s.cfg w := by
  induction es generalizing s u with
  | nil =>
    have hnil : s.transmissions [] = [] := rfl
    rw [hnil, append_nil] at hw
    exact h.few.infix hw
  | cons e es ih =>
    have ⟨hstep, hkeeps⟩ := hkeeps
    have hstored' : (s.step e).EachStored DataBelow := by
      apply hstored.step ⟨by decide, nofun⟩
      rintro nofBytes rfl header buf hdc hle
      exact ⟨Nat.lt_of_le_of_lt hle hstep.1, fun _ => hdc⟩
    have hcfg : (s.step e).cfg = s.cfg := cfg_step s e
    cases unpolled_step h hstored hpollPdu hpollByte hstep with
    | inl hsame =>
      rw [transmissions_cons_of_none hsame.1] at hw
      rw [← hcfg] at hpollPdu hpollByte ⊢
      exact ih hsame.2 hstored' hpollPdu hpollByte hkeeps hw
    | inr hsent =>
      have ⟨t, ht, hsent⟩ := hsent
      rw [transmissions_cons_of_some ht] at hw
      rw [← hcfg] at hpollPdu hpollByte
      cases hsent with
      | inl hpoll =>
        have hmem : t ∉ w := by
          intro hmem
          have hp := hnone t hmem
          rw [hpoll.1] at hp
          cases hp
        cases Lists.infix_or_infix hw hmem with
        | inl hw => exact h.few.infix hw
        | inr hw =>
          rw [← hcfg]
          exact ih hpoll.2 hstored' hpollPdu hpollByte hkeeps hw
      | inr hmore =>
        rw [← hcfg]
        apply ih hmore.2 hstored' hpollPdu hpollByte hkeeps
        rw [append_assoc]
        exact hw

end Run

theorem pollsOften_of_along (cfg : SrslteRlcAmConfig) (es : List Event) (hpollPdu : cfg.pollPdu < 2 ^ 31)
    (hpollByte : cfg.pollByte < 2 ^ 31) (hkeeps : Trace.Along step KeepsPolling (init cfg) es)
    : PollsOften cfg ((init cfg).transmissions es) := by
  have hinit : (init cfg).Unpolled [] := by
    constructor
    . intro hpos
      have hpos : 0 < cfg.pollPdu := hpos
      exact ⟨Nat.le_refl 0, Nat.zero_le _, by show 0 < cfg.pollPdu.toNat; omega⟩
    . intro _
      exact ⟨Nat.le_refl 0, Nat.zero_le _⟩
  have hfew {w : List Transmission} (hw : w <:+: (init cfg).transmissions es) (hnone : ∀ t ∈ w, t.p = false)
      : Few cfg w :=
    few_of_infix_transmissions hinit (eachStored_init _ cfg) hpollPdu hpollByte hkeeps hw hnone
  constructor
  . intro hpos w hw hlen
    by_contra hno
    have hnone : ∀ t ∈ w, t.p = false := by
      intro t ht
      cases hp : t.p with
      | false => rfl
      | true => exact absurd ⟨t, ht, hp⟩ hno
    have hlt := (hfew hw hnone).1 hpos
    omega
  . intro hpos w hw hnone
    exact (hfew hw hnone).2 hpos

theorem keepsPolling_readPdu {s : RlcAm} {nofBytes : Nat} (hlt : nofBytes < 2 ^ 31) (hretx : s.retxQueue = [])
    (hwindow : s.txWindow.size < rlcAmWindowSize) (hcount : s.pduWithoutPoll + 1 ≠ s.cfg.pollPdu.toNat)
    : s.KeepsPolling (.readPdu nofBytes) := by
  have hfull : s.scheduleFullWindowRetx = s := by
    unfold scheduleFullWindowRetx
    exact if_neg fun hfull => Nat.not_le.mpr hwindow hfull.1
  have hfront : s.frontRetx = none := by
    unfold frontRetx
    rw [hretx]
    rfl
  refine ⟨hlt, .inr ⟨?_, ?_, fun _ heq => absurd heq hcount⟩⟩
  . rw [hfull]
    rintro ⟨-, retx, pdu, hretx, -⟩
    cases hfront.symm.trans hretx
  . intro retx pdu buf hretx
    cases hfront.symm.trans hretx

theorem pollsOften_three
    : (init basicTestConfig).transmissions
          [.writeSdu [1, 2], .writeSdu [3, 4], .writeSdu [5, 6], .readPdu 4, .readPdu 4, .readPdu 4]
          = [⟨false, 2⟩, ⟨false, 2⟩, ⟨true, 2⟩]
        ∧ PollsOften basicTestConfig ((init basicTestConfig).transmissions
          [.writeSdu [1, 2], .writeSdu [3, 4], .writeSdu [5, 6], .readPdu 4, .readPdu 4, .readPdu 4]) := by
  refine ⟨by decide, pollsOften_of_along _ _ (by decide) (by decide) ?_⟩
  refine ⟨trivial, trivial, trivial, ?_, ?_, ?_, trivial⟩
  . exact keepsPolling_readPdu (by decide) (by decide) (by decide) (by decide)
  . exact keepsPolling_readPdu (by decide) (by decide) (by decide) (by decide)
  . exact keepsPolling_readPdu (by decide) (by decide) (by decide) (by decide)

theorem not_pollsOften_four
    : ¬ PollsOften basicTestConfig ((init basicTestConfig).transmissions
        [.writeSdu [1, 2], .writeSdu [1, 2], .writeSdu [1, 2], .writeSdu [1, 2], .writeSdu [1, 2],
          .readPdu 4, .readPdu 4, .readPdu 4, .readPdu 4]) := by
  intro h
  have hpoll := h.pdu (by decide) _ (infix_refl _) (by decide)
  revert hpoll
  decide

end SrsLte.RlcAm

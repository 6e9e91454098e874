import SrsLte.Rlc.Am.Lemmas.Reassembly

/-!
This module contains the invariant of the stored PDU segments. A PDU that is received completely
does not remove the segments that have been stored for it.
-/

namespace SrsLte.RlcAm

open addSegmentAndCheck Finmap

structure SegmentStoreInv (s : RlcAm) : Prop where
  inside : ∀ sn ∈ s.rxSegments, sn ∈ Cyclic.Ico mod s.vrR s.vrMr
  not_mem : ∀ sn ∈ s.rxSegments, sn ∉ s.rxWindow
  current : ∀ payload header segments segments' pdu,
    s.rxSegments.lookup header.sn = some segments →
      addSegment segments (s.rxPdu payload header) = (segments', some pdu) →
        ∀ segment ∈ segments', segment.count = (s.rxPdu payload header).count

def readData (payload : List UInt8) : Option (RlcAmdPduHeader × List UInt8) :=
  if payload.length < 1 ∨ rlcAmIsControlPdu payload then none else rlcAmReadDataPduHeader payload

def LeavesSegments (s : RlcAm) (e : Event) : Prop :=
  match e with
  | .writePdu payload =>
    match readData payload with
    | some (header, rest) =>
      if header.rf then
        s.insideRxWindow header.sn ∧ header.sn ∈ s.rxWindow
      else
        s.Accepts rest header ∧ header.sn ∈ s.rxSegments
    | none => False
  | _ => False

variable {s s' : RlcAm}

theorem writePdu_rx_cases (s : RlcAm) (payload : List UInt8)
    : (readData payload = none ∧ (s.writePdu payload).rxPart = s.rxPart)
        ∨ ∃ header rest, readData payload = some (header, rest) ∧ header.sn < mod
          ∧ s.writePdu payload =
            if header.rf then s.handleDataPduSegment rest header else s.handleDataPdu rest header := by
  unfold writePdu readData
  by_cases hlen : payload.length < 1
  . left
    rw [if_pos (Or.inl hlen), if_pos hlen]
    exact ⟨rfl, rfl⟩
  . rw [if_neg hlen]
    by_cases hcontrol : rlcAmIsControlPdu payload
    . left
      rw [if_pos (Or.inr hcontrol), if_pos hcontrol]
      exact ⟨rfl, handleControlPdu_rxPart s payload⟩
    . rw [if_neg (by simp [hlen, hcontrol]), if_neg hcontrol]
      split
      . next header rest hread =>
        right
        exact ⟨header, rest, hread, rlcAmReadDataPduHeader_sn_lt hread, rfl⟩
      . next hread =>
        left
        exact ⟨hread, rfl⟩

def Waiting (s : RlcAm) (rxSegments : Map (List RlcAmdRxPdu)) : Prop :=
  ∀ sn ∈ rxSegments, sn < mod ∧ s.rxDist sn < rlcAmWindowSize ∧ sn ∉ s.rxWindow

def Counted (s : RlcAm) (rxSegments : Map (List RlcAmdRxPdu)) : Prop :=
  ∀ sn segments, rxSegments.lookup sn = some segments → sn < mod → s.rxDist sn < rlcAmWindowSize →
    ∀ segment ∈ segments, segment.count = s.consumed.length + s.rxDist sn

theorem SegmentStoreInv.waiting (h : SegmentStoreInv s) (hinv : RxInv s) : Waiting s s.rxSegments := by
  intro sn hsn
  have hin := Cyclic.mem_Ico.mp (h.inside sn hsn)
  refine ⟨hin.1, ?_, h.not_mem sn hsn⟩
  rw [← hinv.rxDist_vrMr]
  exact hin.2

variable {sn k : Nat} {pdu segment : RlcAmdRxPdu} {segments : List RlcAmdRxPdu} {rxSegments : Map (List RlcAmdRxPdu)}

theorem addSegment_mem {segments' : List RlcAmdRxPdu}
    {pdu : Option (List UInt8 × RlcAmdPduHeader)} (h : addSegment segments segment = (segments', pdu))
    {x : RlcAmdRxPdu} (hx : x ∈ segments')
    : x ∈ segments ∨ x = segment := by
  unfold addSegment at h
  split at h
  . cases h
    right
    exact List.mem_singleton.mp hx
  . split at h
    . cases h
      left
      exact hx
    . dsimp only at h
      rw [← List.mem_singleton (b := segment), ← List.mem_append]
      split at h <;> cases h <;> exact hx

theorem SegmentStoreInv.of_waiting (hinv : RxInv s) (hwaiting : Waiting s s.rxSegments)
    (hcounted : Counted s s.rxSegments)
    : SegmentStoreInv s where
  inside := by
    intro sn hsn
    have ⟨hlt, hdist, _⟩ := hwaiting sn hsn
    rw [Cyclic.mem_Ico]
    refine ⟨hlt, ?_⟩
    show s.rxDist sn < s.rxDist s.vrMr
    rw [hinv.rxDist_vrMr]
    exact hdist
  not_mem := by
    intro sn hsn
    exact (hwaiting sn hsn).2.2
  current := by
    intro payload header segments segments' pdu hlookup hadd segment hsegment
    have hmem : header.sn ∈ s.rxSegments := lookup_isSome.mp (by rw [hlookup]; rfl)
    have ⟨hlt, hdist, _⟩ := hwaiting _ hmem
    cases addSegment_mem hadd hsegment with
    | inl hold =>
      rw [hcounted _ _ hlookup hlt hdist segment hold]
      show _ = s.consumed.length + s.rxModBase header.sn
      rw [hinv.rxModBase_eq hlt]
    | inr heq => rw [heq]

theorem waiting_consumed (hr : s.vrR < mod) (hwaiting : Waiting s s.rxSegments)
    (hk : Consumed { s with rxWindow := s.rxWindow.insert sn pdu } k s')
    {sn' : Nat} (hsn' : sn' ∈ s.rxSegments) (hne : sn' ≠ sn)
    : sn' < mod ∧ s'.rxDist sn' < rlcAmWindowSize ∧ sn' ∉ s'.rxWindow := by
  have ⟨hlt, hdist, hnot⟩ := hwaiting sn' hsn'
  have hnot' : sn' ∉ s.rxWindow.insert sn pdu := by
    rw [mem_insert]
    simp [hne, hnot]
  have hge : ¬ s.rxDist sn' < k := fun hlt' => hnot' (hk.mem sn' hlt hlt')
  have hdist' : s'.rxDist sn' + k = if s.rxDist sn' < k then _ else s.rxDist sn' := hk.rxDist hr hlt
  rw [if_neg hge] at hdist'
  refine ⟨hlt, by omega, ?_⟩
  rw [hk.mem_iff]
  exact fun hmem => hnot' hmem.2

theorem counted_consumed (hr : s.vrR < mod) (hwaiting : Waiting s s.rxSegments) (hcounted : Counted s s.rxSegments)
    (hk : Consumed { s with rxWindow := s.rxWindow.insert sn pdu } k s')
    : Counted s' s.rxSegments := by
  intro sn' segments hlookup hlt hin segment hsegment
  have hmem : sn' ∈ s.rxSegments := lookup_isSome.mp (by rw [hlookup]; rfl)
  have hge : k ≤ s.rxDist sn' := by
    by_contra hlt'
    have := hk.outside hr hlt (Nat.lt_of_not_le hlt')
    omega
  have hold := hcounted sn' segments hlookup hlt (hwaiting sn' hmem).2.1 segment hsegment
  rw [hold]
  exact (hk.unwrapped hr hlt hge).symm

theorem not_waiting_consumed (hr : s.vrR < mod) (hsn : sn < mod)
    (hk : Consumed { s with rxWindow := s.rxWindow.insert sn pdu } k s') (hmem : sn ∈ s'.rxSegments)
    : ¬ Waiting s' s'.rxSegments := by
  intro hwaiting
  have ⟨_, hin, hnot⟩ := hwaiting sn hmem
  apply hnot
  rw [hk.mem_iff]
  constructor
  . by_contra hlt
    have := hk.outside hr hsn (Nat.lt_of_not_le hlt)
    omega
  . exact mem_insert.mpr (Or.inl rfl)

theorem Waiting.erase (h : ∀ sn' ∈ rxSegments, sn' ≠ sn → sn' < mod ∧ s.rxDist sn' < rlcAmWindowSize ∧ sn' ∉ s.rxWindow)
    : Waiting s (rxSegments.erase sn) := by
  intro sn' hsn'
  rw [mem_erase] at hsn'
  exact h sn' hsn'.2 hsn'.1

theorem Counted.erase (h : Counted s rxSegments) (sn : Nat)
    : Counted s (rxSegments.erase sn) := by
  intro sn' segments hlookup
  rw [Map.lookup_erase_ite] at hlookup
  split at hlookup
  . cases hlookup
  . exact h sn' segments hlookup

theorem Counted.insert {rxSegments : Map (List RlcAmdRxPdu)} (h : Counted s rxSegments) {sn : Nat}
    {segments : List RlcAmdRxPdu}
    (hsegments : ∀ segment ∈ segments, segment.count = s.consumed.length + s.rxDist sn)
    : Counted s (rxSegments.insert sn segments) := by
  intro sn' segments' hlookup hlt hin
  rw [Map.lookup_insert_ite] at hlookup
  split at hlookup
  . next heq =>
    cases hlookup
    rw [heq]
    exact hsegments
  . exact h sn' segments' hlookup hlt hin

section Step

variable (hinv : RxInv s) (hwaiting : Waiting s s.rxSegments) (hcounted : Counted s s.rxSegments)
variable {header : RlcAmdPduHeader} (hsn : header.sn < mod) (payload : List UInt8)

include hinv hwaiting hsn

theorem waiting_handleDataPdu {sn : Nat} (hmem : sn ∈ s.rxSegments) (hne : sn ≠ header.sn)
    : sn < mod
        ∧ (s.handleDataPdu payload header).rxDist sn < rlcAmWindowSize
        ∧ sn ∉ (s.handleDataPdu payload header).rxWindow := by
  by_cases hacc : s.Accepts payload header
  . have ⟨k, hk⟩ := consumed_handleDataPdu hinv hsn hacc
    exact waiting_consumed hinv.vrR hwaiting hk hmem hne
  . have ⟨doStatus, heq⟩ := handleDataPdu_of_not_accepts hacc
    rw [heq]
    exact hwaiting sn hmem

theorem waiting_handleDataPdu_iff
    : Waiting (s.handleDataPdu payload header) (s.handleDataPdu payload header).rxSegments
        ↔
      ¬ (s.Accepts payload header ∧ header.sn ∈ s.rxSegments) := by
  rw [handleDataPdu_rxSegments]
  constructor
  . rintro hwaiting' ⟨hacc, hmem⟩
    have ⟨k, hk⟩ := consumed_handleDataPdu hinv hsn hacc
    rw [← handleDataPdu_rxSegments s payload header] at hmem hwaiting'
    exact not_waiting_consumed hinv.vrR hsn hk hmem hwaiting'
  . intro hok sn hmem
    by_cases hne : sn = header.sn
    . have hacc : ¬ s.Accepts payload header := by
        intro hacc
        rw [hne] at hmem
        exact hok ⟨hacc, hmem⟩
      have ⟨doStatus, heq⟩ := handleDataPdu_of_not_accepts hacc
      rw [heq]
      exact hwaiting sn hmem
    . exact waiting_handleDataPdu hinv hwaiting hsn payload hmem hne

include hcounted

theorem counted_handleDataPdu
    : Counted (s.handleDataPdu payload header) (s.handleDataPdu payload header).rxSegments := by
  rw [handleDataPdu_rxSegments]
  by_cases hacc : s.Accepts payload header
  . have ⟨k, hk⟩ := consumed_handleDataPdu hinv hsn hacc
    exact counted_consumed hinv.vrR hwaiting hcounted hk
  . have ⟨doStatus, heq⟩ := handleDataPdu_of_not_accepts hacc
    rw [heq]
    exact hcounted

end Step

def SameStore (s s' : RlcAm) : Prop :=
  s'.rxSegments = s.rxSegments ∧ s'.rxWindow = s.rxWindow ∧ s'.vrR = s.vrR ∧ s'.consumed = s.consumed

theorem SameStore.rxDist (h : SameStore s s') : s'.rxDist = s.rxDist := by
  unfold RlcAm.rxDist
  rw [h.2.2.1]

theorem SameStore.waiting_iff (h : SameStore s s') : Waiting s' s'.rxSegments ↔ Waiting s s.rxSegments := by
  unfold Waiting
  rw [h.rxDist, h.1, h.2.1]

theorem SameStore.counted_iff (h : SameStore s s') : Counted s' s'.rxSegments ↔ Counted s s.rxSegments := by
  unfold Counted
  rw [h.rxDist, h.1, h.2.2.2]

theorem SameStore.of_rxPart {status : RlcStatusPdu} {pollReceived doStatus : Bool}
    (h : s'.rxPart = { s.rxPart with status, pollReceived, doStatus })
    : SameStore s s' := by
  have hsegments := congrArg RxPart.rxSegments h
  have hwindow := congrArg RxPart.rxWindow h
  have hvrR := congrArg RxPart.vrR h
  have hconsumed := congrArg RxPart.consumed h
  exact ⟨hsegments, hwindow, hvrR, hconsumed⟩

theorem sameStore_checkReorderingTimeout (s : RlcAm) : SameStore s s.checkReorderingTimeout := by
  have ⟨_, _, _, _, hframe, _⟩ := s.checkReorderingTimeout_frame
  rw [hframe]
  exact ⟨rfl, rfl, rfl, rfl⟩

theorem sameStore_firstSegment (s : RlcAm) (header : RlcAmdPduHeader)
    : SameStore s ((s.updateVrH header).checkPollBit header) := by
  have ⟨_, _, _, hframe⟩ := s.firstSegment_frame header
  rw [hframe]
  exact ⟨rfl, rfl, rfl, rfl⟩

theorem waiting_addSegmentAndCheck (hstored : RxStored s) (hwaiting : Waiting s s.rxSegments)
    (hcounted : Counted s s.rxSegments)
    (hlookup : s.rxSegments.lookup sn = some segments) (hsegment : segment.header.sn = sn)
    (hcount : segment.count = s.consumed.length + s.rxDist sn)
    : Waiting (s.addSegmentAndCheck sn segments segment) (s.addSegmentAndCheck sn segments segment).rxSegments
        ∧ Counted (s.addSegmentAndCheck sn segments segment)
          (s.addSegmentAndCheck sn segments segment).rxSegments := by
  have hmem : sn ∈ s.rxSegments := lookup_isSome.mp (by rw [hlookup]; rfl)
  have ⟨hsn, hin, hnot⟩ := hwaiting sn hmem
  unfold addSegmentAndCheck
  split
  . next segments' hadd =>
    constructor
    . intro sn' hsn'
      rw [mem_insert] at hsn'
      cases hsn' with
      | inl heq =>
        rw [heq]
        exact ⟨hsn, hin, hnot⟩
      | inr hold => exact hwaiting sn' hold
    . apply Counted.insert (s := s) hcounted
      intro x hx
      cases addSegment_mem hadd hx with
      | inl hold => exact hcounted sn segments hlookup hsn hin x hold
      | inr heq => rw [heq, hcount]
  . next segments' payload header hadd =>
    have hheader : header.sn = sn :=
      (addSegment_sn (hstored.segmented sn segments hlookup) hsegment).2 _ (by rw [hadd])
    have hheader' : header.sn < mod := by
      rw [hheader]
      exact hsn
    have hothers := fun sn' (hsn' : sn' ∈ s.rxSegments) (hne : sn' ≠ header.sn) =>
      waiting_handleDataPdu hstored.toRxInv hwaiting hheader' payload hsn' hne
    have hcounted' := counted_handleDataPdu hstored.toRxInv hwaiting hcounted hheader' payload
    have hsegments := s.handleDataPdu_rxSegments payload header
    dsimp only
    generalize s.handleDataPdu payload header = s' at *
    constructor
    . apply Waiting.erase (s := s')
      intro sn' hsn' hne
      rw [hsegments] at hsn'
      exact hothers sn' hsn' (by rw [hheader]; exact hne)
    . exact Counted.erase (s := s') hcounted' sn

theorem waiting_handleDataPduSegment_iff (hstored : RxStored s) (hwaiting : Waiting s s.rxSegments)
    (hcounted : Counted s s.rxSegments) {header : RlcAmdPduHeader} (hsn : header.sn < mod)
    (payload : List UInt8)
    : (Waiting (s.handleDataPduSegment payload header) (s.handleDataPduSegment payload header).rxSegments
          ↔
        ¬ (s.insideRxWindow header.sn ∧ header.sn ∈ s.rxWindow))
      ∧ Counted (s.handleDataPduSegment payload header)
          (s.handleDataPduSegment payload header).rxSegments := by
  have hcount : (s.rxPdu payload header).count = s.consumed.length + s.rxDist header.sn := by
    show s.consumed.length + s.rxModBase header.sn = _
    rw [hstored.rxModBase_eq hsn]
  unfold handleDataPduSegment
  by_cases hinside : s.insideRxWindow header.sn
  . have hin := (hstored.insideRxWindow_iff hsn).mp hinside
    rw [if_neg (not_not.mpr hinside)]
    dsimp only
    split
    . next segments hlookup =>
      have hmem : header.sn ∈ s.rxSegments := lookup_isSome.mp (by rw [hlookup]; rfl)
      have hpolled : RxStored (s.pollUnstored header) := .congr (s := s) rfl rfl hstored
      have hheader : (s.rxPdu payload header).header.sn = header.sn := rfl
      have ⟨hwaiting', hcounted'⟩ := waiting_addSegmentAndCheck hpolled hwaiting hcounted hlookup hheader hcount
      have hnot := (hwaiting _ hmem).2.2
      simp [hwaiting', hcounted', hnot]
    . next hlookup =>
      generalize hs' : { s with rxSegments := s.rxSegments.insert header.sn [s.rxPdu payload header] } = s'
      have hsame := s'.sameStore_firstSegment header
      rw [hsame.waiting_iff, hsame.counted_iff]
      constructor
      . rw [← hs']
        constructor
        . rintro hwaiting' ⟨_, hmem⟩
          exact (hwaiting' header.sn (mem_insert.mpr (Or.inl rfl))).2.2 hmem
        . intro hnot sn' hsn'
          cases mem_insert.mp hsn' with
          | inl heq =>
            rw [heq]
            exact ⟨hsn, hin, fun hmem => hnot ⟨hinside, hmem⟩⟩
          | inr hold => exact hwaiting sn' hold
      . rw [← hs']
        apply Counted.insert (s := s) hcounted
        simp [hcount]
  . rw [if_pos hinside]
    have hsame : SameStore s (s.pollUnstored header) := ⟨rfl, rfl, rfl, rfl⟩
    rw [hsame.waiting_iff, hsame.counted_iff]
    simp [hinside, hwaiting, hcounted]

theorem waiting_step_iff (hstored : RxStored s) (hwaiting : Waiting s s.rxSegments)
    (hcounted : Counted s s.rxSegments) (e : Event)
    : (Waiting (s.step e) (s.step e).rxSegments ↔ ¬ s.LeavesSegments e)
        ∧ Counted (s.step e) (s.step e).rxSegments := by
  have hsame : ∀ s', SameStore s s' → (Waiting s' s'.rxSegments ↔ ¬ False) ∧ Counted s' s'.rxSegments := by
    intro s' h
    rw [h.waiting_iff, h.counted_iff]
    simp [hwaiting, hcounted]
  cases e with
  | writeSdu sdu => exact hsame _ (.of_rxPart (s.writeSdu_rxPart sdu))
  | elapse pollRetx reordering statusProhibit => exact hsame _ ⟨rfl, rfl, rfl, rfl⟩
  | getBufferState =>
    have ⟨status, hrx, _⟩ := s.getBufferState_rxPart
    have hcheck := s.sameStore_checkReorderingTimeout
    have hstatus : SameStore s.checkReorderingTimeout s.getBufferState.1 := .of_rxPart hrx
    have hboth := hstatus.waiting_iff.trans hcheck.waiting_iff
    have hboth' := hstatus.counted_iff.trans hcheck.counted_iff
    exact ⟨by simp [step, LeavesSegments, hboth, hwaiting], hboth'.mpr hcounted⟩
  | readPdu nofBytes =>
    have ⟨_, _, hrx⟩ := s.readPdu_rxPart nofBytes
    exact hsame _ (.of_rxPart hrx)
  | writePdu payload =>
    cases s.writePdu_rx_cases payload with
    | inl hnone =>
      simp only [step, LeavesSegments, hnone.1]
      exact hsame _ (.of_rxPart hnone.2)
    | inr hdata =>
      have ⟨header, rest, hread, hsn, heq⟩ := hdata
      simp only [step, LeavesSegments, hread]
      rw [heq]
      split
      . exact waiting_handleDataPduSegment_iff hstored hwaiting hcounted hsn rest
      . exact ⟨waiting_handleDataPdu_iff hstored.toRxInv hwaiting hsn rest,
          counted_handleDataPdu hstored.toRxInv hwaiting hcounted hsn rest⟩

structure SegmentsStored (s : RlcAm) : Prop extends RxStored s where
  counted : Counted s s.rxSegments

theorem segmentsStored_step (s : RlcAm) (e : Event) (hstored : SegmentsStored s) (h : SegmentStoreInv s)
    : SegmentsStored (s.step e) :=
  {
    (rxStored_step hstored.toRxStored e).1 with
    counted := (waiting_step_iff hstored.toRxStored (h.waiting hstored.toRxInv) hstored.counted e).2
  }

theorem segmentStoreInv_step_iff (s : RlcAm) (e : Event) (hstored : SegmentsStored s) (h : SegmentStoreInv s)
    : SegmentStoreInv (s.step e) ↔ ¬ s.LeavesSegments e := by
  have hinv : RxInv (s.step e) := (rxStored_step hstored.toRxStored e).1.toRxInv
  have ⟨hiff, hcounted⟩ :=
    waiting_step_iff hstored.toRxStored (h.waiting hstored.toRxInv) hstored.counted e
  rw [← hiff]
  constructor
  . intro h'
    exact h'.waiting hinv
  . intro hwaiting
    exact .of_waiting hinv hwaiting hcounted

theorem segmentStoreInv_init (cfg : SrslteRlcAmConfig) : SegmentStoreInv (init cfg) := by
  have hempty : Waiting (init cfg) (init cfg).rxSegments := by
    intro sn hsn
    exact absurd hsn notMem_empty
  exact .of_waiting (rxStored_init cfg).toRxInv hempty (by intro sn segments hlookup; cases hlookup)

theorem throughout_segmentStoreInv_iff (cfg : SrslteRlcAmConfig) (es : List Event)
    : Trace.Throughout step SegmentStoreInv (init cfg) es
        ↔
      Trace.Along step (fun s e => ¬ s.LeavesSegments e) (init cfg) es :=
  Trace.throughout_iff_along
    segmentsStored_step
    segmentStoreInv_step_iff
    { rxStored_init cfg with counted := by intro sn segments hlookup; cases hlookup }
    (segmentStoreInv_init cfg)

theorem not_segmentStoreInv_whole_pdu
    : ¬ SegmentStoreInv (Trace.exec step (init basicTestConfig)
        [.writePdu [0xC0, 0x00, 0x00, 0x00, 0x01], .writePdu [0x80, 0x00, 0x01, 0x02]]) := by
  intro h
  have hin := (Cyclic.mem_Ico.mp (h.inside 0 (lookup_isSome.mp (by decide)))).2
  revert hin
  decide

end SrsLte.RlcAm

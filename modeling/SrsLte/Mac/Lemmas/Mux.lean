import SrsLte.Mac.Lemmas.Assembly

/-!
This module contains what `pdu_get` of the multiplexer returns.
-/

namespace SrsLte.Mux

open SchItem List

variable {σ : Type} (itf : RlcInterfaceMac σ)

def ccch (rlc : σ) (pduSz : Nat) : List UInt8 × σ :=
  if itf.getBufferState rlc 0 > 0 then itf.readPdu rlc 0 (pduSz - 1) else ([], rlc)

def left (m : Mux) (rlc : σ) (pduSz : Nat) : Nat :=
  if (ccch itf rlc pduSz).1 ≠ [] then
    pduSz - ((ccch itf rlc pduSz).1.length + 1)
  else if m.pendingCrntiCe ≠ 0 then
    pduSz - 3
  else
    pduSz

def regularBsr (m : Mux) (rlc : σ) (pduSz : Nat) : Option Bsr :=
  (m.bsrProcedure.needToSendBsrOnUlGrant (itf.getBufferState (ccch itf rlc pduSz).2)
    (left itf m rlc pduSz)).1

structure FrontFits (m : Mux) (rlc : σ) (pduSz : Nat) : Prop where
  cRnti : (ccch itf rlc pduSz).1 = [] → m.pendingCrntiCe ≠ 0 → 3 ≤ pduSz
  bsr : ∀ bsr, regularBsr itf m rlc pduSz = some bsr → BsrProc.bsrSz bsr + 1 ≤ left itf m rlc pduSz

structure Front (m : Mux) (rlc : σ) (pduSz : Nat) (f : Assembly σ × Bool) (items : List SchItem)
    : Prop where
  filled : Filled pduSz f.1 items
  rlc_eq : f.1.rlc = (ccch itf rlc pduSz).2
  remLen_eq : f.1.pdu.remLen = left itf m rlc pduSz
  items_eq : (items = [] ∧ f.2 = false) ∨ ∃ item, items = [item] ∧ item.isBsr = false ∧ f.2 = true

structure Stale (pduSz : Nat) (p : SchPdu) : Prop where
  accounts : SchPdu.Accounts pduSz p
  last : ∃ before s, p.used = before ++ [s] ∧ s.nofBytes = 0

section

variable {itf} {m : Mux} {rlc : σ} {pduSz : Nat}

theorem allocateSdu_ccch (rlc : σ) (hsz : 2 ≤ pduSz) (hshort : Short itf pduSz)
    : ∃ a ok, allocateSdu itf (start rlc pduSz) 0 (-1) = (a, ok)
        ∧ a.rlc = (ccch itf rlc pduSz).2
        ∧ ((ccch itf rlc pduSz).1 = [] ∧ ok = false ∧ Filled pduSz a []
          ∨ (ccch itf rlc pduSz).1 ≠ [] ∧ ok = true ∧ Filled pduSz a [⟨0, (ccch itf rlc pduSz).1⟩]) := by
  have hfilled := filled_start rlc pduSz
  have halloc := allocates_allocateSdu itf (start rlc pduSz) 0 (-1)
  have hn : (requestLen itf (start rlc pduSz) 0 (-1)).toNat = pduSz - 1 := by
    rw [requestLen_of_neg itf _ _ (by decide)]
    simp [SchPdu.getSduSpace, SchPdu.lastSduExtra, SchPdu.init, start]
  rw [hn] at halloc
  have hnext := hfilled.allocate hshort halloc
  generalize allocateSdu itf (start rlc pduSz) 0 (-1) = r at halloc hnext ⊢
  obtain ⟨a, ok⟩ := r
  refine ⟨a, ok, rfl, ?_⟩
  cases halloc with
  | skip h =>
    have hnone : itf.getBufferState rlc 0 = 0 := by
      obtain ⟨q, hq⟩ := hfilled.exists_newSubh (by decide) (Nat.lt_of_lt_of_le (by decide) hsz)
      cases h with
      | inl h => exact h
      | inr h =>
        cases h with
        | inl h => omega
        | inr h =>
          rw [hq] at h
          contradiction
    have hccch : ccch itf rlc pduSz = ([], rlc) := if_neg (by omega)
    rw [hccch]
    exact ⟨rfl, .inl ⟨rfl, rfl, hnext⟩⟩
  | empty hlcid hdata hn hread hspare =>
    have hccch : ccch itf rlc pduSz = itf.readPdu rlc 0 (pduSz - 1) := if_pos hdata
    rw [hccch]
    exact ⟨rfl, .inl ⟨hread, rfl, hnext⟩⟩
  | @added hlcid hdata q hnew hspace hset =>
    have hccch : ccch itf rlc pduSz = itf.readPdu rlc 0 (pduSz - 1) := if_pos hdata
    obtain ⟨_, sdu, hread, hne, _⟩ := (SchPdu.setSduItf_pos_iff _ _ _ _).mp hset
    rw [Option.some.injEq] at hread
    rw [← hread] at hne
    obtain ⟨sdu', hfilled'⟩ := hnext
    have hsdu' : sdu' = (itf.readPdu rlc 0 (pduSz - 1)).1 := by
      have hsdus := hfilled'.sdus
      simp only [Assembly.received, start] at hsdus hne
      simpa [hne, SchItem.isSdu, SchSubh.phrReport] using hsdus
    rw [hsdu'] at hfilled'
    rw [hccch]
    exact ⟨rfl, .inr ⟨hne, rfl, hfilled'⟩⟩

theorem insertCe_of_some {p q : SchPdu} (h : p.newSubh = some q) (set : SchPdu → SchPdu × Bool)
    : insertCe p set = ((set q).1, true) := by
  unfold insertCe
  rw [h]

theorem insertCe_of_none {p : SchPdu} (h : p.newSubh = none) (set : SchPdu → SchPdu × Bool)
    : insertCe p set = (p, false) := by
  unfold insertCe
  rw [h]

theorem remLen_of_sdu {a : Assembly σ} {sdu : List UInt8} (h : Filled pduSz a [⟨0, sdu⟩])
    : a.pdu.remLen = pduSz - (sdu.length + 1) := by
  have hsdu : SchItem.isSdu ⟨0, sdu⟩ = true := rfl
  have hextra := extra_concat_sdu [] hsdu
  have hsize := size_concat [] ⟨0, sdu⟩
  have hpos := headerSize_pos ⟨0, sdu⟩
  have hempty : size [] = 0 := rfl
  rw [nil_append] at hextra hsize
  rw [h.holds.remLen_eq, room, hextra, hsize]
  simp only []
  omega

variable (bsr : Bsr) {item : SchItem} {items : List SchItem}

theorem remLen_of_ce {a : Assembly σ} (hce : item.isSdu = false) (h : Filled pduSz a [item])
    : a.pdu.remLen = pduSz - (item.payload.length + 1) := by
  have hextra := extra_concat_ce [] hce
  have hsize := size_concat [] item
  have hempty : size [] = 0 := rfl
  have hnone : extra [] = 0 := rfl
  rw [nil_append] at hextra hsize
  rw [h.holds.remLen_eq, room, hextra, hsize, headerSize_of_ce hce]
  omega

theorem front_insertFirst (hsz : 2 ≤ pduSz) (hshort : Short itf pduSz)
    (hfits : (ccch itf rlc pduSz).1 = [] → m.pendingCrntiCe ≠ 0 → 3 ≤ pduSz)
    : ∃ items, Front itf m rlc pduSz (insertFirst itf (start rlc pduSz) m.pendingCrntiCe) items := by
  have ⟨a, ok, halloc, hrlc, hcases⟩ := allocateSdu_ccch rlc hsz hshort
  unfold insertFirst
  rw [halloc]
  cases hcases with
  | inr hsdu =>
    have ⟨hne, hok, hfilled⟩ := hsdu
    subst hok
    refine ⟨_, hfilled, hrlc, ?_, .inr ⟨_, rfl, rfl, rfl⟩⟩
    rw [remLen_of_sdu hfilled, left, if_pos hne]
  | inl hempty =>
    have ⟨hnil, hok, hfilled⟩ := hempty
    subst hok
    have hrem : a.pdu.remLen = pduSz := hfilled.holds.remLen_eq
    simp only []
    split
    next hcrnti =>
      have hsz3 := hfits hnil hcrnti
      have ⟨q, hnew⟩ := hfilled.exists_newSubh (by decide) (by omega)
      rw [insertCe_of_some hnew]
      have hnext : Filled pduSz { a with pdu := (q.setCRnti m.pendingCrntiCe).1 }
          [(SchOp.cRnti m.pendingCrntiCe).item] := by
        apply hfilled.insertCe hnew
        . rw [hrem]
          exact hsz3
        . decide
        . simp
        . rfl
      refine ⟨_, hnext, hrlc, ?_, .inr ⟨_, rfl, rfl, rfl⟩⟩
      have hrem' := remLen_of_ce rfl hnext
      rw [left, if_neg (by simp [hnil]), if_pos hcrnti]
      exact hrem'
    next hcrnti =>
      refine ⟨_, hfilled, hrlc, ?_, .inl ⟨rfl, rfl⟩⟩
      rw [hrem, left, if_neg (by simp [hnil]), if_neg hcrnti]

theorem stale_insertFirst (hsz : 2 ≤ pduSz) (hshort : Short itf pduSz)
    (hnil : (ccch itf rlc pduSz).1 = []) (hcrnti : m.pendingCrntiCe ≠ 0) (hlt : pduSz < 3)
    : let f := insertFirst itf (start rlc pduSz) m.pendingCrntiCe
      Stale pduSz f.1.pdu ∧ f.1.pdu.used.length = 1 ∧ f.1.pdu.maxSubheaders = maxNofSubheaders
        ∧ f.1.pdu.remLen = 2 := by
  have ⟨a, ok, halloc, hrlc, hcases⟩ := allocateSdu_ccch rlc hsz hshort
  unfold insertFirst
  rw [halloc]
  cases hcases with
  | inr hsdu => exact absurd hnil hsdu.1
  | inl hempty =>
    have ⟨_, hok, hfilled⟩ := hempty
    subst hok
    have hrem : a.pdu.remLen = pduSz := hfilled.holds.remLen_eq
    have ⟨q, hnew⟩ := hfilled.exists_newSubh (by decide) (by omega)
    have ⟨s, spare, hspare, _, _, hq⟩ := (SchPdu.newSubh_eq_some_iff _ _).mp hnew
    have hused : a.pdu.used = [] := forall₂_nil_right_iff.mp hfilled.holds.used
    have hset : (q.setCRnti m.pendingCrntiCe).1 = q := by
      have hspace : ¬ [UInt8.ofNat ((m.pendingCrntiCe &&& 0xff00) >>> 8),
          UInt8.ofNat (m.pendingCrntiCe &&& 0x00ff)].length + 1 ≤ q.remLen := by
        rw [hq]
        change ¬ 3 ≤ a.pdu.remLen
        omega
      exact congrArg Prod.fst (SchPdu.setCe_of_not_space _ hspace)
    simp only [hcrnti, ne_eq, not_false_eq_true, ↓reduceIte, insertCe_of_some hnew, hset]
    refine ⟨⟨hfilled.accounts.newSubh hnew, a.pdu.used, s, by rw [hq], ?_⟩, ?_, ?_, ?_⟩
    . exact (hfilled.accounts.spare s (by simp [hspare])).empty
    . simp [hq, hused]
    . rw [← hfilled.holds.max_eq, hq]
      simp [SchPdu.maxSubheaders, hspare]
    . rw [hq]
      change a.pdu.remLen = 2
      omega

def bsrItem (bsr : Bsr) : SchItem :=
  {
    lcid := bsrFormatConvert bsr.format
    payload := SchSubh.bsrPayload bsr.buffSize (bsrFormatConvert bsr.format)
  }

theorem length_bsrItem : (bsrItem bsr).payload.length = BsrProc.bsrSz bsr := by
  unfold bsrItem BsrProc.bsrSz
  cases bsr.format with
  | longBsr => rfl
  | shortBsr => rfl
  | truncBsr => rfl

theorem bsrSz_pos : 0 < BsrProc.bsrSz bsr := by
  unfold BsrProc.bsrSz
  split
  . decide
  . decide

theorem bsrSz_le : BsrProc.bsrSz bsr ≤ 3 := by
  unfold BsrProc.bsrSz
  split
  . decide
  . decide

theorem insertBsr_eq (p : SchPdu) (bsr : Bsr)
    : insertBsr p bsr = insertCe p fun p => p.setCe (bsrItem bsr).lcid (bsrItem bsr).payload := rfl

theorem isBsr_bsrItem : (bsrItem bsr).isBsr = true := by
  unfold bsrItem
  cases bsr.format with
  | longBsr => rfl
  | shortBsr => rfl
  | truncBsr => rfl

structure UlCe (item : SchItem) : Prop where
  lcid : SchSubh.phrReport ≤ item.lcid
  ne : item.payload ≠ []
  size : item.subh.sizeofCe true = item.payload.length

theorem UlCe.isSdu (h : UlCe item) : item.isSdu = false :=
  decide_eq_false (Nat.not_lt_of_le h.lcid)

theorem ulCe_bsrItem : UlCe (bsrItem bsr) := by
  have hlength := length_bsrItem bsr
  exact {
    lcid := by
      change SchSubh.phrReport ≤ bsrFormatConvert bsr.format
      cases bsr.format with
      | longBsr => decide
      | shortBsr => decide
      | truncBsr => decide
    ne := by
      intro hnil
      have hpos := bsrSz_pos bsr
      rw [hnil] at hlength
      simp only [length_nil] at hlength
      omega
    size := by
      rw [hlength]
      unfold bsrItem BsrProc.bsrSz
      cases bsr.format with
      | longBsr => rfl
      | shortBsr => rfl
      | truncBsr => rfl
  }

theorem ulCe_phr (phr : ℚ) : UlCe (SchOp.phr phr).item := by
  exact { lcid := Nat.le_refl _, ne := by simp [SchOp.item], size := rfl }

theorem insertCe_cases {a : Assembly σ} (h : Filled pduSz a items) (hce : UlCe item)
    : let r := insertCe a.pdu fun p => p.setCe item.lcid item.payload
      (r = (a.pdu, false) ∧ a.pdu.newSubh = none)
        ∨ (r.2 = true ∧ item.payload.length + 1 ≤ a.pdu.remLen
          ∧ Filled pduSz { a with pdu := r.1 } (items ++ [item]))
        ∨ (r.2 = true ∧ ¬ item.payload.length + 1 ≤ a.pdu.remLen ∧ a.pdu.newSubh = some r.1) := by
  simp only []
  cases hnew : a.pdu.newSubh with
  | none => exact .inl ⟨insertCe_of_none hnew _, rfl⟩
  | some q =>
    rw [insertCe_of_some hnew]
    have hrem : q.remLen = a.pdu.remLen := by
      have ⟨_, _, _, _, _, hq⟩ := (SchPdu.newSubh_eq_some_iff _ _).mp hnew
      rw [hq]
    by_cases hroom : item.payload.length + 1 ≤ a.pdu.remLen
    . exact .inr (.inl ⟨rfl, hroom, h.insertCe hnew hroom hce.lcid hce.ne hce.size⟩)
    . have hset : q.setCe item.lcid item.payload = (q, false) :=
        SchPdu.setCe_of_not_space _ (by rw [hrem]; exact hroom)
      rw [hset]
      exact .inr (.inr ⟨rfl, hroom, rfl⟩)

theorem Filled.allocateSdus {a : Assembly σ} (h : Filled pduSz a items) (hshort : Short itf pduSz) (lch : List Lchid)
    : ∃ sdus, Filled pduSz (allocateSdus itf a lch) (items ++ sdus)
        ∧ (∀ item ∈ sdus, item.isSdu = true)
        ∧ (sdus.map SchItem.lcid).Sublist (lch.map Lchid.id) := by
  induction lch generalizing a items with
  | nil => exact ⟨[], by simpa [Mux.allocateSdus] using h, by simp, by simp⟩
  | cons ch lch ih =>
    unfold Mux.allocateSdus
    rw [foldl_cons]
    split
    next hsched =>
      have halloc := allocates_allocateSdu itf a ch.id ch.schedLen
      have hnext := h.allocate hshort halloc
      cases hok : (allocateSdu itf a ch.id ch.schedLen).2 with
      | false =>
        rw [hok] at hnext
        have ⟨sdus, hfilled, hsdus, hids⟩ := ih hnext
        exact ⟨sdus, hfilled, hsdus, hids.cons _⟩
      | true =>
        rw [hok] at hnext
        have ⟨sdu, hnext⟩ := hnext
        have ⟨sdus, hfilled, hsdus, hids⟩ := ih hnext
        refine ⟨⟨ch.id, sdu⟩ :: sdus, ?_, ?_, hids.cons_cons _⟩
        . rw [append_assoc] at hfilled
          exact hfilled
        . intro item hitem
          cases mem_cons.mp hitem with
          | inr hmem => exact hsdus item hmem
          | inl heq =>
            rw [heq]
            exact decide_eq_true (Nat.lt_trans (halloc.lcid_lt hok) (by decide))
    next =>
      have ⟨sdus, hfilled, hsdus, hids⟩ := ih h
      exact ⟨sdus, hfilled, hsdus, hids.cons _⟩

theorem allocateSdus_of_full {a : Assembly σ} (h : a.pdu.getSduSpace ≤ 0) (lch : List Lchid)
    : allocateSdus itf a lch = a := by
  have hskip : ∀ lcid maxSduSz, (allocateSdu itf a lcid maxSduSz).1 = a := by
    intro lcid maxSduSz
    have hle := requestLen_le itf a lcid maxSduSz
    have hneg : ¬ requestLen itf a lcid maxSduSz > minRlcSduLen := by
      unfold minRlcSduLen
      omega
    unfold allocateSdu
    simp only [hneg, ↓reduceIte]
    split
    . rfl
    . rfl
  unfold allocateSdus
  induction lch with
  | nil => rfl
  | cons ch lch ih =>
    rw [foldl_cons, hskip]
    simpa using ih

theorem triggered_cancel (b : BsrProc) : b.cancel.triggeredBsrType = .none := by
  unfold BsrProc.cancel
  simp only []
  split
  . rfl
  . rfl

theorem triggered_needToSend (b : BsrProc) (bufferState : Nat → Nat) (grantSize : Nat)
    : (b.needToSendBsrOnUlGrant bufferState grantSize).2.triggeredBsrType = .none := by
  unfold BsrProc.needToSendBsrOnUlGrant
  split
  . exact triggered_cancel _
  . exact triggered_cancel _

theorem needToSend_zero (b : BsrProc) (bufferState : Nat → Nat)
    : (b.needToSendBsrOnUlGrant bufferState 0).1 = none := by
  unfold BsrProc.needToSendBsrOnUlGrant
  split
  . have hdata : BsrProc.totalData bufferState 0 = -1 := rfl
    have hpos := bsrSz_pos (b.generateBsr bufferState 0)
    simp only [hdata]
    rw [if_pos]
    omega
  . rfl

section

variable (itf) {a : Assembly σ} {b : BsrProc} (hb : b.triggeredBsrType = .none) (bsrIsInserted : Bool)

include hb

theorem insertPaddingBsr_of_lt (hrem : a.pdu.remLen < 2) (regular : Option Bsr)
    : ∃ b', insertPaddingBsr itf a b regular bsrIsInserted = (a.pdu, bsrIsInserted, b') := by
  have hnone : ¬ (b.triggeredBsrType ≠ .none ∨ a.pdu.remSize ≥ 2) := by
    rw [not_or, not_not]
    exact ⟨hb, Nat.not_le_of_lt hrem⟩
  unfold insertPaddingBsr BsrProc.generatePaddingBsr
  cases regular with
  | some => exact ⟨b, rfl⟩
  | none =>
    rw [if_neg hnone]
    exact ⟨b, rfl⟩

theorem insertPaddingBsr_of_ge (hrem : 2 ≤ a.pdu.remLen)
    : ∃ padding b', BsrProc.bsrSz padding + 1 ≤ a.pdu.remLen
        ∧ insertPaddingBsr itf a b none bsrIsInserted
          = ((insertBsr a.pdu padding).1, bsrIsInserted || (insertBsr a.pdu padding).2, b') := by
  have hsome : TriggeredBsrType.none ≠ .none ∨ a.pdu.remSize ≥ 2 := .inr hrem
  unfold insertPaddingBsr BsrProc.generatePaddingBsr
  simp only [hb, hsome, Option.isNone_none, ↓reduceIte]
  refine ⟨_, _, ?_, rfl⟩
  unfold BsrProc.generateBsr
  simp only [↓reduceIte]
  split
  . split
    . exact hrem
    . exact hrem
  next hge =>
    change 3 + 1 ≤ a.pdu.remLen
    change ¬ a.pdu.remLen < 4 at hge
    omega

end

end

section

variable (m : Mux) (f : Assembly σ × Bool)

def needed : Option Bsr × BsrProc :=
  m.bsrProcedure.needToSendBsrOnUlGrant (itf.getBufferState f.1.rlc) f.1.pdu.remSize

def withBsr : SchPdu × Bool :=
  insertRegularBsr f.1.pdu (needed itf m f).1

def withPhr : Assembly σ :=
  { f.1 with pdu := (insertPhr (withBsr itf m f).1 m.phrProcedure).1 }

def withSdus : Assembly σ :=
  (insertSdus itf (withPhr itf m f) (m.lch.map updateBj) f.2).1

def withPadding : SchPdu × Bool × BsrProc :=
  insertPaddingBsr itf (withSdus itf m f) (needed itf m f).2 (needed itf m f).1 (withBsr itf m f).2

end

section

variable {itf} {m : Mux} {rlc : σ} {pduSz : Nat} {f : Assembly σ × Bool} {items : List SchItem}

theorem pduGet_eq (itf : RlcInterfaceMac σ) (m : Mux) (rlc : σ) (pduSz txTti pid : Nat)
    : let f := insertFirst itf (start rlc pduSz) m.pendingCrntiCe
      (pduGet itf m rlc pduSz txTti pid).ret = (withPadding itf m f).1.writePacket
        ∧ (pduGet itf m rlc pduSz txTti pid).taken = (withSdus itf m f).taken
        ∧ (pduGet itf m rlc pduSz txTti pid).mux.pidHasBsr (pid % m.nofHarqProc)
          = (withPadding itf m f).2.1 := by
  refine ⟨rfl, rfl, ?_⟩
  exact Function.update_self _ _ _

section

variable (h : Front itf m rlc pduSz f items)

include h

theorem Front.needed_eq
    : (needed itf m f).1 = regularBsr itf m rlc pduSz := by
  unfold needed regularBsr
  rw [h.rlc_eq, SchPdu.remSize, h.remLen_eq]

theorem Front.small : Small 1 items false := by
  cases h.items_eq with
  | inl hnil =>
    rw [hnil.1]
    exact { ces := by simp, nodup := by simp, bsr_iff := by simp }
  | inr hone =>
    have ⟨item, hitems, hbsr, _⟩ := hone
    rw [hitems]
    exact {
      ces := Nat.le_trans countP_le_length (Nat.le_refl 1)
      nodup := by
        cases hsdu : item.isSdu with
        | true => simp [hsdu]
        | false => simp [hsdu]
      bsr_iff := by simp [hbsr]
    }

theorem filled_withBsr (hfits : FrontFits itf m rlc pduSz)
    : ∃ items', Filled pduSz { f.1 with pdu := (withBsr itf m f).1 } (items ++ items')
        ∧ (∀ item ∈ items', item.isSdu = false)
        ∧ (withBsr itf m f).2 = (needed itf m f).1.isSome
        ∧ Small (if (needed itf m f).1.isSome then 2 else 1) (items ++ items') (withBsr itf m f).2
        ∧ ((needed itf m f).1.isSome → items' ≠ []) := by
  unfold withBsr insertRegularBsr
  cases hneeded : (needed itf m f).1 with
  | none => exact ⟨[], by simpa using h.filled, by simp, rfl, by simpa using h.small, by simp⟩
  | some bsr =>
    have hroom := hfits.bsr bsr (by rw [← h.needed_eq, hneeded])
    rw [← h.remLen_eq, ← length_bsrItem] at hroom
    have hlen : items.length + 1 < maxNofSubheaders := by
      cases h.items_eq with
      | inl hnil =>
        rw [hnil.1]
        decide
      | inr hone =>
        have ⟨item, hitems, _⟩ := hone
        rw [hitems]
        exact (by decide : 1 + 1 < maxNofSubheaders)
    have ⟨q, hnew⟩ := h.filled.exists_newSubh hlen (by omega)
    have hce := ulCe_bsrItem bsr
    simp only []
    rw [insertBsr_eq, insertCe_of_some hnew]
    refine ⟨[bsrItem bsr], h.filled.insertCe hnew hroom hce.lcid hce.ne hce.size, ?_, rfl, ?_, by simp⟩
    . intro item hitem
      rw [mem_singleton.mp hitem]
      exact hce.isSdu
    . have hsmall := h.small.concat_ce hce.isSdu
      rw [isBsr_bsrItem] at hsmall
      exact hsmall

end

structure OneLeft (a b : Assembly σ) : Prop where
  newSubh : a.pdu.newSubh = some b.pdu
  remLen : a.pdu.remLen = 1
  rlc_eq : b.rlc = a.rlc
  taken_eq : b.taken = a.taken

theorem insertPhr_cases {a : Assembly σ} (h : Filled pduSz a items) (phrProcedure : Option PhrProc)
    : ∃ a' items', Filled pduSz a' (items ++ items')
        ∧ (items' = [] ∨ ∃ phr, items' = [(SchOp.phr phr).item])
        ∧ (a' = { a with pdu := (insertPhr a.pdu phrProcedure).1 }
          ∨ OneLeft a' { a with pdu := (insertPhr a.pdu phrProcedure).1 }) := by
  have hsame : ∀ p, p = a.pdu → ∃ a' items', Filled pduSz a' (items ++ items')
      ∧ (items' = [] ∨ ∃ phr, items' = [(SchOp.phr phr).item])
      ∧ (a' = { a with pdu := p } ∨ OneLeft a' { a with pdu := p }) := by
    intro p hp
    exact ⟨a, [], by simpa using h, .inl rfl, .inl (by rw [hp])⟩
  unfold insertPhr
  split
  . exact hsame _ rfl
  next proc =>
    unfold PhrProc.generatePhrOnUlGrant
    split
    next phr proc' hphr =>
      cases insertCe_cases h (ulCe_phr phr) with
      | inl hnone =>
        apply hsame
        exact congrArg Prod.fst hnone.1
      | inr hnew =>
        cases hnew with
        | inl hadded => exact ⟨_, [_], hadded.2.2, .inr ⟨phr, rfl⟩, .inl rfl⟩
        | inr hstale =>
          have ⟨_, hroom, hnew⟩ := hstale
          have ⟨_, _, _, _, hpos, _⟩ := (SchPdu.newSubh_eq_some_iff _ _).mp hnew
          change ¬ 1 + 1 ≤ a.pdu.remLen at hroom
          exact ⟨a, [], by simpa using h, .inl rfl,
            .inr { newSubh := hnew, remLen := by omega, rlc_eq := rfl, taken_eq := rfl }⟩
    . exact hsame _ rfl

theorem Filled.insertSdus {a : Assembly σ} (h : Filled pduSz a items) (hshort : Short itf pduSz)
    (lch : List Lchid) (isRar : Bool)
    : ∃ sdus, Filled pduSz (insertSdus itf a lch isRar).1 (items ++ sdus)
        ∧ (∀ item ∈ sdus, item.isSdu = true)
        ∧ (sdus.map SchItem.lcid).Sublist (lch.map Lchid.id)
        ∧ (isRar = true → sdus = []) := by
  unfold Mux.insertSdus
  cases isRar with
  | true => exact ⟨[], by simpa using h, by simp, by simp, fun _ => rfl⟩
  | false =>
    have ⟨sdus, hfilled, hsdus, hids⟩ := h.allocateSdus hshort
      (schedule lch (itf.getBufferState a.rlc) a.pdu.getSduSpace)
    rw [map_id_schedule] at hids
    exact ⟨sdus, hfilled, hsdus, hids, fun hrar => by contradiction⟩

theorem OneLeft.remLen_eq {a b : Assembly σ} (h : OneLeft a b) : b.pdu.remLen = 1 := by
  have ⟨_, _, _, _, _, hq⟩ := (SchPdu.newSubh_eq_some_iff _ _).mp h.newSubh
  rw [hq]
  exact h.remLen

theorem OneLeft.insertSdus {a b : Assembly σ} (h : OneLeft a b) (lch : List Lchid) (isRar : Bool)
    : (insertSdus itf b lch isRar).1 = b := by
  unfold Mux.insertSdus
  split
  . apply allocateSdus_of_full
    rw [SchPdu.getSduSpace, h.remLen_eq]
    omega
  . rfl

variable {p q : SchPdu} {bsr : Bool}

theorem Filled.insertPaddingBsr (itf : RlcInterfaceMac σ) {a : Assembly σ} {b : BsrProc} {regular : Option Bsr}
    (h : Filled pduSz a items) (hb : b.triggeredBsrType = .none)
    (hsmall : Small (if regular.isSome then 3 else 2) items bsr)
    : let r := insertPaddingBsr itf a b regular bsr
      ∃ items', Filled pduSz { a with pdu := r.1 } (items ++ items') ∧ Small 3 (items ++ items') r.2.1
        ∧ (regular = none → 2 ≤ pduSz → items ++ items' ≠ []) := by
  simp only []
  cases regular with
  | some regular =>
    refine ⟨[], ?_, ?_, fun hnone => by contradiction⟩
    . rw [append_nil]
      exact h
    . rw [append_nil]
      exact hsmall
  | none =>
    have hstay : Small 3 (items ++ []) bsr := by
      simpa using hsmall.mono
    by_cases hrem : a.pdu.remLen < 2
    . have ⟨b', heq⟩ := insertPaddingBsr_of_lt itf hb bsr hrem none
      rw [heq]
      refine ⟨[], by simpa using h, hstay, ?_⟩
      intro _ hsz hnil
      rw [append_nil] at hnil
      subst hnil
      have hfull : a.pdu.remLen = pduSz := h.holds.remLen_eq
      omega
    . have ⟨padding, b', hroom, heq⟩ := insertPaddingBsr_of_ge itf hb bsr (Nat.le_of_not_lt hrem)
      rw [heq, insertBsr_eq]
      rw [← length_bsrItem] at hroom
      cases insertCe_cases h (ulCe_bsrItem padding) with
      | inl hnone =>
        rw [hnone.1]
        refine ⟨[], by simpa using h, by simpa using hstay, ?_⟩
        intro _ _ hnil
        rw [append_nil] at hnil
        subst hnil
        have ⟨q, hnew⟩ := h.exists_newSubh (by decide) (by omega)
        rw [hnone.2] at hnew
        contradiction
      | inr hnew =>
        cases hnew with
        | inl hadded =>
          refine ⟨[bsrItem padding], hadded.2.2, ?_, by simp⟩
          have hnext := hsmall.concat_ce (ulCe_bsrItem padding).isSdu
          rw [isBsr_bsrItem] at hnext
          rw [hadded.1]
          exact hnext
        | inr hstale => exact absurd hroom hstale.2.1

theorem Filled.writePacket_newSubh {a : Assembly σ} (h : Filled pduSz a items) (hne : items ≠ [])
    (hnew : a.pdu.newSubh = some q)
    : q.writePacket = a.pdu.writePacket := by
  have ⟨s, spare, hspare, _, _, hq⟩ := (SchPdu.newSubh_eq_some_iff _ _).mp hnew
  have hempty : s.getPayloadSize = 0 := (h.accounts.spare s (by simp [hspare])).empty
  have hused : q.used = a.pdu.used ++ [s] := by
    rw [hq]
  have hdrop : q.dropEmpty = a.pdu := by
    have hget : q.used.getD (q.nofSubheaders - 1) {} = s := by
      simp [SchPdu.nofSubheaders, hused]
    rw [SchPdu.dropEmpty, hget, if_pos hempty, SchPdu.delSubh_eq hused, hq, ← hspare]
  have hsplit := (dropLast_append_getLast hne).symm
  have hholds := h.holds
  rw [hsplit] at hholds
  have hkeep := hholds.dropEmpty_eq (h.entry _ (getLast_mem hne)).ne
  have hqne : ¬ (q.nofSubheaders = 0 ∧ 0 < q.maxSubheaders) := by
    simp [SchPdu.nofSubheaders, hused]
  have hane : ¬ (a.pdu.nofSubheaders = 0 ∧ 0 < a.pdu.maxSubheaders) := by
    rw [SchPdu.nofSubheaders, h.holds.used.length_eq, length_eq_zero_iff]
    exact fun hnil => hne hnil.1
  unfold SchPdu.writePacket
  rw [if_neg hqne, if_neg hane, hdrop, hkeep]

theorem carries_of_withPhr {a : Assembly σ} {regular : Option Bsr × BsrProc} {isRar : Bool}
    (hsz : 2 ≤ pduSz) (hshort : Short itf pduSz) (hb : regular.2.triggeredBsrType = .none)
    {lch : List Lchid} (hlch : (lch.map Lchid.id).Nodup)
    {b : Assembly σ} (hb' : a = b ∨ OneLeft a b) (h : Filled pduSz a items)
    (hsmall : Small (if regular.1.isSome then 3 else 2) items bsr)
    (hsdus : isRar = false → items.filter SchItem.isSdu = [])
    (hne : regular.1.isSome → items ≠ [])
    : let sdus := (insertSdus itf b lch isRar).1
      let r := insertPaddingBsr itf sdus regular.2 regular.1 bsr
      Carries pduSz r.1.writePacket sdus.received r.2.1 := by
  simp only []
  cases hb' with
  | inl heq =>
    subst heq
    have ⟨sdus, hfilled, hsdu, hids, hrar⟩ := h.insertSdus hshort lch isRar
    have hnext : Small (if regular.1.isSome then 3 else 2) (items ++ sdus) bsr := by
      cases isRar with
      | true =>
        rw [hrar rfl, append_nil]
        exact hsmall
      | false => exact hsmall.append_sdus (hsdus rfl) hsdu (hlch.sublist hids)
    have ⟨items', hfilled', hsmall', hne'⟩ := hfilled.insertPaddingBsr itf hb hnext
    apply hfilled'.carries hsmall'
    cases hregular : regular.1 with
    | none => exact hne' hregular hsz
    | some regularBsr =>
      have hitems := hne (by rw [hregular]; rfl)
      simp [hitems]
  | inr hone =>
    have hitems : items ≠ [] := by
      intro hnil
      subst hnil
      have hfull : a.pdu.remLen = pduSz := h.holds.remLen_eq
      have hrem := hone.remLen
      omega
    have hlt : b.pdu.remLen < 2 := by
      rw [hone.remLen_eq]
      decide
    have ⟨b', hpadding⟩ := insertPaddingBsr_of_lt itf hb bsr hlt regular.1
    have hreceived : b.received = a.received := by
      rw [Assembly.received, hone.taken_eq]
      rfl
    have hthree : Small 3 items bsr := by
      cases hregular : regular.1 with
      | none =>
        rw [hregular] at hsmall
        exact hsmall.mono
      | some regularBsr =>
        rw [hregular] at hsmall
        exact hsmall
    rw [hone.insertSdus, hpadding, hreceived]
    simp only []
    rw [h.writePacket_newSubh hitems hone.newSubh]
    exact h.carries hthree hitems

theorem carries_of_front (hsz : 2 ≤ pduSz) (hshort : Short itf pduSz) (hfits : FrontFits itf m rlc pduSz)
    (h : Front itf m rlc pduSz f items)
    : Carries pduSz (withPadding itf m f).1.writePacket (withSdus itf m f).received
        (withPadding itf m f).2.1 := by
  have ⟨items', hfilled, hces, _, hsmall, hne⟩ := filled_withBsr h hfits
  have ⟨a, phr, hfilled', hphr, hcases⟩ := insertPhr_cases hfilled m.phrProcedure
  have hnodup : ((m.lch.map updateBj).map Lchid.id).Nodup := by
    rw [map_id_updateBj]
    exact m.nodup
  have hphrCe : ∀ item ∈ phr, item.isSdu = false := by
    intro item hitem
    cases hphr with
    | inl hnil =>
      rw [hnil] at hitem
      contradiction
    | inr hone =>
      have ⟨value, heq⟩ := hone
      rw [heq] at hitem
      rw [mem_singleton.mp hitem]
      rfl
  have hsmall' : Small ((if (needed itf m f).1.isSome then 2 else 1) + 1) (items ++ items' ++ phr)
      (withBsr itf m f).2 := by
    cases hphr with
    | inl hnil =>
      rw [hnil, append_nil]
      exact hsmall.mono
    | inr hone =>
      have ⟨value, heq⟩ := hone
      have hnext := hsmall.concat_ce (ulCe_phr value).isSdu
      have hno : (SchOp.phr value).item.isBsr = false := rfl
      rw [hno, Bool.or_false] at hnext
      rw [heq]
      exact hnext
  have hsmall'' : Small (if (needed itf m f).1.isSome then 3 else 2) (items ++ items' ++ phr)
      (withBsr itf m f).2 := by
    cases hsome : (needed itf m f).1.isSome with
    | true =>
      rw [hsome] at hsmall'
      exact hsmall'
    | false =>
      rw [hsome] at hsmall'
      exact hsmall'
  apply carries_of_withPhr hsz hshort (triggered_needToSend _ _ _) hnodup hcases hfilled' hsmall''
  . intro hrar
    have hnil : items = [] := by
      cases h.items_eq with
      | inl hnil => exact hnil.1
      | inr hone =>
        have ⟨_, _, _, htrue⟩ := hone
        rw [hrar] at htrue
        contradiction
    rw [hnil, nil_append, filter_eq_nil_iff]
    intro item hitem
    cases mem_append.mp hitem with
    | inl hmem => simp [hces item hmem]
    | inr hmem => simp [hphrCe item hmem]
  . intro hsome
    simp [hne hsome]

theorem used_insertCe (h : p.newSubh = some q) (item : SchItem)
    : ∃ s, (insertCe p fun p => p.setCe item.lcid item.payload).1.used = p.used ++ [s] := by
  have ⟨s, spare, hspare, _, _, hq⟩ := (SchPdu.newSubh_eq_some_iff _ _).mp h
  rw [insertCe_of_some h]
  by_cases hspace : item.payload.length + 1 ≤ q.remLen
  . rw [SchPdu.setCe_of_space (p := q) (s := s) (by rw [hq]) _ hspace]
    exact ⟨_, rfl⟩
  . rw [SchPdu.setCe_of_not_space _ hspace]
    exact ⟨s, by rw [hq]⟩

structure Extends (pduSz : Nat) (p q : SchPdu) : Prop where
  accounts : SchPdu.Accounts pduSz q
  used : p.used <+: q.used
  same : q.used = p.used → ∃ spare, spare.length = p.spare.length ∧ q = { p with spare }

namespace Extends

variable {p q r : SchPdu}

theorem refl (h : SchPdu.Accounts pduSz p) : Extends pduSz p p := by
  exact { accounts := h, used := prefix_rfl, same := fun _ => ⟨p.spare, rfl, rfl⟩ }

theorem trans (h : Extends pduSz p q) (h' : Extends pduSz q r) : Extends pduSz p r := by
  refine { accounts := h'.accounts, used := h.used.trans h'.used, same := ?_ }
  intro hsame
  have hlen : q.used.length = p.used.length := by
    have hle := h.used.length_le
    have hle' := h'.used.length_le
    rw [hsame] at hle'
    omega
  have hq : q.used = p.used := (h.used.eq_of_length hlen.symm).symm
  have ⟨spare, hspare, heq⟩ := h.same hq
  have ⟨spare', hspare', heq'⟩ := h'.same (hsame.trans hq.symm)
  refine ⟨spare', ?_, ?_⟩
  . rw [hspare', heq]
    exact hspare
  . rw [heq', heq]

theorem insertCe (h : SchPdu.Accounts pduSz p) {item : SchItem} (hce : UlCe item)
    : Extends pduSz p (insertCe p fun p => p.setCe item.lcid item.payload).1 := by
  cases hnew : p.newSubh with
  | none =>
    rw [insertCe_of_none hnew]
    exact refl h
  | some q =>
    have ⟨s, hused⟩ := used_insertCe hnew item
    refine { accounts := ?_, used := ⟨[s], hused.symm⟩, same := ?_ }
    . rw [insertCe_of_some hnew]
      exact h.setCe hnew hce.lcid hce.ne
    . intro hsame
      rw [hused] at hsame
      simp at hsame

theorem allocate {a a' : Assembly σ} (h : SchPdu.Accounts pduSz a.pdu) {lcid n : Nat} {ok : Bool}
    (halloc : Allocates itf a lcid n a' ok)
    : Extends pduSz a.pdu a'.pdu := by
  cases halloc with
  | skip => exact refl h
  | @empty hlcid hdata hn hread s spare hspare =>
    exact {
      accounts := h.replaceSpare (h.fresh_cons hspare hlcid)
      used := prefix_rfl
      same := fun _ => ⟨_, by rw [hspare]; rfl, rfl⟩
    }
  | @added hlcid hdata q hnew hspace hset =>
    have ⟨s, spare, hspare, _, _, hq⟩ := (SchPdu.newSubh_eq_some_iff _ _).mp hnew
    have ⟨hroom, sdu, hread, hne, hle⟩ := (SchPdu.setSduItf_pos_iff _ _ _ _).mp hset
    have hidx : ∀ i, q.lastSduIdx = some i → i < a.pdu.used.length := by
      intro i hi
      have ⟨t, ht, _⟩ := h.last i (by rw [← hi, hq])
      exact (List.getElem?_eq_some_iff.mp ht).1
    have hr := congrArg Prod.fst
      (SchPdu.setSduItf_of_space (p := q) (s := s) (by rw [hq]) hidx lcid hroom hne hle)
    rw [← hread] at hr
    have hused : (q.setSduItf lcid n (some (itf.readPdu a.rlc lcid n).1)).1.used
        = a.pdu.used ++ [SchPdu.fillSdu s lcid sdu.length] := by
      rw [hr]
    refine { accounts := h.setSduItf hnew hlcid hset, used := ⟨_, hused.symm⟩, same := ?_ }
    intro hsame
    rw [hused] at hsame
    simp at hsame

theorem allocateSdus {a : Assembly σ} (h : SchPdu.Accounts pduSz a.pdu) (lch : List Lchid)
    : Extends pduSz a.pdu (allocateSdus itf a lch).pdu := by
  induction lch generalizing a with
  | nil => exact refl h
  | cons ch lch ih =>
    unfold Mux.allocateSdus
    rw [foldl_cons]
    split
    . have hnext : Extends pduSz a.pdu (allocateSdu itf a ch.id ch.schedLen).1.pdu :=
        allocate h (allocates_allocateSdu itf a ch.id ch.schedLen)
      exact hnext.trans (ih hnext.accounts)
    . exact ih h

theorem insertPhr (h : SchPdu.Accounts pduSz p) (phrProcedure : Option PhrProc)
    : Extends pduSz p (insertPhr p phrProcedure).1 := by
  unfold Mux.insertPhr
  split
  . exact refl h
  . split
    next phr _ _ => exact insertCe h (ulCe_phr phr)
    . exact refl h

theorem insertSdus {a : Assembly σ} (h : SchPdu.Accounts pduSz a.pdu) (lch : List Lchid) (isRar : Bool)
    : Extends pduSz a.pdu (insertSdus itf a lch isRar).1.pdu := by
  unfold Mux.insertSdus
  split
  . exact allocateSdus h _
  . exact refl h

theorem insertPaddingBsr {a : Assembly σ} (h : SchPdu.Accounts pduSz a.pdu) (b : BsrProc)
    (regular : Option Bsr) (bsr : Bool)
    : Extends pduSz a.pdu (insertPaddingBsr itf a b regular bsr).1 := by
  unfold Mux.insertPaddingBsr
  split
  . split
    next padding _ _ => exact insertCe h (ulCe_bsrItem padding)
    . exact refl h
  . exact refl h

end Extends

theorem Stale.writePacket_eq_none (h : Stale pduSz p) (hext : Extends pduSz p q) (hne : q.used ≠ p.used)
    : q.writePacket = none := by
  have ⟨before, s, hused, hempty⟩ := h.last
  have ⟨after, hafter⟩ := hext.used
  have hmem : s ∈ q.used.dropLast := by
    cases eq_nil_or_concat after with
    | inl hnil =>
      rw [hnil, append_nil] at hafter
      exact absurd hafter.symm hne
    | inr hconcat =>
      have ⟨after', t, heq⟩ := hconcat
      rw [← hafter, heq, hused, concat_eq_append, ← append_assoc, dropLast_concat]
      simp
  exact hext.accounts.writePacket_eq_none hmem hempty

theorem Extends.used_eq {r : SchPdu} (h : Extends pduSz p q) (h' : Extends pduSz q r) (hsame : r.used = p.used)
    : q.used = p.used ∧ r.used = q.used := by
  have hlen : p.used.length = q.used.length := by
    have hle := h.used.length_le
    have hle' := h'.used.length_le
    rw [hsame] at hle'
    omega
  have hq := h.used.eq_of_length hlen
  exact ⟨hq.symm, hsame.trans hq⟩

theorem Extends.maxSubheaders_eq (h : Extends pduSz p q) (hsame : q.used = p.used)
    : q.maxSubheaders = p.maxSubheaders ∧ q.remLen = p.remLen := by
  have ⟨spare, hlen, hq⟩ := h.same hsame
  rw [hq]
  exact ⟨by simp [SchPdu.maxSubheaders, hlen], rfl⟩

theorem Stale.writePacket_withPadding (h : Stale pduSz f.1.pdu) (hlen : f.1.pdu.used.length = 1)
    (hmax : f.1.pdu.maxSubheaders = maxNofSubheaders) (hrem : f.1.pdu.remLen = 2)
    : (withPadding itf m f).1.writePacket = none := by
  have hnewSubh : ∀ p : SchPdu, Extends pduSz f.1.pdu p → p.used = f.1.pdu.used
      → p.remLen = 2 ∧ ∃ q, p.newSubh = some q := by
    intro p hext hsame
    have ⟨hpmax, hprem⟩ := hext.maxSubheaders_eq hsame
    refine ⟨by omega, SchPdu.exists_newSubh ?_ (by omega)⟩
    rw [hsame, hpmax, hlen, hmax]
    decide
  have hbsr : Extends pduSz f.1.pdu (withBsr itf m f).1 := by
    unfold withBsr insertRegularBsr
    split
    next bsr _ => exact .insertCe h.accounts (ulCe_bsrItem bsr)
    . exact .refl h.accounts
  have hphr : Extends pduSz (withBsr itf m f).1 (withPhr itf m f).pdu := .insertPhr hbsr.accounts _
  have hsdus : Extends pduSz (withPhr itf m f).pdu (withSdus itf m f).pdu :=
    .insertSdus hphr.accounts _ _
  have hpadding : Extends pduSz (withSdus itf m f).pdu (withPadding itf m f).1 :=
    .insertPaddingBsr hsdus.accounts _ _ _
  have hthree := (hbsr.trans hphr).trans hsdus
  apply h.writePacket_eq_none (hthree.trans hpadding)
  intro hsame
  have ⟨hsame3, hsame4⟩ := hthree.used_eq hpadding hsame
  have ⟨hsame2, _⟩ := (hbsr.trans hphr).used_eq hsdus hsame3
  have ⟨hsame1, _⟩ := hbsr.used_eq hphr hsame2
  -- without a regular BSR there is space for a padding BSR
  cases hneeded : (needed itf m f).1 with
  | some bsr =>
    have ⟨_, q, hnew⟩ := hnewSubh f.1.pdu (.refl h.accounts) rfl
    have ⟨s, hused⟩ := used_insertCe hnew (bsrItem bsr)
    unfold withBsr insertRegularBsr at hsame1
    simp only [hneeded, insertBsr_eq, hused] at hsame1
    simp at hsame1
  | none =>
    have ⟨hrem3, q, hnew⟩ := hnewSubh _ hthree hsame3
    have ⟨padding, b', _, heq⟩ := insertPaddingBsr_of_ge itf
      (triggered_needToSend m.bsrProcedure (itf.getBufferState f.1.rlc) f.1.pdu.remSize) (withBsr itf m f).2
      (Nat.le_of_eq hrem3.symm)
    have ⟨s, hused⟩ := used_insertCe hnew (bsrItem padding)
    have hfinal : (withPadding itf m f).1
        = (insertCe (withSdus itf m f).pdu fun p => p.setCe (bsrItem padding).lcid (bsrItem padding).payload).1 := by
      unfold withPadding
      rw [hneeded]
      exact congrArg Prod.fst heq
    rw [hfinal, hused] at hsame4
    simp at hsame4

theorem map_lcid_of_decodes {pdu : List UInt8} {subheaders : List SchSubh}
    (h : List.Forall₂ (Decodes pdu) subheaders items)
    : items.map SchItem.lcid = subheaders.map SchSubh.lcid := by
  have hpairs := congrArg (List.map Prod.fst) (SchPdu.map_of_decodes h)
  rw [map_map, map_map] at hpairs
  exact hpairs.symm

theorem Carries.bsr_eq {ret : Option (List UInt8)} {received received' : List (Nat × List UInt8)}
    {bsr' : Bool} (h : Carries pduSz ret received bsr) (h' : Carries pduSz ret received' bsr')
    : bsr = bsr' := by
  have ⟨pdu, subheaders, entries, hret, _, hparse, hdecodes, _, _, hbsr⟩ := h
  have ⟨pdu', subheaders', entries', hret', _, hparse', hdecodes', _, _, hbsr'⟩ := h'
  have hpdu : pdu = pdu' := Option.some.inj (hret.symm.trans hret')
  subst hpdu
  have hsubheaders : subheaders = subheaders' := Option.some.inj (hparse.symm.trans hparse')
  subst hsubheaders
  have hiff : ∀ entries : List SchItem, (∃ item ∈ entries, item.isBsr = true)
      ↔ ∃ lcid ∈ entries.map SchItem.lcid,
        lcid = SchSubh.truncBsr ∨ lcid = SchSubh.shortBsr ∨ lcid = SchSubh.longBsr := by
    intro entries
    simp [isBsr]
  rw [Bool.eq_iff_iff, ← hbsr, ← hbsr', hiff, hiff, map_lcid_of_decodes hdecodes, map_lcid_of_decodes hdecodes']

theorem not_carries_of_empty {s : SchSubh} (hused : p.used = [s]) (hs : s.nofBytes = 0)
    (hidx : p.lastSduIdx = none) (hsdus : p.sdus = []) (hlen : p.pduLen = pduSz) (hrem : p.remLen = pduSz)
    (hmax : p.maxSubheaders = maxNofSubheaders) (hsz : 2 ≤ pduSz) (hsz' : pduSz ≤ 3)
    (received : List (Nat × List UInt8))
    : ¬ Carries pduSz p.writePacket received true := by
  have hdrop : p.dropEmpty = { p with used := [], spare := s :: p.spare } := by
    have hzero : s.getPayloadSize = 0 := hs
    have hsplit : p.used = [] ++ [s] := hused
    have hget : p.used.getD (p.nofSubheaders - 1) {} = s := by
      simp [SchPdu.nofSubheaders, hused]
    rw [SchPdu.dropEmpty, hget, if_pos hzero, SchPdu.delSubh_eq hsplit]
  have hne : ¬ (p.nofSubheaders = 0 ∧ 0 < p.maxSubheaders) := by
    simp [SchPdu.nofSubheaders, hused]
  have hoffset : SchPdu.sduOffsetStart { p with used := [], spare := s :: p.spare } = 53 := by
    unfold SchPdu.maxSubheaders at hmax
    rw [hused] at hmax
    unfold SchPdu.sduOffsetStart SchPdu.maxSubheaders
    change ([s] ++ p.spare).length * 2 + 13 = 53
    rw [hmax]
    rfl
  have hwrite : p.writePacket = if pduSz = 2 then some [0x3f, 0x3f] else some [0x1f, 0, 0] := by
    unfold SchPdu.writePacket
    rw [if_neg hne, hdrop]
    simp only [hoffset]
    have hcases : pduSz = 2 ∨ pduSz = 3 := by
      omega
    cases hcases with
    | inl htwo =>
      subst htwo
      simp [SchPdu.getPadding, hrem, hidx, hsdus, hlen, SchPdu.subheadersSize, SchPdu.cePayloadSize,
        SchPdu.totalSduLen, SchPdu.writeSubheaders, SchSubh.setPadding]
      decide
    | inr hthree =>
      subst hthree
      simp [SchPdu.getPadding, hrem, hidx, hsdus, hlen, SchPdu.subheadersSize, SchPdu.cePayloadSize,
        SchPdu.totalSduLen, SchPdu.writeSubheaders, SchSubh.setPadding]
      decide
  rintro ⟨pdu, subheaders, entries, hret, _, hparse, hdecodes, _, _, hbsr⟩
  rw [hwrite] at hret
  have hcases : pduSz = 2 ∨ pduSz = 3 := by
    omega
  cases hcases with
  | inl htwo =>
    subst htwo
    have hpdu : [0x3f, 0x3f] = pdu := Option.some.inj hret
    have hpast : (SchPdu.init maxNofSubheaders 2 true).parsePacket [0x3f, 0x3f] = none := by
      decide
    rw [← hpdu, hpast] at hparse
    contradiction
  | inr hthree =>
    subst hthree
    have hpdu : [0x1f, 0, 0] = pdu := Option.some.inj hret
    have hpadding : ((SchPdu.init maxNofSubheaders 3 true).parsePacket [0x1f, 0, 0]).map
        (fun subheaders => subheaders.map SchSubh.lcid) = some [31] := by
      decide
    rw [← hpdu] at hparse
    rw [hparse, Option.map_some, Option.some.injEq] at hpadding
    obtain ⟨item, hitem, hitemBsr⟩ := hbsr.mpr rfl
    have hlcid : item.lcid ∈ [31] := by
      rw [← hpadding, ← map_lcid_of_decodes hdecodes]
      exact mem_map_of_mem hitem
    rw [mem_singleton] at hlcid
    simp [isBsr, hlcid, SchSubh.truncBsr, SchSubh.shortBsr, SchSubh.longBsr] at hitemBsr

/-- A BSR that gets a subheader but no room leaves the PDU as it was, without a BSR. -/
theorem Front.not_carries_of_ne_nil (h : Front itf m rlc pduSz f items) (hne : items ≠ []) {q : SchPdu}
    (hnew : f.1.pdu.newSubh = some q) {spare : List SchSubh} (hlen : spare.length = q.spare.length)
    (hfresh : ∀ t ∈ spare, SchPdu.Fresh t) (received : List (Nat × List UInt8))
    : ¬ Carries pduSz { q with spare }.writePacket received true := by
  have ⟨s, spare', hspare, hmax, hpos, hq⟩ := (SchPdu.newSubh_eq_some_iff _ _).mp hnew
  have hspares : ∀ t ∈ s :: spare, SchPdu.Fresh t := by
    intro t ht
    cases mem_cons.mp ht with
    | inl heq => exact h.filled.accounts.spare t (by simp [hspare, heq])
    | inr ht => exact hfresh t ht
  have hcount : (s :: spare).length = f.1.pdu.spare.length := by
    rw [hspare, length_cons, length_cons, hlen, hq]
  have hfilled := h.filled.replaceSpare hcount hspares
  have hnew' : SchPdu.newSubh { f.1.pdu with spare := s :: spare } = some { q with spare } := by
    rw [SchPdu.newSubh_eq_some_iff]
    refine ⟨s, spare, rfl, ?_, hpos, by rw [hq]⟩
    unfold SchPdu.maxSubheaders at hmax ⊢
    rw [length_append] at hmax ⊢
    rw [hcount]
    exact hmax
  have hcarries := hfilled.carries h.small.mono.mono hne
  intro hclaim
  rw [hfilled.writePacket_newSubh hne hnew'] at hclaim
  exact Bool.noConfusion (hclaim.bsr_eq hcarries)

theorem Front.not_carries_of_nil (h : Front itf m rlc pduSz f []) (hsz : 2 ≤ pduSz) (hsz' : pduSz ≤ 3) {q : SchPdu}
    (hnew : f.1.pdu.newSubh = some q) {spare : List SchSubh} (hlen : spare.length = q.spare.length)
    (received : List (Nat × List UInt8))
    : ¬ Carries pduSz { q with spare }.writePacket received true := by
  have ⟨s, spare', hspare, _, _, hq⟩ := (SchPdu.newSubh_eq_some_iff _ _).mp hnew
  have hfresh := h.filled.accounts.spare s (by simp [hspare])
  have hempty : f.1.pdu.used = [] := forall₂_nil_right_iff.mp h.filled.holds.used
  have hidx : f.1.pdu.lastSduIdx = none := by
    cases hlast : f.1.pdu.lastSduIdx with
    | none => rfl
    | some i =>
      have ⟨t, ht, _⟩ := h.filled.accounts.last i hlast
      rw [hempty] at ht
      cases ht
  rw [hq] at hlen ⊢
  apply not_carries_of_empty (s := s) _ hfresh.empty _ _ _ _ _ hsz hsz'
  . simp [hempty]
  . exact hidx
  . exact h.filled.holds.sdus
  . exact h.filled.holds.pduLen_eq
  . exact h.filled.holds.remLen_eq
  . rw [← h.filled.holds.max_eq]
    unfold SchPdu.maxSubheaders
    simp [hlen, hspare]

theorem Front.not_carries (hsz : 2 ≤ pduSz) (h : Front itf m rlc pduSz f items) {bsr : Bsr}
    (hbsr : regularBsr itf m rlc pduSz = some bsr)
    (hlt : ¬ BsrProc.bsrSz bsr + 1 ≤ left itf m rlc pduSz) (received : List (Nat × List UInt8))
    : ¬ Carries pduSz (withPadding itf m f).1.writePacket received (withPadding itf m f).2.1 := by
  have hneeded := h.needed_eq.trans hbsr
  have hpos : 0 < left itf m rlc pduSz := by
    apply Nat.pos_of_ne_zero
    intro hzero
    unfold regularBsr at hbsr
    rw [hzero, needToSend_zero] at hbsr
    contradiction
  have hlen : f.1.pdu.used.length + 1 < f.1.pdu.maxSubheaders := by
    rw [h.filled.holds.used.length_eq, h.filled.holds.max_eq]
    cases h.items_eq with
    | inl hnil =>
      rw [hnil.1]
      decide
    | inr hone =>
      have ⟨item, hitems, _⟩ := hone
      rw [hitems]
      exact (by decide : 1 + 1 < maxNofSubheaders)
  have ⟨q, hnew⟩ := SchPdu.exists_newSubh hlen (by rw [h.remLen_eq]; exact hpos)
  have ⟨s, spare, hspare, _, _, hq⟩ := (SchPdu.newSubh_eq_some_iff _ _).mp hnew
  have hfresh := h.filled.accounts.spare s (by simp [hspare])
  have hwithBsr : withBsr itf m f = (q, true) := by
    have hroom : ¬ (bsrItem bsr).payload.length + 1 ≤ q.remLen := by
      rw [length_bsrItem, hq]
      change ¬ BsrProc.bsrSz bsr + 1 ≤ f.1.pdu.remLen
      rw [h.remLen_eq]
      exact hlt
    unfold withBsr insertRegularBsr
    simp only [hneeded]
    rw [insertBsr_eq, insertCe_of_some hnew, SchPdu.setCe_of_not_space _ hroom]
  have hstale : Stale pduSz q := {
    accounts := h.filled.accounts.newSubh hnew
    last := ⟨f.1.pdu.used, s, by rw [hq], hfresh.empty⟩
  }
  have hphr : Extends pduSz (withBsr itf m f).1 (withPhr itf m f).pdu := by
    apply Extends.insertPhr
    rw [hwithBsr]
    exact hstale.accounts
  have hsdus : Extends pduSz (withPhr itf m f).pdu (withSdus itf m f).pdu :=
    .insertSdus hphr.accounts _ _
  have hext := hphr.trans hsdus
  rw [hwithBsr] at hext
  have hfinal : (withPadding itf m f).1 = (withSdus itf m f).pdu ∧ (withPadding itf m f).2.1 = true := by
    unfold withPadding insertPaddingBsr
    rw [hneeded, hwithBsr]
    exact ⟨rfl, rfl⟩
  rw [hfinal.1, hfinal.2]
  generalize (withSdus itf m f).pdu = r at hext
  by_cases hsame : r.used = q.used
  . have ⟨spare', hlen', hr⟩ := hext.same hsame
    rw [hr]
    cases h.items_eq with
    | inr hone =>
      have ⟨item, hitems, _⟩ := hone
      apply h.not_carries_of_ne_nil (by simp [hitems]) hnew hlen'
      intro t ht
      exact hext.accounts.spare t (by rw [hr]; exact ht)
    | inl hnil =>
      have hitems := hnil.1
      subst hitems
      have hfull : f.1.pdu.remLen = pduSz := h.filled.holds.remLen_eq
      have hbsrSz := bsrSz_le bsr
      have hleft := h.remLen_eq
      exact h.not_carries_of_nil hsz (by omega) hnew hlen' received
  . intro hclaim
    have ⟨_, _, _, hret, _⟩ := hclaim
    rw [hstale.writePacket_eq_none hext hsame] at hret
    contradiction

end

/--
`pdu_get` returns a PDU of `pduSz` bytes that the parser decodes to well-formed entries. Its SDUs are
all that was taken from the RLC layer, and the HARQ process is marked if there is a BSR.
-/
def FillsGrant (m : Mux) (rlc : σ) (pduSz txTti pid : Nat) : Prop :=
  let r := pduGet itf m rlc pduSz txTti pid
  Carries pduSz r.ret (r.taken.filter fun sdu => sdu.2 ≠ []) (r.mux.pidHasBsr (pid % m.nofHarqProc))

theorem fillsGrant_iff (m : Mux) (rlc : σ) (pduSz txTti pid : Nat) (hsz : 2 ≤ pduSz) (hshort : Short itf pduSz)
    : FillsGrant itf m rlc pduSz txTti pid ↔ FrontFits itf m rlc pduSz := by
  have ⟨hret, htaken, hpid⟩ := pduGet_eq itf m rlc pduSz txTti pid
  unfold FillsGrant
  simp only []
  rw [hret, htaken, hpid]
  constructor
  . intro hcarries
    have hcRnti : (ccch itf rlc pduSz).1 = [] → m.pendingCrntiCe ≠ 0 → 3 ≤ pduSz := by
      intro hnil hcrnti
      apply Nat.le_of_not_lt
      intro hlt
      have ⟨hstale, hlen, hmax, hrem⟩ := stale_insertFirst hsz hshort hnil hcrnti hlt
      have ⟨_, _, _, hsome, _⟩ := hcarries
      rw [hstale.writePacket_withPadding hlen hmax hrem] at hsome
      contradiction
    have ⟨items, hfront⟩ := front_insertFirst hsz hshort hcRnti
    refine { cRnti := hcRnti, bsr := ?_ }
    intro bsr hbsr
    apply Classical.byContradiction
    intro hlt
    exact hfront.not_carries hsz hbsr hlt _ hcarries
  . intro hfits
    have ⟨items, hfront⟩ := front_insertFirst hsz hshort hfits.cRnti
    exact carries_of_front hsz hshort hfits hfront

def byteQueues : RlcInterfaceMac (Nat → List UInt8) :=
  {
    getBufferState := fun rlc lcid => if lcid < nRadioBearers then (rlc lcid).length else 0
    readPdu := fun rlc lcid nofBytes =>
      ((rlc lcid).take nofBytes, Function.update rlc lcid ((rlc lcid).drop nofBytes))
    length_readPdu_le := fun rlc lcid nofBytes => by
      rw [length_take]
      exact Nat.min_le_left _ _
    getBufferState_of_ge := fun rlc lcid hle => if_neg (Nat.not_lt_of_le hle)
  }

def twoChannels (triggeredBsrType : TriggeredBsrType) (pendingCrntiCe : Nat) : Mux :=
  {
    lch := [{ id := 3, pbr := 8, bsd := 100, priority := 1 }, { id := 4, pbr := -1, bsd := 100, priority := 2 }]
    pidHasBsr := fun _ => false
    nofHarqProc := 8
    bsrProcedure := { (BsrProc.init.setupLcg 3 1).setupLcg 4 2 with triggeredBsrType }
    phrProcedure := none
    pendingCrntiCe
    nodup := by decide
  }

theorem fillsGrant_twoChannels
    : FillsGrant byteQueues (twoChannels .regular 0) (fun _ => [1, 2, 3]) 20 0 0 := by
  apply (fillsGrant_iff byteQueues (twoChannels .regular 0) (fun _ => [1, 2, 3]) 20 0 0 (by decide)
    (.inl (by decide))).mpr
  refine { cRnti := fun _ hne => absurd rfl hne, bsr := ?_ }
  intro bsr _
  have hle := bsrSz_le bsr
  have hleft : left byteQueues (twoChannels .regular 0) (fun _ => [1, 2, 3]) 20 = 16 := by
    decide
  omega

theorem not_fillsGrant
    : ¬ FillsGrant byteQueues (twoChannels .none 70) (fun _ => []) 2 0 0
        ∧ ¬ FillsGrant byteQueues (twoChannels .regular 0) (Function.update (fun _ => [1, 2, 3]) 0 []) 3 0 0 := by
  have hnull : ∀ {m : Mux} {rlc : Nat → List UInt8} {pduSz : Nat},
      (pduGet byteQueues m rlc pduSz 0 0).ret = none → ¬ FillsGrant byteQueues m rlc pduSz 0 0 := by
    intro m rlc pduSz hret hfills
    have ⟨_, _, _, hsome, _⟩ := hfills
    rw [hret] at hsome
    contradiction
  exact ⟨hnull (by decide), hnull (by decide)⟩

end SrsLte.Mux

import SrsLte.Mac.Lemmas.Account
import SrsLte.Mac.Lemmas.RoundTrip

/-!
This module contains the invariant of the PDU that the multiplexer assembles.
-/

namespace SrsLte

namespace Mux

open SchItem List

variable {σ : Type} (itf : RlcInterfaceMac σ)

inductive Allocates (a : Assembly σ) (lcid n : Nat) : Assembly σ → Bool → Prop where
  | skip (h : itf.getBufferState a.rlc lcid = 0 ∨ n = 0 ∨ a.pdu.newSubh = none)
      : Allocates a lcid n a false
  | empty (hlcid : lcid < nRadioBearers) (hdata : 0 < itf.getBufferState a.rlc lcid) (hn : 0 < n)
      (hread : (itf.readPdu a.rlc lcid n).1 = []) {s : SchSubh} {spare : List SchSubh}
      (hspare : a.pdu.spare = s :: spare)
      : Allocates a lcid n
          {
            pdu := { a.pdu with spare := { s with lcid } :: spare }
            rlc := (itf.readPdu a.rlc lcid n).2
            taken := a.taken ++ [(lcid, [])]
          }
          false
  | added (hlcid : lcid < nRadioBearers) (hdata : 0 < itf.getBufferState a.rlc lcid) {q : SchPdu}
      (hnew : a.pdu.newSubh = some q) (hspace : n < a.pdu.remLen)
      (hset : (q.setSduItf lcid n (some (itf.readPdu a.rlc lcid n).1)).2 > 0)
      : Allocates a lcid n
          {
            pdu := (q.setSduItf lcid n (some (itf.readPdu a.rlc lcid n).1)).1
            rlc := (itf.readPdu a.rlc lcid n).2
            taken := a.taken ++ [(lcid, (itf.readPdu a.rlc lcid n).1)]
          }
          true

theorem Allocates.lcid_lt {itf} {a a' : Assembly σ} {lcid n : Nat} {ok : Bool}
    (h : Allocates itf a lcid n a' ok) (hok : ok = true)
    : lcid < nRadioBearers := by
  cases h with
  | skip => contradiction
  | empty => contradiction
  | added hlcid => exact hlcid

theorem requestLen_le (a : Assembly σ) (lcid : Nat) (maxSduSz : Int)
    : requestLen itf a lcid maxSduSz ≤ a.pdu.getSduSpace := by
  have hle : ∀ len space : Int, (if len > space ∨ maxSduSz < 0 then space else len) ≤ space := by
    intro len space
    split
    . exact Int.le_refl _
    . omega
  exact hle _ _

theorem requestLen_of_neg (a : Assembly σ) (lcid : Nat) {maxSduSz : Int} (h : maxSduSz < 0)
    : requestLen itf a lcid maxSduSz = a.pdu.getSduSpace := by
  simp [requestLen, h]

theorem lastSduExtra_newSubh {p q : SchPdu} (h : p.newSubh = some q)
    : q.lastSduExtra = p.lastSduExtra := by
  have ⟨s, spare, hspare, _, _, hq⟩ := (SchPdu.newSubh_eq_some_iff p q).mp h
  apply SchPdu.lastSduExtra_congr
  . rw [hq]
  . simp [hq, hspare]

theorem delSubh_setSduItf_nil {p q : SchPdu} (h : p.newSubh = some q) (lcid : Nat) {n : Nat}
    (hspace : q.hasSpaceSdu n = true)
    : ∃ s spare, p.spare = s :: spare
        ∧ (q.setSduItf lcid n (some [])).1.delSubh = { p with spare := { s with lcid } :: spare } := by
  have ⟨s, spare, hspare, _, _, hq⟩ := (SchPdu.newSubh_eq_some_iff p q).mp h
  have hused : q.used = p.used ++ [s] := by
    rw [hq]
  refine ⟨s, spare, hspare, ?_⟩
  unfold SchPdu.setSduItf
  rw [if_pos hspace]
  simp only []
  rw [SchPdu.modifyCur_eq hused, SchPdu.delSubh_eq rfl, hq]

theorem allocates_allocateSdu (a : Assembly σ) (lcid : Nat) (maxSduSz : Int)
    : Allocates itf a lcid (requestLen itf a lcid maxSduSz).toNat (allocateSdu itf a lcid maxSduSz).1
        (allocateSdu itf a lcid maxSduSz).2 := by
  unfold allocateSdu
  split
  next hdata =>
    have hlcid : lcid < nRadioBearers := by
      apply Nat.lt_of_not_le
      intro hle
      rw [itf.getBufferState_of_ge a.rlc lcid hle] at hdata
      exact Nat.lt_irrefl 0 hdata
    have hle := requestLen_le itf a lcid maxSduSz
    simp only []
    generalize requestLen itf a lcid maxSduSz = len at hle
    split
    next hpos =>
      change 0 < len at hpos
      split
      next q hnew =>
        have hrem : q.remLen = a.pdu.remLen := by
          have ⟨_, _, _, _, _, hq⟩ := (SchPdu.newSubh_eq_some_iff _ _).mp hnew
          rw [hq]
        have hroom : len.toNat + 1 + q.lastSduExtra ≤ q.remLen := by
          unfold SchPdu.getSduSpace at hle
          rw [lastSduExtra_newSubh hnew, hrem]
          omega
        have hspace := (SchPdu.hasSpaceSdu_iff q len.toNat).mpr hroom
        simp only [setSdu, hspace, ↓reduceIte]
        split
        next hset => exact .added hlcid hdata hnew (by omega) hset
        next hset =>
          have hnil : (itf.readPdu a.rlc lcid len.toNat).1 = [] := by
            apply Classical.byContradiction
            intro hne
            apply hset
            rw [SchPdu.setSduItf_pos_iff]
            exact ⟨hroom, _, rfl, hne, itf.length_readPdu_le _ _ _⟩
          have ⟨s, spare, hspare, hdel⟩ := delSubh_setSduItf_nil hnew lcid hspace
          rw [hnil, hdel]
          exact .empty hlcid hdata (by omega) hnil hspare
      next hnone => exact .skip (.inr (.inr hnone))
    next hpos =>
      change ¬ 0 < len at hpos
      exact .skip (.inr (.inl (by omega)))
  next hdata => exact .skip (.inl (by omega))

structure Entry (item : SchItem) : Prop where
  ne : item.payload ≠ []
  sdu : item.isSdu = true → item.lcid < nRadioBearers ∧ item.payload.length < 2 ^ 15
  ce : item.isSdu = false → item.subh.sizeofCe true = item.payload.length

def Assembly.received (a : Assembly σ) : List (Nat × List UInt8) :=
  a.taken.filter fun sdu => sdu.2 ≠ []

structure Filled (pduSz : Nat) (a : Assembly σ) (items : List SchItem) : Prop where
  holds : SchPdu.Holds maxNofSubheaders pduSz true a.pdu items
  accounts : SchPdu.Accounts pduSz a.pdu
  entry : ∀ item ∈ items, Entry item
  sdus : (items.filter isSdu).map (fun item => (item.lcid, item.payload)) = a.received

def Short (pduSz : Nat) : Prop :=
  pduSz ≤ 2 ^ 15 ∨ ∀ rlc lcid n, (itf.readPdu rlc lcid n).1.length < 2 ^ 15

def start (rlc : σ) (pduSz : Nat) : Assembly σ :=
  { pdu := SchPdu.init maxNofSubheaders pduSz true, rlc }

theorem filled_start (rlc : σ) (pduSz : Nat) : Filled pduSz (start rlc pduSz) [] := by
  exact {
    holds := SchPdu.holds_init _ _ _
    accounts := SchPdu.accounts_init _ _ _
    entry := fun item hitem => absurd hitem not_mem_nil
    sdus := rfl
  }

namespace Filled

variable {itf} {pduSz : Nat} {a a' : Assembly σ} {items : List SchItem}

section

variable (h : Filled pduSz a items)

include h

theorem exists_newSubh (hcount : items.length + 1 < maxNofSubheaders)
    (hrem : 0 < a.pdu.remLen)
    : ∃ q, a.pdu.newSubh = some q := by
  apply SchPdu.exists_newSubh _ hrem
  rw [h.holds.used.length_eq, h.holds.max_eq]
  exact hcount

theorem remLen_le : a.pdu.remLen ≤ pduSz := by
  have hspace := h.holds.space
  have hextra : extra items ≤ size items := by
    unfold extra
    split
    . exact Nat.zero_le _
    next item hlast =>
      have hmem : item ∈ items := mem_of_mem_filter (mem_of_getLast? hlast)
      have ⟨before, after, hitems⟩ := append_of_mem hmem
      simp only [size, hitems, map_append, map_cons, sum_append, sum_cons]
      omega
  omega

theorem replaceSpare {spare : List SchSubh}
    (hlen : spare.length = a.pdu.spare.length) (hfresh : ∀ s ∈ spare, SchPdu.Fresh s)
    : Filled pduSz { a with pdu := { a.pdu with spare } } items := by
  exact {
    h with
    holds := {
      h.holds with
      max_eq := by
        rw [← h.holds.max_eq]
        simp [SchPdu.maxSubheaders, hlen]
      spare := fun s hs => (hfresh s hs).type
    }
    accounts := h.accounts.replaceSpare hfresh
  }

theorem allocate (hshort : Short itf pduSz) {lcid n : Nat} {ok : Bool}
    (halloc : Allocates itf a lcid n a' ok)
    : if ok then ∃ sdu, Filled pduSz a' (items ++ [⟨lcid, sdu⟩]) else Filled pduSz a' items := by
  cases halloc with
  | skip => exact h
  | @empty hlcid hdata hn hread s spare hspare =>
    have hnext := h.replaceSpare (by rw [hspare]; rfl) (h.accounts.fresh_cons hspare hlcid)
    exact { hnext with sdus := by rw [h.sdus]; simp [Assembly.received] }
  | @added hlcid hdata q hnew hspace hset =>
    have ⟨_, sdu, hread, hne, hle⟩ := (SchPdu.setSduItf_pos_iff _ _ _ _).mp hset
    rw [Option.some.injEq] at hread
    have hsdu : SchItem.isSdu ⟨lcid, (itf.readPdu a.rlc lcid n).1⟩ = true :=
      decide_eq_true (Nat.lt_trans hlcid (by decide))
    have hlen : (itf.readPdu a.rlc lcid n).1.length < 2 ^ 15 := by
      cases hshort with
      | inl hsz =>
        have hrem := h.remLen_le
        rw [hread]
        omega
      | inr hread => exact hread _ _ _
    refine ⟨(itf.readPdu a.rlc lcid n).1, ?_⟩
    exact {
      holds := h.holds.addSduItf hnew hset hsdu
      accounts := h.accounts.setSduItf hnew hlcid hset
      entry := by
        refine forall_mem_append.mpr ⟨h.entry, forall_mem_singleton.mpr ?_⟩
        exact {
          ne := by rw [hread]; exact hne
          sdu := fun _ => ⟨hlcid, hlen⟩
          ce := fun hce => by rw [hsdu] at hce; contradiction
        }
      sdus := by
        rw [← hread] at hne
        rw [filter_append, map_append, h.sdus]
        simp [Assembly.received, hsdu, hne]
    }

theorem insertCe {q : SchPdu} (hnew : a.pdu.newSubh = some q) {lcid : Nat}
    {payload : List UInt8} (hroom : payload.length + 1 ≤ a.pdu.remLen)
    (hlcid : SchSubh.phrReport ≤ lcid) (hne : payload ≠ [])
    (hsize : (SchItem.subh ⟨lcid, payload⟩).sizeofCe true = payload.length)
    : Filled pduSz { a with pdu := (q.setCe lcid payload).1 } (items ++ [⟨lcid, payload⟩]) := by
  have hce : SchItem.isSdu ⟨lcid, payload⟩ = false := decide_eq_false (Nat.not_lt_of_le hlcid)
  have hrem : q.remLen = a.pdu.remLen := by
    have ⟨_, _, _, _, _, hq⟩ := (SchPdu.newSubh_eq_some_iff _ _).mp hnew
    rw [hq]
  have hset : (q.setCe lcid payload).2 = true := by
    rw [SchPdu.setCe_eq_true_iff, hrem]
    exact hroom
  exact {
    holds := h.holds.addCe hnew (Prod.ext rfl hset) hce hsize
    accounts := h.accounts.setCe hnew hlcid hne
    entry := by
      refine forall_mem_append.mpr ⟨h.entry, forall_mem_singleton.mpr ?_⟩
      exact { ne := hne, sdu := fun hsdu => by rw [hce] at hsdu; contradiction, ce := fun _ => hsize }
    sdus := by
      rw [filter_append, map_append, h.sdus, filter_cons_of_neg (by rw [hce]; decide)]
      simp [Assembly.received]
  }

end

end Filled

end Mux

namespace SchItem

def isBsr (item : SchItem) : Bool :=
  item.lcid = SchSubh.truncBsr ∨ item.lcid = SchSubh.shortBsr ∨ item.lcid = SchSubh.longBsr

end SchItem

namespace Mux

open SchItem List

variable {σ : Type} (itf : RlcInterfaceMac σ)

structure Small (k : Nat) (items : List SchItem) (bsr : Bool) : Prop where
  ces : items.countP (fun item => !item.isSdu) ≤ k
  nodup : ((items.filter SchItem.isSdu).map SchItem.lcid).Nodup
  bsr_iff : (∃ item ∈ items, item.isBsr = true) ↔ bsr = true

namespace Small

variable {k : Nat} {items : List SchItem} {bsr : Bool}

theorem mono (h : Small k items bsr) : Small (k + 1) items bsr :=
  { h with ces := Nat.le_succ_of_le h.ces }

theorem concat_ce (h : Small k items bsr) {item : SchItem} (hce : item.isSdu = false)
    : Small (k + 1) (items ++ [item]) (bsr || item.isBsr) := by
  exact {
    ces := by
      have hces := h.ces
      simp [countP_append, hce]
      omega
    nodup := by
      simpa [filter_append, hce] using h.nodup
    bsr_iff := by
      rw [Bool.or_eq_true, ← h.bsr_iff]
      constructor
      . rintro ⟨x, hx, hbsr⟩
        cases mem_append.mp hx with
        | inl hx => exact .inl ⟨x, hx, hbsr⟩
        | inr hx => exact .inr (mem_singleton.mp hx ▸ hbsr)
      . intro hor
        cases hor with
        | inl hold =>
          have ⟨x, hx, hbsr⟩ := hold
          exact ⟨x, mem_append_left _ hx, hbsr⟩
        | inr hnew => exact ⟨item, by simp, hnew⟩
  }

theorem append_sdus (h : Small k items bsr) {sdus : List SchItem}
    (hnone : items.filter SchItem.isSdu = []) (hsdus : ∀ item ∈ sdus, item.isSdu = true)
    (hnodup : (sdus.map SchItem.lcid).Nodup)
    : Small k (items ++ sdus) bsr := by
  have hfilter : sdus.filter SchItem.isSdu = sdus := by
    rw [filter_eq_self]
    exact hsdus
  have hces : sdus.countP (fun item => !item.isSdu) = 0 := by
    rw [countP_eq_zero]
    intro item hitem
    simp [hsdus item hitem]
  exact {
    ces := by
      rw [countP_append, hces]
      exact h.ces
    nodup := by
      rw [filter_append, hnone, hfilter]
      exact hnodup
    bsr_iff := by
      rw [← h.bsr_iff]
      constructor
      . rintro ⟨x, hx, hbsr⟩
        cases mem_append.mp hx with
        | inl hx => exact ⟨x, hx, hbsr⟩
        | inr hx =>
          have hlt : x.lcid < SchSubh.phrReport := of_decide_eq_true (hsdus x hx)
          have hcases := of_decide_eq_true hbsr
          unfold SchSubh.phrReport at hlt
          unfold SchSubh.truncBsr SchSubh.shortBsr SchSubh.longBsr at hcases
          omega
      . rintro ⟨x, hx, hbsr⟩
        exact ⟨x, mem_append_left _ hx, hbsr⟩
  }

theorem sdus_le (h : Small k items bsr) (hentry : ∀ item ∈ items, Entry item)
    : items.countP SchItem.isSdu ≤ nRadioBearers := by
  have hsub : ((items.filter SchItem.isSdu).map SchItem.lcid) ⊆ List.range nRadioBearers := by
    intro lcid hlcid
    have ⟨item, hitem, heq⟩ := mem_map.mp hlcid
    have ⟨hmem, hsdu⟩ := mem_filter.mp hitem
    rw [← heq, mem_range]
    exact ((hentry item hmem).sdu hsdu).1
  have hle := (subperm_of_subset h.nodup hsub).length_le
  rw [length_map, ← countP_eq_length_filter, length_range] at hle
  exact hle

end Small

theorem sizeofCe_le {s : SchSubh} (h : s.type = .sch) : s.sizeofCe true ≤ 3 := by
  unfold SchSubh.sizeofCe
  simp only [h, ↓reduceIte]
  repeat'
    split
  all_goals decide

variable {items : List SchItem} {item : SchItem}

theorem headers_le (hentry : ∀ item ∈ items, Entry item)
    : (items.map headerSize).sum + ceBytes items
        ≤
      4 * items.countP (fun item => !item.isSdu) + 3 * items.countP SchItem.isSdu := by
  induction items with
  | nil => exact Nat.le_refl _
  | cons item items ih =>
    have hitem := hentry item mem_cons_self
    have hih := ih fun x hx => hentry x (mem_cons_of_mem item hx)
    unfold ceBytes at hih ⊢
    cases hsdu : item.isSdu with
    | true =>
      have hheader : item.headerSize ≤ 3 := by
        rw [headerSize_of_sdu hsdu, SchSubh.sizeHeaderSdu]
        split
        . decide
        . decide
      simp only [map_cons, sum_cons, filter_cons, hsdu, Bool.not_true, Bool.false_eq_true,
        ↓reduceIte, countP_cons]
      omega
    | false =>
      have hheader := headerSize_of_ce hsdu
      have hsize : item.payload.length ≤ 3 := by
        rw [← hitem.ce hsdu]
        exact sizeofCe_le rfl
      simp only [map_cons, sum_cons, filter_cons, hsdu, Bool.not_false, Bool.false_eq_true,
        ↓reduceIte, countP_cons]
      omega

theorem length_body (items : List SchItem) : (body items).length = items.length := by
  rw [body, length_append, ← countP_eq_length_filter, ← countP_eq_length_filter,
    Nat.add_comm]
  have h := length_eq_countP_add_countP SchItem.isSdu (l := items)
  simpa using h.symm

theorem length_layout_le (rem : Nat) (items : List SchItem)
    : (layout rem items).length ≤ items.length + 2 := by
  unfold layout
  split
  . simp [length_body]
  . simp [length_body]
    omega

theorem headerBytes_layout_le (rem : Nat) (items : List SchItem)
    : headerBytes (layout rem items) ≤ (items.map headerSize).sum + 3 := by
  have hbody : ((body items).map headerSize).sum = (items.map headerSize).sum := by
    rw [body, map_append, sum_append, Lists.sum_filter_add_sum_filter_not]
  unfold headerBytes layout
  split
  . rw [dropLast_concat, hbody]
    omega
  . have hle : ∀ l : List SchItem, (l.dropLast.map headerSize).sum ≤ (l.map headerSize).sum := by
      intro l
      cases eq_nil_or_concat l with
      | inl hnil => simp [hnil]
      | inr hconcat =>
        obtain ⟨before, last, heq⟩ := hconcat
        rw [heq, concat_eq_append, dropLast_concat, map_append, sum_append]
        exact Nat.le_add_right _ _
    have hone : (padding 0).headerSize = 1 := rfl
    have hfront := hle (List.replicate rem (padding 0) ++ body items)
    rw [map_append, sum_append, map_replicate, sum_replicate_nat, hone, hbody] at hfront
    omega

theorem filter_isSdu_layout (rem : Nat) (items : List SchItem)
    : (layout rem items).filter SchItem.isSdu = items.filter SchItem.isSdu := by
  have hpadding : ∀ n, (padding n).isSdu = false := fun _ => rfl
  have hbody : (body items).filter SchItem.isSdu = items.filter SchItem.isSdu := by
    have hnil : (items.filter fun item => !item.isSdu).filter SchItem.isSdu = [] := by
      rw [filter_filter, filter_eq_nil_iff]
      intro item _
      simp
    rw [body, filter_append, hnil, nil_append, filter_filter]
    simp
  unfold layout
  split
  . rw [filter_append, hbody, filter_cons_of_neg (by rw [hpadding]; decide)]
    simp
  . rw [filter_append, hbody, filter_replicate, hpadding]
    simp

theorem isBsr_layout_iff (rem : Nat) (items : List SchItem)
    : (∃ item ∈ layout rem items, item.isBsr = true) ↔ ∃ item ∈ items, item.isBsr = true := by
  constructor
  . rintro ⟨item, hitem, hbsr⟩
    cases SchPdu.mem_layout hitem with
    | inl hmem => exact ⟨item, hmem, hbsr⟩
    | inr hpadding =>
      have ⟨n, heq⟩ := hpadding
      have hno : (padding n).isBsr = false := rfl
      rw [heq, hno] at hbsr
      contradiction
  . rintro ⟨item, hitem, hbsr⟩
    have hmem : item ∈ body items := by
      cases hsdu : item.isSdu with
      | true => simp [body, hitem, hsdu]
      | false => simp [body, hitem, hsdu]
    refine ⟨item, ?_, hbsr⟩
    unfold layout
    split
    . exact mem_append_left _ hmem
    . exact mem_append_right _ hmem

theorem Entry.lcid_lt (h : Entry item) : item.lcid < 32 := by
  cases hsdu : item.isSdu with
  | true => exact Nat.lt_trans (h.sdu hsdu).1 (by decide)
  | false =>
    -- there is no control element above the padding
    apply Nat.lt_of_not_le
    intro hle
    have hpos := length_pos_iff.mpr h.ne
    have hzero : item.subh.sizeofCe true = 0 :=
      SchSubh.sizeofCe_of_ge rfl (Nat.le_trans (by decide) hle) true
    rw [h.ce hsdu] at hzero
    omega

theorem Entry.ok (h : Entry item) : item.Ok true := by
  exact {
    lcid := h.lcid_lt
    ce := fun hce => h.ce hce
    sdu := fun hsdu => (h.sdu hsdu).2
  }

def Carries (pduSz : Nat) (ret : Option (List UInt8)) (received : List (Nat × List UInt8)) (bsr : Bool)
    : Prop :=
  ∃ pdu subheaders entries, ret = some pdu
    ∧ pdu.length = pduSz
    ∧ (SchPdu.init maxNofSubheaders pduSz true).parsePacket pdu = some subheaders
    ∧ List.Forall₂ (Decodes pdu) subheaders entries
    ∧ (∀ item ∈ entries, item.lcid = SchSubh.padding ∨ Entry item)
    ∧ (entries.filter SchItem.isSdu).map (fun item => (item.lcid, item.payload)) = received
    ∧ ((∃ item ∈ entries, item.isBsr = true) ↔ bsr = true)

theorem Filled.carries {pduSz : Nat} {a : Assembly σ} {bsr : Bool}
    (h : Filled pduSz a items) (hsmall : Small 3 items bsr) (hne : items ≠ [])
    : Carries pduSz a.pdu.writePacket a.received bsr := by
  have hsplit := (dropLast_append_getLast hne).symm
  have hlast := h.entry (items.getLast hne) (getLast_mem hne)
  have hsdus := hsmall.sdus_le h.entry
  have hces := hsmall.ces
  have hlength : items.length = items.countP SchItem.isSdu + items.countP (fun item => !item.isSdu) := by
    simpa using length_eq_countP_add_countP SchItem.isSdu (l := items)
  have hcount : (layout a.pdu.remLen items).length < maxNofSubheaders := by
    have hle := length_layout_le a.pdu.remLen items
    unfold nRadioBearers at hsdus
    unfold maxNofSubheaders
    omega
  have hroom : headerBytes (layout a.pdu.remLen items) + ceBytes items < maxNofSubheaders * 2 + 13 := by
    have hheader := headerBytes_layout_le a.pdu.remLen items
    have hle := headers_le h.entry
    unfold nRadioBearers at hsdus
    unfold maxNofSubheaders
    omega
  have hok : ∀ x ∈ (layout a.pdu.remLen items).dropLast, x.Ok true := by
    intro x hx
    cases SchPdu.mem_dropLast_layout hx with
    | inl hmem => exact (h.entry x hmem).ok
    | inr heq =>
      rw [heq]
      exact { lcid := by decide, ce := fun _ => rfl, sdu := fun _ => by decide }
  have hlcid : ∀ x ∈ layout a.pdu.remLen items, x.lcid < 32 := by
    intro x hx
    cases SchPdu.mem_layout hx with
    | inl hmem => exact (h.entry x hmem).lcid_lt
    | inr hpadding =>
      have ⟨n, heq⟩ := hpadding
      rw [heq]
      exact (by decide : SchSubh.padding < 32)
  have hholds := h.holds
  rw [hsplit] at hholds hroom hcount hok hlcid
  have ⟨pdu, subheaders, hwrite, hlen, hparse, hdecodes⟩ :=
    hholds.parsePacket_eq hlast.ne hroom hcount hok hlcid
  rw [← hsplit] at hdecodes
  refine ⟨pdu, subheaders, _, hwrite, hlen, hparse, hdecodes, ?_, ?_, ?_⟩
  . intro item hitem
    cases SchPdu.mem_layout hitem with
    | inl hmem => exact .inr (h.entry item hmem)
    | inr hpadding =>
      have ⟨n, heq⟩ := hpadding
      exact .inl (by rw [heq]; rfl)
  . rw [filter_isSdu_layout, h.sdus]
  . rw [isBsr_layout_iff, hsmall.bsr_iff]

end Mux

end SrsLte

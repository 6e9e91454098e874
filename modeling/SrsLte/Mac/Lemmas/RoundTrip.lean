import SrsLte.Mac.Lemmas.Compose

/-!
This module contains the round trip of SCH PDUs.
-/

namespace SrsLte

open List

inductive SchOp where
  | sdu (lcid : Nat) (payload : List UInt8)
  | sduItf (lcid requestedBytes : Nat) (payload : List UInt8)
  | bsr (buffSize : Fin 4 → Nat) (format : Nat)
  | phr (value : ℚ)
  | cRnti (value : Nat)
  | conResId (value : Nat)
  | taCmd (value : Nat)

namespace SchOp

def set (op : SchOp) (p : SchPdu) : SchPdu × Bool :=
  match op with
  | .sdu lcid payload => ((p.setSdu lcid payload).1, (p.setSdu lcid payload).2 ≥ 0)
  | .sduItf lcid requestedBytes payload =>
    ((p.setSduItf lcid requestedBytes (some payload)).1, (p.setSduItf lcid requestedBytes (some payload)).2 > 0)
  | .bsr buffSize format => p.setBsr buffSize format
  | .phr value => p.setPhr value
  | .cRnti value => p.setCRnti value
  | .conResId value => p.setConResId value
  | .taCmd value => p.setTaCmd value

def isSdu (op : SchOp) : Bool :=
  match op with
  | .sdu .. => true
  | .sduItf .. => true
  | _ => false

def item (op : SchOp) : SchItem :=
  match op with
  | .sdu lcid payload => { lcid, payload }
  | .sduItf lcid _ payload => { lcid, payload }
  | .bsr buffSize format => { lcid := format, payload := SchSubh.bsrPayload buffSize format }
  | .phr value =>
    { lcid := SchSubh.phrReport, payload := [UInt8.ofNat (SchSubh.phrReportTable value &&& 0x3f)] }
  | .cRnti value =>
    {
      lcid := SchSubh.crnti
      payload := [UInt8.ofNat ((value &&& 0xff00) >>> 8), UInt8.ofNat (value &&& 0x00ff)]
    }
  | .conResId value =>
    {
      lcid := SchSubh.conResId
      payload :=
        [
          UInt8.ofNat ((value &&& 0xff0000000000) >>> 40),
          UInt8.ofNat ((value &&& 0x00ff00000000) >>> 32),
          UInt8.ofNat ((value &&& 0x0000ff000000) >>> 24),
          UInt8.ofNat ((value &&& 0x000000ff0000) >>> 16),
          UInt8.ofNat ((value &&& 0x00000000ff00) >>> 8),
          UInt8.ofNat (value &&& 0x0000000000ff)
        ]
    }
  | .taCmd value => { lcid := SchSubh.taCmd, payload := [UInt8.ofNat (value &&& 0x3f)] }

def Native (isUl : Bool) (op : SchOp) : Prop :=
  op.item.isSdu = op.isSdu ∧ (op.isSdu = false → op.item.subh.sizeofCe isUl = op.item.payload.length)

instance (isUl : Bool) (op : SchOp) : Decidable (op.Native isUl) :=
  inferInstanceAs (Decidable (_ ∧ _))

end SchOp

namespace SchPdu

open SchItem

def add (p : SchPdu) (op : SchOp) : Option SchPdu :=
  match p.newSubh with
  | none => none
  | some q => if (op.set q).2 then some (op.set q).1 else none

def addAll (p : SchPdu) (ops : List SchOp) : Option SchPdu :=
  match ops with
  | [] => some p
  | op :: ops =>
    match p.add op with
    | none => none
    | some q => q.addAll ops

variable {isUl : Bool} {items : List SchItem} {max pduLen : Nat} {ops : List SchOp} {op : SchOp} {item : SchItem}

theorem set_of_ce (h : op.isSdu = false) (p : SchPdu)
    : op.set p = p.setCe op.item.lcid op.item.payload := by
  cases op with
  | sdu lcid payload => contradiction
  | sduItf lcid requestedBytes payload => contradiction
  | bsr buffSize format => rfl
  | phr value => rfl
  | cRnti value => rfl
  | conResId value => rfl
  | taCmd value => rfl

theorem payload_ne_nil_of_ce (h : op.isSdu = false) : op.item.payload ≠ [] := by
  cases op with
  | sdu lcid payload => contradiction
  | sduItf lcid requestedBytes payload => contradiction
  | bsr buffSize format =>
    simp only [SchOp.item, SchSubh.bsrPayload]
    split
    . simp
    . simp
  | phr value => simp [SchOp.item]
  | cRnti value => simp [SchOp.item]
  | conResId value => simp [SchOp.item]
  | taCmd value => simp [SchOp.item]

namespace Holds

variable {max pduLen : Nat} {isUl : Bool} {p : SchPdu} {items : List SchItem}

theorem add {q : SchPdu} {op : SchOp} (h : Holds max pduLen isUl p items) (hop : op.Native isUl)
    (hadd : p.add op = some q)
    : Holds max pduLen isUl q (items ++ [op.item]) := by
  unfold SchPdu.add at hadd
  cases hnew : p.newSubh with
  | none => simp [hnew] at hadd
  | some r =>
    simp only [hnew, Option.ite_none_right_eq_some, Option.some.injEq] at hadd
    have ⟨hset, hq⟩ := hadd
    cases hsdu : op.isSdu with
    | false =>
      rw [set_of_ce hsdu] at hset hq
      have hce := hop.1
      rw [hsdu] at hce
      exact h.addCe hnew (Prod.ext hq hset) hce (hop.2 hsdu)
    | true =>
      have hitem := hop.1
      rw [hsdu] at hitem
      subst hq
      cases op with
      | sdu lcid payload => exact h.addSdu hnew (by simpa [SchOp.set] using hset) hitem
      | sduItf lcid requestedBytes payload => exact h.addSduItf hnew (by simpa [SchOp.set] using hset) hitem
      | _ => contradiction

theorem addAll {q : SchPdu} {ops : List SchOp} (h : Holds max pduLen isUl p items)
    (hops : ∀ op ∈ ops, op.Native isUl) (hadd : p.addAll ops = some q)
    : Holds max pduLen isUl q (items ++ ops.map SchOp.item) := by
  induction ops generalizing p items with
  | nil =>
    rw [SchPdu.addAll, Option.some.injEq] at hadd
    simpa [hadd] using h
  | cons op ops ih =>
    rw [SchPdu.addAll] at hadd
    split at hadd
    . contradiction
    next r hr =>
      have hnext := h.add (hops op mem_cons_self) hr
      have hall := ih hnext (fun op' hop' => hops op' (mem_cons_of_mem op hop')) hadd
      simpa using hall

end Holds

theorem lcid_lt (h : op.Native isUl) : op.item.lcid < 32 := by
  cases hsdu : op.isSdu with
  | true =>
    have hitem := h.1
    rw [hsdu] at hitem
    have hlt : op.item.lcid < SchSubh.phrReport := by
      simpa [SchItem.isSdu] using hitem
    unfold SchSubh.phrReport at hlt
    omega
  | false =>
    -- a control element that the direction does not have has size 0
    have hsize := h.2 hsdu
    have hpos : 0 < op.item.payload.length := length_pos_iff.mpr (payload_ne_nil_of_ce hsdu)
    apply Classical.byContradiction
    intro hge
    have hpadding : SchSubh.padding ≤ op.item.lcid := by
      unfold SchSubh.padding
      omega
    have hzero : op.item.subh.sizeofCe isUl = 0 := SchSubh.sizeofCe_of_ge rfl hpadding isUl
    omega

theorem mem_of_mem_body (h : item ∈ body items)
    : item ∈ items := by
  simp only [body, mem_append, mem_filter] at h
  cases h with
  | inl h => exact h.1
  | inr h => exact h.1

theorem mem_layout {rem : Nat} (h : item ∈ layout rem items)
    : item ∈ items ∨ ∃ n, item = SchItem.padding n := by
  unfold layout at h
  split at h
  . cases mem_append.mp h with
    | inl h => exact .inl (mem_of_mem_body h)
    | inr h => exact .inr ⟨_, mem_singleton.mp h⟩
  . cases mem_append.mp h with
    | inl h => exact .inr ⟨0, eq_of_mem_replicate h⟩
    | inr h => exact .inl (mem_of_mem_body h)

theorem mem_dropLast_layout {rem : Nat} (h : item ∈ (layout rem items).dropLast)
    : item ∈ items ∨ item = SchItem.padding 0 := by
  unfold layout at h
  split at h
  . rw [dropLast_concat] at h
    exact .inl (mem_of_mem_body h)
  . cases mem_append.mp ((dropLast_sublist _).subset h) with
    | inl h => exact .inr (eq_of_mem_replicate h)
    | inr h => exact .inl (mem_of_mem_body h)

def ReadsBack (max pduLen : Nat) (isUl : Bool) (p : SchPdu) (front items : List SchItem) : Prop :=
  ∃ pdu subheaders back, p.writePacket = some pdu
    ∧ pdu.length = pduLen
    ∧ (init max pduLen isUl).parsePacket pdu = some subheaders
    ∧ (∀ item ∈ back, item.lcid = SchSubh.padding)
    ∧ List.Forall₂ (Decodes pdu) subheaders (front ++ body items ++ back)

/--
What has to be true of the items for a PDU to be read back: there is one and the last one is not
empty, the parser does not run out of subheaders, the bytes in front of the SDUs fit into the space
that is reserved for them, and the lengths fit into the length fields.
-/
structure Composable (max pduLen : Nat) (isUl : Bool) (ops : List SchOp) : Prop where
  native : ∀ op ∈ ops, op.Native isUl
  last : ∃ before op, ops = before ++ [op] ∧ op.item.payload ≠ []
  count : (layout (room pduLen (ops.map SchOp.item)) (ops.map SchOp.item)).length < max
  header : headerBytes (layout (room pduLen (ops.map SchOp.item)) (ops.map SchOp.item))
    + ceBytes (ops.map SchOp.item) < max * 2 + 13
  short : ∀ item ∈ (layout (room pduLen (ops.map SchOp.item)) (ops.map SchOp.item)).dropLast,
    item.payload.length < 2 ^ 15

theorem Composable.ok (h : Composable max pduLen isUl ops)
    : ∀ item ∈ (layout (room pduLen (ops.map SchOp.item)) (ops.map SchOp.item)).dropLast,
        item.Ok isUl := by
  intro item hitem
  cases mem_dropLast_layout hitem with
  | inl hmem =>
    have ⟨op, hop, heq⟩ := mem_map.mp hmem
    have hnative := h.native op hop
    subst heq
    exact {
      lcid := lcid_lt hnative
      ce := fun hce => hnative.2 (by rw [← hnative.1]; exact hce)
      sdu := fun _ => h.short _ hitem
    }
  | inr heq =>
    subst heq
    exact { lcid := by decide, ce := fun _ => by cases isUl <;> rfl, sdu := fun _ => by decide }

theorem Composable.lcid (h : Composable max pduLen isUl ops)
    : ∀ item ∈ layout (room pduLen (ops.map SchOp.item)) (ops.map SchOp.item), item.lcid < 32 := by
  intro item hitem
  cases mem_layout hitem with
  | inl hmem =>
    have ⟨op, hop, heq⟩ := mem_map.mp hmem
    rw [← heq]
    exact lcid_lt (h.native op hop)
  | inr hpadding =>
    have ⟨n, heq⟩ := hpadding
    rw [heq]
    exact (by decide : SchSubh.padding < 32)

theorem readsBack_of_addAll {max pduLen : Nat} {isUl : Bool} {ops : List SchOp} {p : SchPdu}
    (hadd : (init max pduLen isUl).addAll ops = some p) (hops : Composable max pduLen isUl ops)
    : ∃ n ≤ 2, ReadsBack max pduLen isUl p (List.replicate n (SchItem.padding 0)) (ops.map SchOp.item) := by
  have hholds := (holds_init max pduLen isUl).addAll hops.native hadd
  rw [nil_append] at hholds
  have hrem := hholds.remLen_eq
  have hcount := hops.count
  have hheader := hops.header
  have hok := hops.ok
  have hlcid := hops.lcid
  have ⟨before, op, hlast, hpayload⟩ := hops.last
  have hitems : ops.map SchOp.item = before.map SchOp.item ++ [op.item] := by
    simp [hlast]
  rw [← hrem] at hcount hheader hok hlcid
  rw [hitems] at hholds hcount hheader hok hlcid ⊢
  have ⟨pdu, subheaders, hwrite, hlen, hparse, hdecodes⟩ :=
    hholds.parsePacket_eq hpayload hheader hcount hok hlcid
  unfold layout at hdecodes
  split at hdecodes
  . exact ⟨0, by decide, pdu, subheaders, [_], hwrite, hlen, hparse,
      fun item hitem => by rw [mem_singleton.mp hitem]; rfl, hdecodes⟩
  . exact ⟨p.remLen, by omega, pdu, subheaders, [], hwrite, hlen, hparse,
      fun item hitem => absurd hitem not_mem_nil, by rw [append_nil]; exact hdecodes⟩

theorem readsBack_sdus_and_ces
    : ∃ p, (init 20 30 true).addAll
          [.sdu 3 [1, 2], .cRnti 70, .bsr (fun _ => 12) 30, .sduItf 4 9 [3, 4, 5]] = some p
        ∧ ∃ n ≤ 2, ReadsBack 20 30 true p (List.replicate n (SchItem.padding 0))
          ([.sdu 3 [1, 2], .cRnti 70, .bsr (fun _ => 12) 30, .sduItf 4 9 [3, 4, 5]].map SchOp.item) :=
  ⟨_, rfl, readsBack_of_addAll rfl
    {
      native := by decide
      last := ⟨[.sdu 3 [1, 2], .cRnti 70, .bsr (fun _ => 12) 30], _, rfl, by decide⟩
      count := by decide
      header := by decide
      short := by decide
    }⟩

def Fails (max pduLen : Nat) (isUl : Bool) (ops : List SchOp) : Prop :=
  ∃ p, (init max pduLen isUl).addAll ops = some p
    ∧ ¬ ReadsBack max pduLen isUl p [] (ops.map SchOp.item)

theorem fails_of_null (h : ((init max pduLen isUl).addAll ops).map writePacket = some none)
    : Fails max pduLen isUl ops := by
  rw [Option.map_eq_some_iff] at h
  have ⟨p, hp, hwrite⟩ := h
  refine ⟨p, hp, ?_⟩
  rintro ⟨pdu, _, _, hpdu, _⟩
  rw [hwrite] at hpdu
  contradiction

def found (max pduLen : Nat) (isUl : Bool) (p : SchPdu) : Option (List (Nat × Nat)) :=
  match p.writePacket with
  | none => none
  | some pdu => ((init max pduLen isUl).parsePacket pdu).map fun subheaders =>
    subheaders.map fun s => (s.lcid, s.nofBytes)

theorem map_of_decodes {pdu : List UInt8} {subheaders : List SchSubh} (h : List.Forall₂ (Decodes pdu) subheaders items)
    : subheaders.map (fun s => (s.lcid, s.nofBytes))
        =
      items.map fun item => (item.lcid, item.payload.length) := by
  induction h with
  | nil => rfl
  | cons hs _ ih => simp [hs.lcid, hs.size, ih]

theorem found_of_readsBack {p : SchPdu} (h : ReadsBack max pduLen isUl p [] items)
    : ∃ back, found max pduLen isUl p
        = some ((body items).map (fun item => (item.lcid, item.payload.length)) ++ back) := by
  have ⟨pdu, subheaders, back, hwrite, _, hparse, _, hdecodes⟩ := h
  refine ⟨back.map fun item => (item.lcid, item.payload.length), ?_⟩
  unfold found
  simp only [hwrite, hparse, Option.map_some, map_of_decodes hdecodes, nil_append, map_append]

theorem fails_of_found {entries : List (Nat × Nat)}
    (h : ((init max pduLen isUl).addAll ops).map (found max pduLen isUl) = some (some entries))
    (hne : ¬ (body (ops.map SchOp.item)).map (fun item => (item.lcid, item.payload.length)) <+: entries)
    : Fails max pduLen isUl ops := by
  rw [Option.map_eq_some_iff] at h
  have ⟨p, hp, hfound⟩ := h
  refine ⟨p, hp, ?_⟩
  intro hreads
  have ⟨back, hback⟩ := found_of_readsBack hreads
  rw [hfound, Option.some.injEq] at hback
  exact hne ⟨back, hback.symm⟩

theorem not_readsBack
    : Fails 20 10 true []
        ∧ Fails 20 10 false [.cRnti 70]
        ∧ Fails 20 10 true [.sdu 29 [1, 2]]
        ∧ Fails 20 10 true [.sdu 3 [1], .sdu 4 []]
        ∧ Fails 20 3 true [.sdu 3 [1]]
        ∧ Fails 3 10 true [.sdu 3 [1], .sdu 4 [2]]
        ∧ Fails 4 30 false [.conResId 1, .conResId 2, .conResId 3]
        ∧ Fails 20 32773 true [.sdu 3 (List.replicate 32768 0), .sdu 4 [1]] := by
  exact ⟨fails_of_null (by decide), fails_of_null (by decide), fails_of_null (by decide),
    fails_of_null (by decide), fails_of_found (by rfl) (by decide), fails_of_found (by rfl) (by decide),
    fails_of_null (by decide),
    @fails_of_found _ _ _ _ [(3, 0), (4, 32770)] (by decide +kernel) (by decide +kernel)⟩

end SchPdu

end SrsLte

import Mathlib.Order.Interval.Finset.Nat
import SrsLte.Data.Trace
import SrsLte.Enb.Impl.Rrc

/-!
This module contains the verification of the identity maps of `rrc.cc`.
-/

namespace SrsLte

open List Finmap

namespace Rrc

variable {rrc : Rrc} {rnti : Nat} {head : RrcReceiveHead}

theorem freeRnti_eq_some (h : rrc.freeRnti = some rnti)
    : rnti ∉ rrc.rntiMap ∧ rnti ∈ Finset.Icc 1 65534 := by
  have hmem := mem_of_find?_eq_some h
  have hfree := find?_some h
  rw [mem_range'_1] at hmem
  rw [Finset.mem_Icc]
  exact ⟨of_decide_eq_true hfree, by omega⟩

theorem mem_of_freeRnti_eq_none (h : rrc.freeRnti = none) (hrnti : rnti ∈ Finset.Icc 1 65534)
    : rnti ∈ rrc.rntiMap := by
  have hused := find?_eq_none.mp h rnti
  rw [Finset.mem_Icc] at hrnti
  rw [mem_range'_1] at hused
  simpa using hused (by omega)

theorem receiveUplink_cases (rrc : Rrc) (head : RrcReceiveHead)
    : ((rrc.receiveUplink head).1 = rrc
          ∧ (∀ rnti cause, (rrc.receiveUplink head).2 ≠ some (.s1apInitialUe rnti cause))
          ∧ (head.type = srsenbRrcAttach → rrc.freeRnti = none))
        ∨
      (head.type = srsenbRrcAttach
          ∧ ∃ rnti, rrc.freeRnti = some rnti
            ∧ rrc.receiveUplink head
                =
              ({ rrc with
                  rntiMap := rrc.rntiMap.insert rnti head.id
                  ueidMap := rrc.ueidMap.insert head.id rnti
                  addrMap := rrc.addrMap.insert rnti ⟨head.port, head.ip⟩ },
                some (.s1apInitialUe rnti head.cause))) := by
  have hcall : ∀ (call : Option Nat) (f : Nat → UplinkCall), (∀ rnti rnti' cause, f rnti ≠ .s1apInitialUe rnti' cause) →
      ∀ rnti cause, call.map f ≠ some (.s1apInitialUe rnti cause) := by
    intro call f hf rnti cause heq
    have ⟨rnti', _, heq'⟩ := Option.map_eq_some_iff.mp heq
    exact hf rnti' rnti cause heq'
  unfold receiveUplink
  split
  . next hnormal =>
    refine .inl ⟨rfl, hcall _ _ ?_, ?_⟩
    . intro rnti rnti' cause
      split <;> nofun
    . rw [hnormal]
      nofun
  . split
    . next hattach =>
      unfold handleAttach
      split
      . next hnone => exact .inl ⟨rfl, nofun, fun _ => hnone⟩
      . next rnti hsome => exact .inr ⟨hattach, rnti, hsome, rfl⟩
    . next hattach =>
      split
      . exact .inl ⟨rfl, hcall _ _ nofun, fun h => absurd h hattach⟩
      . exact .inl ⟨rfl, nofun, fun h => absurd h hattach⟩

theorem receiveUplink_pduQueue (rrc : Rrc) (head : RrcReceiveHead)
    : (rrc.receiveUplink head).1.pduQueue = rrc.pduQueue := by
  cases rrc.receiveUplink_cases head with
  | inl hsame => rw [hsame.1]
  | inr hattach =>
    have ⟨_, rnti, _, heq⟩ := hattach
    rw [heq]

theorem receiveUplink_eq_gtpu_iff {lcid : Nat}
    : (rrc.receiveUplink head).2 = some (.gtpuWritePdu rnti lcid)
        ↔
      rrc.ueidMap.lookup head.id = some rnti
        ∧ (head.type = srsenbRrcData ∨ (head.type = srsenbRrcNormal ∧ ¬head.lcid < 3))
        ∧ head.lcid.toNat = lcid := by
  unfold receiveUplink
  split
  . next hnormal =>
    simp only [handleNormal, Option.map_eq_some_iff, hnormal]
    split
    . next hlt => simp [hlt, srsenbRrcData, srsenbRrcNormal]
    . next hlt => simp [hlt]
  . next hnormal =>
    split
    . next hattach =>
      unfold handleAttach
      split <;> simp [hattach, srsenbRrcAttach, srsenbRrcData, srsenbRrcNormal]
    . split
      . next hdata => simp [handleData, hdata]
      . next hdata => simp [hnormal, hdata]

theorem lookup_of_receiveUplink_eq_s1ap (h : (rrc.receiveUplink head).2 = some (.s1apWritePdu rnti))
    : rrc.ueidMap.lookup head.id = some rnti := by
  unfold receiveUplink at h
  split at h
  . simp only [handleNormal, Option.map_eq_some_iff] at h
    have ⟨rnti', hid, hcall⟩ := h
    split at hcall <;> cases hcall
    exact hid
  . split at h
    . unfold handleAttach at h
      split at h <;> cases h
    . split at h
      . simp [handleData] at h
      . cases h

theorem sendDownlink_pduQueue {rrc' : Rrc} {pdu : RrcPdu} {call : Option DownlinkCall}
    (h : rrc.sendDownlink = (rrc', some pdu, call))
    : rrc.pduQueue = pdu :: rrc'.pduQueue := by
  have hsend : ∀ (rrc : Rrc) pdu type, (rrc.sendPdu pdu type).1.pduQueue = rrc.pduQueue := by
    intro rrc pdu type
    unfold sendPdu
    split <;> rfl
  unfold sendDownlink at h
  split at h
  . cases h
  . next pdu' pdus hqueue =>
    have hentry : ({ rrc with pduQueue := pdus }.sendEntry pdu').1.pduQueue = pdus := by
      unfold sendEntry
      split
      . exact hsend _ _ _
      . split
        . rfl
        . split
          . rfl
          . split
            . exact hsend _ _ _
            . rfl
    rw [Prod.mk.injEq, Prod.mk.injEq, Option.some.injEq] at h
    rw [hqueue, ← h.1, ← h.2.1, hentry]

theorem sendDownlink_maps (haddr : rrc.addrMap.keys = rrc.rntiMap.keys)
    : rrc.sendDownlink.1.rntiMap = rrc.rntiMap
        ∧ rrc.sendDownlink.1.ueidMap = rrc.ueidMap
        ∧ rrc.sendDownlink.1.addrMap.keys = rrc.addrMap.keys := by
  have hsend : ∀ pdus pdu type,
      ({ rrc with pduQueue := pdus }.sendPdu pdu type).1.rntiMap = rrc.rntiMap
        ∧ ({ rrc with pduQueue := pdus }.sendPdu pdu type).1.ueidMap = rrc.ueidMap
        ∧ ({ rrc with pduQueue := pdus }.sendPdu pdu type).1.addrMap.keys = rrc.addrMap.keys := by
    intro pdus pdu type
    unfold sendPdu
    split
    . exact ⟨rfl, rfl, rfl⟩
    . next id hid =>
      have hmem : pdu.rnti ∈ rrc.addrMap := by
        rw [← Finmap.mem_keys, haddr, Finmap.mem_keys]
        exact mem_of_lookup_eq_some hid
      refine ⟨rfl, rfl, ?_⟩
      dsimp only
      rw [Map.insertNew, if_pos hmem]
  unfold sendDownlink
  split
  . exact ⟨rfl, rfl, rfl⟩
  . next pdu pdus _ =>
    dsimp only [sendEntry]
    split
    . exact hsend pdus pdu _
    . split
      . exact ⟨rfl, rfl, rfl⟩
      . split
        . exact ⟨rfl, rfl, rfl⟩
        . split
          . exact hsend pdus pdu _
          . exact ⟨rfl, rfl, rfl⟩

theorem setupUe_maps (rrc : Rrc) (rnti : Nat) (sdus : List (Option Nat))
    : (rrc.setupUe rnti sdus).rntiMap = rrc.rntiMap
        ∧ (rrc.setupUe rnti sdus).ueidMap = rrc.ueidMap
        ∧ (rrc.setupUe rnti sdus).addrMap = rrc.addrMap := by
  unfold setupUe
  split
  . induction sdus generalizing rrc with
    | nil => exact ⟨rfl, rfl, rfl⟩
    | cons sdu sdus ih =>
      rw [foldl_cons]
      split
      . exact ih (rrc.writeDlInfo rnti sdu) ‹_›
      . exact ih rrc ‹_›
  . exact ⟨rfl, rfl, rfl⟩

end Rrc

inductive RrcEvent where
  | receiveUplink (head : RrcReceiveHead)
  | writeDlInfo (rnti : Nat) (sdu : Option Nat)
  | releaseComplete (rnti : Nat)
  | setupUe (rnti : Nat) (sdus : List (Option Nat))
  | releaseErabs (rnti : Nat)
  | writeSdu (rnti lcid : Nat) (pdu : Option Nat)
  | sendDownlink

/--
The RRC layer with its history: the RNTIs of the UEs that are attached, and those for which
`release_complete` was called and that were not given out again since.
-/
structure RrcHistory where
  rrc : Rrc
  attached : Finset Nat
  released : Finset Nat

namespace RrcHistory

def init : RrcHistory where
  rrc := .init
  attached := ∅
  released := ∅

def step (s : RrcHistory) (event : RrcEvent) : RrcHistory :=
  match event with
  | .receiveUplink head =>
    let (rrc, call) := s.rrc.receiveUplink head
    match call with
    | some (.s1apInitialUe rnti _) =>
      { rrc, attached := insert rnti s.attached, released := s.released.erase rnti }
    | _ => { s with rrc }
  | .writeDlInfo rnti sdu => { s with rrc := s.rrc.writeDlInfo rnti sdu }
  | .releaseComplete rnti =>
    {
      rrc := s.rrc.releaseComplete rnti
      attached := s.attached.erase rnti
      released := insert rnti s.released
    }
  | .setupUe rnti sdus => { s with rrc := s.rrc.setupUe rnti sdus }
  | .releaseErabs rnti => { s with rrc := s.rrc.releaseErabs rnti }
  | .writeSdu rnti lcid pdu => { s with rrc := s.rrc.writeSdu rnti lcid pdu }
  | .sendDownlink => { s with rrc := s.rrc.sendDownlink.1 }

structure Consistent (s : RrcHistory) : Prop where
  inverse : ∀ rnti id, s.rrc.rntiMap.lookup rnti = some id ↔ s.rrc.ueidMap.lookup id = some rnti
  mem_addrMap : ∀ rnti, rnti ∈ s.rrc.addrMap ↔ rnti ∈ s.rrc.rntiMap
  released : s.rrc.pduQueue = [] → ∀ rnti ∈ s.released,
    rnti ∉ s.rrc.rntiMap ∧ rnti ∉ s.rrc.addrMap ∧ ∀ id, s.rrc.ueidMap.lookup id ≠ some rnti

def RefusesOnlyFull (s : RrcHistory) (event : RrcEvent) : Prop :=
  match event with
  | .receiveUplink head =>
    head.type = srsenbRrcAttach → (s.rrc.receiveUplink head).2 = none → s.attached.card = 65534
  | _ => True

def EventOk (s : RrcHistory) (event : RrcEvent) : Prop :=
  match event with
  | .receiveUplink head =>
    head.type = srsenbRrcAttach → s.rrc.freeRnti.isSome → head.id ∉ s.rrc.ueidMap
  | .releaseComplete rnti => rnti ∉ s.rrc.rntiMap
  | _ => True

structure Inv (s : RrcHistory) : Prop where
  inverse : ∀ rnti id, s.rrc.rntiMap.lookup rnti = some id ↔ s.rrc.ueidMap.lookup id = some rnti
  addrMap : s.rrc.addrMap.keys = s.rrc.rntiMap.keys
  attached : s.rrc.rntiMap.keys = s.attached
  range : s.attached ⊆ Finset.Icc 1 65534
  released : Disjoint s.released s.attached

theorem inv_init : init.Inv := by
  constructor <;> simp [init, Rrc.init]

variable {s : RrcHistory}

theorem Inv.consistent (h : s.Inv) : s.Consistent where
  inverse := h.inverse
  mem_addrMap := by
    intro rnti
    rw [← Finmap.mem_keys, h.addrMap, Finmap.mem_keys]
  released := by
    intro _ rnti hreleased
    have hmem : rnti ∉ s.rrc.rntiMap := by
      rw [← Finmap.mem_keys, h.attached]
      exact Finset.disjoint_left.mp h.released hreleased
    refine ⟨hmem, ?_, ?_⟩
    . rw [← Finmap.mem_keys, h.addrMap, Finmap.mem_keys]
      exact hmem
    . intro id hid
      exact hmem (mem_of_lookup_eq_some ((h.inverse rnti id).mpr hid))

theorem Inv.of_maps {s' : RrcHistory} (h : s.Inv) (hrnti : s'.rrc.rntiMap = s.rrc.rntiMap)
    (hueid : s'.rrc.ueidMap = s.rrc.ueidMap) (haddr : s'.rrc.addrMap.keys = s.rrc.addrMap.keys)
    (hattached : s'.attached = s.attached) (hreleased : Disjoint s'.released s.attached)
    : s'.Inv where
  inverse := by
    rw [hrnti, hueid]
    exact h.inverse
  addrMap := by
    rw [haddr, hrnti]
    exact h.addrMap
  attached := by
    rw [hrnti, hattached]
    exact h.attached
  range := by
    rw [hattached]
    exact h.range
  released := by
    rw [hattached]
    exact hreleased

section Inv

variable {s : RrcHistory} (h : s.Inv)

include h

theorem Inv.attach {rnti : Nat} (hfree : s.rrc.freeRnti = some rnti) {id : UeId} (hid : id ∉ s.rrc.ueidMap)
    (addr : SockaddrIn)
    : Inv {
        rrc := { s.rrc with
          rntiMap := s.rrc.rntiMap.insert rnti id
          ueidMap := s.rrc.ueidMap.insert id rnti
          addrMap := s.rrc.addrMap.insert rnti addr
        }
        attached := insert rnti s.attached
        released := s.released.erase rnti
      } := by
  have ⟨hnew, hrange⟩ := Rrc.freeRnti_eq_some hfree
  have hrnti := lookup_eq_none.mpr hnew
  have hueid := lookup_eq_none.mpr hid
  constructor
  . intro rnti' id'
    dsimp only
    rw [Map.lookup_insert_ite, Map.lookup_insert_ite]
    split
    . next heq =>
      split
      . next heq' => simp [heq, heq']
      . next hne =>
        rw [← h.inverse, heq, hrnti]
        simp [Ne.symm hne]
    . next hne =>
      split
      . next heq' =>
        rw [h.inverse, heq', hueid]
        simp [Ne.symm hne]
      . exact h.inverse rnti' id'
  . dsimp only
    rw [Map.keys_insert, Map.keys_insert, h.addrMap]
  . dsimp only
    rw [Map.keys_insert, h.attached]
  . intro rnti' hmem
    cases Finset.mem_insert.mp hmem with
    | inl heq => exact heq ▸ hrange
    | inr hold => exact h.range hold
  . rw [Finset.disjoint_insert_right]
    exact ⟨Finset.notMem_erase rnti s.released, h.released.mono_left (Finset.erase_subset rnti s.released)⟩

theorem Inv.receiveUplink {head : RrcReceiveHead} (hok : s.EventOk (.receiveUplink head))
    : (s.step (.receiveUplink head)).Inv := by
  unfold step
  dsimp only
  cases s.rrc.receiveUplink_cases head with
  | inl hsame =>
    have ⟨hrrc, hcall, _⟩ := hsame
    split
    . next rnti cause heq => exact absurd heq (hcall rnti cause)
    . rw [hrrc]
      exact h
  | inr hattach =>
    have ⟨htype, rnti, hfree, heq⟩ := hattach
    have hid := hok htype (by rw [hfree]; rfl)
    rw [heq]
    exact h.attach hfree hid ⟨head.port, head.ip⟩

theorem Inv.step {event : RrcEvent} (hok : s.EventOk event) : (s.step event).Inv := by
  cases event with
  | receiveUplink head => exact h.receiveUplink hok
  | writeDlInfo rnti sdu => exact h.of_maps rfl rfl rfl rfl h.released
  | releaseComplete rnti =>
    have hnone : rnti ∉ s.attached := by
      rw [← h.attached, Finmap.mem_keys]
      exact hok
    have hrrc : s.rrc.releaseComplete rnti = s.rrc := if_neg hok
    apply h.of_maps
    . exact congrArg Rrc.rntiMap hrrc
    . exact congrArg Rrc.ueidMap hrrc
    . exact congrArg (fun rrc => rrc.addrMap.keys) hrrc
    . exact Finset.erase_eq_of_notMem hnone
    . exact Finset.disjoint_insert_left.mpr ⟨hnone, h.released⟩
  | setupUe rnti sdus =>
    have ⟨hrnti, hueid, haddr⟩ := s.rrc.setupUe_maps rnti sdus
    exact h.of_maps hrnti hueid (congrArg Finmap.keys haddr) rfl h.released
  | releaseErabs rnti => exact h.of_maps rfl rfl rfl rfl h.released
  | writeSdu rnti lcid pdu => exact h.of_maps rfl rfl rfl rfl h.released
  | sendDownlink =>
    have ⟨hrnti, hueid, haddr⟩ := Rrc.sendDownlink_maps h.addrMap
    exact h.of_maps hrnti hueid haddr rfl h.released

theorem Inv.refusesOnlyFull (event : RrcEvent) : s.RefusesOnlyFull event := by
  cases event with
  | receiveUplink head =>
    intro htype hrefused
    have hnone : s.rrc.freeRnti = none := by
      cases s.rrc.receiveUplink_cases head with
      | inl hsame => exact hsame.2.2 htype
      | inr hattach =>
        have ⟨_, rnti, _, heq⟩ := hattach
        rw [heq] at hrefused
        cases hrefused
    have hall : Finset.Icc 1 65534 ⊆ s.attached := by
      intro rnti hrnti
      rw [← h.attached, Finmap.mem_keys]
      exact Rrc.mem_of_freeRnti_eq_none hnone hrnti
    rw [Finset.Subset.antisymm h.range hall, Nat.card_Icc]
  | _ => trivial

end Inv

theorem identity_maps (events : List RrcEvent) (hok : Trace.Along step EventOk init events)
    : Trace.Throughout step Consistent init events ∧ Trace.Along step RefusesOnlyFull init events := by
  constructor
  . apply Trace.Throughout.mono (fun _ => Inv.consistent)
    exact Trace.throughout_of_along (fun _ _ h hok => h.step hok) inv_init hok
  . exact Trace.along_of_along (fun _ event h _ => h.refusesOnlyFull event) (fun _ _ h hok => h.step hok) inv_init hok

def attachRequest (n : UInt8) : RrcReceiveHead where
  type := srsenbRrcAttach
  ip := 0
  port := 0
  id := fun _ => n
  lcid := 0
  cause := 0

theorem identity_maps_two
    : Trace.Throughout step Consistent init
        [.receiveUplink (attachRequest 1), .receiveUplink (attachRequest 2), .sendDownlink] := by
  have hmaps := identity_maps
    [.receiveUplink (attachRequest 1), .receiveUplink (attachRequest 2), .sendDownlink]
    ⟨fun _ _ => by decide, fun _ _ => by decide, trivial, trivial⟩
  exact hmaps.1

theorem not_identity_maps_released
    : ¬(Trace.Throughout step Consistent init
          [.receiveUplink (attachRequest 1), .releaseComplete 1, .sendDownlink]
        ∧ Trace.Along step RefusesOnlyFull init
          [.receiveUplink (attachRequest 1), .releaseComplete 1, .sendDownlink]) := by
  rintro ⟨h, -⟩
  have hlast := h.2.2.2.released rfl 1 (by decide)
  apply hlast.1
  decide

end RrcHistory

end SrsLte

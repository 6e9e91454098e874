import SrsLte.Mac.Lemmas.Basic

/-!
This module contains the verification of random access response PDUs.
-/

namespace SrsLte

open List

namespace RarSubh

@[simp]
theorem length_writePayload (rar : RarSubh) : rar.writePayload.length = 6 := by
  rfl

end RarSubh

namespace RarPdu

open RarSubh

def subheaderBytes (rars : List RarSubh) (k last : Nat) : List UInt8 :=
  (rars.zipIdx k).flatMap fun (s, i) => s.writeSubheader (i == last)

def addRars (p : RarPdu) (rars : List RarSubh) : Option RarPdu :=
  match rars with
  | [] => some p
  | rar :: rars =>
    match p.newSubh with
    | none => none
    | some p => (p.setRar rar).addRars rars

def compose (maxRars pduLen : Nat) (bi : Option Nat) (rars : List RarSubh) : Option RarPdu :=
  match bi with
  | none => (init maxRars pduLen).addRars rars
  | some bi => ((init maxRars pduLen).setBackoff bi).addRars rars

theorem addRars_cases {p q : RarPdu} {rars : List RarSubh} (h : p.addRars rars = some q)
    : q.used = p.used ++ rars
        ∧
      q.remLen = p.remLen
        ∧
      q.hasBackoffIndicator = p.hasBackoffIndicator
        ∧
      (rars ≠ [] → q.used.length < (p.used ++ p.spare).length) := by
  induction rars generalizing p with
  | nil =>
    simp only [addRars, Option.some.injEq] at h
    rw [← h]
    simp
  | cons rar rars ih =>
    rw [addRars] at h
    split at h
    . contradiction
    . next p' hnew =>
      rw [newSubh, Option.map_eq_some_iff] at hnew
      have ⟨v, hv, hp'⟩ := hnew
      rw [Subheaders.newSubh_eq_some_iff] at hv
      have ⟨s, spare, hspare, hlen, _, hv'⟩ := hv
      have hset : (p'.setRar rar).used = p.used ++ [rar] := by
        rw [← hp', hv']
        simp [setRar, nofSubheaders, Lists.modify_concat]
      have hrest : (p'.setRar rar).spare = spare ∧ (p'.setRar rar).remLen = p.remLen
          ∧ (p'.setRar rar).hasBackoffIndicator = p.hasBackoffIndicator := by
        rw [← hp', hv']
        exact ⟨rfl, rfl, rfl⟩
      have hih := ih h
      rw [hset, hrest.1, hrest.2.1, hrest.2.2] at hih
      have hused : q.used = p.used ++ rar :: rars := by
        rw [hih.1, append_assoc]
        rfl
      refine ⟨hused, hih.2.1, hih.2.2.1, fun _ => ?_⟩
      cases rars with
      | nil =>
        rw [hused]
        simpa using hlen
      | cons rar' rars =>
        have hlt := hih.2.2.2 (cons_ne_nil _ _)
        have hspare' : p.spare = s :: spare := hspare
        rw [hspare']
        simpa [Nat.add_assoc, Nat.add_comm 1] using hlt

theorem length_subheaderBytes (rars : List RarSubh) (k last : Nat)
    : (subheaderBytes rars k last).length = rars.length := by
  simp [subheaderBytes, RarSubh.writeSubheader]

theorem length_flatMap_writePayload (rars : List RarSubh)
    : (rars.flatMap RarSubh.writePayload).length = 6 * rars.length := by
  simp [Nat.mul_comm]

theorem length_writePacket (p : RarPdu)
    : p.writePacket.length
        =
      (if p.hasBackoffIndicator then 1 else 0) + 7 * p.used.length + p.remLen := by
  have hbackoff : p.writeBackoff.length = if p.hasBackoffIndicator then 1 else 0 := by
    unfold writeBackoff
    split
    . split <;> rfl
    . rfl
  have hsub := length_subheaderBytes p.used 0 (p.nofSubheaders - 1)
  unfold subheaderBytes at hsub
  unfold writePacket
  rw [length_append, length_append, length_append, hbackoff, hsub,
    length_flatMap_writePayload, length_replicate]
  omega

theorem hasBackoffIndicator_of_zeros {maxRars pduLen : Nat} (hmax : 0 < maxRars) {q : RarPdu}
    (hq : (init maxRars pduLen).parsePacket (List.replicate pduLen 0) = some q)
    : q.hasBackoffIndicator = true := by
  cases maxRars with
  | zero => contradiction
  | succ maxRars =>
    have hvector : (init (maxRars + 1) pduLen).used ++ (init (maxRars + 1) pduLen).spare
        = {} :: List.replicate maxRars {} := by
      rfl
    cases pduLen with
    | zero =>
      simp only [parsePacket, hvector, SubhReader.parsePacket, SubhReader.readSubheaders, reader,
        readSubheader, replicate_zero, getElem?_nil] at hq
      contradiction
    | succ pduLen =>
      have hread : readSubheader (List.replicate (pduLen + 1) 0) (init (maxRars + 1) (pduLen + 1)) {} 0
          = some (false, (init (maxRars + 1) (pduLen + 1)).setBackoff 0, {}, 1) := by
        rfl
      simp only [parsePacket, hvector, SubhReader.parsePacket, SubhReader.readSubheaders, reader,
        hread, Bool.false_eq_true, false_and, ↓reduceIte] at hq
      cases hpay : SubhReader.readPayloads reader (List.replicate (pduLen + 1) 0) [{}] 1 with
      | none =>
        simp only [reader] at hpay
        simp only [hpay] at hq
        contradiction
      | some result =>
        simp only [reader] at hpay
        simp only [hpay, Option.some.injEq] at hq
        rw [← hq]
        rfl

def RoundTrip (maxRars pduLen : Nat) (bi : Option Nat) (rars : List RarSubh) : Prop :=
  ∃ p, compose maxRars pduLen bi rars = some p
    ∧ p.writePacket.length = pduLen
    ∧ ∃ q, (init maxRars pduLen).parsePacket p.writePacket = some q
      ∧ (if q.hasBackoffIndicator then some q.backoffIndicator else none) = bi
      ∧ q.used = rars

theorem not_roundTrip {maxRars : Nat} (hmax : 0 < maxRars) (pduLen : Nat) (bi : Option Nat)
    (rars : List RarSubh)
    : ¬ RoundTrip maxRars pduLen bi rars := by
  rintro ⟨p, hp, hlen, q, hq, hbi, hused⟩
  have hcompose : p.used = rars ∧ p.remLen = pduLen ∧ p.hasBackoffIndicator = bi.isSome := by
    cases bi with
    | none =>
      have hcases := addRars_cases hp
      exact ⟨hcases.1, hcases.2.1, hcases.2.2.1⟩
    | some bi =>
      have hcases := addRars_cases hp
      exact ⟨hcases.1, hcases.2.1, hcases.2.2.1⟩
  -- Nothing can be in the PDU, and then the parser takes the first byte of padding for a backoff
  -- indicator.
  rw [length_writePacket, hcompose.2.1] at hlen
  have hnil : p.used = [] := by
    apply eq_nil_of_length_eq_zero
    omega
  have hnone : p.hasBackoffIndicator = false := by
    cases hhas : p.hasBackoffIndicator with
    | false => rfl
    | true =>
      simp only [hhas, ↓reduceIte] at hlen
      omega
  have hzeros : p.writePacket = List.replicate pduLen 0 := by
    simp [writePacket, writeBackoff, hnone, hnil, hcompose.2.1]
  have hbi' : bi = none := by
    rw [hnone] at hcompose
    simpa using hcompose.2.2.symm
  rw [hzeros] at hq
  rw [hbi', hasBackoffIndicator_of_zeros hmax hq] at hbi
  simp at hbi

theorem not_roundTrip_default
    : ¬ RoundTrip 16 7 none [{ preamble := 1, ta := 2, tempRnti := 70 }] := by
  exact not_roundTrip (by decide) 7 none [{ preamble := 1, ta := 2, tempRnti := 70 }]

theorem writePacket_one_rar
    : (compose 16 7 none [{ preamble := 1 }]).map (fun p => p.writePacket.length) = some 14
        ∧
      ((compose 16 8 (some 5) [{ preamble := 1 }]).bind fun p =>
          (init 16 8).parsePacket p.writePacket).map
        (fun q => (q.backoffIndicator, q.used.length)) = some (0, 2) := by
  decide

end RarPdu

end SrsLte

import Mathlib.Algebra.Order.BigOperators.Group.List
import Mathlib.Data.Fintype.Card
import Mathlib.Data.List.FinRange
import SrsLte.Mac.Impl.Mux

/-!
This module contains when `generate_bsr` and `need_to_send_bsr_on_ul_grant` follow 36.321 Section 5.4.5.
-/

namespace SrsLte.BsrProc

open List

variable {b : BsrProc} {bufferState : Nat → Nat}

def HasData (b : BsrProc) (bufferState : Nat → Nat) (i : Fin maxLcid) : Prop :=
  (b.lcg i).isSome ∧ 0 < bufferState i

def ManyGroups (b : BsrProc) (bufferState : Nat → Nat) : Prop :=
  ∃ g g', g ≠ g' ∧ 0 < b.lcgData bufferState g ∧ 0 < b.lcgData bufferState g'

def Highest (b : BsrProc) (bufferState : Nat → Nat) (i : Fin maxLcid) : Prop :=
  b.HasData bufferState i ∧ ∀ j, b.HasData bufferState j → b.priorities i ≤ b.priorities j

structure Reports (b : BsrProc) (bufferState : Nat → Nat) (nofPaddingBytes : Nat) (bsr : Bsr) : Prop where
  long : bsr.format = .longBsr → bsr.buffSize = b.lcgData bufferState
  regular : b.triggeredBsrType ≠ .padding → (bsr.format = .longBsr ↔ b.ManyGroups bufferState)
  padding : b.triggeredBsrType = .padding →
    (bsr.format = .truncBsr ↔ b.ManyGroups bufferState ∧ nofPaddingBytes < 4)
  trunc : bsr.format = .truncBsr → ∃ i, b.Highest bufferState i
    ∧ bsr.buffSize = fun g => if b.lcg i = some g then b.lcgData bufferState g else 0

theorem lcgData_pos_iff (g : Fin 4)
    : 0 < b.lcgData bufferState g ↔ ∃ i, b.lcg i = some g ∧ 0 < bufferState i := by
  unfold lcgData
  rw [List.sum_pos_iff_exists_pos_nat]
  simp

theorem addPendingData_le (hbound : ∀ i, bufferState i ≤ 2 ^ 28) (grantSize : Nat) (lcids : List Nat) (total : Nat)
    : addPendingData bufferState grantSize lcids total ≤ total + lcids.length * (2 ^ 28 + 3) := by
  induction lcids generalizing total with
  | nil => exact Nat.le_refl _
  | cons i lcids ih =>
    have hsize : SchSubh.sizeHeaderSdu (bufferState i) ≤ 3 := by
      unfold SchSubh.sizeHeaderSdu
      split <;> decide
    have hrest := ih (total + (SchSubh.sizeHeaderSdu (bufferState i) + bufferState i))
    have := hbound i
    unfold addPendingData
    rw [length_cons]
    split <;> omega

/-- The sums are a `uint32_t` and an `int` in the source. They do not wrap if no channel has more than 256 MB. -/
theorem sums_lt (hbound : ∀ i, bufferState i ≤ 2 ^ 28) (b : BsrProc) (g : Fin 4) (grantSize : Nat)
    : b.lcgData bufferState g < 2 ^ 32 ∧ addPendingData bufferState grantSize (List.range maxLcid) 0 < 2 ^ 31 := by
  have hmax : maxLcid = 6 := rfl
  constructor
  . have hlen := length_filter_le (fun i => b.lcg i = some g) (List.finRange maxLcid)
    rw [length_finRange] at hlen
    apply Nat.lt_of_le_of_lt (sum_le_card_nsmul _ (2 ^ 28) _)
    . rw [length_map, Nat.nsmul_eq_mul]
      omega
    . intro n hn
      have ⟨i, _, heq⟩ := mem_map.mp hn
      rw [← heq]
      exact hbound i
  . have hle := addPendingData_le hbound grantSize (List.range maxLcid) 0
    rw [length_range] at hle
    omega

theorem one_lt_nofLcg_iff
    : 1 < b.nofLcg bufferState ↔ ∃ i j, i ≠ j ∧ b.HasData bufferState i ∧ b.HasData bufferState j := by
  unfold nofLcg HasData
  rw [countP_eq_length_filter, ← toFinset_card_of_nodup ((nodup_finRange _).filter _),
    Finset.one_lt_card]
  simp only [mem_toFinset, mem_filter, mem_finRange, true_and, Bool.and_eq_true, decide_eq_true_eq]
  constructor
  . rintro ⟨i, hi, j, hj, hne⟩
    exact ⟨i, j, hne, hi, hj⟩
  . rintro ⟨i, j, hne, hi, hj⟩
    exact ⟨i, hi, j, hj, hne⟩

theorem one_lt_nofLcg_of_manyGroups (h : b.ManyGroups bufferState) : 1 < b.nofLcg bufferState := by
  have ⟨g, g', hne, hg, hg'⟩ := h
  have ⟨i, hi, hdata⟩ := (lcgData_pos_iff g).mp hg
  have ⟨j, hj, hdata'⟩ := (lcgData_pos_iff g').mp hg'
  rw [one_lt_nofLcg_iff]
  refine ⟨i, j, ?_, ⟨by rw [hi]; rfl, hdata⟩, ⟨by rw [hj]; rfl, hdata'⟩⟩
  intro heq
  rw [heq, hj] at hi
  exact hne (Option.some.inj hi).symm

theorem trunc_iff {i : Fin maxLcid} (hi : b.HasData bufferState i) (m : Fin maxLcid)
    : (fun g => if b.lcg m ≠ some g then 0 else b.lcgData bufferState g)
          = (fun g => if b.lcg i = some g then b.lcgData bufferState g else 0)
        ↔
      b.lcg m = b.lcg i := by
  have ⟨g, hg⟩ := Option.isSome_iff_exists.mp hi.1
  have hdata : 0 < b.lcgData bufferState g := (lcgData_pos_iff g).mpr ⟨i, hg, hi.2⟩
  constructor
  . intro heq
    have hat := congrFun heq g
    rw [if_pos hg] at hat
    by_contra hne
    rw [hg] at hne
    rw [if_pos hne] at hat
    omega
  . intro heq
    funext g
    rw [heq, ite_not]

theorem reports_generateBsr_iff (b : BsrProc) (bufferState : Nat → Nat) (nofPaddingBytes : Nat)
    : b.Reports bufferState nofPaddingBytes (b.generateBsr bufferState nofPaddingBytes)
        ↔
      (b.triggeredBsrType = .padding ∧ 4 ≤ nofPaddingBytes)
        ∨ ((∀ i j, i ≠ j → b.HasData bufferState i → b.HasData bufferState j → b.ManyGroups bufferState)
          ∧ (b.triggeredBsrType = .padding → b.ManyGroups bufferState →
            ∃ i, b.Highest bufferState i ∧ b.lcg b.findMaxPriorityLcid = b.lcg i)) := by
  have hmany := @one_lt_nofLcg_of_manyGroups b bufferState
  have hgroups : (1 < b.nofLcg bufferState → b.ManyGroups bufferState)
      ↔ ∀ i j, i ≠ j → b.HasData bufferState i → b.HasData bufferState j → b.ManyGroups bufferState := by
    rw [one_lt_nofLcg_iff]
    simp only [forall_exists_index, and_imp]
  have htrunc := @trunc_iff b bufferState
  rw [← hgroups]
  unfold generateBsr
  dsimp only
  by_cases hpad : b.triggeredBsrType = .padding
  . rw [if_pos hpad]
    by_cases hroom : nofPaddingBytes < 4
    . rw [if_pos hroom]
      have hge : ¬ 4 ≤ nofPaddingBytes := by omega
      by_cases hlcg : b.nofLcg bufferState > 1
      . rw [if_pos hlcg]
        constructor
        . intro h
          have hmany' := ((h.padding hpad).mp rfl).1
          have ⟨i, hi, heq⟩ := h.trunc rfl
          exact Or.inr ⟨fun _ => hmany', fun _ _ => ⟨i, hi, (htrunc hi.1 _).mp heq⟩⟩
        . intro h
          have ⟨hall, hfind⟩ := h.resolve_left (fun hlong => hge hlong.2)
          have ⟨i, hi, heq⟩ := hfind hpad (hall hlcg)
          exact {
            long := nofun
            regular := fun hne => absurd hpad hne
            padding := fun _ => ⟨fun _ => ⟨hall hlcg, hroom⟩, fun _ => rfl⟩
            trunc := fun _ => ⟨i, hi, (htrunc hi.1 _).mpr heq⟩
          }
      . have hfew : ¬ b.ManyGroups bufferState := fun hm => hlcg (hmany hm)
        rw [if_neg hlcg]
        refine ⟨fun _ => Or.inr ⟨fun hlt => absurd hlt hlcg, fun _ hm => absurd hm hfew⟩, fun _ => ?_⟩
        exact {
          long := nofun
          regular := fun hne => absurd hpad hne
          padding := fun _ => ⟨nofun, fun hm => absurd hm.1 hfew⟩
          trunc := nofun
        }
    . rw [if_neg hroom]
      refine ⟨fun _ => Or.inl ⟨hpad, by omega⟩, fun _ => ?_⟩
      exact {
        long := fun _ => rfl
        regular := fun hne => absurd hpad hne
        padding := fun _ => ⟨nofun, fun hm => absurd hm.2 hroom⟩
        trunc := nofun
      }
  . rw [if_neg hpad]
    constructor
    . intro h
      refine Or.inr ⟨fun hlt => (h.regular hpad).mp (if_pos hlt), fun hpad' => absurd hpad' hpad⟩
    . intro h
      have hall := (h.resolve_left (fun hlong => hpad hlong.1)).1
      exact {
        long := fun _ => rfl
        regular := fun _ => by
          rw [ite_eq_left_iff]
          exact ⟨fun hm => hall (by by_contra hn; cases hm hn), fun hm hn => absurd (hmany hm) hn⟩
        padding := fun hpad' => absurd hpad' hpad
        trunc := by
          dsimp only
          split <;> nofun
      }

def twoInOneGroup : BsrProc :=
  { (init.setupLcg 1 1).setupLcg 2 1 with triggeredBsrType := .regular }

theorem not_reports_twoInOneGroup
    : ¬ twoInOneGroup.Reports (fun i => if i = 1 ∨ i = 2 then 5 else 0) 0
        (twoInOneGroup.generateBsr (fun i => if i = 1 ∨ i = 2 then 5 else 0) 0) := by
  intro h
  have ⟨g, g', hne, hg, hg'⟩ := (h.regular (by decide)).mp (by decide)
  revert g g'
  decide

end SrsLte.BsrProc

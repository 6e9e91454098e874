import SrsLte.Phy.Impl.Uci

/-!
This module contains the proof of which HARQ-ACK and RI values arrive on the PUSCH.
-/

namespace SrsLte

open Scatter List

/-! ### Positions -/

section Position

def uciPosition (columnSet : Fin 4 → Nat) (rows Qm i k : Nat) : Nat :=
  (rows - 1 - i / 4) * Qm + rows * columnSet ⟨(3 * i) % 4, colidx_lt i⟩ * Qm + k

variable {columnSet : Fin 4 → Nat} {rows Qm : Nat}

theorem uciUlschInterleaveGen_apply {i HPrimeTotal NPuschSymbs : Nat} (hrows : HPrimeTotal / NPuschSymbs ≥ 1 + i / 4)
    (start : Nat) (bits : Nat → UciBit) (j : Nat)
    : uciUlschInterleaveGen columnSet i Qm HPrimeTotal NPuschSymbs start bits j
        =
      if start ≤ j ∧ j < start + Qm then
        { bits j with position := uciPosition columnSet (HPrimeTotal / NPuschSymbs) Qm i (j - start) }
      else
        bits j := by
  unfold uciUlschInterleaveGen
  dsimp only
  rw [if_pos hrows]
  rfl

theorem uciPosition_inj (hcol : Function.Injective columnSet) {i i' k k' : Nat} (hi : 1 + i / 4 ≤ rows)
    (hi' : 1 + i' / 4 ≤ rows) (hk : k < Qm) (hk' : k' < Qm)
    (h : uciPosition columnSet rows Qm i k = uciPosition columnSet rows Qm i' k')
    : i = i' ∧ k = k' := by
  have hlow {i k : Nat} (hi : 1 + i / 4 ≤ rows) (hk : k < Qm) : (rows - 1 - i / 4) * Qm + k < rows * Qm := calc
    (rows - 1 - i / 4) * Qm + k < (rows - 1 - i / 4) * Qm + Qm := by omega
    _ = (rows - 1 - i / 4 + 1) * Qm := by rw [Nat.succ_mul]
    _ ≤ rows * Qm := Nat.mul_le_mul_right _ (by omega)
  have hshape (i k : Nat) : uciPosition columnSet rows Qm i k
      = (rows - 1 - i / 4) * Qm + k + rows * Qm * columnSet ⟨(3 * i) % 4, colidx_lt i⟩ := by
    unfold uciPosition
    rw [Nat.mul_right_comm]
    omega
  rw [hshape, hshape] at h
  have hpos : 0 < rows * Qm := Nat.mul_pos (by omega) (by omega)
  have hcolumn := congrArg (· / (rows * Qm)) h
  have hrest := congrArg (· % (rows * Qm)) h
  simp only [Nat.add_mul_div_left _ _ hpos, Nat.div_eq_of_lt (hlow hi hk), Nat.div_eq_of_lt (hlow hi' hk'),
    Nat.zero_add] at hcolumn
  simp only [Nat.add_mul_mod_self_left, Nat.mod_eq_of_lt (hlow hi hk), Nat.mod_eq_of_lt (hlow hi' hk')] at hrest
  have hmod : (3 * i) % 4 = (3 * i') % 4 := Fin.mk.inj_iff.mp (hcol hcolumn)
  have hdiv := congrArg (· / Qm) hrest
  have hbit := congrArg (· % Qm) hrest
  have hQm : 0 < Qm := by omega
  simp only [Nat.add_comm _ k, Nat.add_comm _ k', Nat.add_mul_div_right _ _ hQm, Nat.div_eq_of_lt hk,
    Nat.div_eq_of_lt hk', Nat.zero_add] at hdiv
  simp only [Nat.add_comm _ k, Nat.add_comm _ k', Nat.add_mul_mod_self_right, Nat.mod_eq_of_lt hk,
    Nat.mod_eq_of_lt hk'] at hbit
  exact ⟨by omega, hbit⟩

theorem PuschCfg.columnSet_injective (cfg : PuschCfg) (isRi : Bool) : Function.Injective (cfg.columnSet isRi) := by
  unfold Function.Injective columnSet riColumnSet ackColumnSet
  cases isRi <;> cases cfg.cp <;> decide

end Position

/-! ### Soft decisions -/

def Votes (b : Bool) (n : Nat) (x : Int) : Prop :=
  if b then n ≤ x ∧ x ≤ 65536 * n else -(65536 * n) ≤ x ∧ x ≤ -n

def Vote (b : Bool) (v : Int) : Prop :=
  if b then -32768 ≤ v ∧ v < 0 else 0 < v ∧ v ≤ 32768

variable {x : Int} {b : Bool} {n : Nat}

theorem Votes.zero (b : Bool) : Votes b 0 0 := by
  cases b <;> simp [Votes]

theorem Votes.sub {v w : Int} (h : Votes b n x) (hn : n < 5280) (hv : Vote b v) (hw : Vote b w)
    : Votes b (n + 1) (toInt32 (x - (v + w))) := by
  cases b with
  | false =>
    simp only [Votes, Vote, Bool.false_eq_true, ↓reduceIte] at *
    rw [toInt32_of_lt] <;> omega
  | true =>
    simp only [Votes, Vote, ↓reduceIte] at *
    rw [toInt32_of_lt] <;> omega

theorem Votes.add {v w : Int} (h : Votes b n x) (hn : n < 5280) (hv : Vote b v) (hw : Vote b w)
    : Votes b (n + 1) (toInt32 (x + toInt32 (-(v + w)))) := by
  have hsub := h.sub hn hv hw
  have hbound : -65536 ≤ -(v + w) ∧ -(v + w) ≤ 65536 := by
    cases b
    . simp only [Vote, Bool.false_eq_true, ↓reduceIte] at hv hw
      omega
    . simp only [Vote, ↓reduceIte] at hv hw
      omega
  rw [toInt32_of_lt (x := -(v + w)) (by omega) (by omega)]
  exact hsub

theorem Votes.decide_pos (h : Votes b n x) (hn : 0 < n) : decide (x > 0) = b := by
  cases b with
  | false =>
    simp only [Votes, Bool.false_eq_true, ↓reduceIte] at h
    exact decide_eq_false (by omega)
  | true =>
    simp only [Votes, ↓reduceIte] at h
    exact decide_eq_true (by omega)

/-! ### Scrambling -/

def Scrambles (cSeq : Nat → Bool) (bits : List UciBit) (scrambled : Nat → Bool) : Prop :=
  ∀ bit ∈ bits, match bit.type with
    | .bit1 => scrambled bit.position = !cSeq bit.position
    | .bit0 => scrambled bit.position = cSeq bit.position
    | .repetition => scrambled bit.position = scrambled (bit.position - 1)
    | .placeholder => True

/--
The soft bits, of type `int16_t`, are positive for the scrambled bit 1 and negative for the scrambled bit 0.
-/
def Carries (qBits : Nat → Int) (bits : List UciBit) (scrambled : Nat → Bool) : Prop :=
  ∀ bit ∈ bits, -32768 ≤ qBits bit.position ∧ qBits bit.position ≤ 32767 ∧
    if scrambled bit.position then 0 < qBits bit.position else qBits bit.position < 0

theorem vote_of_scrambled {qBits : Nat → Int} {cSeq scrambled : Nat → Bool} {p c : Nat}
    (hrange : -32768 ≤ qBits p ∧ qBits p ≤ 32767 ∧ if scrambled p then 0 < qBits p else qBits p < 0)
    (hscrambled : scrambled p = (cSeq c ^^ b))
    : Vote b (descrambled qBits cSeq p c) := by
  unfold descrambled
  rw [hscrambled] at hrange
  cases b <;> cases hc : cSeq c <;> simp [hc, Vote] at hrange ⊢ <;> omega

/-! ### Encoder -/

def PuschCfg.position (cfg : PuschCfg) (isRi : Bool) (HPrimeTotal i k : Nat) : Nat :=
  uciPosition (cfg.columnSet isRi) (HPrimeTotal / cfg.nofSymb) cfg.Qm i k

section Encode

variable {cfg : PuschCfg} {isRi : Bool} {HPrimeTotal : Nat}

theorem encodeSymbol_apply {i : Nat} (hrows : HPrimeTotal / cfg.nofSymb ≥ 1 + i / 4) (qEncodedBits : List UciBitType)
    (bits : Nat → UciBit) (j : Nat)
    : srslteUciEncodeAckRi.encodeSymbol cfg HPrimeTotal isRi qEncodedBits bits i j
        =
      if cfg.Qm * i ≤ j ∧ j < cfg.Qm * i + cfg.Qm then
        ⟨cfg.position isRi HPrimeTotal i (j - cfg.Qm * i),
          (qEncodedBits.drop (i * cfg.Qm % qEncodedBits.length)).getD (j - cfg.Qm * i) .bit1⟩
      else
        bits j := by
  unfold srslteUciEncodeAckRi.encodeSymbol uciUlschInterleavePut
  dsimp only
  rw [uciUlschInterleaveGen_apply hrows]
  split
  . rfl
  . rfl

theorem srslteUciEncodeAckRi_eq {data : Bool × Bool} {dataLen OCqi : Nat} {beta : Rat} (hbeta : ¬ beta < 0)
    (hlength : (encodeRiAck data dataLen cfg.Qm).length > 0)
    (hrows : HPrimeTotal / cfg.nofSymb ≥ 1 + (cfg.qPrimeRiAck dataLen OCqi beta - 1) / 4) (bits : Nat → UciBit)
    : ∃ encoded, srslteUciEncodeAckRi cfg data dataLen OCqi beta HPrimeTotal bits isRi
          = some (encoded, cfg.qPrimeRiAck dataLen OCqi beta) ∧
        ∀ i < cfg.qPrimeRiAck dataLen OCqi beta, ∀ k < cfg.Qm,
          encoded (cfg.Qm * i + k) = ⟨cfg.position isRi HPrimeTotal i k,
            ((encodeRiAck data dataLen cfg.Qm).drop (i * cfg.Qm % (encodeRiAck data dataLen cfg.Qm).length)).getD k
              .bit1⟩ := by
  unfold srslteUciEncodeAckRi
  rw [if_neg hbeta]
  dsimp only
  rw [if_pos hlength]
  refine ⟨_, rfl, fun i hi k hk => ?_⟩
  apply foldl_block _ bits hi hk
  intro i hi buf j
  exact encodeSymbol_apply (by omega) _ _ _

theorem encodeRiAck_one {Qm : Nat} (hQm : 2 ≤ Qm) (data : Bool × Bool) (i : Nat)
    : (encodeRiAck data 1 Qm).length = Qm ∧
      ((encodeRiAck data 1 Qm).drop (i * Qm % (encodeRiAck data 1 Qm).length)).getD 0 .bit1 = .ofBool data.1 ∧
      ((encodeRiAck data 1 Qm).drop (i * Qm % (encodeRiAck data 1 Qm).length)).getD 1 .bit1 = .repetition := by
  have hlength : (encodeRiAck data 1 Qm).length = Qm := by
    simp only [encodeRiAck, ↓reduceIte, cons_append, nil_append, length_cons, length_replicate]
    omega
  rw [hlength, Nat.mul_mod_left]
  exact ⟨rfl, rfl, rfl⟩

def codedSymbol (data : Bool × Bool) (i : Nat) : Bool × Bool :=
  match i % 3 with
  | 0 => (data.1, data.2)
  | 1 => (data.1 ^^ data.2, data.1)
  | _ => (data.2, data.1 ^^ data.2)

theorem encodeRiAck_two {Qm : Nat} (hQm : 2 ≤ Qm) (data : Bool × Bool) (i : Nat)
    : (encodeRiAck data 2 Qm).length = 3 * Qm ∧
      ((encodeRiAck data 2 Qm).drop (i * Qm % (encodeRiAck data 2 Qm).length)).getD 0 .bit1
        = .ofBool (codedSymbol data i).1 ∧
      ((encodeRiAck data 2 Qm).drop (i * Qm % (encodeRiAck data 2 Qm).length)).getD 1 .bit1
        = .ofBool (codedSymbol data i).2 := by
  have hblock (a b : UciBitType) : ([a, b] ++ List.replicate (Qm - 2) UciBitType.placeholder).length = Qm := by
    simp only [cons_append, nil_append, length_cons, length_replicate]
    omega
  have henc : encodeRiAck data 2 Qm =
      [.ofBool data.1, .ofBool data.2] ++ List.replicate (Qm - 2) .placeholder ++
      ([.ofBool (data.1 ^^ data.2), .ofBool data.1] ++ List.replicate (Qm - 2) .placeholder) ++
      ([.ofBool data.2, .ofBool (data.1 ^^ data.2)] ++ List.replicate (Qm - 2) .placeholder) := rfl
  have hlength : (encodeRiAck data 2 Qm).length = 3 * Qm := by
    rw [henc, length_append, length_append, hblock, hblock, hblock]
    omega
  rw [hlength, Nat.mul_mod_mul_right, henc]
  unfold codedSymbol
  have hmod : i % 3 = 0 ∨ i % 3 = 1 ∨ i % 3 = 2 := by omega
  obtain h0 | h1 | h2 := hmod
  . rw [h0, Nat.zero_mul]
    exact ⟨rfl, rfl, rfl⟩
  . rw [h1, Nat.one_mul, append_assoc, drop_left' (hblock _ _)]
    exact ⟨rfl, rfl, rfl⟩
  . rw [h2, drop_left' (by rw [length_append, hblock, hblock]; omega)]
    exact ⟨rfl, rfl, rfl⟩

end Encode

/-! ### Decoder -/

section Decode

variable {cfg : PuschCfg} {isRi : Bool} {HPrimeTotal : Nat}

def Positioned (cfg : PuschCfg) (isRi : Bool) (HPrimeTotal n : Nat) (bits : Nat → UciBit) : Prop :=
  ∀ i < n, ∀ k < cfg.Qm, (bits (cfg.Qm * i + k)).position = cfg.position isRi HPrimeTotal i k

variable {n : Nat} {s : (Nat → UciBit) × UciSum}

theorem Positioned.gen {bits : Nat → UciBit} (h : Positioned cfg isRi HPrimeTotal n bits)
    (hrows : HPrimeTotal / cfg.nofSymb ≥ 1 + n / 4)
    : Positioned cfg isRi HPrimeTotal (n + 1)
        (uciUlschInterleaveGen (cfg.columnSet isRi) n cfg.Qm HPrimeTotal cfg.nofSymb (cfg.Qm * n) bits) := by
  intro i hi k hk
  rw [uciUlschInterleaveGen_apply hrows]
  by_cases heq : i = n
  . subst heq
    rw [if_pos (by omega), Nat.add_sub_cancel_left]
    rfl
  . have hlt : cfg.Qm * i + k < cfg.Qm * n := calc
      cfg.Qm * i + k < cfg.Qm * i + cfg.Qm := by omega
      _ = cfg.Qm * (i + 1) := by rw [Nat.mul_succ]
      _ ≤ cfg.Qm * n := Nat.mul_le_mul_left _ (by omega)
    rw [if_neg (by omega)]
    exact h i (by omega) k hk

variable {qBits : Nat → Int} {cSeq : Nat → Bool} {data : Bool × Bool}

def VotesOne (cfg : PuschCfg) (isRi : Bool) (HPrimeTotal : Nat) (qBits : Nat → Int) (cSeq : Nat → Bool) (b : Bool)
    (i : Nat) : Prop :=
  Vote b (descrambled qBits cSeq (cfg.position isRi HPrimeTotal i 0) (cfg.position isRi HPrimeTotal i 0)) ∧
    Vote b (descrambled qBits cSeq (cfg.position isRi HPrimeTotal i 1) (cfg.position isRi HPrimeTotal i 0))

theorem decodeSymbol_one {b : Bool} (hQm : 2 ≤ cfg.Qm) (hrows : HPrimeTotal / cfg.nofSymb ≥ 1 + n / 4) (hn : n < 5280)
    (hvote : VotesOne cfg isRi HPrimeTotal qBits cSeq b n)
    (h : Positioned cfg isRi HPrimeTotal n s.1 ∧ Votes b n s.2.sum0)
    : Positioned cfg isRi HPrimeTotal (n + 1)
          (srslteUciDecodeAckRi.decodeSymbol cfg qBits cSeq HPrimeTotal 1 isRi s n).1 ∧
        Votes b (n + 1) (srslteUciDecodeAckRi.decodeSymbol cfg qBits cSeq HPrimeTotal 1 isRi s n).2.sum0 := by
  have hpos := h.1.gen hrows
  unfold srslteUciDecodeAckRi.decodeSymbol
  dsimp only
  rw [if_neg (by omega), if_pos rfl]
  refine ⟨hpos, ?_⟩
  dsimp only [decodeRiAck1bit]
  rw [hpos n (by omega) 0 (by omega), hpos n (by omega) 1 (by omega)]
  exact h.2.add hn hvote.1 hvote.2

def VotesTwo (cfg : PuschCfg) (isRi : Bool) (HPrimeTotal : Nat) (qBits : Nat → Int) (cSeq : Nat → Bool)
    (data : Bool × Bool) (i : Nat) : Prop :=
  Vote (codedSymbol data i).1
      (descrambled qBits cSeq (cfg.position isRi HPrimeTotal i 0) (cfg.position isRi HPrimeTotal i 0)) ∧
    Vote (codedSymbol data i).2
      (descrambled qBits cSeq (cfg.position isRi HPrimeTotal i 1) (cfg.position isRi HPrimeTotal i 1))

theorem decodeSymbol_two (hQm : 2 ≤ cfg.Qm) (hrows : HPrimeTotal / cfg.nofSymb ≥ 1 + n / 4) (hn : n < 5280)
    (hvote : ∀ i < n, VotesTwo cfg isRi HPrimeTotal qBits cSeq data i)
    (h : Positioned cfg isRi HPrimeTotal n s.1 ∧ Votes data.1 ((n - 1) / 3) s.2.sum0 ∧
      Votes data.2 ((n - 1) / 3) s.2.sum1)
    : Positioned cfg isRi HPrimeTotal (n + 1)
          (srslteUciDecodeAckRi.decodeSymbol cfg qBits cSeq HPrimeTotal 2 isRi s n).1 ∧
        Votes data.1 (n / 3) (srslteUciDecodeAckRi.decodeSymbol cfg qBits cSeq HPrimeTotal 2 isRi s n).2.sum0 ∧
        Votes data.2 (n / 3) (srslteUciDecodeAckRi.decodeSymbol cfg qBits cSeq HPrimeTotal 2 isRi s n).2.sum1 := by
  have hpos := h.1.gen hrows
  unfold srslteUciDecodeAckRi.decodeSymbol
  dsimp only
  by_cases hgroup : n % 3 = 0 ∧ n > 0
  . obtain ⟨m, rfl⟩ : ∃ m, n = 3 * m + 3 := ⟨n / 3 - 1, by omega⟩
    rw [if_pos ⟨rfl, hgroup⟩]
    have hv0 := hvote (3 * m) (by omega)
    have hv1 := hvote (3 * m + 1) (by omega)
    have hv2 := hvote (3 * m + 2) (by omega)
    unfold VotesTwo codedSymbol at hv0 hv1 hv2
    rw [show 3 * m % 3 = 0 by omega] at hv0
    rw [show (3 * m + 1) % 3 = 1 by omega] at hv1
    rw [show (3 * m + 2) % 3 = 2 by omega] at hv2
    have hp (i k : Nat) (hi : i < 3) (hk : k < 2) := hpos (3 * m + i) (by omega) k (by omega)
    have hindex (i k : Nat) : cfg.Qm * (3 * m + 3 - 3) + (cfg.Qm * i + k) = cfg.Qm * (3 * m + i) + k := by
      rw [Nat.mul_add, Nat.add_sub_cancel, Nat.add_assoc]
    rw [show (3 * m + 3 - 1) / 3 = m by omega] at h
    rw [show (3 * m + 3) / 3 = m + 1 by omega]
    refine ⟨hpos, ?_, ?_⟩
    . dsimp only [decodeRiAck2bits]
      rw [hindex, hindex, hp 0 0 (by omega) (by omega), hp 1 1 (by omega) (by omega)]
      exact h.2.1.sub (by omega) hv0.1 hv1.2
    . dsimp only [decodeRiAck2bits]
      rw [hindex, hindex, hp 0 1 (by omega) (by omega), hp 2 0 (by omega) (by omega)]
      exact h.2.2.sub (by omega) hv0.2 hv2.1
  . rw [if_neg (by tauto), if_neg (by decide)]
    rw [show (n - 1) / 3 = n / 3 by omega] at h
    exact ⟨hpos, h.2⟩

theorem foldl_decodeSymbol_one {b : Bool} (hQm : 2 ≤ cfg.Qm)
    (hrows : HPrimeTotal / cfg.nofSymb ≥ 1 + (n - 1) / 4) (hn : n ≤ 5280)
    (hvote : ∀ i < n, VotesOne cfg isRi HPrimeTotal qBits cSeq b i) (bits : Nat → UciBit)
    : Positioned cfg isRi HPrimeTotal n
          ((List.range n).foldl (srslteUciDecodeAckRi.decodeSymbol cfg qBits cSeq HPrimeTotal 1 isRi) (bits, {})).1 ∧
        Votes b n ((List.range n).foldl (srslteUciDecodeAckRi.decodeSymbol cfg qBits cSeq HPrimeTotal 1 isRi)
          (bits, {})).2.sum0 := by
  induction n with
  | zero => exact ⟨nofun, Votes.zero b⟩
  | succ n ih =>
    rw [range_succ, foldl_append, foldl_cons, foldl_nil]
    have hbefore := ih (by omega) (by omega) fun i hi => hvote i (by omega)
    exact decodeSymbol_one hQm (by omega) (by omega) (hvote n (by omega)) hbefore

theorem foldl_decodeSymbol_two (hQm : 2 ≤ cfg.Qm) (hrows : HPrimeTotal / cfg.nofSymb ≥ 1 + (n - 1) / 4)
    (hn : n ≤ 5280) (hvote : ∀ i < n, VotesTwo cfg isRi HPrimeTotal qBits cSeq data i) (bits : Nat → UciBit)
    : Positioned cfg isRi HPrimeTotal n
          ((List.range n).foldl (srslteUciDecodeAckRi.decodeSymbol cfg qBits cSeq HPrimeTotal 2 isRi) (bits, {})).1 ∧
        Votes data.1 ((n - 1) / 3)
          ((List.range n).foldl (srslteUciDecodeAckRi.decodeSymbol cfg qBits cSeq HPrimeTotal 2 isRi)
            (bits, {})).2.sum0 ∧
        Votes data.2 ((n - 1) / 3)
          ((List.range n).foldl (srslteUciDecodeAckRi.decodeSymbol cfg qBits cSeq HPrimeTotal 2 isRi)
            (bits, {})).2.sum1 := by
  induction n with
  | zero => exact ⟨nofun, Votes.zero _, Votes.zero _⟩
  | succ n ih =>
    rw [range_succ, foldl_append, foldl_cons, foldl_nil]
    have hbefore := ih (by omega) (by omega) fun i hi => hvote i (by omega)
    exact decodeSymbol_two hQm (by omega) (by omega) (fun i hi => hvote i (by omega)) hbefore

end Decode

/-! ### Transport -/

section Transport

variable {cfg : PuschCfg} {isRi : Bool} {HPrimeTotal : Nat} {data : Bool × Bool} {qBits : Nat → Int}
  {cSeq scrambled : Nat → Bool}

def symbolBits (cfg : PuschCfg) (encoded : Nat → UciBit) (n : Nat) : List UciBit :=
  (List.range (n * cfg.Qm)).map encoded

theorem mem_symbolBits {encoded : Nat → UciBit} {n i k : Nat} (hi : i < n) (hk : k < cfg.Qm)
    : encoded (cfg.Qm * i + k) ∈ symbolBits cfg encoded n := by
  refine mem_map_of_mem (mem_range.mpr ?_)
  calc
    cfg.Qm * i + k < cfg.Qm * i + cfg.Qm := by omega
    _ = (i + 1) * cfg.Qm := by rw [Nat.succ_mul, Nat.mul_comm]
    _ ≤ n * cfg.Qm := Nat.mul_le_mul_right _ hi

variable {encoded : Nat → UciBit} {n : Nat}

theorem nodup_symbolBits (hrows : HPrimeTotal / cfg.nofSymb ≥ 1 + (n - 1) / 4)
    (hencoded : Positioned cfg isRi HPrimeTotal n encoded)
    : ((symbolBits cfg encoded n).map UciBit.position).Nodup := by
  unfold symbolBits
  rw [map_map]
  refine List.Nodup.map_on (fun j hj j' hj' heq => ?_) nodup_range
  rw [mem_range] at hj hj'
  have hQm : 0 < cfg.Qm := Nat.pos_of_ne_zero fun h => by simp [h] at hj
  have hi := (Nat.div_lt_iff_lt_mul hQm).mpr hj
  have hi' := (Nat.div_lt_iff_lt_mul hQm).mpr hj'
  have hp := hencoded (j / cfg.Qm) hi (j % cfg.Qm) (Nat.mod_lt _ hQm)
  have hp' := hencoded (j' / cfg.Qm) hi' (j' % cfg.Qm) (Nat.mod_lt _ hQm)
  rw [Nat.div_add_mod] at hp hp'
  have hinj := uciPosition_inj (cfg.columnSet_injective isRi) (by omega) (by omega) (Nat.mod_lt j hQm)
    (Nat.mod_lt j' hQm) (hp.symm.trans (heq.trans hp'))
  rw [← Nat.div_add_mod j cfg.Qm, ← Nat.div_add_mod j' cfg.Qm, hinj.1, hinj.2]

theorem vote_of_type {bits : List UciBit} {p : Nat} {b : Bool} (hmem : ⟨p, .ofBool b⟩ ∈ bits)
    (hscrambles : Scrambles cSeq bits scrambled) (hcarries : Carries qBits bits scrambled)
    : Vote b (descrambled qBits cSeq p p) ∧ scrambled p = (cSeq p ^^ b) := by
  have hs := hscrambles _ hmem
  have hbit : scrambled p = (cSeq p ^^ b) := by
    cases b
    . simpa [UciBitType.ofBool] using hs
    . simpa [UciBitType.ofBool] using hs
  exact ⟨vote_of_scrambled (hcarries _ hmem) hbit, hbit⟩

theorem votesOne_of_encoded {i : Nat} (hQm : 2 ≤ cfg.Qm) (hi : i < n)
    (h0 : encoded (cfg.Qm * i + 0) = ⟨cfg.position isRi HPrimeTotal i 0, .ofBool data.1⟩)
    (h1 : encoded (cfg.Qm * i + 1) = ⟨cfg.position isRi HPrimeTotal i 1, .repetition⟩)
    (hscrambles : Scrambles cSeq (symbolBits cfg encoded n) scrambled)
    (hcarries : Carries qBits (symbolBits cfg encoded n) scrambled)
    : VotesOne cfg isRi HPrimeTotal qBits cSeq data.1 i := by
  have hmem0 := @mem_symbolBits cfg encoded n i 0 hi (by omega)
  have hmem1 := @mem_symbolBits cfg encoded n i 1 hi (by omega)
  rw [h0] at hmem0
  rw [h1] at hmem1
  have ⟨hvote, hbit⟩ := vote_of_type hmem0 hscrambles hcarries
  have hrepetition := hscrambles _ hmem1
  -- the scrambled bit before the repetition is the one it repeats
  rw [show cfg.position isRi HPrimeTotal i 1 - 1 = cfg.position isRi HPrimeTotal i 0 by
    simp [PuschCfg.position, uciPosition], hbit] at hrepetition
  exact ⟨hvote, vote_of_scrambled (hcarries _ hmem1) hrepetition⟩

theorem votesTwo_of_encoded {i : Nat} (hQm : 2 ≤ cfg.Qm) (hi : i < n)
    (h0 : encoded (cfg.Qm * i + 0) = ⟨cfg.position isRi HPrimeTotal i 0, .ofBool (codedSymbol data i).1⟩)
    (h1 : encoded (cfg.Qm * i + 1) = ⟨cfg.position isRi HPrimeTotal i 1, .ofBool (codedSymbol data i).2⟩)
    (hscrambles : Scrambles cSeq (symbolBits cfg encoded n) scrambled)
    (hcarries : Carries qBits (symbolBits cfg encoded n) scrambled)
    : VotesTwo cfg isRi HPrimeTotal qBits cSeq data i := by
  have hmem0 := @mem_symbolBits cfg encoded n i 0 hi (by omega)
  have hmem1 := @mem_symbolBits cfg encoded n i 1 hi (by omega)
  rw [h0] at hmem0
  rw [h1] at hmem1
  exact ⟨(vote_of_type hmem0 hscrambles hcarries).1, (vote_of_type hmem1 hscrambles hcarries).1⟩

def Arrives (cfg : PuschCfg) (isRi : Bool) (HPrimeTotal OCqi : Nat) (beta : Rat) (qBits : Nat → Int) (cSeq : Nat → Bool)
    (ackRiBits : Nat → UciBit) (out data : Bool × Bool) (dataLen : Nat) : Prop :=
  ∃ decoded bits, srslteUciDecodeAckRi cfg qBits cSeq beta HPrimeTotal OCqi ackRiBits out dataLen isRi
      = some (decoded, bits, cfg.qPrimeRiAck dataLen OCqi beta) ∧
    decoded.1 = data.1 ∧ (dataLen = 2 → decoded.2 = data.2)

theorem qPrimeRiAck_le (cfg : PuschCfg) (O OCqi : Nat) (beta : Rat) : cfg.qPrimeRiAck O OCqi beta ≤ 5280 := by
  have hle := cfg.MSc_le
  unfold maxPrb nre at hle
  exact Nat.le_trans (Nat.min_le_right _ _) (by omega)

theorem arrives_one {OCqi : Nat} {beta : Rat} (hbeta : ¬ beta < 0) (hQm : 2 ≤ cfg.Qm)
    (hpos : 1 ≤ cfg.qPrimeRiAck 1 OCqi beta)
    (hrows : HPrimeTotal / cfg.nofSymb ≥ 1 + (cfg.qPrimeRiAck 1 OCqi beta - 1) / 4)
    (hvote : ∀ i < cfg.qPrimeRiAck 1 OCqi beta, VotesOne cfg isRi HPrimeTotal qBits cSeq data.1 i)
    (ackRiBits : Nat → UciBit) (out : Bool × Bool)
    : Arrives cfg isRi HPrimeTotal OCqi beta qBits cSeq ackRiBits out data 1 := by
  have hrun := foldl_decodeSymbol_one hQm hrows (qPrimeRiAck_le ..) hvote ackRiBits
  unfold Arrives srslteUciDecodeAckRi
  rw [if_neg hbeta]
  exact ⟨_, _, rfl, hrun.2.decide_pos hpos, nofun⟩

theorem arrives_two_iff {OCqi : Nat} {beta : Rat} (hbeta : ¬ beta < 0) (hQm : 2 ≤ cfg.Qm)
    (hpos : 3 ≤ cfg.qPrimeRiAck 2 OCqi beta)
    (hrows : HPrimeTotal / cfg.nofSymb ≥ 1 + (cfg.qPrimeRiAck 2 OCqi beta - 1) / 4)
    (hvote : ∀ i < cfg.qPrimeRiAck 2 OCqi beta, VotesTwo cfg isRi HPrimeTotal qBits cSeq data i)
    (ackRiBits : Nat → UciBit) (out : Bool × Bool)
    : Arrives cfg isRi HPrimeTotal OCqi beta qBits cSeq ackRiBits out data 2
        ↔
      ¬ (cfg.qPrimeRiAck 2 OCqi beta = 3 ∧ (data.1 = true ∨ data.2 = true)) := by
  have hrun := foldl_decodeSymbol_two hQm hrows (qPrimeRiAck_le ..) hvote ackRiBits
  unfold Arrives srslteUciDecodeAckRi
  rw [if_neg hbeta]
  dsimp only
  generalize hs : (List.range (cfg.qPrimeRiAck 2 OCqi beta)).foldl
    (srslteUciDecodeAckRi.decodeSymbol cfg qBits cSeq HPrimeTotal 2 isRi) (ackRiBits, {}) = s at hrun ⊢
  simp only [↓reduceIte]
  by_cases h3 : cfg.qPrimeRiAck 2 OCqi beta = 3
  . -- the sums are still 0
    have hzero {b : Bool} {x : Int} (h : Votes b 0 x) : decide (x > 0) = false := by
      refine decide_eq_false ?_
      cases b <;> simp [Votes] at h <;> omega
    rw [h3] at hrun
    have h0 := hzero hrun.2.1
    have h1 := hzero hrun.2.2
    constructor
    . rintro ⟨decoded, bits, heq, hfirst, hsecond⟩ ⟨_, hdata⟩
      simp only [Option.some.injEq, Prod.mk.injEq, h0, h1] at heq
      rw [← heq.1] at hfirst hsecond
      rw [← hfirst, ← hsecond trivial] at hdata
      simp at hdata
    . intro hdata
      simp only [h3, true_and, not_or, Bool.not_eq_true] at hdata
      exact ⟨_, _, rfl, h0.trans hdata.1.symm, fun _ => h1.trans hdata.2.symm⟩
  . have hgroups : 0 < (cfg.qPrimeRiAck 2 OCqi beta - 1) / 3 := by omega
    refine iff_of_true ⟨_, _, rfl, hrun.2.1.decide_pos hgroups, fun _ => ?_⟩ fun h => h3 h.1
    exact hrun.2.2.decide_pos hgroups

end Transport

theorem ackRi_arrives_iff (cfg : PuschCfg) (isRi : Bool) (data : Bool × Bool) {dataLen OCqi HPrimeTotal : Nat}
    {beta : Rat} (hlen : dataLen = 1 ∨ dataLen = 2) (hbeta : 0 ≤ beta) (hQm : cfg.Qm = 2 ∨ cfg.Qm = 4 ∨ cfg.Qm = 6)
    (hpos : 1 ≤ cfg.qPrimeRiAck dataLen OCqi beta) (htwo : dataLen = 2 → 3 ≤ cfg.qPrimeRiAck dataLen OCqi beta)
    (hrows : HPrimeTotal / cfg.nofSymb ≥ 1 + (cfg.qPrimeRiAck dataLen OCqi beta - 1) / 4) (bits : Nat → UciBit)
    : ∃ encoded, srslteUciEncodeAckRi cfg data dataLen OCqi beta HPrimeTotal bits isRi
          = some (encoded, cfg.qPrimeRiAck dataLen OCqi beta) ∧
        ∀ cSeq scrambled qBits ackRiBits out,
          Scrambles cSeq (symbolBits cfg encoded (cfg.qPrimeRiAck dataLen OCqi beta)) scrambled →
          Carries qBits (symbolBits cfg encoded (cfg.qPrimeRiAck dataLen OCqi beta)) scrambled →
          (Arrives cfg isRi HPrimeTotal OCqi beta qBits cSeq ackRiBits out data dataLen ∧
              ((symbolBits cfg encoded (cfg.qPrimeRiAck dataLen OCqi beta)).map UciBit.position).Nodup
            ↔
          ¬ (dataLen = 2 ∧ cfg.qPrimeRiAck dataLen OCqi beta = 3 ∧ (data.1 = true ∨ data.2 = true))) := by
  have hQm2 : 2 ≤ cfg.Qm := by omega
  have hbeta' : ¬ beta < 0 := not_lt.mpr hbeta
  have hlength : (encodeRiAck data dataLen cfg.Qm).length > 0 := by
    obtain rfl | rfl := hlen
    . rw [(encodeRiAck_one hQm2 data 0).1]
      omega
    . rw [(encodeRiAck_two hQm2 data 0).1]
      omega
  obtain ⟨encoded, hencode, hbits⟩ := srslteUciEncodeAckRi_eq hbeta' hlength hrows bits
  refine ⟨encoded, hencode, fun cSeq scrambled qBits ackRiBits out hscrambles hcarries => ?_⟩
  have hpositioned : Positioned cfg isRi HPrimeTotal (cfg.qPrimeRiAck dataLen OCqi beta) encoded := by
    intro i hi k hk
    rw [hbits i hi k hk]
  rw [and_iff_left (nodup_symbolBits hrows hpositioned)]
  obtain rfl | rfl := hlen
  . refine iff_of_true (arrives_one hbeta' hQm2 hpos hrows (fun i hi => ?_) ackRiBits out) fun h => by cases h.1
    apply votesOne_of_encoded hQm2 hi _ _ hscrambles hcarries
    . rw [hbits i hi 0 (by omega), (encodeRiAck_one hQm2 data i).2.1]
    . rw [hbits i hi 1 (by omega), (encodeRiAck_one hQm2 data i).2.2]
  . rw [and_iff_right rfl]
    refine arrives_two_iff hbeta' hQm2 (htwo rfl) hrows (fun i hi => ?_) ackRiBits out
    apply votesTwo_of_encoded hQm2 hi _ _ hscrambles hcarries
    . rw [hbits i hi 0 (by omega), (encodeRiAck_two hQm2 data i).2.1]
    . rw [hbits i hi 1 (by omega), (encodeRiAck_two hQm2 data i).2.2]

def puschOneRb (n : Nat) : PuschCfg where
  C1 := 1
  K1 := 40
  C2 := 0
  K2 := 0
  Qm := 2
  MSc := 12
  MSc_le := by decide
  MScInit := 12
  nofSymb := 12
  cp := .norm
  ceilf _ _ _ _ _ := n

theorem ackRi_arrives_iff_fourSymbols
    : ∃ encoded, srslteUciEncodeAckRi (puschOneRb 4) (true, true) 2 0 1 144 (fun _ => ⟨0, .bit0⟩) false
          = some (encoded, 4) ∧
        ∀ cSeq scrambled qBits ackRiBits out,
          Scrambles cSeq (symbolBits (puschOneRb 4) encoded 4) scrambled →
          Carries qBits (symbolBits (puschOneRb 4) encoded 4) scrambled →
          Arrives (puschOneRb 4) false 144 0 1 qBits cSeq ackRiBits out (true, true) 2 := by
  have ⟨encoded, hencode, h⟩ := @ackRi_arrives_iff (puschOneRb 4) false (true, true) 2 0 144 1 (Or.inr rfl)
    (by decide) (Or.inl rfl) (by decide) (by decide) (by decide) (fun _ => ⟨0, .bit0⟩)
  refine ⟨encoded, hencode, fun cSeq scrambled qBits ackRiBits out hscrambles hcarries => ?_⟩
  exact ((h cSeq scrambled qBits ackRiBits out hscrambles hcarries).mpr (by decide)).1

theorem not_ackRi_arrives_threeSymbols
    : ∃ encoded, srslteUciEncodeAckRi (puschOneRb 3) (true, true) 2 0 1 144 (fun _ => ⟨0, .bit0⟩) false
          = some (encoded, 3) ∧
        ∃ (scrambled : Nat → Bool) (qBits : Nat → Int),
          Scrambles (fun _ => false) (symbolBits (puschOneRb 3) encoded 3) scrambled ∧
          Carries qBits (symbolBits (puschOneRb 3) encoded 3) scrambled ∧
          (srslteUciDecodeAckRi (puschOneRb 3) qBits (fun _ => false) 1 144 0 (fun _ => ⟨0, .bit0⟩) (false, false) 2
            false).map (·.1) = some (false, false) := by
  refine ⟨_, rfl, fun p => decide (p ∈ [70, 71, 239, 214]), fun p => if p ∈ [70, 71, 239, 214] then 100 else -100,
    ?_, ?_, ?_⟩
  . change Scrambles _ [⟨70, .bit1⟩, ⟨71, .bit1⟩, ⟨238, .bit0⟩, ⟨239, .bit1⟩, ⟨214, .bit1⟩, ⟨215, .bit0⟩] _
    simp [Scrambles]
  . change Carries _ [⟨70, .bit1⟩, ⟨71, .bit1⟩, ⟨238, .bit0⟩, ⟨239, .bit1⟩, ⟨214, .bit1⟩, ⟨215, .bit0⟩] _
    simp [Carries]
  . decide

end SrsLte

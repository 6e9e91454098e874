import SrsLte.Data.Scatter
import SrsLte.Common.Basic
import SrsLte.Phy.Common

/-!
This module contains the mapping of the PDSCH to resource elements in `pdsch.c` and `prb_dl.c`, the number of resource
elements of an allocation in `ra.c` and the positions of the cell-specific reference signals in `refsignal_dl.c`.
-/

namespace SrsLte

/-! ### Copying -/

structure CopyState where
  inPtr : Nat := 0
  outPtr : Nat := 0
  copies : List (Nat × Nat) := []
deriving DecidableEq, Repr

namespace CopyState

def copy (n : Nat) (s : CopyState) : CopyState where
  inPtr := s.inPtr + n
  outPtr := s.outPtr + n
  copies := s.copies ++ (List.range n).map fun i => (s.outPtr + i, s.inPtr + i)

def skip (n : Nat) (advanceOutput : Bool) (s : CopyState) : CopyState :=
  if advanceOutput then { s with outPtr := s.outPtr + n } else { s with inPtr := s.inPtr + n }

def seek (ptr : Nat) (put : Bool) (s : CopyState) : CopyState :=
  if put then { s with outPtr := ptr } else { s with inPtr := ptr }

def prbCpRef (offset nofRefs nofIntervals : Nat) (advanceOutput : Bool) (s : CopyState) : CopyState :=
  let refInterval := nre / nofRefs - 1
  let s := s.copy offset
  let s := (List.range (nofIntervals - 1)).foldl (fun s _ => (s.skip 1 advanceOutput).copy refInterval) s
  if refInterval > offset then
    (s.skip 1 advanceOutput).copy (refInterval - offset)
  else
    s

def prbCp (nofPrb : Nat) (s : CopyState) : CopyState :=
  s.copy (nre * nofPrb)

def prbCpHalf (nofPrb : Nat) (s : CopyState) : CopyState :=
  s.copy (nre * nofPrb / 2)

def apply {α : Type} (s : CopyState) (input output : Nat → α) : Nat → α :=
  Scatter.writeAll output (s.copies.map fun c => (c.1, input c.2))

end CopyState

/-! ### Mapping -/

abbrev PrbIdx := Nat → Nat → Bool

structure PdschCp where
  ptrs : CopyState := {}
  offset : Nat := 0
deriving DecidableEq, Repr

namespace Cell

def nofRefs (cell : Cell) : Nat :=
  if cell.nofPorts = 1 then 2 else 4

def isCentral (cell : Cell) (n : Nat) : Bool :=
  n ≥ cell.nofPrb / 2 - 3 && n < cell.nofPrb / 2 + 3 + cell.nofPrb % 2

def refOffset (cell : Cell) (l : Nat) : Nat :=
  if cell.nofRefs = 2 then
    if l = 0 then cell.id % 6 else (cell.id + 3) % 6
  else
    cell.id % 3

def isSss (cell : Cell) (nsubframe s n : Nat) : Bool :=
  s == 0 && (nsubframe == 0 || nsubframe == 5) && cell.isCentral n

def isPbch (cell : Cell) (nsubframe s n : Nat) : Bool :=
  s == 1 && nsubframe == 0 && cell.isCentral n

def lstart (cell : Cell) (lstartGrant nsubframe s n : Nat) : Nat :=
  if cell.isPbch nsubframe s n then 4 else if s = 0 then lstartGrant else 0

def lend (cell : Cell) (nsubframe s n : Nat) : Nat :=
  if cell.isSss nsubframe s n then cell.cp.nsymb - 2 else cell.cp.nsymb

def rePtr (cell : Cell) (s l n : Nat) : Nat :=
  ((l + s * cell.cp.nsymb) * cell.nofPrb + n) * nre

end Cell

namespace PdschCp

variable (cell : Cell) (prbIdx : PrbIdx) (lstartGrant nsubframe : Nat) (put : Bool)

def normal (l : Nat) (st : PdschCp) : PdschCp :=
  if symbolHasRef l cell.cp cell.nofPorts then
    let offset := cell.refOffset l
    { ptrs := st.ptrs.prbCpRef offset cell.nofRefs cell.nofRefs put, offset }
  else
    { st with ptrs := st.ptrs.prbCp 1 }

def half (l : Nat) (st : PdschCp) : PdschCp :=
  if symbolHasRef l cell.cp cell.nofPorts then
    { st with ptrs := st.ptrs.prbCpRef st.offset cell.nofRefs (cell.nofRefs / 2) put }
  else
    { st with ptrs := st.ptrs.prbCpHalf 1 }

def assigned (st : PdschCp) (s l n : Nat) : PdschCp :=
  let lstart := cell.lstart lstartGrant nsubframe s n
  let lend := cell.lend nsubframe s n
  let st := { st with ptrs := st.ptrs.seek (cell.rePtr s l n) put }
  let st := if l ≥ lstart ∧ l < lend then st.normal cell put l else st
  -- If the number or total PRB is odd, half of the the PBCH or SS will fall into the symbol
  if cell.nofPrb % 2 = 1 ∧
      ((cell.isPbch nsubframe s n = true ∧ l < lstart) ∨ (cell.isSss nsubframe s n = true ∧ l ≥ lend)) then
    if n = cell.nofPrb / 2 - 3 then
      st.half cell put l
    else if n = cell.nofPrb / 2 + 3 then
      { st with ptrs := st.ptrs.skip 6 put }.half cell put l
    else
      st
  else
    st

def prb (st : PdschCp) (s l n : Nat) : PdschCp :=
  if prbIdx s n then st.assigned cell lstartGrant nsubframe put s l n else st

end PdschCp

def srsltePdschCp (cell : Cell) (prbIdx : PrbIdx) (lstartGrant nsubframe : Nat) (put : Bool) : PdschCp :=
  (List.range 2).foldl (fun st s =>
    (List.range cell.cp.nsymb).foldl (fun st l =>
      (List.range cell.nofPrb).foldl (fun st n => st.prb cell prbIdx lstartGrant nsubframe put s l n) st) st) {}

def srsltePdschPut {α : Type} (cell : Cell) (symbols sfSymbols : Nat → α) (prbIdx : PrbIdx) (lstart subframe : Nat)
    : (Nat → α) × Nat :=
  let st := srsltePdschCp cell prbIdx lstart subframe true
  (st.ptrs.apply symbols sfSymbols, st.ptrs.inPtr)

def srsltePdschGet {α : Type} (cell : Cell) (sfSymbols symbols : Nat → α) (prbIdx : PrbIdx) (lstart subframe : Nat)
    : (Nat → α) × Nat :=
  let st := srsltePdschCp cell prbIdx lstart subframe false
  (st.ptrs.apply sfSymbols symbols, st.ptrs.outPtr)

/-! ### Number of resource elements -/

/--
The count of `ra_re_x_prb`, given whether the subframe is 0, whether the PRB is one in the middle of subframe 0 or 5,
and whether only half of it is.
-/
def raReXPrb.count (isSf0 central half : Bool) (slot nofPorts nofCtrlSymbols : Nat) (cp : Cp) : Nat :=
  let re := if slot = 0 then
      u32Sub cp.nsymb nofCtrlSymbols * nre
    else
      cp.nsymb * nre
  -- if it's the prb in the middle, there are less RE due to PBCH and PSS/SSS
  let (re, skipRefs) := if central then
      let (re, skipRefs) := if slot = 0 then
          (u32Sub (u32Sub cp.nsymb nofCtrlSymbols) 2 * nre, true)
        else if isSf0 then
          match cp with
          | .ext => ((cp.nsymb - 4) * nre, false)
          | .norm => ((cp.nsymb - 4) * nre + 2 * nofPorts, true)
        else
          (re, true)
      if half then
        if slot = 0 then
          (re + 2 * nre / 2, skipRefs)
        else if isSf0 then
          let re := u32Sub (re + 4 * nre / 2) nofPorts
          match cp with
          | .ext => (u32Sub re (if nofPorts > 2 then 2 else nofPorts), skipRefs)
          | .norm => (re, skipRefs)
        else
          (re, skipRefs)
      else
        (re, skipRefs)
    else
      (re, true)
  -- remove references
  if skipRefs then
    match nofPorts with
    | 1 | 2 => u32Sub re (2 * (slot + 1) * nofPorts)
    | 4 =>
      if slot = 1 then
        u32Sub re 12
      else
        let re := u32Sub re 4
        if nofCtrlSymbols = 1 then u32Sub re 4 else re
    | _ => re % 2 ^ 32
  else
    re % 2 ^ 32

def raReXPrb (subframe slot prbIdx nofPrb nofPorts nofCtrlSymbols : Nat) (cp : Cp) : Nat :=
  let central := (subframe = 0 ∨ subframe = 5) ∧ prbIdx ≥ nofPrb / 2 - 3 ∧ prbIdx < nofPrb / 2 + 3 + nofPrb % 2
  let half := nofPrb % 2 = 1 ∧ (prbIdx = nofPrb / 2 - 3 ∨ prbIdx = nofPrb / 2 + 3)
  raReXPrb.count (subframe = 0) central half slot nofPorts nofCtrlSymbols cp

def srslteRaDlGrantNofRe (cell : Cell) (prbIdx : PrbIdx) (nofCtrlSymbols subframe : Nat) : Nat :=
  (List.range 2).foldl (fun nofRe s =>
    (List.range cell.nofPrb).foldl (fun nofRe n =>
      if prbIdx s n then
        (nofRe + raReXPrb subframe s n cell.nofPrb cell.nofPorts nofCtrlSymbols cell.cp) % 2 ^ 32
      else
        nofRe) nofRe) 0

/-! ### Reference signals -/

def srslteRefsignalCsV (portId refSymbolIdx : Nat) : Nat :=
  match portId with
  | 0 => if refSymbolIdx % 2 = 0 then 0 else 3
  | 1 => if refSymbolIdx % 2 = 0 then 3 else 0
  | 2 => if refSymbolIdx = 0 then 0 else 3
  | 3 => if refSymbolIdx = 0 then 3 else 0
  | _ => 0

def srslteRefsignalCsNofSymbols (portId : Nat) : Nat :=
  if portId < 2 then 4 else 2

def srslteRefsignalCsFidx (cell : Cell) (l portId m : Nat) : Nat :=
  6 * m + (srslteRefsignalCsV portId l + cell.id % 6) % 6

def srslteRefsignalCsNsymbol (l : Nat) (cp : Cp) (portId : Nat) : Nat :=
  if portId < 2 then
    if l % 2 = 1 then (l / 2 + 1) * cp.nsymb - 3 else l / 2 * cp.nsymb
  else
    1 + l * cp.nsymb

def reIdx (nofPrb symbolIdx sampleIdx : Nat) : Nat :=
  symbolIdx * nofPrb * nre + sampleIdx

def Cell.refsignals (cell : Cell) : List Nat :=
  (List.range cell.nofPorts).flatMap fun portId =>
    (List.range (srslteRefsignalCsNofSymbols portId)).flatMap fun l =>
      (List.range (2 * cell.nofPrb)).map fun m =>
        reIdx cell.nofPrb (srslteRefsignalCsNsymbol l cell.cp portId) (srslteRefsignalCsFidx cell l portId m)

end SrsLte

import SrsLte.Enb.Impl.Buffers
import SrsLte.Enb.Lemmas.Rrc

/-!
This module contains the verification that the eNB gives every buffer back exactly once. A buffer that is
in use belongs to the queue or to one thread, and it is given back by the thread that it belongs to.
-/

namespace SrsLte

open List

def BufferThread.holds (thread : BufferThread) : Option Nat :=
  match thread.todo with
  | [] | .allocate :: _ | .allocateOrWait :: _ => none
  | .receive :: _ | .push _ _ :: _ | .deallocate :: _ => thread.pdu

def BufferOp.Alternates (holding : Bool) (todo : List BufferOp) : Prop :=
  match holding, todo with
  | false, [] => True
  | false, .allocate :: todo | false, .allocateOrWait :: todo => Alternates true todo
  | true, .push _ _ :: todo | true, .deallocate :: todo => Alternates false todo
  | true, [.receive] => True
  | _, _ => False

namespace EnbBuffers

inductive Owner where
  | queue
  | thread (t : EnbThread)
  deriving DecidableEq

def queued (s : EnbBuffers) : List Nat :=
  s.rrc.pduQueue.filterMap RrcPdu.pdu

def Owns (s : EnbBuffers) (owner : Owner) (b : Nat) : Prop :=
  match owner with
  | .queue => b ∈ s.queued
  | .thread t => (s.thread t).holds = some b

def NoLeak (s : EnbBuffers) : Prop :=
  ∀ b ∈ s.pool.used, ∃ owner, s.Owns owner b

def DeallocatesOwn (s : EnbBuffers) (event : BufferEvent) : Prop :=
  match event with
  | .run t => ∀ b todo, s.thread t = ⟨some b, .deallocate :: todo⟩ →
    b ∈ s.pool.used ∧ (∀ owner, s.Owns owner b → owner = .thread t) ∧ BufferThread.holds ⟨some b, todo⟩ = none
  | _ => True

def EventOk (s : EnbBuffers) (event : BufferEvent) : Prop :=
  match event with
  | .datagram head =>
    head.id ∈ s.rrc.ueidMap → head.type ≠ srsenbRrcData ∧ (head.type = srsenbRrcNormal → head.lcid < 3)
  | _ => True

structure Inv (s : EnbBuffers) : Prop where
  used : ∀ b, b ∈ s.pool.used ↔ ∃ owner, s.Owns owner b
  unique : ∀ owner owner' b, s.Owns owner b → s.Owns owner' b → owner = owner'
  queued : s.queued.Nodup
  alternates : ∀ t, ∃ holding, BufferOp.Alternates holding (s.thread t).todo

theorem inv_init (capacity : Nat) : (init capacity).Inv := by
  have howns : ∀ owner b, ¬(init capacity).Owns owner b := by
    intro owner b h
    cases owner with
    | queue => cases h
    | thread t => cases h
  constructor
  . intro b
    constructor
    . nofun
    . rintro ⟨owner, h⟩
      exact absurd h (howns owner b)
  . intro owner owner' b h
    exact absurd h (howns owner b)
  . exact nodup_nil
  . intro t
    exact ⟨false, trivial⟩

variable {thread : BufferThread}

theorem holds_of_alternates_true (h : BufferOp.Alternates true thread.todo)
    : thread.holds = thread.pdu := by
  unfold BufferThread.holds
  split
  . next heq => simp [heq, BufferOp.Alternates] at h
  . next heq => simp [heq, BufferOp.Alternates] at h
  . next heq => simp [heq, BufferOp.Alternates] at h
  all_goals rfl

theorem holds_of_alternates_false {thread : BufferThread} (h : BufferOp.Alternates false thread.todo)
    : thread.holds = none := by
  unfold BufferThread.holds
  split
  . rfl
  . rfl
  . rfl
  all_goals
    next heq => simp [heq, BufferOp.Alternates] at h

theorem owns_setThread (s : EnbBuffers) (t : EnbThread) (thread : BufferThread) (owner : Owner) (b : Nat)
    : (s.setThread t thread).Owns owner b
        ↔
      if owner = .thread t then thread.holds = some b else s.Owns owner b := by
  cases owner with
  | queue => rfl
  | thread t' =>
    by_cases heq : t' = t
    . subst heq
      simp [Owns, setThread]
    . simp [Owns, setThread, heq]

theorem alternates_setThread {s : EnbBuffers} (h : ∀ t, ∃ holding, BufferOp.Alternates holding (s.thread t).todo)
    (t : EnbThread) {holding : Bool} (hthread : BufferOp.Alternates holding thread.todo)
    (t' : EnbThread)
    : ∃ holding, BufferOp.Alternates holding ((s.setThread t thread).thread t').todo := by
  by_cases heq : t' = t
  . subst heq
    refine ⟨holding, ?_⟩
    simp only [setThread, Function.update_self]
    exact hthread
  . simp only [setThread, Function.update_of_ne heq]
    exact h t'

section Inv

variable {s : EnbBuffers} (h : s.Inv)

include h

variable {t : EnbThread} {todo : List BufferOp} {s' : EnbBuffers}

theorem Inv.of_move (move : Owner → Nat → Owner)
    (howns : ∀ owner' b, s'.Owns owner' b ↔ ∃ owner, s.Owns owner b ∧ move owner b = owner')
    (hused : s'.pool.used = s.pool.used) (hqueued : s'.queued.Nodup)
    (halternates : ∀ t, ∃ holding, BufferOp.Alternates holding (s'.thread t).todo)
    : s'.Inv where
  used := by
    intro b
    rw [hused, h.used b]
    constructor
    . rintro ⟨owner, howner⟩
      exact ⟨move owner b, (howns _ b).mpr ⟨owner, howner, rfl⟩⟩
    . rintro ⟨owner', howner'⟩
      have ⟨owner, howner, _⟩ := (howns owner' b).mp howner'
      exact ⟨owner, howner⟩
  unique := by
    intro owner₁ owner₂ b h₁ h₂
    obtain ⟨owner, howner, rfl⟩ := (howns owner₁ b).mp h₁
    obtain ⟨owner', howner', rfl⟩ := (howns owner₂ b).mp h₂
    rw [h.unique owner owner' b howner howner']
  queued := hqueued
  alternates := halternates

theorem Inv.of_owns (howns : ∀ owner b, s'.Owns owner b ↔ s.Owns owner b)
    (hused : s'.pool.used = s.pool.used) (hqueued : s'.queued = s.queued)
    (halternates : ∀ t, ∃ holding, BufferOp.Alternates holding (s'.thread t).todo)
    : s'.Inv := by
  apply h.of_move (fun owner _ => owner) ?_ hused (hqueued ▸ h.queued) halternates
  intro owner b
  rw [howns]
  simp

theorem Inv.setThread_idle {thread : BufferThread} (hidle : (s.thread t).holds = none)
    (hthread : BufferOp.Alternates false thread.todo)
    : (s.setThread t thread).Inv := by
  refine h.of_owns ?_ rfl rfl (alternates_setThread h.alternates t hthread)
  intro owner b
  rw [owns_setThread, holds_of_alternates_false hthread]
  split
  . next heq => rw [heq, Owns, hidle]
  . rfl

theorem Inv.setThread_holding (hholds : (s.thread t).holds = (s.thread t).pdu) (htodo : BufferOp.Alternates true todo)
    : (s.setThread t ⟨(s.thread t).pdu, todo⟩).Inv := by
  refine h.of_owns ?_ rfl rfl (alternates_setThread h.alternates t htodo)
  intro owner b
  rw [owns_setThread, holds_of_alternates_true htodo]
  split
  . next heq => rw [heq, Owns, hholds]
  . rfl

theorem Inv.of_queued {rrc : Rrc} (hqueued : rrc.pduQueue.filterMap RrcPdu.pdu = s.queued)
    : Inv { s with rrc } := by
  refine h.of_owns ?_ rfl hqueued h.alternates
  intro owner b
  cases owner with
  | queue => exact iff_of_eq (congrArg (b ∈ ·) hqueued)
  | thread t => rfl

theorem Inv.allocate (hidle : (s.thread t).holds = none)
    (htodo : BufferOp.Alternates true todo) {b : Nat} (hb : s.pool.allocate.2 = some b)
    : ({ s with pool := s.pool.allocate.1 }.setThread t ⟨some b, todo⟩).Inv := by
  have ⟨hnew, hused⟩ := BufferPool.mem_used_allocate hb
  have howns : ∀ owner b', ({ s with pool := s.pool.allocate.1 }.setThread t ⟨some b, todo⟩).Owns owner b'
      ↔ (owner = .thread t ∧ b' = b) ∨ s.Owns owner b' := by
    intro owner b'
    rw [owns_setThread, holds_of_alternates_true htodo]
    split
    . next heq => simp [heq, Owns, hidle, eq_comm]
    . next hne =>
      simp only [hne, false_and, false_or]
      exact Iff.rfl
  have hfree : ∀ owner, ¬s.Owns owner b := by
    intro owner howner
    exact hnew ((h.used b).mpr ⟨owner, howner⟩)
  constructor
  . intro b'
    refine (hused b').trans ?_
    simp only [howns, h.used b']
    constructor
    . rintro (⟨owner, howner⟩ | rfl)
      . exact ⟨owner, .inr howner⟩
      . exact ⟨.thread t, .inl ⟨rfl, rfl⟩⟩
    . rintro ⟨owner, ⟨-, rfl⟩ | howner⟩
      . exact .inr rfl
      . exact .inl ⟨owner, howner⟩
  . intro owner owner' b' h₁ h₂
    rw [howns] at h₁ h₂
    rcases h₁ with ⟨rfl, rfl⟩ | h₁
    . rcases h₂ with ⟨rfl, -⟩ | h₂
      . rfl
      . exact absurd h₂ (hfree owner')
    . rcases h₂ with ⟨rfl, rfl⟩ | h₂
      . exact absurd h₁ (hfree owner)
      . exact h.unique owner owner' b' h₁ h₂
  . exact h.queued
  . exact alternates_setThread h.alternates t htodo

theorem Inv.push (hholds : (s.thread t).holds = (s.thread t).pdu)
    (htodo : BufferOp.Alternates false todo) (rnti lcid : Nat)
    : ({ s with rrc := s.rrc.push ⟨rnti, lcid, (s.thread t).pdu⟩ }.setThread t ⟨(s.thread t).pdu, todo⟩).Inv := by
  have hqueued : EnbBuffers.queued { s with rrc := s.rrc.push ⟨rnti, lcid, (s.thread t).pdu⟩ }
      = s.queued ++ (s.thread t).pdu.toList := by
    unfold EnbBuffers.queued Rrc.push
    cases (s.thread t).pdu <;> simp
  have hthread : ∀ b, s.Owns (.thread t) b ↔ b ∈ (s.thread t).pdu.toList := by
    intro b
    rw [Owns, hholds, Option.mem_toList]
  apply h.of_move (fun owner _ => if owner = .thread t then .queue else owner)
  . intro owner b
    rw [owns_setThread, holds_of_alternates_false htodo]
    cases owner with
    | queue =>
      rw [if_neg nofun, Owns, hqueued, mem_append, ← hthread]
      constructor
      . rintro (hqueue | howner)
        . exact ⟨.queue, hqueue, if_neg nofun⟩
        . exact ⟨.thread t, howner, if_pos rfl⟩
      . rintro ⟨owner, howner, hmove⟩
        split at hmove
        . next heq => exact .inr (heq ▸ howner)
        . subst hmove
          exact .inl howner
    | thread t' =>
      by_cases heq : t' = t
      . rw [if_pos (congrArg Owner.thread heq)]
        constructor
        . nofun
        . rintro ⟨owner, -, hmove⟩
          split at hmove
          . cases hmove
          . next hne => exact absurd (hmove.trans (congrArg Owner.thread heq)) hne
      . have hne : Owner.thread t' ≠ .thread t := fun h => heq (Owner.thread.inj h)
        rw [if_neg hne]
        constructor
        . intro howner
          exact ⟨.thread t', howner, if_neg hne⟩
        . rintro ⟨owner, howner, hmove⟩
          split at hmove
          . cases hmove
          . subst hmove
            exact howner
  . rfl
  . refine (congrArg List.Nodup hqueued).mpr ?_
    rw [nodup_append]
    refine ⟨h.queued, ?_, ?_⟩
    . cases (s.thread t).pdu <;> simp
    . intro b hqueue b' hb' heq
      cases h.unique .queue (.thread t) b hqueue ((hthread b).mpr (heq ▸ hb'))
  . exact alternates_setThread h.alternates t htodo

theorem Inv.pop {t : EnbThread} {todo : List BufferOp} (hidle : (s.thread t).holds = none)
    (htodo : BufferOp.Alternates true todo) {pdu : Option Nat} {rrc : Rrc}
    (hqueued : s.queued = pdu.toList ++ rrc.pduQueue.filterMap RrcPdu.pdu)
    : ({ s with rrc }.setThread t ⟨pdu, todo⟩).Inv := by
  have hnodup := h.queued
  rw [hqueued, nodup_append] at hnodup
  have hqueue : ∀ b, s.Owns .queue b ↔ pdu = some b ∨ b ∈ rrc.pduQueue.filterMap RrcPdu.pdu := by
    intro b
    rw [Owns, hqueued, mem_append, Option.mem_toList]
  apply h.of_move (fun owner b => if owner = .queue ∧ pdu = some b then .thread t else owner)
  . intro owner b
    rw [owns_setThread, holds_of_alternates_true htodo]
    cases owner with
    | queue =>
      rw [if_neg nofun]
      constructor
      . intro hmem
        refine ⟨.queue, (hqueue b).mpr (.inr hmem), if_neg ?_⟩
        rintro ⟨-, hpdu⟩
        exact hnodup.2.2 b (Option.mem_toList.mpr hpdu) b hmem rfl
      . rintro ⟨owner, howner, hmove⟩
        split at hmove
        . cases hmove
        . next hne =>
          subst hmove
          exact ((hqueue b).mp howner).resolve_left fun hpdu => hne ⟨rfl, hpdu⟩
    | thread t' =>
      by_cases heq : t' = t
      . subst heq
        rw [if_pos rfl]
        constructor
        . intro hpdu
          exact ⟨.queue, (hqueue b).mpr (.inl hpdu), if_pos ⟨rfl, hpdu⟩⟩
        . rintro ⟨owner, howner, hmove⟩
          split at hmove
          . next hfirst => exact hfirst.2
          . subst hmove
            rw [Owns, hidle] at howner
            cases howner
      . have hne : Owner.thread t' ≠ .thread t := fun h => heq (Owner.thread.inj h)
        rw [if_neg hne]
        constructor
        . intro howner
          exact ⟨.thread t', howner, if_neg fun hfirst => nomatch hfirst.1⟩
        . rintro ⟨owner, howner, hmove⟩
          split at hmove
          . exact absurd hmove.symm hne
          . subst hmove
            exact howner
  . rfl
  . exact hnodup.2.1
  . exact alternates_setThread h.alternates t htodo

theorem Inv.deallocate {b : Nat} (hholds : (s.thread t).holds = some b) (htodo : BufferOp.Alternates false todo)
    : ({ s with pool := s.pool.deallocate b }.setThread t ⟨some b, todo⟩).Inv := by
  have howns : ∀ owner b', ({ s with pool := s.pool.deallocate b }.setThread t ⟨some b, todo⟩).Owns owner b'
      ↔ b' ≠ b ∧ s.Owns owner b' := by
    intro owner b'
    rw [owns_setThread, holds_of_alternates_false htodo]
    split
    . next heq =>
      rw [heq, Owns, hholds]
      constructor
      . nofun
      . rintro ⟨hne, hsome⟩
        exact absurd (Option.some.inj hsome).symm hne
    . next hne =>
      constructor
      . intro howner
        refine ⟨?_, howner⟩
        rintro rfl
        exact hne (h.unique owner (.thread t) b' howner hholds)
      . exact And.right
  constructor
  . intro b'
    refine (s.pool.mem_used_deallocate b b').trans ?_
    simp only [howns, h.used b', exists_and_left]
  . intro owner owner' b' h₁ h₂
    exact h.unique owner owner' b' ((howns owner b').mp h₁).2 ((howns owner' b').mp h₂).2
  . exact h.queued
  . exact alternates_setThread h.alternates t htodo

theorem Inv.run (t : EnbThread) : (s.run t).Inv := by
  have ⟨holding, halternates⟩ := h.alternates t
  unfold EnbBuffers.run
  cases hthread : s.thread t with
  | mk pdu todo =>
    rw [hthread] at halternates
    cases todo with
    | nil => exact h
    | cons op todo =>
      cases op with
      | allocate =>
        cases holding with
        | true => exact halternates.elim
        | false =>
          have hidle : (s.thread t).holds = none := by rw [hthread]; rfl
          dsimp only
          split
          . next b hb => exact h.allocate hidle halternates hb
          . exact h.setThread_idle hidle trivial
      | allocateOrWait =>
        cases holding with
        | true => exact halternates.elim
        | false =>
          have hidle : (s.thread t).holds = none := by rw [hthread]; rfl
          dsimp only
          split
          . next b hb => exact h.allocate hidle halternates hb
          . exact h
      | receive => exact h
      | push rnti lcid =>
        cases holding with
        | false => exact halternates.elim
        | true =>
          have hholds : (s.thread t).holds = (s.thread t).pdu := by rw [hthread]; rfl
          have hpush := h.push hholds halternates rnti lcid
          rw [hthread] at hpush
          exact hpush
      | deallocate =>
        cases holding with
        | false => exact halternates.elim
        | true =>
          cases pdu with
          | none =>
            have hidle : (s.thread t).holds = none := by rw [hthread]; rfl
            exact h.setThread_idle hidle halternates
          | some b =>
            have hholds : (s.thread t).holds = some b := by rw [hthread]; rfl
            exact h.deallocate hholds halternates

theorem Inv.deallocatesOwn (event : BufferEvent) : s.DeallocatesOwn event := by
  cases event with
  | run t =>
    intro b todo hthread
    have howns : s.Owns (.thread t) b := by
      rw [Owns, hthread]
      rfl
    refine ⟨(h.used b).mpr ⟨.thread t, howns⟩, ?_, ?_⟩
    . intro owner howner
      exact h.unique owner (.thread t) b howner howns
    . have ⟨holding, halternates⟩ := h.alternates t
      rw [hthread] at halternates
      cases holding with
      | false => exact halternates.elim
      | true => exact @holds_of_alternates_false ⟨some b, todo⟩ halternates
  | _ => trivial

end Inv

theorem alternates_queueNasPdu (rnti : Nat) {todo : List BufferOp} (h : BufferOp.Alternates false todo)
    : BufferOp.Alternates false (queueNasPdu rnti ++ todo) :=
  h

theorem alternates_s1apProgram (rrc : Rrc) (msg : S1apDownlink) (mmeConnected : Bool)
    : BufferOp.Alternates false (s1apProgram rrc msg mmeConnected) := by
  have hresponse : BufferOp.Alternates false (sendResponse mmeConnected) := by
    cases mmeConnected <;> trivial
  unfold s1apProgram
  cases msg with
  | dlNasTransport rnti => trivial
  | initialContextSetup rnti nasPdus =>
    dsimp only
    split
    . induction nasPdus with
      | nil => exact hresponse
      | cons present nasPdus ih =>
        rw [flatMap_cons, append_assoc]
        cases present with
        | true => exact alternates_queueNasPdu rnti ih
        | false => exact ih
    . trivial
  | erabSetup rnti erabs =>
    dsimp only
    split
    . induction erabs with
      | zero => exact hresponse
      | succ erabs ih =>
        rw [replicate_succ, flatten_cons, append_assoc]
        exact alternates_queueNasPdu rnti ih
    . trivial

section Step

variable {s : EnbBuffers} (h : s.Inv)

include h

theorem Inv.datagram {head : RrcReceiveHead} (hok : s.EventOk (.datagram head)) : (s.step (.datagram head)).Inv := by
  unfold step
  dsimp only
  split
  . next htodo =>
    have hcall : afterDatagram (s.rrc.receiveUplink head).2 = [.deallocate] := by
      unfold afterDatagram
      split
      . next rnti lcid hgtpu =>
        have ⟨hid, htype, _⟩ := Rrc.receiveUplink_eq_gtpu_iff.mp hgtpu
        have ⟨hdata, hnormal⟩ := hok (Finmap.mem_of_lookup_eq_some hid)
        rcases htype with hdata' | ⟨hnormal', hlcid⟩
        . exact absurd hdata' hdata
        . exact absurd (hnormal hnormal') hlcid
      . rfl
    have hrrc : Inv { s with rrc := (s.rrc.receiveUplink head).1 } := by
      apply h.of_queued
      rw [Rrc.receiveUplink_pduQueue]
      rfl
    have hholds : (s.thread .uplink).holds = (s.thread .uplink).pdu := by
      unfold BufferThread.holds
      rw [htodo]
    rw [hcall]
    exact hrrc.setThread_holding hholds trivial
  . exact h

theorem Inv.sendDownlink : (s.step .sendDownlink).Inv := by
  unfold step
  dsimp only
  split
  . next htodo =>
    split
    . next rrc pdu call hsend =>
      have hidle : (s.thread .downlink).holds = none := by
        unfold BufferThread.holds
        rw [htodo]
      apply @Inv.pop s h .downlink [.deallocate] hidle trivial
      unfold EnbBuffers.queued
      rw [Rrc.sendDownlink_pduQueue hsend]
      cases hpdu : pdu.pdu <;> simp [hpdu]
    . exact h
  . exact h

theorem Inv.push_none (rnti lcid : Nat) : Inv { s with rrc := s.rrc.push ⟨rnti, lcid, none⟩ } := by
  apply h.of_queued
  simp [Rrc.push, EnbBuffers.queued]

theorem Inv.start {t : EnbThread} (htodo : (s.thread t).todo = []) {todo : List BufferOp}
    (halternates : BufferOp.Alternates false todo)
    : (s.setThread t ⟨none, todo⟩).Inv := by
  apply h.setThread_idle
  . unfold BufferThread.holds
    rw [htodo]
  . exact halternates

theorem Inv.step {event : BufferEvent} (hok : s.EventOk event) : (s.step event).Inv := by
  cases event with
  | receiveUplink =>
    unfold EnbBuffers.step
    dsimp only
    split
    . next htodo => exact h.start htodo trivial
    . exact h
  | datagram head => exact h.datagram hok
  | sendDownlink => exact h.sendDownlink
  | s1ap msg mmeConnected =>
    unfold EnbBuffers.step
    dsimp only
    split
    . next htodo => exact h.start htodo (alternates_s1apProgram s.rrc msg mmeConnected)
    . exact h
  | releaseErabs rnti => exact h.push_none _ _
  | releaseComplete rnti =>
    unfold EnbBuffers.step Rrc.releaseComplete
    dsimp only
    split
    . exact h.push_none _ _
    . exact h
  | gtpuStart =>
    unfold EnbBuffers.step
    dsimp only
    split
    . next htodo => exact h.start htodo trivial
    . exact h
  | gtpuPacket rnti lcid =>
    unfold EnbBuffers.step
    dsimp only
    split
    . next htodo =>
      have hholds : (s.thread .gtpu).holds = (s.thread .gtpu).pdu := by
        unfold BufferThread.holds
        rw [htodo]
      exact h.setThread_holding hholds trivial
    . exact h
  | run t => exact h.run t

end Step

theorem released_once (capacity : Nat) (events : List BufferEvent)
    (hok : Trace.Along step EventOk (init capacity) events)
    : Trace.Throughout step NoLeak (init capacity) events ∧ Trace.Along step DeallocatesOwn (init capacity) events := by
  constructor
  . apply @Trace.Throughout.mono EnbBuffers BufferEvent step Inv
    . intro s h b hb
      exact (h.used b).mp hb
    . exact Trace.throughout_of_along (fun _ _ h hok => h.step hok) (inv_init capacity) hok
  . exact Trace.along_of_along (fun _ event h _ => h.deallocatesOwn event) (fun _ _ h hok => h.step hok)
      (inv_init capacity) hok

def datagramOf (type : UInt8) (lcid : UInt16) : BufferEvent :=
  .datagram { type, ip := 0, port := 0, id := 0, lcid, cause := 0 }

theorem released_once_nas
    : Trace.Along step DeallocatesOwn (init 2)
        [.receiveUplink, .run .uplink, datagramOf srsenbRrcAttach 0, .run .uplink,
          .receiveUplink, .run .uplink, datagramOf srsenbRrcNormal 1, .run .uplink,
          .s1ap (.dlNasTransport 1) true, .run .s1ap, .run .s1ap, .sendDownlink, .run .downlink] := by
  apply (released_once 2 _ _).2
  refine ⟨trivial, trivial, ?_, trivial, trivial, trivial, ?_, trivial, trivial, trivial, trivial, trivial, trivial,
    trivial⟩
  . exact fun _ => ⟨by decide, by decide⟩
  . exact fun _ => ⟨by decide, by decide⟩

theorem not_released_once_data
    : ¬(Trace.Throughout step NoLeak (init 2)
          [.receiveUplink, .run .uplink, datagramOf srsenbRrcAttach 0, .run .uplink,
            .receiveUplink, .run .uplink, datagramOf srsenbRrcData 3, .run .uplink, .run .uplink]
        ∧ Trace.Along step DeallocatesOwn (init 2)
          [.receiveUplink, .run .uplink, datagramOf srsenbRrcAttach 0, .run .uplink,
            .receiveUplink, .run .uplink, datagramOf srsenbRrcData 3, .run .uplink, .run .uplink]) := by
  rintro ⟨-, h⟩
  have ⟨_, _, _, _, _, _, _, _, hlast, _⟩ := h
  have hused := (hlast 1 [] (by decide)).1
  revert hused
  decide

end EnbBuffers

end SrsLte

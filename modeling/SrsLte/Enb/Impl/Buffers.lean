import Mathlib.Data.List.Nodup
import Mathlib.Logic.Function.Basic
import SrsLte.Enb.Impl.Rrc

/-!
This module contains the pool of `buffer_pool.h`, in which a buffer is known by a number, and what the threads of the
eNB do with it. A thread works with one buffer at a time and its remaining work is the list of its operations on that
buffer, so that the operations of different threads can be interleaved in any way.
-/

namespace SrsLte

open List

structure BufferPool where
  available : List Nat
  used : List Nat
  available_nodup : available.Nodup
  used_nodup : used.Nodup
  disjoint : List.Disjoint available used

namespace BufferPool

def init (capacity : Nat) : BufferPool where
  available := (List.range capacity).reverse
  used := []
  available_nodup := nodup_reverse.mpr nodup_range
  used_nodup := nodup_nil
  disjoint := disjoint_nil_right _

def allocate (pool : BufferPool) : BufferPool × Option Nat :=
  match pool with
  | ⟨[], used, havailable, hused, hdisjoint⟩ => (⟨[], used, havailable, hused, hdisjoint⟩, none)
  | ⟨b :: available, used, havailable, hused, hdisjoint⟩ =>
    ({
      available
      used := used ++ [b]
      available_nodup := havailable.of_cons
      used_nodup := by
        rw [nodup_append]
        refine ⟨hused, nodup_singleton b, ?_⟩
        intro x hx y hy heq
        rw [mem_singleton] at hy
        exact hdisjoint (mem_cons.mpr (.inl (heq.trans hy))) hx
      disjoint := by
        intro x hx hmem
        rcases mem_append.mp hmem with hold | hnew
        . exact hdisjoint (mem_cons_of_mem b hx) hold
        . rw [mem_singleton] at hnew
          exact (nodup_cons.mp havailable).1 (hnew ▸ hx)
    }, some b)

def deallocate (pool : BufferPool) (b : Nat) : BufferPool :=
  if h : b ∈ pool.used then
    {
      available := b :: pool.available
      used := pool.used.erase b
      available_nodup := nodup_cons.mpr ⟨fun hb => pool.disjoint hb h, pool.available_nodup⟩
      used_nodup := pool.used_nodup.erase b
      disjoint := by
        intro x hx hmem
        rw [pool.used_nodup.mem_erase_iff] at hmem
        rcases mem_cons.mp hx with heq | hold
        . exact hmem.1 heq
        . exact pool.disjoint hold hmem.2
    }
  else
    pool

theorem mem_used_allocate {pool : BufferPool} {b : Nat} (h : pool.allocate.2 = some b)
    : b ∉ pool.used ∧ ∀ b', b' ∈ pool.allocate.1.used ↔ b' ∈ pool.used ∨ b' = b := by
  match pool with
  | ⟨[], _, _, _, _⟩ => cases h
  | ⟨b' :: available, used, havailable, hused, hdisjoint⟩ =>
    cases h
    refine ⟨hdisjoint mem_cons_self, ?_⟩
    intro b'
    simp [allocate]

theorem mem_used_deallocate (pool : BufferPool) (b b' : Nat)
    : b' ∈ (pool.deallocate b).used ↔ b' ≠ b ∧ b' ∈ pool.used := by
  unfold deallocate
  split
  . exact pool.used_nodup.mem_erase_iff
  . next h =>
    constructor
    . intro hmem
      exact ⟨fun heq => h (heq ▸ hmem), hmem⟩
    . exact And.right

end BufferPool

inductive BufferOp where
  /-- `pool->allocate`, the thread gives up when the pool is empty -/
  | allocate
  /-- `pool->allocate` in a loop that waits until there is a buffer -/
  | allocateOrWait
  /-- waits for a packet that is read into the buffer -/
  | receive
  /-- `pdu_queue.push` -/
  | push (rnti lcid : Nat)
  /-- `pool->deallocate` -/
  | deallocate
  deriving DecidableEq, Repr

structure BufferThread where
  pdu : Option Nat
  todo : List BufferOp
  deriving DecidableEq, Repr

inductive EnbThread where
  | uplink
  | downlink
  | s1ap
  | gtpu
  deriving DecidableEq, Repr

inductive S1apDownlink where
  | dlNasTransport (rnti : Nat)
  /-- for each bearer, whether it has a NAS PDU -/
  | initialContextSetup (rnti : Nat) (nasPdus : List Bool)
  | erabSetup (rnti : Nat) (erabs : Nat)
  deriving DecidableEq, Repr

inductive BufferEvent where
  /-- the thread enters `receive_uplink` -/
  | receiveUplink
  /-- the datagram that `receive_uplink` reads -/
  | datagram (head : RrcReceiveHead)
  /-- the thread enters `send_downlink` while the queue has something -/
  | sendDownlink
  | s1ap (msg : S1apDownlink) (mmeConnected : Bool)
  | releaseErabs (rnti : Nat)
  | releaseComplete (rnti : Nat)
  /-- the GTP-U thread starts -/
  | gtpuStart
  /-- a packet of the SPGW for a user that exists and a valid LCID -/
  | gtpuPacket (rnti lcid : Nat)
  /-- a thread does its next operation -/
  | run (thread : EnbThread)

structure EnbBuffers where
  rrc : Rrc
  pool : BufferPool
  thread : EnbThread → BufferThread

namespace EnbBuffers

def init (capacity : Nat) : EnbBuffers where
  rrc := .init
  pool := .init capacity
  thread _ := ⟨none, []⟩

def setThread (s : EnbBuffers) (t : EnbThread) (thread : BufferThread) : EnbBuffers :=
  { s with thread := Function.update s.thread t thread }

def afterDatagram (call : Option UplinkCall) : List BufferOp :=
  match call with
  | some (.gtpuWritePdu _ _) => [.deallocate, .deallocate]
  | _ => [.deallocate]

def queueNasPdu (rnti : Nat) : List BufferOp :=
  [.allocate, .push rnti rbIdSrb1]

def sendResponse (mmeConnected : Bool) : List BufferOp :=
  if mmeConnected then [.allocate, .deallocate] else []

def s1apProgram (rrc : Rrc) (msg : S1apDownlink) (mmeConnected : Bool) : List BufferOp :=
  match msg with
  | .dlNasTransport rnti => queueNasPdu rnti
  | .initialContextSetup rnti nasPdus =>
    if rnti ∈ rrc.rntiMap then
      nasPdus.flatMap (fun present => if present then queueNasPdu rnti else []) ++ sendResponse mmeConnected
    else
      []
  | .erabSetup rnti erabs =>
    if rnti ∈ rrc.rntiMap then
      (List.replicate erabs (queueNasPdu rnti)).flatten ++ sendResponse mmeConnected
    else
      []

def run (s : EnbBuffers) (t : EnbThread) : EnbBuffers :=
  let ⟨pdu, todo⟩ := s.thread t
  match todo with
  | [] => s
  | .allocate :: todo =>
    let (pool, b) := s.pool.allocate
    match b with
    | some b => { s with pool }.setThread t ⟨some b, todo⟩
    | none => s.setThread t ⟨none, []⟩
  | .allocateOrWait :: todo =>
    let (pool, b) := s.pool.allocate
    match b with
    | some b => { s with pool }.setThread t ⟨some b, todo⟩
    | none => s
  | .receive :: _ => s
  | .push rnti lcid :: todo => { s with rrc := s.rrc.push ⟨rnti, lcid, pdu⟩ }.setThread t ⟨pdu, todo⟩
  | .deallocate :: todo =>
    let pool :=
      match pdu with
      | some b => s.pool.deallocate b
      | none => s.pool
    { s with pool }.setThread t ⟨pdu, todo⟩

def step (s : EnbBuffers) (event : BufferEvent) : EnbBuffers :=
  match event with
  | .receiveUplink =>
    if (s.thread .uplink).todo = [] then s.setThread .uplink ⟨none, [.allocate, .receive]⟩ else s
  | .datagram head =>
    if (s.thread .uplink).todo = [.receive] then
      let (rrc, call) := s.rrc.receiveUplink head
      { s with rrc }.setThread .uplink ⟨(s.thread .uplink).pdu, afterDatagram call⟩
    else
      s
  | .sendDownlink =>
    if (s.thread .downlink).todo = [] then
      match s.rrc.sendDownlink with
      | (rrc, some pdu, _) => { s with rrc }.setThread .downlink ⟨pdu.pdu, [.deallocate]⟩
      | (_, none, _) => s
    else
      s
  | .s1ap msg mmeConnected =>
    if (s.thread .s1ap).todo = [] then s.setThread .s1ap ⟨none, s1apProgram s.rrc msg mmeConnected⟩ else s
  | .releaseErabs rnti => { s with rrc := s.rrc.releaseErabs rnti }
  | .releaseComplete rnti => { s with rrc := s.rrc.releaseComplete rnti }
  | .gtpuStart =>
    if (s.thread .gtpu).todo = [] then s.setThread .gtpu ⟨none, [.allocate, .receive]⟩ else s
  | .gtpuPacket rnti lcid =>
    if (s.thread .gtpu).todo = [.receive] then
      s.setThread .gtpu ⟨(s.thread .gtpu).pdu, [.push rnti lcid, .allocateOrWait, .receive]⟩
    else
      s
  | .run t => s.run t

end EnbBuffers

end SrsLte

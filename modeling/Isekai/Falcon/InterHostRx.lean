import Isekai.Falcon.WeightedRoundRobin
import Isekai.Lib.Agenda
import Isekai.Lib.TransitionSystem

/-!
# The inter-host receive scheduler

`gen1/inter_host_rx_scheduler.cc`: one queue of callbacks for each host, a round robin over the
hosts that are not xoffed and have callbacks, and a gap after each callback that depends on the
packet it delivered. While a callback runs, it may set the gap and assert xoff for its own host.
-/

namespace Isekai.Falcon

open Lib Function

inductive InterHostFatal where
  | policy (e : PolicyFatal) | unknownHost | emptyQueue
  deriving DecidableEq, Repr

/-- What a callback does to the scheduler. -/
structure CallbackEffect where
  packetSize : Option Nat := none
  xoff : Bool := false
  deriving DecidableEq, Repr

/-- The record of a callback that started. -/
structure CallbackStart (κ : Type) where
  host : Nat
  callback : κ
  time : Nat
  /-- The gap when the callback returns. -/
  gap : Nat
  /-- The xoff status of the host when the callback starts. -/
  xoffed : Bool
  deriving DecidableEq, Repr

inductive RxAction (κ : Type) where
  | enqueue (host : Nat) (callback : κ)
  | start (run : CallbackStart κ)

/-- The keys of `hosts_queue_` are the numbers below `numberOfHosts`. -/
structure InterHostRxScheduler (κ : Type) where
  numberOfHosts : Nat
  schedulerCycleTime : Nat
  /-- The delay for a packet size at the bandwidth of the link. -/
  serializationDelay : Nat → Nat
  isRunning : Bool := false
  policy : WeightedRoundRobinPolicy Nat
  interPacketGap : Nat := schedulerCycleTime
  lastSchedulerRunTime : Nat := 0
  xoffStatus : Nat → Bool := fun _ => false
  hostsQueue : Nat → List κ := fun _ => []
  agenda : Agenda Unit := {}
  /-- The latest first. -/
  log : List (RxAction κ) := []

namespace InterHostRxScheduler

variable {κ : Type}

section Definitions

variable (s : InterHostRxScheduler κ) (host : Nat)

def initialPolicy (numberOfHosts : Nat) : WeightedRoundRobinPolicy Nat :=
  (List.range numberOfHosts).foldl (fun p host => (p.initializeEntity none host).1)
    { batched := false, enforceOrder := true, lastServicedEntity := 0 }

/-- The constructor; `number_of_hosts` is a `uint8_t`. -/
def initial (numberOfHosts : BitVec 8) (schedulerCycleTime : Nat) (serializationDelay : Nat → Nat) :
    InterHostRxScheduler κ where
  numberOfHosts := numberOfHosts.toNat
  schedulerCycleTime
  serializationDelay
  policy := initialPolicy numberOfHosts.toNat

def start : InterHostRxScheduler κ :=
  let currentTime := s.agenda.now
  let nextRunTime := max (s.lastSchedulerRunTime + s.interPacketGap) currentTime
  { s with isRunning := true, agenda := s.agenda.schedule (nextRunTime - currentTime) () }

def markEntityActive : Except InterHostFatal (InterHostRxScheduler κ) := do
  let (policy, _) ← (s.policy.markEntityActive host).mapError .policy
  return { s with policy }

def markEntityInactive : Except InterHostFatal (InterHostRxScheduler κ) := do
  let (policy, _) ← (s.policy.markEntityInactive host).mapError .policy
  return { s with policy }

def hasWork : InterHostRxScheduler κ × Bool :=
  let (policy, work) := s.policy.hasWork none
  ({ s with policy }, work)

def push (callback : κ) : InterHostRxScheduler κ :=
  { s with
    hostsQueue := update s.hostsQueue host (s.hostsQueue host ++ [callback])
    log := .enqueue host callback :: s.log }

def enqueue (callback : κ) : Except InterHostFatal (InterHostRxScheduler κ) := do
  if ¬host < s.numberOfHosts then throw .unknownHost
  let s := s.push host callback
  let s ← if s.xoffStatus host then pure s else s.markEntityActive host
  return if s.isRunning then s else s.start

def setStatus (xoff : Bool) : InterHostRxScheduler κ :=
  { s with xoffStatus := update s.xoffStatus host xoff }

def setXoff (xoff : Bool) : Except InterHostFatal (InterHostRxScheduler κ) := do
  if ¬host < s.numberOfHosts then throw .unknownHost
  let s := s.setStatus host xoff
  if xoff then s.markEntityInactive host
  else if s.hostsQueue host = [] then return s
  else
    let s ← s.markEntityActive host
    let (s, work) := s.hasWork
    return if work && !s.isRunning then s.start else s

def updateInterPacketGap (packetSize : Nat) : InterHostRxScheduler κ :=
  { s with interPacketGap := max s.schedulerCycleTime (s.serializationDelay packetSize) }

def runCallback (effect : CallbackEffect) : Except InterHostFatal (InterHostRxScheduler κ) := do
  let s := match effect.packetSize with
    | some packetSize => s.updateInterPacketGap packetSize
    | none => s
  if effect.xoff then s.setXoff host true else return s

def pop (run : CallbackStart κ) : InterHostRxScheduler κ :=
  { s with
    hostsQueue := update s.hostsQueue host (s.hostsQueue host).tail
    log := .start run :: s.log }

def continueAfter : InterHostRxScheduler κ :=
  let (s, work) := s.hasWork
  if work then { s with isRunning := true, agenda := s.agenda.schedule s.interPacketGap () } else s

def retire (run : CallbackStart κ) : Except InterHostFatal (InterHostRxScheduler κ) := do
  let s := s.pop host run
  let s ← if s.hostsQueue host = [] then s.markEntityInactive host else pure s
  return s.continueAfter

def serve (effect : CallbackEffect) : Except InterHostFatal (InterHostRxScheduler κ) := do
  if ¬host < s.numberOfHosts then throw .unknownHost
  match s.hostsQueue host with
  | [] => throw .emptyQueue
  | callback :: _ =>
    let xoffed := s.xoffStatus host
    let time := s.agenda.now
    let s ← { s with lastSchedulerRunTime := time }.runCallback host effect
    s.retire host { host, callback, time, gap := s.interPacketGap, xoffed }

def scheduleWork (effect : CallbackEffect) : Except InterHostFatal (InterHostRxScheduler κ) := do
  let s := { s with isRunning := false }
  let (policy, candidate) ← (s.policy.getNextEntity none).mapError .policy
  match candidate with
  | none => return { s with policy }
  | some host => serve { s with policy } host effect

end Definitions

inductive Label (κ : Type) where
  | enqueue (host : Nat) (callback : κ)
  | setXoff (host : Nat) (xoff : Bool)
  /-- A pending event, and what the callback does that it runs. -/
  | scheduleWork (index : Nat) (effect : CallbackEffect)
  | advance (time : Nat)

def Allowed (s : InterHostRxScheduler κ) : Label κ → Prop
  | .enqueue host _ => host < s.numberOfHosts
  | .setXoff host _ => host < s.numberOfHosts
  | .scheduleWork index _ => s.agenda.IsNext index
  | .advance time => s.agenda.Reaches time

instance (s : InterHostRxScheduler κ) : ∀ l, Decidable (s.Allowed l)
  | .enqueue host _ => inferInstanceAs (Decidable (host < _))
  | .setXoff host _ => inferInstanceAs (Decidable (host < _))
  | .scheduleWork index _ => inferInstanceAs (Decidable (s.agenda.IsNext index))
  | .advance time => inferInstanceAs (Decidable (s.agenda.Reaches time))

def next (s : InterHostRxScheduler κ) : Label κ → Except InterHostFatal (InterHostRxScheduler κ)
  | .enqueue host callback => s.enqueue host callback
  | .setXoff host xoff => s.setXoff host xoff
  | .scheduleWork index effect =>
    match s.agenda.pending[index]? with
    | some p => { s with agenda := s.agenda.fire p.1 index }.scheduleWork effect
    | none => pure s
  | .advance time => pure { s with agenda := s.agenda.advance time }

def runs (numberOfHosts : BitVec 8) (schedulerCycleTime : Nat) (serializationDelay : Nat → Nat) :
    TransitionSystem (InterHostRxScheduler κ) (Label κ) InterHostFatal where
  init s := s = initial numberOfHosts schedulerCycleTime serializationDelay
  allowed := Allowed
  next := next

def enqueuedFor (host : Nat) : List (RxAction κ) → List κ
  | [] => []
  | .enqueue other callback :: log =>
    enqueuedFor host log ++ if other = host then [callback] else []
  | .start _ :: log => enqueuedFor host log

def startedFor (host : Nat) : List (RxAction κ) → List κ
  | [] => []
  | .enqueue .. :: log => startedFor host log
  | .start run :: log => startedFor host log ++ if run.host = host then [run.callback] else []

def starts : List (RxAction κ) → List (CallbackStart κ)
  | [] => []
  | .enqueue .. :: log => starts log
  | .start run :: log => run :: starts log

def Spaced (later earlier : CallbackStart κ) : Prop := earlier.time + earlier.gap ≤ later.time

/-- The policy has each host once, with weight one. -/
structure HostPolicy (numberOfHosts : Nat) (p : WeightedRoundRobinPolicy Nat) : Prop where
  consistent : p.Consistent
  entities : p.entities = Finset.range numberOfHosts
  bounded : numberOfHosts < 2 ^ 8
  weight : ∀ host, (p.metadata host).weight = 1

section Policy

open WeightedRoundRobinPolicy

variable {n host : Nat} {p : WeightedRoundRobinPolicy Nat}

lemma nonNegative_none :
    Consistent.NonNegative (none : Option (Nat → Int)) := nofun

lemma initialPolicy_succ (n : Nat) :
    initialPolicy (n + 1) = ((initialPolicy n).initializeEntity none n).1 := by
  unfold initialPolicy
  rw [List.range_succ, List.foldl_append, List.foldl_cons, List.foldl_nil]

lemma initializeEntity_weight (h : ∀ host, (p.metadata host).weight = 1) (x host : Nat) :
    ((p.initializeEntity none x).1.metadata host).weight = 1 := by
  unfold initializeEntity
  split
  · exact h host
  · simp only [setMetadata, update_apply]
    split
    · rfl
    · exact h host

lemma HostPolicy.initial (hn : n < 2 ^ 8) :
    HostPolicy n (initialPolicy n) ∧ ∀ host, (initialPolicy n).isActive host = false := by
  induction n with
  | zero =>
    refine ⟨⟨⟨fun state x => ?_, nofun, nofun, nofun, le_rfl⟩, rfl, hn, fun _ => rfl⟩, fun _ => rfl⟩
    cases state <;> simp [listOf, initialPolicy]
  | succ n ih =>
    obtain ⟨hp, hidle⟩ := ih (Nat.lt_of_succ_lt hn)
    have hnew : n ∉ (initialPolicy n).entities := by
      rw [hp.entities]
      exact Finset.notMem_range_self
    rw [initialPolicy_succ]
    obtain ⟨hconsistent, hentities, hactive⟩ :=
      initializeEntity_spec hp.consistent nonNegative_none hnew
    refine ⟨⟨hconsistent, ?_, hn, initializeEntity_weight hp.weight n⟩, fun host => ?_⟩
    · rw [hentities, hp.entities, Finset.range_add_one]
    · rw [hactive, hidle]

lemma HostPolicy.mem_entities (h : HostPolicy n p) (hhost : host < n) : host ∈ p.entities := by
  rw [h.entities]
  exact Finset.mem_range.mpr hhost

lemma HostPolicy.lt_of_isActive (h : HostPolicy n p) (hactive : p.isActive host = true) :
    host < n := by
  have hmem := (h.consistent.isActive_iff.mp hactive).1
  rw [h.entities] at hmem
  exact Finset.mem_range.mp hmem

lemma HostPolicy.fits (h : HostPolicy n p) : p.Fits none := by
  have hbounded := h.bounded
  change (p.entities.card : Int) < 2 ^ 31
  rw [h.entities, Finset.card_range]
  omega

/-- All weights are positive, so there is work exactly when a host is active. -/
lemma HostPolicy.hasWork (h : HostPolicy n p) :
    HostPolicy n (p.hasWork none).1 ∧ (∀ x, (p.hasWork none).1.isActive x = p.isActive x) ∧
      ((p.hasWork none).2 = true ↔ ∃ x, p.isActive x = true) := by
  obtain ⟨hconsistent, hsame, hready, hidle, -⟩ := hasWork_spec h.consistent nonNegative_none h.fits
  refine ⟨⟨hconsistent, ?_, h.bounded, fun x => ?_⟩, hsame.isActive, fun hwork => ?_,
    fun ⟨x, hx⟩ => ?_⟩
  · rw [hsame.entities, h.entities]
  · rw [weight_hasWork_none, h.weight]
  · obtain ⟨x, hx⟩ := Finset.nonempty_iff_ne_empty.mpr (hready.mp hwork).eligible
    refine ⟨x, ?_⟩
    rw [← hsame.isActive]
    simp [isActive, hx]
  · by_contra hnot
    have hweight : (p.metadata x).weight ≤ 0 := hidle (Bool.eq_false_of_not_eq_true hnot) x hx
    rw [h.weight] at hweight
    omega

lemma HostPolicy.getNextEntity (h : HostPolicy n p) :
    Ensures (fun _ => False) (fun q => HostPolicy n q.1 ∧ (∀ x, q.1.isActive x = p.isActive x) ∧
      (∀ x, q.2 = some x → p.isActive x = true) ∧ (q.2 = none → ∀ x, p.isActive x = false))
      (p.getNextEntity none) := by
  have hspec := getNextEntity_spec h.consistent nonNegative_none h.fits
  refine (hspec.and (getNextEntity_weight p)).imp ?_
  rintro q ⟨⟨hconsistent, hsame, hsome, hnone, -⟩, hweight⟩
  refine ⟨⟨hconsistent, ?_, h.bounded, fun x => ?_⟩, hsame.isActive, hsome, fun hq x => ?_⟩
  · rw [hsame.entities, h.entities]
  · rw [hweight, h.weight]
  · by_contra hx
    have hle : (p.metadata x).weight ≤ 0 := hnone hq x (Bool.eq_true_of_not_eq_false hx)
    rw [h.weight] at hle
    omega

lemma HostPolicy.markEntityActive (h : HostPolicy n p) (hhost : host < n) :
    Ensures (fun _ => False) (fun q => HostPolicy n q.1 ∧
      ∀ x, q.1.isActive x = if x = host then true else p.isActive x) (p.markEntityActive host) := by
  have hspec := markEntityActive_spec h.consistent (h.mem_entities hhost)
  refine (hspec.and (markEntityActive_weight p host)).imp ?_
  rintro q ⟨⟨hconsistent, hentities, hactive⟩, hweight⟩
  refine ⟨⟨hconsistent, hentities.trans h.entities, h.bounded, fun x => ?_⟩, hactive⟩
  exact (hweight x).trans (h.weight x)

lemma HostPolicy.markEntityInactive (h : HostPolicy n p) (hhost : host < n) :
    Ensures (fun _ => False) (fun q => HostPolicy n q.1 ∧
      ∀ x, q.1.isActive x = if x = host then false else p.isActive x)
      (p.markEntityInactive host) := by
  have hspec := markEntityInactive_spec h.consistent (h.mem_entities hhost)
  refine (hspec.and (markEntityInactive_weight p host)).imp ?_
  rintro q ⟨⟨hconsistent, hentities, hactive⟩, hweight⟩
  refine ⟨⟨hconsistent, hentities.trans h.entities, h.bounded, fun x => ?_⟩, hactive⟩
  exact (hweight x).trans (h.weight x)

end Policy

/-! ## The invariant -/

/-- The policy, the xoff status and the queues agree on the hosts that are active. -/
structure InStep (s : InterHostRxScheduler κ) : Prop where
  policy : HostPolicy s.numberOfHosts s.policy
  active : ∀ host < s.numberOfHosts,
    s.policy.isActive host = true ↔ s.xoffStatus host = false ∧ s.hostsQueue host ≠ []

/-- The log agrees with the queues and the gaps. -/
structure Recorded (s : InterHostRxScheduler κ) : Prop where
  queued : ∀ host, enqueuedFor host s.log = startedFor host s.log ++ s.hostsQueue host
  spaced : (starts s.log).Pairwise Spaced
  gap : ∀ run ∈ starts s.log, run.time + run.gap ≤ s.lastSchedulerRunTime + s.interPacketGap
  xon : ∀ run ∈ starts s.log, run.xoffed = false

/-- One event is pending exactly while the scheduler runs. -/
structure Driven (s : InterHostRxScheduler κ) : Prop where
  pending : s.agenda.pending.length = if s.isRunning then 1 else 0
  due : ∀ p ∈ s.agenda.pending, s.lastSchedulerRunTime + s.interPacketGap ≤ p.1

structure Inv (s : InterHostRxScheduler κ) : Prop where
  inStep : s.InStep
  recorded : s.Recorded
  driven : s.Driven
  busy : ∀ host, s.policy.isActive host = true → s.isRunning = true

section Steps

variable {s : InterHostRxScheduler κ} {host : Nat} {s' : InterHostRxScheduler κ}

lemma Inv.initial (n : BitVec 8) (cycle : Nat) (delay : Nat → Nat) :
    (initial n cycle delay : InterHostRxScheduler κ).Inv := by
  obtain ⟨hpolicy, hidle⟩ := HostPolicy.initial n.isLt
  refine ⟨⟨hpolicy, fun host _ => ?_⟩, ⟨fun _ => rfl, .nil, nofun, nofun⟩, ⟨rfl, nofun⟩,
    fun host hh => ?_⟩
  · refine iff_of_false ?_ fun h => h.2 rfl
    exact Bool.eq_false_iff.mp (hidle host)
  · exact absurd hh (Bool.eq_false_iff.mp (hidle host))

def Marks (s : InterHostRxScheduler κ) (host : Nat) (active : Bool) (s' : InterHostRxScheduler κ) :
    Prop :=
  ∃ policy, s' = { s with policy } ∧ HostPolicy s.numberOfHosts policy ∧
    ∀ x, policy.isActive x = if x = host then active else s.policy.isActive x

lemma markEntityActive_marks (hp : HostPolicy s.numberOfHosts s.policy)
    (hhost : host < s.numberOfHosts) :
    Ensures (fun _ => False) (s.Marks host true) (s.markEntityActive host) := by
  refine (hp.markEntityActive hhost).mapError.bind ?_
  rintro ⟨policy, _⟩ ⟨hpolicy, hactive⟩
  exact ⟨policy, rfl, hpolicy, hactive⟩

lemma markEntityInactive_marks (hp : HostPolicy s.numberOfHosts s.policy)
    (hhost : host < s.numberOfHosts) :
    Ensures (fun _ => False) (s.Marks host false) (s.markEntityInactive host) := by
  refine (hp.markEntityInactive hhost).mapError.bind ?_
  rintro ⟨policy, _⟩ ⟨hpolicy, hactive⟩
  exact ⟨policy, rfl, hpolicy, hactive⟩

lemma InStep.hasWork (h : s.InStep) : s.hasWork.1.InStep ∧
    (∀ x, s.hasWork.1.policy.isActive x = s.policy.isActive x) ∧
    (s.hasWork.2 = true ↔ ∃ x, s.policy.isActive x = true) := by
  obtain ⟨hpolicy, hsame, hwork⟩ := h.policy.hasWork
  refine ⟨⟨hpolicy, fun x hx => ?_⟩, hsame, hwork⟩
  exact (Bool.eq_iff_iff.mp (hsame x)).trans (h.active x hx)

lemma start_driven (hpending : s.agenda.pending = []) : s.start.Driven := by
  unfold start Agenda.schedule
  refine ⟨by simp [hpending], fun p hp => ?_⟩
  dsimp only at hp ⊢
  rw [hpending, List.nil_append, List.mem_singleton] at hp
  subst hp
  omega

lemma Driven.pending_eq_nil (h : s.Driven) (hrunning : s.isRunning = false) :
    s.agenda.pending = [] := by
  have hlen := h.pending
  rw [hrunning] at hlen
  exact List.length_eq_zero_iff.mp hlen

lemma Recorded.of_eq (h : s.Recorded) (hlog : s'.log = s.log)
    (hqueue : s'.hostsQueue = s.hostsQueue) (hgap : s.lastSchedulerRunTime + s.interPacketGap ≤
      s'.lastSchedulerRunTime + s'.interPacketGap) : s'.Recorded := by
  obtain ⟨hqueued, hspaced, hrun, hxon⟩ := h
  refine ⟨?_, ?_, ?_, ?_⟩
  · rw [hlog, hqueue]
    exact hqueued
  · rw [hlog]
    exact hspaced
  · rw [hlog]
    exact fun run hmem => (hrun run hmem).trans hgap
  · rw [hlog]
    exact hxon

lemma Marks.inStep {active : Bool} (h : s.Marks host active s')
    (hhost : active = true ↔ s.xoffStatus host = false ∧ s.hostsQueue host ≠ [])
    (hother : ∀ x < s.numberOfHosts, x ≠ host →
      (s.policy.isActive x = true ↔ s.xoffStatus x = false ∧ s.hostsQueue x ≠ [])) : s'.InStep := by
  obtain ⟨policy, rfl, hpolicy, hactive⟩ := h
  refine ⟨hpolicy, fun x hx => ?_⟩
  rw [hactive]
  by_cases heq : x = host
  · rw [if_pos heq, heq]
    exact hhost
  · rw [if_neg heq]
    exact hother x hx heq

lemma inv_startIfIdle (hstep : s.InStep) (hrecorded : s.Recorded) (hdriven : s.Driven) :
    (if s.isRunning then s else s.start).Inv := by
  split
  · rename_i hrunning
    exact ⟨hstep, hrecorded, hdriven, fun _ _ => hrunning⟩
  · rename_i hidle
    have hpending := hdriven.pending_eq_nil (Bool.eq_false_of_not_eq_true hidle)
    exact ⟨⟨hstep.policy, hstep.active⟩, hrecorded.of_eq rfl rfl le_rfl, start_driven hpending,
      fun _ _ => rfl⟩

lemma Recorded.push (h : s.Recorded) (host : Nat) (callback : κ) :
    (s.push host callback).Recorded := by
  refine ⟨fun x => ?_, h.spaced, h.gap, h.xon⟩
  simp only [InterHostRxScheduler.push, enqueuedFor, startedFor, h.queued x]
  by_cases hx : host = x
  · subst hx
    rw [if_pos rfl, update_self, List.append_assoc]
  · rw [if_neg hx, List.append_nil, update_of_ne (Ne.symm hx)]

lemma enqueue_inv (h : s.Inv) (hhost : host < s.numberOfHosts) (callback : κ) :
    Ensures (fun _ => False) Inv (s.enqueue host callback) := by
  have hrecorded := h.recorded.push host callback
  have hother : ∀ x < s.numberOfHosts, x ≠ host → (s.policy.isActive x = true ↔
      s.xoffStatus x = false ∧ (s.push host callback).hostsQueue x ≠ []) := by
    intro x hx hne
    simp only [push, update_of_ne hne]
    exact h.inStep.active x hx
  have hpush : (s.push host callback).hostsQueue host ≠ [] := by
    simp [push]
  have hdriven : (s.push host callback).Driven := ⟨h.driven.pending, h.driven.due⟩
  unfold enqueue
  rw [if_neg (not_not.mpr hhost)]
  refine Ensures.ite (fun hxoff => ?_) fun hxon => ?_
  · refine inv_startIfIdle ⟨h.inStep.policy, fun x hx => ?_⟩ hrecorded hdriven
    by_cases hne : x = host
    · have hxoff : s.xoffStatus x = true := hne ▸ hxoff
      have hidle := h.inStep.active x hx
      simpa [push, hxoff] using hidle
    · exact hother x hx hne
  · have hmarks := markEntityActive_marks (s := s.push host callback) h.inStep.policy hhost
    refine hmarks.bind fun s₁ hs₁ => ?_
    have hstep := hs₁.inStep (iff_of_true rfl ⟨Bool.eq_false_of_not_eq_true hxon, hpush⟩) hother
    obtain ⟨policy, rfl, -, -⟩ := hs₁
    exact inv_startIfIdle hstep (hrecorded.of_eq rfl rfl le_rfl) ⟨hdriven.pending, hdriven.due⟩

lemma inv_startOnWork {work : Bool} (hstep : s.InStep) (hrecorded : s.Recorded)
    (hdriven : s.Driven) (hwork : work = true ↔ ∃ x, s.policy.isActive x = true) :
    (if work && !s.isRunning then s.start else s).Inv := by
  cases hrunning : s.isRunning with
  | true =>
    rw [Bool.not_true, Bool.and_false, if_neg Bool.false_ne_true]
    exact ⟨hstep, hrecorded, hdriven, fun _ _ => hrunning⟩
  | false =>
    cases work with
    | true =>
      have hinv := inv_startIfIdle hstep hrecorded hdriven
      rw [hrunning] at hinv
      exact hinv
    | false =>
      refine ⟨hstep, hrecorded, hdriven, fun x hx => ?_⟩
      exact absurd (hwork.mpr ⟨x, hx⟩) Bool.false_ne_true

lemma InStep.setStatus_of_ne (h : s.InStep) (xoff : Bool) :
    ∀ x < s.numberOfHosts, x ≠ host → (s.policy.isActive x = true ↔
      (s.setStatus host xoff).xoffStatus x = false ∧ s.hostsQueue x ≠ []) := by
  intro x hx hne
  simp only [setStatus, update_of_ne hne]
  exact h.active x hx

lemma setXoff_true (h : s.InStep) (hhost : host < s.numberOfHosts) :
    Ensures (fun _ => False) (fun s' => s'.InStep ∧
      (∀ x, s'.policy.isActive x = true → s.policy.isActive x = true) ∧
      ∃ policy, s' = { s.setStatus host true with policy }) (s.setXoff host true) := by
  have hmarks := markEntityInactive_marks (s := s.setStatus host true) h.policy hhost
  unfold setXoff
  rw [if_neg (not_not.mpr hhost)]
  refine hmarks.imp fun s' hs' => ⟨hs'.inStep ?_ (h.setStatus_of_ne true), fun x hx => ?_, ?_⟩
  · simp [setStatus]
  · obtain ⟨policy, rfl, -, hactive⟩ := hs'
    rw [hactive] at hx
    split at hx
    · cases hx
    · exact hx
  · obtain ⟨policy, rfl, -, -⟩ := hs'
    exact ⟨policy, rfl⟩

lemma setXoff_inv (h : s.Inv) (hhost : host < s.numberOfHosts) (xoff : Bool) :
    Ensures (fun _ => False) Inv (s.setXoff host xoff) := by
  have hrecorded : (s.setStatus host xoff).Recorded := h.recorded.of_eq rfl rfl le_rfl
  cases xoff with
  | true =>
    refine (setXoff_true h.inStep hhost).imp ?_
    rintro s' ⟨hstep, hactive, policy, rfl⟩
    exact ⟨hstep, h.recorded.of_eq rfl rfl le_rfl, ⟨h.driven.pending, h.driven.due⟩,
      fun x hx => h.busy x (hactive x hx)⟩
  | false =>
    unfold setXoff
    rw [if_neg (not_not.mpr hhost)]
    dsimp only
    rw [if_neg Bool.false_ne_true]
    refine Ensures.ite (fun hempty => ?_) fun hqueue => ?_
    · refine ⟨⟨h.inStep.policy, fun x hx => ?_⟩, hrecorded,
        ⟨h.driven.pending, h.driven.due⟩, h.busy⟩
      by_cases hne : x = host
      · have hempty : s.hostsQueue x = [] := hne ▸ hempty
        have hidle := h.inStep.active x hx
        simpa [setStatus, hempty] using hidle
      · exact h.inStep.setStatus_of_ne false x hx hne
    · have hmarks := markEntityActive_marks (s := s.setStatus host false) h.inStep.policy hhost
      refine hmarks.bind fun s₁ hs₁ => ?_
      have hstep := hs₁.inStep (iff_of_true rfl ⟨update_self .., hqueue⟩)
        (h.inStep.setStatus_of_ne false)
      obtain ⟨policy, rfl, -, -⟩ := hs₁
      obtain ⟨hwork, hsame, hiff⟩ := hstep.hasWork
      refine inv_startOnWork hwork (h.recorded.of_eq rfl rfl le_rfl)
        ⟨h.driven.pending, h.driven.due⟩ ?_
      simp only [hsame]
      exact hiff

lemma runCallback_inStep (h : s.InStep) (hhost : host < s.numberOfHosts) (effect : CallbackEffect) :
    Ensures (fun _ => False) (fun s' => s'.InStep ∧ ∃ policy interPacketGap xoffStatus,
      s' = { s with policy, interPacketGap, xoffStatus }) (s.runCallback host effect) := by
  have hgap : ∃ interPacketGap, (match effect.packetSize with
      | some packetSize => s.updateInterPacketGap packetSize
      | none => s) = { s with interPacketGap } := by
    cases effect.packetSize with
    | some packetSize => exact ⟨_, rfl⟩
    | none => exact ⟨_, rfl⟩
  obtain ⟨gap, hgap⟩ := hgap
  have hstep : ({ s with interPacketGap := gap } : InterHostRxScheduler κ).InStep :=
    ⟨h.policy, h.active⟩
  unfold runCallback
  rw [hgap]
  refine Ensures.ite (fun _ => ?_) fun _ => ?_
  · refine (setXoff_true hstep hhost).imp ?_
    rintro s' ⟨hs', -, policy, rfl⟩
    exact ⟨hs', policy, gap, _, rfl⟩
  · exact ⟨hstep, s.policy, gap, s.xoffStatus, rfl⟩

lemma Recorded.pop {run : CallbackStart κ} {rest : List κ} (h : s.Recorded)
    (hhost : run.host = host) (hqueue : s.hostsQueue host = run.callback :: rest)
    (htime : s.lastSchedulerRunTime + s.interPacketGap ≤ run.time) (hxon : run.xoffed = false)
    (hlog : s'.log = s.log) (hqueues : s'.hostsQueue = s.hostsQueue)
    (hlast : s'.lastSchedulerRunTime = run.time) (hgap : s'.interPacketGap = run.gap) :
    (s'.pop host run).Recorded := by
  subst hhost
  have hearlier : ∀ earlier ∈ starts s.log, Spaced run earlier :=
    fun earlier hmem => (h.gap earlier hmem).trans htime
  unfold InterHostRxScheduler.pop
  refine ⟨fun x => ?_, ?_, fun other hother => ?_, fun other hother => ?_⟩
  · simp only [enqueuedFor, startedFor, hlog, hqueues, h.queued x]
    by_cases hx : run.host = x
    · subst hx
      rw [if_pos rfl, update_self, hqueue, List.append_assoc]
      rfl
    · rw [if_neg hx, List.append_nil, update_of_ne (Ne.symm hx)]
  · simp only [starts, hlog]
    exact List.pairwise_cons.mpr ⟨hearlier, h.spaced⟩
  · simp only [starts, hlog, List.mem_cons] at hother
    rw [hlast, hgap]
    rcases hother with rfl | hother
    · exact le_rfl
    · exact (hearlier other hother).trans (Nat.le_add_right _ _)
  · simp only [starts, hlog, List.mem_cons] at hother
    rcases hother with rfl | hother
    · exact hxon
    · exact h.xon other hother

lemma continueAfter_inv (hstep : s.InStep) (hrecorded : s.Recorded)
    (hpending : s.agenda.pending = []) (hrunning : s.isRunning = false)
    (hnow : s.lastSchedulerRunTime = s.agenda.now) : s.continueAfter.Inv := by
  obtain ⟨hwork, hsame, hiff⟩ := hstep.hasWork
  unfold continueAfter
  dsimp only
  split
  · refine ⟨⟨hwork.policy, hwork.active⟩, hrecorded.of_eq rfl rfl le_rfl, ⟨?_, fun p hp => ?_⟩,
      fun _ _ => rfl⟩
    · simp [hasWork, Agenda.schedule, hpending]
    · simp only [hasWork, Agenda.schedule, hpending, List.nil_append, List.mem_singleton] at hp
      subst hp
      exact (congrArg (· + s.interPacketGap) hnow).le
  · rename_i hnone
    refine ⟨hwork, hrecorded.of_eq rfl rfl le_rfl, ⟨?_, fun p hp => ?_⟩, fun x hx => ?_⟩
    · simp [hasWork, hpending, hrunning]
    · simp [hasWork, hpending] at hp
    · rw [hsame] at hx
      exact absurd (hiff.mpr ⟨x, hx⟩) hnone

lemma retire_inv {run : CallbackStart κ} (hstep : s.InStep) (hrecorded : (s.pop host run).Recorded)
    (hhost : host < s.numberOfHosts) (hqueue : s.hostsQueue host ≠ [])
    (hpending : s.agenda.pending = []) (hrunning : s.isRunning = false)
    (hnow : s.lastSchedulerRunTime = s.agenda.now) :
    Ensures (fun _ => False) Inv (s.retire host run) := by
  have hother : ∀ x < s.numberOfHosts, x ≠ host → (s.policy.isActive x = true ↔
      s.xoffStatus x = false ∧ (s.pop host run).hostsQueue x ≠ []) := by
    intro x hx hne
    simp only [pop, update_of_ne hne]
    exact hstep.active x hx
  refine Ensures.ite (fun hempty => ?_) fun hmore => ?_
  · have hmarks := markEntityInactive_marks (s := s.pop host run) hstep.policy hhost
    refine hmarks.bind fun s₁ hs₁ => ?_
    have hstep₁ := hs₁.inStep (iff_of_false nofun fun h => h.2 hempty) hother
    obtain ⟨policy, rfl, -, -⟩ := hs₁
    exact continueAfter_inv hstep₁ (hrecorded.of_eq rfl rfl le_rfl) hpending hrunning hnow
  · refine continueAfter_inv ⟨hstep.policy, fun x hx => ?_⟩ hrecorded hpending hrunning hnow
    by_cases hne : x = host
    · subst hne
      refine (hstep.active x hx).trans (and_congr_right fun _ => ?_)
      exact iff_of_true hqueue hmore
    · exact hother x hx hne

lemma serve_inv (hstep : s.InStep) (hrecorded : s.Recorded) (hpending : s.agenda.pending = [])
    (hrunning : s.isRunning = false)
    (hnow : s.lastSchedulerRunTime + s.interPacketGap ≤ s.agenda.now)
    (hactive : s.policy.isActive host = true) (effect : CallbackEffect) :
    Ensures (fun _ => False) Inv (s.serve host effect) := by
  have hhost := hstep.policy.lt_of_isActive hactive
  obtain ⟨hxon, hqueue⟩ := (hstep.active host hhost).mp hactive
  unfold serve
  rw [if_neg (not_not.mpr hhost)]
  cases hcallbacks : s.hostsQueue host with
  | nil => exact absurd hcallbacks hqueue
  | cons callback rest =>
    have hcallback := runCallback_inStep (s := { s with lastSchedulerRunTime := s.agenda.now })
      ⟨hstep.policy, hstep.active⟩ hhost effect
    refine hcallback.bind ?_
    rintro s₁ ⟨hstep₁, policy, gap, xoffStatus, hs₁⟩
    have hpop : (s₁.pop host ⟨host, callback, s.agenda.now, s₁.interPacketGap,
        s.xoffStatus host⟩).Recorded := by
      refine hrecorded.pop rfl hcallbacks hnow hxon ?_ ?_ ?_ rfl <;> rw [hs₁]
    apply retire_inv hstep₁ hpop <;> rw [hs₁]
    · exact hhost
    · exact hqueue
    · exact hpending
    · exact hrunning

lemma scheduleWork_inv (hstep : s.InStep) (hrecorded : s.Recorded)
    (hpending : s.agenda.pending = [])
    (hnow : s.lastSchedulerRunTime + s.interPacketGap ≤ s.agenda.now) (effect : CallbackEffect) :
    Ensures (fun _ => False) Inv (s.scheduleWork effect) := by
  refine hstep.policy.getNextEntity.mapError.bind ?_
  rintro ⟨policy, candidate⟩ ⟨hpolicy, hsame, hsome, hnone⟩
  have hstep₁ : ({ s with isRunning := false, policy } : InterHostRxScheduler κ).InStep :=
    ⟨hpolicy, fun x hx => (Bool.eq_iff_iff.mp (hsame x)).trans (hstep.active x hx)⟩
  cases candidate with
  | none =>
    refine ⟨hstep₁, hrecorded.of_eq rfl rfl le_rfl, ⟨?_, fun p hp => ?_⟩, fun x hx => ?_⟩
    · simp [hpending]
    · simp [hpending] at hp
    · rw [hsame, hnone rfl] at hx
      cases hx
  | some host =>
    refine serve_inv hstep₁ (hrecorded.of_eq rfl rfl le_rfl) hpending rfl hnow ?_ effect
    exact (hsame host).trans (hsome host rfl)

lemma next_inv {l : Label κ} (h : s.Inv) (hl : s.Allowed l) :
    Ensures (fun _ => False) Inv (s.next l) := by
  cases l with
  | enqueue host callback => exact enqueue_inv h hl callback
  | setXoff host xoff => exact setXoff_inv h hl xoff
  | advance time =>
    exact ⟨⟨h.inStep.policy, h.inStep.active⟩, h.recorded.of_eq rfl rfl le_rfl,
      ⟨h.driven.pending, h.driven.due⟩, h.busy⟩
  | scheduleWork index effect =>
    obtain ⟨p, hp, -⟩ := hl
    have hmem := List.mem_of_getElem? hp
    have hpending : s.agenda.pending.eraseIdx index = [] := by
      obtain ⟨hlt, -⟩ := List.getElem?_eq_some_iff.mp hp
      have hlength := List.length_eraseIdx_of_lt hlt
      have hone := h.driven.pending
      apply List.length_eq_zero_iff.mp
      split at hone <;> omega
    simp only [next]
    rw [hp]
    exact scheduleWork_inv (s := { s with agenda := s.agenda.fire p.1 index })
      ⟨h.inStep.policy, h.inStep.active⟩ (h.recorded.of_eq rfl rfl le_rfl) hpending
      (h.driven.due p hmem) effect

end Steps

/-- The callbacks of each host are a prefix of those enqueued for it, none starts while its host is
xoffed, and any two start at least the gap of the earlier one apart. A host is active in the policy
exactly when it is not xoffed and has callbacks; one event is pending at most, and one is when a
host is active. No step fails. -/
theorem inter_host_rx_scheduling (numberOfHosts : BitVec 8) (schedulerCycleTime : Nat)
    (serializationDelay : Nat → Nat) {s : InterHostRxScheduler κ}
    (h : (runs numberOfHosts schedulerCycleTime serializationDelay).Reachable (fun _ _ => True) s) :
    (∀ host, startedFor host s.log <+: enqueuedFor host s.log) ∧
      (∀ run ∈ starts s.log, run.xoffed = false) ∧
      (starts s.log).Pairwise Spaced ∧
      (∀ host < s.numberOfHosts,
        s.policy.isActive host = true ↔ s.xoffStatus host = false ∧ s.hostsQueue host ≠ []) ∧
      s.agenda.pending.length ≤ 1 ∧
      (∀ host, s.policy.isActive host = true → s.agenda.pending.length = 1) ∧
      ∀ l, s.Allowed l → ∃ s', s.next l = .ok s' := by
  have hinv : s.Inv := by
    refine h.invariant (I := Inv) (E := fun _ => False) ?_ fun s l hs hl _ => next_inv hs hl
    rintro s rfl
    exact .initial ..
  refine ⟨fun host => ⟨s.hostsQueue host, (hinv.recorded.queued host).symm⟩, hinv.recorded.xon,
    hinv.recorded.spaced, hinv.inStep.active, ?_, fun host hactive => ?_, fun l hl => ?_⟩
  · rw [hinv.driven.pending]
    split <;> omega
  · rw [hinv.driven.pending, hinv.busy host hactive, if_pos rfl]
  · have hnext := next_inv hinv hl
    cases hs' : s.next l with
    | ok s' => exact ⟨s', rfl⟩
    | error e =>
      rw [hs'] at hnext
      exact hnext.elim

instance (n : BitVec 8) (cycle : Nat) (delay : Nat → Nat) (s : InterHostRxScheduler κ)
    (l : Label κ) :
    Decidable ((runs n cycle delay).allowed s l) := inferInstanceAs (Decidable (s.Allowed l))

/-- The first callback of host 0 xoffs its host, so that the second waits while host 1 is served. -/
theorem inter_host_rx_scheduling_xoff : ∃ s : InterHostRxScheduler Nat,
    (runs 2 5 id).Reachable (fun _ _ => True) s ∧
      (starts s.log).map (fun run => (run.host, run.callback, run.time)) =
        [(0, 12, 50), (1, 20, 13), (0, 11, 5)] ∧
      (starts s.log).Pairwise Spaced := by
  obtain ⟨s, hs, hstarts⟩ := TransitionSystem.Reachable.exists_of_run
    (T := runs 2 5 id) (C := fun _ _ => True) (s := initial 2 5 id)
    (P := fun s => (starts s.log).map (fun run => (run.host, run.callback, run.time)) =
      [(0, 12, 50), (1, 20, 13), (0, 11, 5)])
    [.enqueue 0 11, .enqueue 0 12, .enqueue 1 20,
      .scheduleWork 0 { packetSize := some 8, xoff := true },
      .scheduleWork 0 {}, .advance 50, .setXoff 0 false, .scheduleWork 0 {}]
    rfl (by decide +kernel)
  exact ⟨s, hs, hstarts, (inter_host_rx_scheduling 2 5 id hs).2.2.1⟩

end InterHostRxScheduler

end Isekai.Falcon

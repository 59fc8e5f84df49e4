import Isekai.Lib.Outcome
import Mathlib.Algebra.BigOperators.Group.Finset.Basic
import Mathlib.Algebra.Order.BigOperators.Group.Finset
import Mathlib.Algebra.Order.Ring.Int
import Mathlib.Data.Finset.Max

/-!
# The weighted round robin policy

`gen1/weighted_round_robin_policy.h`. The policy keeps every entity in one of four lists; a round
gives each entity credits for its weight, and a sub-round takes one credit of every active entity.
The calls that may fetch weights get the values of the weight fetcher as an argument, so that they
may change at any time; `none` stands for a policy without fetcher.
-/

namespace Isekai.Falcon

open Lib Function

inductive EntityState where
  | idle | eligible | waiting | waitingGoingIdle
  deriving DecidableEq, Repr

def EntityState.isActive (state : EntityState) : Bool := state = .eligible || state = .waiting

/-- The state and the credits of an entity. -/
structure EntityMetadata where
  state : EntityState := .idle
  weight : Int := 1
  remainingCredits : Int := 0
  roundNumber : Int := -1
  deriving DecidableEq, Repr

/-- The value of an `int`: overflow wraps. -/
def toInt32 (z : Int) : Int := z.bmod (2 ^ 32)

lemma toInt32_eq {z : Int} (hnonneg : 0 ≤ z) (hlt : z < 2 ^ 31) : toInt32 z = z :=
  Int.bmod_eq_of_le_mul_two (by omega) (by omega)

inductive PolicyFatal where
  | unknownEntity | noRemainingCredits | noGlobalCredits
  deriving DecidableEq, Repr

/-- The keys of `metadata_` are `entities`. -/
structure WeightedRoundRobinPolicy (α : Type) where
  batched : Bool
  enforceOrder : Bool
  idle : Finset α := ∅
  eligible : Finset α := ∅
  waiting : Finset α := ∅
  waitingGoingIdle : Finset α := ∅
  entities : Finset α := ∅
  metadata : α → EntityMetadata := fun _ => {}
  globalRoundNumber : Int := 0
  globalCreditsRemaining : Int := 0
  lastServicedEntity : α

namespace WeightedRoundRobinPolicy

variable {α : Type} [LinearOrder α]

def least (s : Finset α) : Option α := if h : s.Nonempty then some (s.min' h) else none

section Definitions

variable (p : WeightedRoundRobinPolicy α) (weights : Option (α → Int)) (x : α)

def setMetadata (m : EntityMetadata) : WeightedRoundRobinPolicy α :=
  { p with metadata := update p.metadata x m }

/-- `InitializeEntity`; the flag is clear when the entity exists already. -/
def initializeEntity : WeightedRoundRobinPolicy α × Bool :=
  if x ∈ p.entities then (p, false)
  else
    ({ p.setMetadata x
        { state := .idle
          weight := match weights with
            | some fetch => fetch x
            | none => 1
          remainingCredits := 0
          roundNumber := -1 } with
      idle := insert x p.idle
      entities := insert x p.entities
      lastServicedEntity := x }, true)

/-- `DeleteEntity`; the flag is clear when there is no such entity. -/
def deleteEntity : WeightedRoundRobinPolicy α × Bool :=
  if x ∈ p.entities then
    let p :=
      match (p.metadata x).state with
      | .idle => { p with idle := p.idle.erase x }
      | .eligible => { p with eligible := p.eligible.erase x }
      | .waiting => { p with waiting := p.waiting.erase x }
      | .waitingGoingIdle => { p with waitingGoingIdle := p.waitingGoingIdle.erase x }
    ({ p with entities := p.entities.erase x }, true)
  else (p, false)

def isActive : Bool := x ∈ p.eligible || x ∈ p.waiting

def retireGoingIdle : WeightedRoundRobinPolicy α :=
  { p with
    metadata := fun x =>
      if x ∈ p.waitingGoingIdle then { p.metadata x with state := .idle } else p.metadata x
    idle := p.idle ∪ p.waitingGoingIdle
    waitingGoingIdle := ∅ }

def promoteWaiting (test : EntityMetadata → Bool) : WeightedRoundRobinPolicy α :=
  { p with
    metadata := fun x =>
      if x ∈ p.waiting ∧ test (p.metadata x) then { p.metadata x with state := .eligible }
      else p.metadata x
    eligible := p.eligible ∪ p.waiting.filter fun x => test (p.metadata x)
    waiting := p.waiting.filter fun x => !test (p.metadata x) }

def startSubRound : WeightedRoundRobinPolicy α :=
  (p.promoteWaiting fun m => 0 < m.remainingCredits).retireGoingIdle

/-- The credits of a new round, before they are stored in an `int`. -/
def weightSum : Int :=
  match weights with
  | some fetch => ∑ x ∈ p.entities, fetch x
  | none => p.entities.card

/-- The credits of a new round fit in an `int`. -/
def Fits : Prop := p.weightSum weights < 2 ^ 31

instance : Decidable (p.Fits weights) := inferInstanceAs (Decidable (_ < _))

/-- The loop of `ResetAndRestartRound` over all entities. The sum is an `int`; that each addition
wraps makes no difference to it. -/
def fetchWeights : WeightedRoundRobinPolicy α :=
  { p with
    metadata :=
      match weights with
      | some fetch => fun x =>
        if x ∈ p.entities then { p.metadata x with weight := fetch x } else p.metadata x
      | none => p.metadata
    globalCreditsRemaining := toInt32 (p.weightSum weights)
    globalRoundNumber := toInt32 (p.globalRoundNumber + 1) }

def renew (m : EntityMetadata) : EntityMetadata :=
  { m with remainingCredits := m.weight, roundNumber := p.globalRoundNumber }

def renewEligible : WeightedRoundRobinPolicy α :=
  { p with
    metadata := fun x =>
      if x ∈ p.eligible then
        if (p.metadata x).weight ≤ 0 then { p.renew (p.metadata x) with state := .waiting }
        else p.renew (p.metadata x)
      else p.metadata x
    eligible := p.eligible.filter fun x => ¬(p.metadata x).weight ≤ 0
    waiting := p.waiting ∪ p.eligible.filter fun x => (p.metadata x).weight ≤ 0 }

def creditWaiting : WeightedRoundRobinPolicy α :=
  { p with
    metadata := fun x => if x ∈ p.waiting then p.renew (p.metadata x) else p.metadata x }

def renewWaiting : WeightedRoundRobinPolicy α :=
  p.creditWaiting.promoteWaiting fun m => 0 < m.weight

def resetAndRestartRound : WeightedRoundRobinPolicy α :=
  (p.fetchWeights weights).renewEligible.renewWaiting.retireGoingIdle

def isRoundOver : WeightedRoundRobinPolicy α × Bool :=
  if p.globalCreditsRemaining = 0 then (p, true)
  else if p.eligible ≠ ∅ then (p, false)
  else if p.waiting = ∅ then (p, true)
  else
    let p := p.startSubRound
    (p, p.eligible = ∅)

def hasWork : WeightedRoundRobinPolicy α × Bool :=
  let (p, ended) := p.isRoundOver
  if ended then
    let p := p.resetAndRestartRound weights
    (p, p.eligible ≠ ∅)
  else (p, true)

/-- The eligible entity to be serviced next: the first one, or with `enforce_order_` the first one
after the last that was serviced. -/
def nextEligible : Option α :=
  if p.enforceOrder then
    (least (p.eligible.filter (p.lastServicedEntity < ·))).or (least p.eligible)
  else least p.eligible

/-- Returning an entity costs it a credit. -/
def service : Except PolicyFatal (WeightedRoundRobinPolicy α) :=
  let m := p.metadata x
  if ¬0 < m.remainingCredits then throw .noRemainingCredits
  else if ¬0 < p.globalCreditsRemaining then throw .noGlobalCredits
  else
    let m := { m with remainingCredits := m.remainingCredits - 1 }
    let p := { p with
      globalCreditsRemaining := p.globalCreditsRemaining - 1
      lastServicedEntity := if p.enforceOrder then x else p.lastServicedEntity }
    if !p.batched || m.remainingCredits = 0 then
      pure { p.setMetadata x { m with state := .waiting } with
        eligible := p.eligible.erase x
        waiting := insert x p.waiting }
    else pure (p.setMetadata x m)

/-- `GetNextEntity`; `none` when the source returns `UnavailableError`. -/
def getNextEntity : Except PolicyFatal (WeightedRoundRobinPolicy α × Option α) :=
  if p.eligible = ∅ ∧ p.waiting = ∅ then pure (p, none)
  else
    let (p, ended) := p.isRoundOver
    let p := if ended then p.resetAndRestartRound weights else p
    match p.nextEligible with
    | none => pure (p, none)
    | some x => do
      let p ← p.service x
      pure (p, some x)

def markEntityActive : Except PolicyFatal (WeightedRoundRobinPolicy α × Bool) :=
  if x ∉ p.entities then throw .unknownEntity
  else
    let m := p.metadata x
    match m.state with
    | .eligible | .waiting => pure (p, false)
    | .idle =>
      let m :=
        if m.roundNumber < p.globalRoundNumber then
          { m with remainingCredits := m.weight, roundNumber := p.globalRoundNumber }
        else m
      if m.remainingCredits = 0 then
        pure ({ p.setMetadata x { m with state := .waiting } with
          waiting := insert x p.waiting
          idle := p.idle.erase x }, true)
      else
        pure ({ p.setMetadata x { m with state := .eligible } with
          eligible := insert x p.eligible
          idle := p.idle.erase x }, true)
    | .waitingGoingIdle =>
      pure ({ p.setMetadata x { m with state := .waiting } with
        waiting := insert x p.waiting
        waitingGoingIdle := p.waitingGoingIdle.erase x }, true)

def markEntityInactive : Except PolicyFatal (WeightedRoundRobinPolicy α × Bool) :=
  if x ∉ p.entities then throw .unknownEntity
  else
    let m := p.metadata x
    match m.state with
    | .idle | .waitingGoingIdle => pure (p, false)
    | .eligible =>
      pure ({ p.setMetadata x { m with state := .idle } with
        idle := insert x p.idle
        eligible := p.eligible.erase x }, true)
    | .waiting =>
      pure ({ p.setMetadata x { m with state := .waitingGoingIdle } with
        waitingGoingIdle := insert x p.waitingGoingIdle
        waiting := p.waiting.erase x }, true)

end Definitions

/-! ## Weights -/

section Weights

variable (p : WeightedRoundRobinPolicy α) (x : α)

@[simp] lemma weight_retireGoingIdle :
    (p.retireGoingIdle.metadata x).weight = (p.metadata x).weight := by
  unfold retireGoingIdle
  dsimp only
  split <;> rfl

@[simp] lemma weight_promoteWaiting (test : EntityMetadata → Bool) :
    ((p.promoteWaiting test).metadata x).weight = (p.metadata x).weight := by
  unfold promoteWaiting
  dsimp only
  split <;> rfl

@[simp] lemma weight_startSubRound :
    (p.startSubRound.metadata x).weight = (p.metadata x).weight := by
  simp [startSubRound]

@[simp] lemma weight_renewEligible :
    (p.renewEligible.metadata x).weight = (p.metadata x).weight := by
  unfold renewEligible
  dsimp only
  split
  · split <;> rfl
  · rfl

@[simp] lemma weight_creditWaiting :
    (p.creditWaiting.metadata x).weight = (p.metadata x).weight := by
  unfold creditWaiting
  dsimp only
  split <;> rfl

@[simp] lemma weight_isRoundOver :
    (p.isRoundOver.1.metadata x).weight = (p.metadata x).weight := by
  unfold isRoundOver
  split
  · rfl
  split
  · rfl
  split
  · rfl
  · exact weight_startSubRound p x

@[simp] lemma weight_resetAndRestartRound_none :
    ((p.resetAndRestartRound none).metadata x).weight = (p.metadata x).weight := by
  simp [resetAndRestartRound, renewWaiting, fetchWeights]

@[simp] lemma weight_hasWork_none :
    ((p.hasWork none).1.metadata x).weight = (p.metadata x).weight := by
  unfold hasWork
  dsimp only
  split <;> simp

lemma weight_update {metadata : α → EntityMetadata} {m : EntityMetadata} {y : α}
    (hm : m.weight = (metadata y).weight) (x : α) :
    (update metadata y m x).weight = (metadata x).weight := by
  rw [update_apply]
  split
  · rename_i h
    rw [hm, h]
  · rfl

lemma service_weight (y : α) : Ensures (fun _ => True)
    (fun q => ∀ x, (q.metadata x).weight = (p.metadata x).weight) (p.service y) := by
  refine Ensures.ite (fun _ => trivial) fun _ => Ensures.ite (fun _ => trivial) fun _ => ?_
  exact Ensures.ite (fun _ => weight_update rfl) fun _ => weight_update rfl

lemma getNextEntity_weight : Ensures (fun _ => True)
    (fun q => ∀ x, (q.1.metadata x).weight = (p.metadata x).weight) (p.getNextEntity none) := by
  refine Ensures.ite (fun _ _ => rfl) fun _ => ?_
  dsimp only
  have hround : ∀ x, ((if p.isRoundOver.2 = true then p.isRoundOver.1.resetAndRestartRound none
      else p.isRoundOver.1).metadata x).weight = (p.metadata x).weight := by
    split <;> simp
  split
  · exact hround
  · exact (service_weight _ _).bind fun q hq x => (hq x).trans (hround x)

lemma markEntityActive_weight (y : α) : Ensures (fun _ => True)
    (fun q => ∀ x, (q.1.metadata x).weight = (p.metadata x).weight) (p.markEntityActive y) := by
  refine Ensures.ite (fun _ => trivial) fun _ => ?_
  dsimp only
  split
  · exact fun _ => rfl
  · exact fun _ => rfl
  · refine Ensures.ite (fun _ => weight_update ?_) fun _ => weight_update ?_ <;>
      (dsimp only; split <;> rfl)
  · exact weight_update rfl

lemma markEntityInactive_weight (y : α) : Ensures (fun _ => True)
    (fun q => ∀ x, (q.1.metadata x).weight = (p.metadata x).weight) (p.markEntityInactive y) := by
  refine Ensures.ite (fun _ => trivial) fun _ => ?_
  dsimp only
  split
  · exact fun _ => rfl
  · exact fun _ => rfl
  · exact weight_update rfl
  · exact weight_update rfl

end Weights

/-! ## Consistency -/

def listOf (p : WeightedRoundRobinPolicy α) : EntityState → Finset α
  | .idle => p.idle
  | .eligible => p.eligible
  | .waiting => p.waiting
  | .waitingGoingIdle => p.waitingGoingIdle

/-- Each entity is in exactly the list named by its state, and the credits are in order. -/
structure Consistent (p : WeightedRoundRobinPolicy α) : Prop where
  listed : ∀ state x, x ∈ p.listOf state ↔ x ∈ p.entities ∧ (p.metadata x).state = state
  weight_nonneg : ∀ x ∈ p.entities, 0 ≤ (p.metadata x).weight
  credits_nonneg : ∀ x ∈ p.entities, 0 ≤ (p.metadata x).remainingCredits
  eligible_pos : ∀ x ∈ p.eligible, 0 < (p.metadata x).remainingCredits
  global_nonneg : 0 ≤ p.globalCreditsRemaining

variable {p : WeightedRoundRobinPolicy α} {weights : Option (α → Int)} {x y : α}

lemma least_eq_none_iff {s : Finset α} : least s = none ↔ s = ∅ := by
  unfold least
  split
  · rename_i h
    simp [h.ne_empty]
  · rename_i h
    simpa using h

lemma mem_of_least {s : Finset α} (h : least s = some x) : x ∈ s := by
  unfold least at h
  split at h
  · cases h
    exact s.min'_mem _
  · cases h

namespace Consistent

omit [LinearOrder α] in
lemma mem_idle (h : p.Consistent) : x ∈ p.idle ↔ x ∈ p.entities ∧ (p.metadata x).state = .idle :=
  h.listed .idle x

omit [LinearOrder α] in
lemma mem_eligible (h : p.Consistent) :
    x ∈ p.eligible ↔ x ∈ p.entities ∧ (p.metadata x).state = .eligible :=
  h.listed .eligible x

omit [LinearOrder α] in
lemma mem_waiting (h : p.Consistent) :
    x ∈ p.waiting ↔ x ∈ p.entities ∧ (p.metadata x).state = .waiting :=
  h.listed .waiting x

omit [LinearOrder α] in
lemma mem_waitingGoingIdle (h : p.Consistent) :
    x ∈ p.waitingGoingIdle ↔ x ∈ p.entities ∧ (p.metadata x).state = .waitingGoingIdle :=
  h.listed .waitingGoingIdle x

lemma isActive_iff (h : p.Consistent) : p.isActive x = true ↔ x ∈ p.entities ∧
    ((p.metadata x).state = .eligible ∨ (p.metadata x).state = .waiting) := by
  simp only [isActive, Bool.or_eq_true, decide_eq_true_eq, h.mem_eligible, h.mem_waiting]
  tauto

lemma isActive_eq (h : p.Consistent) (hx : x ∈ p.entities) :
    p.isActive x = (p.metadata x).state.isActive := by
  rw [Bool.eq_iff_iff, h.isActive_iff]
  simp [EntityState.isActive, hx]

lemma isActive_eq_ite (h : p.Consistent) (hx : x ∈ p.entities) {active : Bool}
    (hactive : (p.metadata x).state.isActive = active) (y : α) :
    p.isActive y = if y = x then active else p.isActive y := by
  split
  · rename_i hy
    rw [hy, h.isActive_eq hx, hactive]
  · rfl

lemma update (h : p.Consistent) {m : EntityMetadata} {q : WeightedRoundRobinPolicy α}
    (hx : x ∈ p.entities) (hentities : q.entities = p.entities)
    (hmetadata : q.metadata = update p.metadata x m)
    (hlists : ∀ state, q.listOf state =
      if m.state = state then insert x (p.listOf state) else (p.listOf state).erase x)
    (hweight : 0 ≤ m.weight) (hcredits : 0 ≤ m.remainingCredits)
    (heligible : m.state = .eligible → 0 < m.remainingCredits)
    (hglobal : 0 ≤ q.globalCreditsRemaining) :
    q.Consistent ∧ ∀ y, q.isActive y = if y = x then m.state.isActive else p.isActive y := by
  have hlisted : ∀ state y, y ∈ q.listOf state ↔
      y ∈ q.entities ∧ (q.metadata y).state = state := by
    intro state y
    rw [hlists, hentities, hmetadata, update_apply]
    by_cases hy : y = x
    · subst hy
      split <;> simp_all
    · rw [if_neg hy, ← h.listed]
      split <;> simp [hy]
  have hconsistent : q.Consistent := by
    refine ⟨hlisted, fun y hy => ?_, fun y hy => ?_, fun y hy => ?_, hglobal⟩
    · rw [hentities] at hy
      rw [hmetadata, update_apply]
      split
      · exact hweight
      · exact h.weight_nonneg y hy
    · rw [hentities] at hy
      rw [hmetadata, update_apply]
      split
      · exact hcredits
      · exact h.credits_nonneg y hy
    · have hstate := (hlisted .eligible y).mp hy
      rw [hentities, hmetadata, update_apply] at hstate
      rw [hmetadata, update_apply]
      split
      · rename_i heq
        rw [if_pos heq] at hstate
        exact heligible hstate.2
      · rename_i hne
        rw [if_neg hne] at hstate
        exact h.eligible_pos y ((h.listed .eligible y).mpr hstate)
  refine ⟨hconsistent, fun y => ?_⟩
  split
  · rename_i hy
    subst hy
    rw [hconsistent.isActive_eq (hentities ▸ hx), hmetadata, update_self]
  · rename_i hy
    rw [Bool.eq_iff_iff, hconsistent.isActive_iff, h.isActive_iff, hentities, hmetadata,
      update_of_ne hy]

lemma retireGoingIdle (h : p.Consistent) : p.retireGoingIdle.Consistent := by
  have hmetadata : ∀ x, p.retireGoingIdle.metadata x =
      if (x ∈ p.entities ∧ (p.metadata x).state = .waitingGoingIdle) then
        { p.metadata x with state := .idle } else p.metadata x := by
    intro x
    simp only [← h.mem_waitingGoingIdle]
    rfl
  refine ⟨fun state x => ?_, fun x hx => ?_, fun x hx => ?_, fun x hx => ?_, h.global_nonneg⟩
  · rw [hmetadata]
    cases state <;>
      simp only [listOf, WeightedRoundRobinPolicy.retireGoingIdle, Finset.mem_union,
        Finset.notMem_empty, h.mem_idle, h.mem_eligible, h.mem_waiting, h.mem_waitingGoingIdle] <;>
      split <;> simp_all
  · rw [hmetadata]
    split <;> exact h.weight_nonneg x hx
  · rw [hmetadata]
    split <;> exact h.credits_nonneg x hx
  · rw [hmetadata]
    split <;> exact h.eligible_pos x hx

lemma promoteWaiting (h : p.Consistent) {test : EntityMetadata → Bool}
    (htest : ∀ x ∈ p.waiting, test (p.metadata x) = true → 0 < (p.metadata x).remainingCredits) :
    (p.promoteWaiting test).Consistent := by
  have hmetadata : ∀ x, (p.promoteWaiting test).metadata x =
      if ((x ∈ p.entities ∧ (p.metadata x).state = .waiting) ∧ test (p.metadata x) = true) then
        { p.metadata x with state := .eligible } else p.metadata x := by
    intro x
    simp only [← h.mem_waiting]
    rfl
  refine ⟨fun state x => ?_, fun x hx => ?_, fun x hx => ?_, fun x hx => ?_, h.global_nonneg⟩
  · rw [hmetadata]
    cases state <;>
      simp only [listOf, WeightedRoundRobinPolicy.promoteWaiting, Finset.mem_union,
        Finset.mem_filter, h.mem_idle, h.mem_eligible, h.mem_waiting, h.mem_waitingGoingIdle] <;>
      split <;> simp_all
  · rw [hmetadata]
    split <;> exact h.weight_nonneg x hx
  · rw [hmetadata]
    split <;> exact h.credits_nonneg x hx
  · rw [hmetadata]
    simp only [WeightedRoundRobinPolicy.promoteWaiting, Finset.mem_union, Finset.mem_filter] at hx
    have hpos : 0 < (p.metadata x).remainingCredits := by
      rcases hx with hx | ⟨hx, hpasses⟩
      · exact h.eligible_pos x hx
      · exact htest x hx hpasses
    split <;> exact hpos

lemma startSubRound (h : p.Consistent) : p.startSubRound.Consistent :=
  (h.promoteWaiting fun _ _ hpasses => of_decide_eq_true hpasses).retireGoingIdle

def NonNegative (weights : Option (α → Int)) : Prop := ∀ fetch ∈ weights, ∀ x, 0 ≤ fetch x

omit [LinearOrder α] in
lemma weightSum_nonneg (hw : NonNegative weights) : 0 ≤ p.weightSum weights := by
  cases weights with
  | none => exact Int.natCast_nonneg _
  | some fetch => exact Finset.sum_nonneg fun x _ => hw fetch rfl x

lemma globalCredits_fetchWeights (hw : NonNegative weights) (hfits : p.Fits weights) :
    (p.fetchWeights weights).globalCreditsRemaining = p.weightSum weights :=
  toInt32_eq (weightSum_nonneg hw) hfits

lemma fetchWeights (h : p.Consistent) (hw : NonNegative weights) (hfits : p.Fits weights) :
    (p.fetchWeights weights).Consistent := by
  have hglobal : 0 ≤ (p.fetchWeights weights).globalCreditsRemaining := by
    rw [globalCredits_fetchWeights hw hfits]
    exact weightSum_nonneg hw
  cases weights with
  | none => exact ⟨h.listed, h.weight_nonneg, h.credits_nonneg, h.eligible_pos, hglobal⟩
  | some fetch =>
    have hfetch : ∀ x, 0 ≤ fetch x := hw fetch rfl
    refine ⟨fun state x => ?_, fun x hx => ?_, fun x hx => ?_, fun x hx => ?_, hglobal⟩
    · have hlisted := h.listed state x
      simp only [WeightedRoundRobinPolicy.fetchWeights]
      cases state <;> simp only [listOf] at hlisted ⊢ <;> rw [hlisted] <;> split <;> rfl
    · simp only [WeightedRoundRobinPolicy.fetchWeights]
      split
      · exact hfetch x
      · exact h.weight_nonneg x hx
    · simp only [WeightedRoundRobinPolicy.fetchWeights]
      split <;> exact h.credits_nonneg x hx
    · simp only [WeightedRoundRobinPolicy.fetchWeights]
      split <;> exact h.eligible_pos x hx

lemma renewEligible (h : p.Consistent) : p.renewEligible.Consistent := by
  have hmetadata : ∀ x, p.renewEligible.metadata x =
      if x ∈ p.entities ∧ (p.metadata x).state = .eligible then
        if (p.metadata x).weight ≤ 0 then { p.renew (p.metadata x) with state := .waiting }
        else p.renew (p.metadata x)
      else p.metadata x := by
    intro x
    simp only [← h.mem_eligible]
    rfl
  refine ⟨fun state x => ?_, fun x hx => ?_, fun x hx => ?_, fun x hx => ?_, h.global_nonneg⟩
  · rw [hmetadata]
    cases state <;>
      simp only [listOf, WeightedRoundRobinPolicy.renewEligible, Finset.mem_union, renew,
        Finset.mem_filter, h.mem_idle, h.mem_eligible, h.mem_waiting, h.mem_waitingGoingIdle] <;>
      (split; split) <;> simp_all
  · rw [hmetadata]
    have := h.weight_nonneg x hx
    split
    · split <;> exact this
    · exact this
  · rw [hmetadata]
    split
    · split <;> exact h.weight_nonneg x hx
    · exact h.credits_nonneg x hx
  · simp only [WeightedRoundRobinPolicy.renewEligible, Finset.mem_filter] at hx
    rw [hmetadata, if_pos (h.mem_eligible.mp hx.1), if_neg hx.2]
    exact not_le.mp hx.2

lemma creditWaiting (h : p.Consistent) : p.creditWaiting.Consistent := by
  have hmetadata : ∀ x, p.creditWaiting.metadata x =
      if x ∈ p.waiting then p.renew (p.metadata x) else p.metadata x := fun _ => rfl
  refine ⟨fun state x => ?_, fun x hx => ?_, fun x hx => ?_, fun x hx => ?_, h.global_nonneg⟩
  · have hstate : (p.creditWaiting.metadata x).state = (p.metadata x).state := by
      rw [hmetadata]
      split <;> rfl
    rw [hstate]
    have hlisted := h.listed state x
    cases state <;> exact hlisted
  · rw [hmetadata]
    split <;> exact h.weight_nonneg x hx
  · rw [hmetadata]
    split
    · exact h.weight_nonneg x hx
    · exact h.credits_nonneg x hx
  · have hx : x ∈ p.eligible := hx
    rw [hmetadata, if_neg]
    · exact h.eligible_pos x hx
    · intro hwaiting
      have hstate := (h.mem_eligible.mp hx).2
      rw [(h.mem_waiting.mp hwaiting).2] at hstate
      cases hstate

lemma renewWaiting (h : p.Consistent) : p.renewWaiting.Consistent := by
  refine h.creditWaiting.promoteWaiting fun x hx hpasses => ?_
  have hmetadata : p.creditWaiting.metadata x = p.renew (p.metadata x) := if_pos hx
  rw [hmetadata]
  have hweight := of_decide_eq_true hpasses
  rw [hmetadata] at hweight
  exact hweight

lemma resetAndRestartRound (h : p.Consistent) (hw : NonNegative weights) (hfits : p.Fits weights) :
    (p.resetAndRestartRound weights).Consistent :=
  ((h.fetchWeights hw hfits).renewEligible.renewWaiting).retireGoingIdle

end Consistent

/-! ## Activity -/

section Activity

structure SameActivity (p q : WeightedRoundRobinPolicy α) : Prop where
  entities : q.entities = p.entities
  isActive : ∀ x, q.isActive x = p.isActive x

lemma SameActivity.refl (p : WeightedRoundRobinPolicy α) : SameActivity p p := ⟨rfl, fun _ => rfl⟩

lemma SameActivity.trans {q r : WeightedRoundRobinPolicy α} (h : SameActivity p q)
    (h' : SameActivity q r) : SameActivity p r :=
  ⟨h'.entities.trans h.entities, fun x => (h'.isActive x).trans (h.isActive x)⟩

lemma retireGoingIdle_sameActivity (p : WeightedRoundRobinPolicy α) :
    SameActivity p p.retireGoingIdle := ⟨rfl, fun _ => rfl⟩

lemma promoteWaiting_sameActivity (p : WeightedRoundRobinPolicy α) (test : EntityMetadata → Bool) :
    SameActivity p (p.promoteWaiting test) := by
  refine ⟨rfl, fun x => ?_⟩
  rw [Bool.eq_iff_iff]
  simp only [isActive, promoteWaiting, Bool.or_eq_true, decide_eq_true_eq, Finset.mem_union,
    Finset.mem_filter, Bool.not_eq_true']
  cases test (p.metadata x) <;> simp

lemma renewEligible_sameActivity (p : WeightedRoundRobinPolicy α) :
    SameActivity p p.renewEligible := by
  refine ⟨rfl, fun x => ?_⟩
  rw [Bool.eq_iff_iff]
  simp only [isActive, renewEligible, Bool.or_eq_true, decide_eq_true_eq, Finset.mem_union,
    Finset.mem_filter]
  by_cases hweight : (p.metadata x).weight ≤ 0 <;> simp [hweight, or_comm]

lemma resetAndRestartRound_sameActivity (p : WeightedRoundRobinPolicy α)
    (weights : Option (α → Int)) : SameActivity p (p.resetAndRestartRound weights) := by
  have hfetch : SameActivity p (p.fetchWeights weights) := by
    cases weights <;> exact ⟨rfl, fun _ => rfl⟩
  have hcredit : ∀ q : WeightedRoundRobinPolicy α, SameActivity q q.creditWaiting := fun q =>
    ⟨rfl, fun _ => rfl⟩
  have hrenew : ∀ q : WeightedRoundRobinPolicy α, SameActivity q q.renewWaiting := fun q =>
    (hcredit q).trans (promoteWaiting_sameActivity _ _)
  exact ((hfetch.trans (renewEligible_sameActivity _)).trans (hrenew _)).trans
    (retireGoingIdle_sameActivity _)

lemma startSubRound_sameActivity (p : WeightedRoundRobinPolicy α) :
    SameActivity p p.startSubRound :=
  (promoteWaiting_sameActivity _ _).trans (retireGoingIdle_sameActivity _)

lemma isRoundOver_sameActivity (p : WeightedRoundRobinPolicy α) :
    SameActivity p p.isRoundOver.1 := by
  unfold isRoundOver
  split
  · exact .refl p
  split
  · exact .refl p
  split
  · exact .refl p
  · exact startSubRound_sameActivity p

lemma Consistent.isRoundOver (h : p.Consistent) : p.isRoundOver.1.Consistent := by
  unfold WeightedRoundRobinPolicy.isRoundOver
  split
  · exact h
  split
  · exact h
  split
  · exact h
  · exact h.startSubRound

/-- An entity can be served. -/
structure Ready (p : WeightedRoundRobinPolicy α) : Prop where
  eligible : p.eligible ≠ ∅
  global_pos : 0 < p.globalCreditsRemaining

lemma Consistent.ready_of_not_over (h : p.Consistent) (hover : p.isRoundOver.2 = false) :
    p.isRoundOver.1.Ready := by
  unfold WeightedRoundRobinPolicy.isRoundOver at hover ⊢
  have hglobal := h.global_nonneg
  split at hover
  · cases hover
  rename_i hzero
  rw [if_neg hzero]
  split at hover
  · rename_i heligible
    rw [if_pos heligible]
    exact ⟨heligible, hglobal.lt_of_ne' hzero⟩
  rename_i heligible
  rw [if_neg heligible]
  split at hover
  · cases hover
  rename_i hwaiting
  rw [if_neg hwaiting]
  refine ⟨by simpa using hover, ?_⟩
  exact hglobal.lt_of_ne' hzero

def newWeight (p : WeightedRoundRobinPolicy α) (weights : Option (α → Int)) (x : α) : Int :=
  match weights with
  | some fetch => fetch x
  | none => (p.metadata x).weight

lemma weight_fetchWeights (hx : x ∈ p.entities) :
    ((p.fetchWeights weights).metadata x).weight = p.newWeight weights x := by
  cases weights with
  | none => rfl
  | some fetch => simp [fetchWeights, newWeight, hx]

lemma mem_eligible_resetAndRestartRound (h : p.Consistent) :
    x ∈ (p.resetAndRestartRound weights).eligible ↔
      p.isActive x = true ∧ 0 < p.newWeight weights x := by
  have hlists : ∀ q : WeightedRoundRobinPolicy α, x ∈ q.renewEligible.renewWaiting.eligible ↔
      (x ∈ q.eligible ∧ 0 < (q.metadata x).weight) ∨
        (x ∈ q.waiting ∧ 0 < (q.renewEligible.metadata x).weight) ∨
        (x ∈ q.eligible ∧ (q.metadata x).weight ≤ 0 ∧ 0 < (q.renewEligible.metadata x).weight) := by
    simp only [renewWaiting, promoteWaiting, Finset.mem_union, Finset.mem_filter,
      weight_creditWaiting, decide_eq_true_eq]
    simp only [creditWaiting, renewEligible, Finset.mem_union, Finset.mem_filter, not_le]
    tauto
  have hsame : (p.fetchWeights weights).eligible = p.eligible ∧
      (p.fetchWeights weights).waiting = p.waiting := by
    cases weights <;> exact ⟨rfl, rfl⟩
  change x ∈ (p.fetchWeights weights).renewEligible.renewWaiting.eligible ↔ _
  rw [hlists, weight_renewEligible, hsame.1, hsame.2, h.isActive_iff, h.mem_eligible, h.mem_waiting]
  constructor
  · rintro (⟨⟨hx, hstate⟩, hpos⟩ | ⟨⟨hx, hstate⟩, hpos⟩ | ⟨-, hle, hpos⟩)
    · exact ⟨⟨hx, .inl hstate⟩, weight_fetchWeights hx ▸ hpos⟩
    · exact ⟨⟨hx, .inr hstate⟩, weight_fetchWeights hx ▸ hpos⟩
    · omega
  · rintro ⟨⟨hx, hstate⟩, hpos⟩
    rw [weight_fetchWeights hx]
    rcases hstate with hstate | hstate
    · exact .inl ⟨⟨hx, hstate⟩, hpos⟩
    · exact .inr (.inl ⟨⟨hx, hstate⟩, hpos⟩)

lemma Consistent.ready_of_restart (h : p.Consistent) (hw : Consistent.NonNegative weights)
    (hfits : p.Fits weights) (hne : (p.resetAndRestartRound weights).eligible ≠ ∅) :
    (p.resetAndRestartRound weights).Ready := by
  refine ⟨hne, ?_⟩
  change 0 < (p.fetchWeights weights).globalCreditsRemaining
  rw [Consistent.globalCredits_fetchWeights hw hfits]
  obtain ⟨x, hx⟩ := Finset.nonempty_iff_ne_empty.mpr hne
  obtain ⟨hactive, hpos⟩ := (mem_eligible_resetAndRestartRound h).mp hx
  have hmem : x ∈ p.entities := (h.isActive_iff.mp hactive).1
  cases weights with
  | none =>
    change 0 < (p.entities.card : Int)
    exact_mod_cast Finset.card_pos.mpr ⟨x, hmem⟩
  | some fetch =>
    exact Finset.sum_pos' (fun y _ => hw fetch rfl y) ⟨x, hmem, hpos⟩

lemma newWeight_isRoundOver (p : WeightedRoundRobinPolicy α) (weights : Option (α → Int)) (x : α) :
    p.isRoundOver.1.newWeight weights x = p.newWeight weights x := by
  cases weights with
  | none => exact weight_isRoundOver p x
  | some fetch => rfl

lemma Fits.isRoundOver (h : p.Fits weights) :
    p.isRoundOver.1.Fits weights := by
  unfold Fits weightSum at h ⊢
  rw [(isRoundOver_sameActivity p).entities]
  exact h

lemma hasWork_spec (h : p.Consistent) (hw : Consistent.NonNegative weights)
    (hfits : p.Fits weights) :
    (p.hasWork weights).1.Consistent ∧ SameActivity p (p.hasWork weights).1 ∧
      ((p.hasWork weights).2 = true ↔ (p.hasWork weights).1.Ready) ∧
      ((p.hasWork weights).2 = false → ∀ x, p.isActive x = true → p.newWeight weights x ≤ 0) ∧
      ((p.hasWork weights).1.eligible ≠ ∅ → (p.hasWork weights).1.Ready) := by
  have hover := h.isRoundOver
  have hsame := isRoundOver_sameActivity p
  cases hround : p.isRoundOver.2 with
  | false =>
    have hwork : p.hasWork weights = (p.isRoundOver.1, true) := by simp [hasWork, hround]
    rw [hwork]
    have hready := h.ready_of_not_over hround
    exact ⟨hover, hsame, iff_of_true rfl hready, nofun, fun _ => hready⟩
  | true =>
    have hwork : p.hasWork weights = (p.isRoundOver.1.resetAndRestartRound weights,
        decide ((p.isRoundOver.1.resetAndRestartRound weights).eligible ≠ ∅)) := by
      simp [hasWork, hround]
    rw [hwork]
    refine ⟨hover.resetAndRestartRound hw hfits.isRoundOver,
      hsame.trans (resetAndRestartRound_sameActivity _ _),
      ⟨fun hne => hover.ready_of_restart hw hfits.isRoundOver (of_decide_eq_true hne),
        fun hready => decide_eq_true hready.eligible⟩, fun hempty x hx => ?_,
      hover.ready_of_restart hw hfits.isRoundOver⟩
    have hnone : (p.isRoundOver.1.resetAndRestartRound weights).eligible = ∅ := by
      simpa using hempty
    by_contra hpos
    have hmem : x ∈ (p.isRoundOver.1.resetAndRestartRound weights).eligible := by
      rw [mem_eligible_resetAndRestartRound hover, hsame.isActive, newWeight_isRoundOver]
      exact ⟨hx, not_le.mp hpos⟩
    rw [hnone] at hmem
    exact Finset.notMem_empty x hmem

lemma hasWork_policy (p : WeightedRoundRobinPolicy α) (weights : Option (α → Int)) :
    (let (p, ended) := p.isRoundOver
      if ended then p.resetAndRestartRound weights else p) = (p.hasWork weights).1 := by
  unfold hasWork
  dsimp only
  split <;> rfl

lemma nextEligible_spec (p : WeightedRoundRobinPolicy α) :
    (p.nextEligible = none ↔ p.eligible = ∅) ∧ ∀ x, p.nextEligible = some x → x ∈ p.eligible := by
  unfold nextEligible
  split
  · cases hafter : least (p.eligible.filter (p.lastServicedEntity < ·)) with
    | none =>
      exact ⟨least_eq_none_iff, fun x hx => mem_of_least hx⟩
    | some y =>
      have hy := (Finset.mem_filter.mp (mem_of_least hafter)).1
      refine ⟨⟨nofun, fun hempty => ?_⟩, fun x hx => ?_⟩
      · rw [hempty] at hy
        cases Finset.notMem_empty y hy
      · cases hx
        exact hy
  · exact ⟨least_eq_none_iff, fun x hx => mem_of_least hx⟩

omit [LinearOrder α] in
lemma Consistent.mem_listOf_self (h : p.Consistent) (hx : x ∈ p.entities) (state : EntityState) :
    x ∈ p.listOf state ↔ state = (p.metadata x).state := by
  rw [h.listed]
  exact ⟨fun hstate => hstate.2.symm, fun hstate => ⟨hx, hstate.symm⟩⟩

lemma SameActivity.of_update {q : WeightedRoundRobinPolicy α} {active : Bool}
    (hentities : q.entities = p.entities)
    (h : ∀ y, q.isActive y = if y = x then active else p.isActive y) (hx : p.isActive x = active) :
    SameActivity p q := by
  refine ⟨hentities, fun y => ?_⟩
  rw [h]
  split
  · rename_i hy
    rw [hy, hx]
  · rfl

lemma service_spec (h : p.Consistent) (hx : x ∈ p.eligible)
    (hglobal : 0 < p.globalCreditsRemaining) :
    Ensures (fun _ => False) (fun q => q.Consistent ∧ SameActivity p q) (p.service x) := by
  have hpos := h.eligible_pos x hx
  obtain ⟨hentity, hstate⟩ := h.mem_eligible.mp hx
  have hweight := h.weight_nonneg x hentity
  have hactive : p.isActive x = true := h.isActive_iff.mpr ⟨hentity, .inl hstate⟩
  unfold service
  rw [if_neg (not_not.mpr hpos), if_neg (not_not.mpr hglobal)]
  refine Ensures.ite (fun _ => ?_) fun hmore => ?_
  · refine And.imp_right (fun hall => SameActivity.of_update rfl hall hactive)
      (h.update (m := { p.metadata x with
        remainingCredits := (p.metadata x).remainingCredits - 1, state := .waiting })
        hentity rfl rfl (fun state => ?_) hweight (by dsimp only; omega) nofun
        (by dsimp only [setMetadata]; omega))
    have hlist := h.mem_listOf_self hentity state
    cases state <;> simp [listOf, hstate, setMetadata] at hlist ⊢ <;> simp [hlist]
  · refine And.imp_right (fun hall => SameActivity.of_update rfl hall ?_)
      (h.update (m := { p.metadata x with
        remainingCredits := (p.metadata x).remainingCredits - 1 })
        hentity rfl rfl (fun state => ?_) hweight (by dsimp only; omega) (fun _ => ?_)
        (by dsimp only [setMetadata]; omega))
    · exact h.isActive_eq hentity
    · have hlist := h.mem_listOf_self hentity state
      cases state <;> simp [listOf, hstate, setMetadata] at hlist ⊢ <;> simp [hlist]
    · simp only [Bool.or_eq_true, Bool.not_eq_true', decide_eq_true_eq, not_or] at hmore
      dsimp only
      omega

/-- No `CHECK` of `GetNextEntity` fails. It returns an active entity if the policy is ready, and
nothing only if every active entity has weight zero. -/
lemma getNextEntity_spec (h : p.Consistent) (hw : Consistent.NonNegative weights)
    (hfits : p.Fits weights) :
    Ensures (fun _ => False) (fun q => q.1.Consistent ∧ SameActivity p q.1 ∧
      (∀ x, q.2 = some x → p.isActive x = true) ∧
      (q.2 = none → ∀ x, p.isActive x = true → p.newWeight weights x ≤ 0) ∧
      (p.Ready → q.2 ≠ none)) (p.getNextEntity weights) := by
  refine Ensures.ite (fun hnone => ?_) fun _ => ?_
  · refine ⟨h, .refl p, nofun, fun _ x hx => ?_, fun hready => absurd hnone.1 hready.eligible⟩
    simp [isActive, hnone] at hx
  have hpolicy := p.hasWork_policy weights
  dsimp only at hpolicy ⊢
  rw [hpolicy]
  obtain ⟨hconsistent, hsame, hready, hidle, hpositive⟩ := hasWork_spec h hw hfits
  have hnext := (p.hasWork weights).1.nextEligible_spec
  cases hx : (p.hasWork weights).1.nextEligible with
  | none =>
    have hempty := hnext.1.mp hx
    have hnot : (p.hasWork weights).2 = false := by
      by_contra htrue
      exact (hready.mp (Bool.eq_true_of_not_eq_false htrue)).eligible hempty
    refine ⟨hconsistent, hsame, nofun, fun _ => hidle hnot, fun hp => ?_⟩
    have hover : p.isRoundOver = (p, false) := by
      unfold isRoundOver
      rw [if_neg hp.global_pos.ne', if_pos hp.eligible]
    simp [hasWork, hover] at hnot
  | some x =>
    have hmem := hnext.2 x hx
    have hglobal := (hpositive (Finset.ne_empty_of_mem hmem)).global_pos
    refine (service_spec hconsistent hmem hglobal).bind ?_
    rintro q ⟨hq, hactive⟩
    refine ⟨hq, hsame.trans hactive, fun y hy => ?_, nofun, nofun⟩
    cases hy
    rw [← hsame.isActive]
    simp [isActive, hmem]

lemma markEntityActive_spec (h : p.Consistent) (hx : x ∈ p.entities) :
    Ensures (fun _ => False) (fun q => q.1.Consistent ∧ q.1.entities = p.entities ∧
      ∀ y, q.1.isActive y = if y = x then true else p.isActive y) (p.markEntityActive x) := by
  have hweight := h.weight_nonneg x hx
  have hcredits := h.credits_nonneg x hx
  unfold markEntityActive
  rw [if_neg (not_not.mpr hx)]
  dsimp only
  split
  · rename_i hstate
    exact ⟨h, rfl, h.isActive_eq_ite hx (by rw [hstate]; rfl)⟩
  · rename_i hstate
    exact ⟨h, rfl, h.isActive_eq_ite hx (by rw [hstate]; rfl)⟩
  · rename_i hstate
    generalize hm : (if (p.metadata x).roundNumber < p.globalRoundNumber then
      { p.metadata x with
        remainingCredits := (p.metadata x).weight, roundNumber := p.globalRoundNumber }
      else p.metadata x) = m
    have hm' : 0 ≤ m.weight ∧ 0 ≤ m.remainingCredits := by
      rw [← hm]
      split
      · exact ⟨hweight, hweight⟩
      · exact ⟨hweight, hcredits⟩
    refine Ensures.ite (fun _ => And.imp_right (⟨rfl, ·⟩) ?_)
      fun hne => And.imp_right (⟨rfl, ·⟩) ?_
    · refine h.update (m := { m with state := .waiting }) hx rfl rfl (fun state => ?_) hm'.1 hm'.2
        nofun h.global_nonneg
      have hlist := h.mem_listOf_self hx state
      cases state <;> simp [listOf, hstate, setMetadata] at hlist ⊢ <;> simp [hlist]
    · refine h.update (m := { m with state := .eligible }) hx rfl rfl (fun state => ?_) hm'.1 hm'.2
        (fun _ => hm'.2.lt_of_ne' hne) h.global_nonneg
      have hlist := h.mem_listOf_self hx state
      cases state <;> simp [listOf, hstate, setMetadata] at hlist ⊢ <;> simp [hlist]
  · rename_i hstate
    refine And.imp_right (⟨rfl, ·⟩) ?_
    refine h.update (m := { p.metadata x with state := .waiting }) hx rfl rfl (fun state => ?_)
      hweight hcredits nofun h.global_nonneg
    have hlist := h.mem_listOf_self hx state
    cases state <;> simp [listOf, hstate, setMetadata] at hlist ⊢ <;> simp [hlist]

lemma markEntityInactive_spec (h : p.Consistent) (hx : x ∈ p.entities) :
    Ensures (fun _ => False) (fun q => q.1.Consistent ∧ q.1.entities = p.entities ∧
      ∀ y, q.1.isActive y = if y = x then false else p.isActive y) (p.markEntityInactive x) := by
  have hweight := h.weight_nonneg x hx
  have hcredits := h.credits_nonneg x hx
  unfold markEntityInactive
  rw [if_neg (not_not.mpr hx)]
  dsimp only
  split
  · rename_i hstate
    exact ⟨h, rfl, h.isActive_eq_ite hx (by rw [hstate]; rfl)⟩
  · rename_i hstate
    exact ⟨h, rfl, h.isActive_eq_ite hx (by rw [hstate]; rfl)⟩
  · rename_i hstate
    refine And.imp_right (⟨rfl, ·⟩) ?_
    refine h.update (m := { p.metadata x with state := .idle }) hx rfl rfl (fun state => ?_)
      hweight hcredits nofun h.global_nonneg
    have hlist := h.mem_listOf_self hx state
    cases state <;> simp [listOf, hstate, setMetadata] at hlist ⊢ <;> simp [hlist]
  · rename_i hstate
    refine And.imp_right (⟨rfl, ·⟩) ?_
    refine h.update (m := { p.metadata x with state := .waitingGoingIdle }) hx rfl rfl
      (fun state => ?_) hweight hcredits nofun h.global_nonneg
    have hlist := h.mem_listOf_self hx state
    cases state <;> simp [listOf, hstate, setMetadata] at hlist ⊢ <;> simp [hlist]

lemma initializeEntity_spec (h : p.Consistent) (hw : Consistent.NonNegative weights)
    (hx : x ∉ p.entities) :
    (p.initializeEntity weights x).1.Consistent ∧
      (p.initializeEntity weights x).1.entities = insert x p.entities ∧
      ∀ y, (p.initializeEntity weights x).1.isActive y = p.isActive y := by
  unfold initializeEntity
  rw [if_neg hx]
  have hlists : ∀ state, x ∉ p.listOf state := fun state hmem => hx ((h.listed state x).mp hmem).1
  have hother : ∀ y ∈ p.entities, y ≠ x := fun y hy heq => hx (heq ▸ hy)
  refine ⟨⟨fun state y => ?_, fun y hy => ?_, fun y hy => ?_, fun y hy => ?_, h.global_nonneg⟩, rfl,
    fun y => rfl⟩
  · have hlisted := h.listed state y
    simp only [setMetadata, update_apply, Finset.mem_insert]
    by_cases hy : y = x
    · subst hy
      cases state <;> simp_all [listOf]
    · cases state <;> simp_all [listOf]
  · simp only [setMetadata, update_apply, Finset.mem_insert] at hy ⊢
    split
    · cases weights with
      | none => exact zero_le_one
      | some fetch => exact hw fetch rfl x
    · rename_i hne
      exact h.weight_nonneg y (hy.resolve_left hne)
  · simp only [setMetadata, update_apply, Finset.mem_insert] at hy ⊢
    split
    · exact le_rfl
    · rename_i hne
      exact h.credits_nonneg y (hy.resolve_left hne)
  · have hy : y ∈ p.eligible := hy
    have hne := hother y (h.mem_eligible.mp hy).1
    simp only [setMetadata, update_of_ne hne]
    exact h.eligible_pos y hy

end Activity

end WeightedRoundRobinPolicy

end Isekai.Falcon

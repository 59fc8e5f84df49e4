import Isekai.Falcon.WeightedRoundRobin
import Isekai.Lib.TransitionSystem

/-!
# Runs of the weighted round robin policy

The calls of the policy in any order. A run counts how often each entity is returned in the present
round and sub-round.
-/

namespace Isekai.Falcon

open Lib Function TransitionSystem

namespace WeightedRoundRobinPolicy

variable {α : Type} [LinearOrder α] {p : WeightedRoundRobinPolicy α}
  {weights : Option (α → Int)} {x : α}

/-! ## What a round and a sub-round change -/

def subRoundState (m : EntityMetadata) : EntityState :=
  match m.state with
  | .idle | .waitingGoingIdle => .idle
  | .eligible => .eligible
  | .waiting => if 0 < m.remainingCredits then .eligible else .waiting

lemma metadata_startSubRound (h : p.Consistent) (hx : x ∈ p.entities) :
    p.startSubRound.metadata x = { p.metadata x with state := subRoundState (p.metadata x) } := by
  have hwaiting := h.mem_waiting (x := x)
  have hgoing := h.mem_waitingGoingIdle (x := x)
  unfold startSubRound retireGoingIdle promoteWaiting subRoundState
  simp only [hwaiting, hgoing]
  generalize p.metadata x = m
  obtain ⟨state, weight, credits, round⟩ := m
  cases state
  · simp
  · simp
  · by_cases hpos : 0 < credits
    · simp [hx, hpos]
    · simp [hpos]
  · simp [hx]

def roundMetadata (weight round : Int) (m : EntityMetadata) : EntityMetadata :=
  match m.state with
  | .idle | .waitingGoingIdle => { m with state := .idle, weight := weight }
  | .eligible | .waiting =>
    { state := if 0 < weight then .eligible else .waiting
      weight := weight
      remainingCredits := weight
      roundNumber := round }

lemma entities_resetAndRestartRound (p : WeightedRoundRobinPolicy α) (weights : Option (α → Int)) :
    (p.resetAndRestartRound weights).entities = p.entities := rfl

lemma metadata_fetchWeights (weights : Option (α → Int)) (hx : x ∈ p.entities) :
    (p.fetchWeights weights).metadata x =
      { p.metadata x with weight := p.newWeight weights x } := by
  cases weights with
  | none => rfl
  | some fetch =>
    unfold fetchWeights newWeight
    dsimp only
    rw [if_pos hx]

lemma metadata_resetAndRestartRound (h : p.Consistent) (hx : x ∈ p.entities) :
    (p.resetAndRestartRound weights).metadata x =
      roundMetadata (p.newWeight weights x) (toInt32 (p.globalRoundNumber + 1)) (p.metadata x) := by
  have hlists : ∀ state, x ∈ (p.fetchWeights weights).listOf state ↔
      (p.metadata x).state = state := by
    intro state
    have hsame : (p.fetchWeights weights).listOf state = p.listOf state := by
      cases weights <;> cases state <;> rfl
    rw [hsame, h.listed]
    exact and_iff_right hx
  have hround : (p.fetchWeights weights).globalRoundNumber =
    toInt32 (p.globalRoundNumber + 1) := rfl
  have heligible := hlists .eligible
  have hwaiting := hlists .waiting
  have hgoing := hlists .waitingGoingIdle
  have hmetadata := metadata_fetchWeights weights hx
  simp only [listOf] at heligible hwaiting hgoing
  unfold resetAndRestartRound renewWaiting retireGoingIdle promoteWaiting creditWaiting
    renewEligible
    renew roundMetadata
  simp only [Finset.mem_union, Finset.mem_filter, heligible, hwaiting, hgoing, hmetadata, hround]
  generalize p.newWeight weights x = weight
  generalize p.metadata x = m
  obtain ⟨state, oldWeight, credits, round⟩ := m
  cases state
  · simp
  · by_cases hpos : 0 < weight
    · simp [hpos, not_le.mpr hpos]
    · simp [hpos, not_lt.mp hpos]
  · by_cases hpos : 0 < weight
    · simp [hpos]
    · simp [hpos]
  · simp

/-! ## What the calls change -/

/-- The metadata of `x` becomes `m`. -/
structure Changes (p : WeightedRoundRobinPolicy α) (x : α) (m : EntityMetadata)
    (q : WeightedRoundRobinPolicy α) : Prop where
  metadata : q.metadata = update p.metadata x m
  entities : q.entities = p.entities
  round : q.globalRoundNumber = p.globalRoundNumber
  batched : q.batched = p.batched

lemma Changes.none (p : WeightedRoundRobinPolicy α) (x : α) : p.Changes x (p.metadata x) p :=
  ⟨(update_eq_self _ _).symm, rfl, rfl, rfl⟩

def activated (round : Int) (m : EntityMetadata) : EntityMetadata :=
  match m.state with
  | .eligible | .waiting => m
  | .waitingGoingIdle => { m with state := .waiting }
  | .idle =>
    let m := if m.roundNumber < round then
      { m with remainingCredits := m.weight, roundNumber := round } else m
    { m with state := if m.remainingCredits = 0 then .waiting else .eligible }

lemma markEntityActive_changes (p : WeightedRoundRobinPolicy α) (x : α) :
    Ensures (fun _ => True) (fun q => x ∈ p.entities ∧
      p.Changes x (activated p.globalRoundNumber (p.metadata x)) q.1 ∧
      q.1.globalCreditsRemaining = p.globalCreditsRemaining) (p.markEntityActive x) := by
  refine .ite (fun _ => trivial) fun hx => ?_
  rw [not_not] at hx
  unfold activated
  dsimp only
  cases hstate : (p.metadata x).state with
  | eligible => exact ⟨hx, .none p x, rfl⟩
  | waiting => exact ⟨hx, .none p x, rfl⟩
  | waitingGoingIdle => exact ⟨hx, ⟨rfl, rfl, rfl, rfl⟩, rfl⟩
  | idle =>
    refine .ite (fun hzero => ?_) fun hpos => ?_
    · rw [if_pos hzero]
      exact ⟨hx, ⟨rfl, rfl, rfl, rfl⟩, rfl⟩
    · rw [if_neg hpos]
      exact ⟨hx, ⟨rfl, rfl, rfl, rfl⟩, rfl⟩

def deactivated (m : EntityMetadata) : EntityMetadata :=
  match m.state with
  | .idle | .waitingGoingIdle => m
  | .eligible => { m with state := .idle }
  | .waiting => { m with state := .waitingGoingIdle }

lemma markEntityInactive_changes (p : WeightedRoundRobinPolicy α) (x : α) :
    Ensures (fun _ => True) (fun q => x ∈ p.entities ∧
      p.Changes x (deactivated (p.metadata x)) q.1 ∧
      q.1.globalCreditsRemaining = p.globalCreditsRemaining) (p.markEntityInactive x) := by
  refine .ite (fun _ => trivial) fun hx => ?_
  rw [not_not] at hx
  unfold deactivated
  dsimp only
  cases hstate : (p.metadata x).state with
  | idle => exact ⟨hx, .none p x, rfl⟩
  | waitingGoingIdle => exact ⟨hx, .none p x, rfl⟩
  | eligible => exact ⟨hx, ⟨rfl, rfl, rfl, rfl⟩, rfl⟩
  | waiting => exact ⟨hx, ⟨rfl, rfl, rfl, rfl⟩, rfl⟩

def serviced (batched : Bool) (m : EntityMetadata) : EntityMetadata :=
  { m with
    remainingCredits := m.remainingCredits - 1
    state := if !batched || m.remainingCredits - 1 = 0 then .waiting else m.state }

lemma service_changes (p : WeightedRoundRobinPolicy α) (x : α) :
    Ensures (fun _ => True) (fun q => p.Changes x (serviced p.batched (p.metadata x)) q ∧
      q.globalCreditsRemaining = p.globalCreditsRemaining - 1) (p.service x) := by
  unfold service serviced
  refine .ite (fun _ => trivial) fun _ => .ite (fun _ => trivial) fun _ => ?_
  refine .ite (fun hwait => ?_) fun hstay => ?_
  · rw [if_pos hwait]
    exact ⟨⟨rfl, rfl, rfl, rfl⟩, rfl⟩
  · rw [if_neg hstay]
    exact ⟨⟨rfl, rfl, rfl, rfl⟩, rfl⟩

def forget (p : WeightedRoundRobinPolicy α) (x : α) : WeightedRoundRobinPolicy α :=
  { p with
    idle := p.idle.erase x
    eligible := p.eligible.erase x
    waiting := p.waiting.erase x
    waitingGoingIdle := p.waitingGoingIdle.erase x
    entities := p.entities.erase x }

lemma deleteEntity_eq (h : p.Consistent) (x : α) : (p.deleteEntity x).1 = p.forget x := by
  have hnot : ∀ state, ¬(x ∈ p.entities ∧ (p.metadata x).state = state) →
      (p.listOf state).erase x = p.listOf state := by
    intro state hstate
    exact Finset.erase_eq_of_notMem fun hmem => hstate ((h.listed state x).mp hmem)
  have hidle := hnot .idle
  have heligible := hnot .eligible
  have hwaiting := hnot .waiting
  have hgoing := hnot .waitingGoingIdle
  simp only [listOf] at hidle heligible hwaiting hgoing
  unfold deleteEntity forget
  split
  · dsimp only
    cases hstate : (p.metadata x).state with
    | idle => simp [heligible, hwaiting, hgoing, hstate]
    | eligible => simp [hidle, hwaiting, hgoing, hstate]
    | waiting => simp [hidle, heligible, hgoing, hstate]
    | waitingGoingIdle => simp [hidle, heligible, hwaiting, hstate]
  · rename_i hx
    simp [hidle, heligible, hwaiting, hgoing, hx]

lemma Consistent.forget (h : p.Consistent) (x : α) : (p.forget x).Consistent := by
  refine ⟨fun state y => ?_, fun y hy => h.weight_nonneg y (Finset.mem_of_mem_erase hy),
    fun y hy => h.credits_nonneg y (Finset.mem_of_mem_erase hy),
    fun y hy => h.eligible_pos y (Finset.mem_of_mem_erase hy), h.global_nonneg⟩
  have hlist : (p.forget x).listOf state = (p.listOf state).erase x := by
    cases state <;> rfl
  rw [hlist, Finset.mem_erase, h.listed]
  change _ ↔ y ∈ p.entities.erase x ∧ _
  rw [Finset.mem_erase]
  exact and_assoc.symm

def active (p : WeightedRoundRobinPolicy α) : Finset α := p.eligible ∪ p.waiting

lemma mem_active : x ∈ p.active ↔ p.isActive x = true := by
  unfold active isActive
  rw [Finset.mem_union, Bool.or_eq_true, decide_eq_true_iff, decide_eq_true_iff]

end WeightedRoundRobinPolicy

/-! ## Runs -/

open WeightedRoundRobinPolicy

/-- A policy with an account of the present round: the entities that are there since its start, the
weights with which it started, how often each entity was returned in the round and in the sub-round,
and whether the active entities have stayed the same. -/
structure PolicyRun (α : Type) where
  policy : WeightedRoundRobinPolicy α
  present : Finset α := ∅
  weight : α → Int := fun _ => 0
  served : α → Nat := fun _ => 0
  servedInSubRound : α → Nat := fun _ => 0
  steady : Bool := true

namespace PolicyRun

variable {α : Type} [LinearOrder α]

inductive Label (α : Type) where
  | initializeEntity (weights : Option (α → Int)) (x : α)
  | deleteEntity (x : α)
  | markEntityActive (x : α)
  | markEntityInactive (x : α)
  | hasWork (weights : Option (α → Int))
  | getNextEntity (weights : Option (α → Int))

/-- The weights are not negative, and there is a weight fetcher at all times or at none. -/
def Allowed (fetching : Bool) : Label α → Prop
  | .initializeEntity weights _ | .hasWork weights | .getNextEntity weights =>
    Consistent.NonNegative weights ∧ weights.isSome = fetching
  | _ => True

def started (p : WeightedRoundRobinPolicy α) (weights : Option (α → Int)) : PolicyRun α where
  policy := p.resetAndRestartRound weights
  present := p.entities
  weight := p.newWeight weights

def refreshed (r : PolicyRun α) (weights : Option (α → Int)) : PolicyRun α :=
  let p := r.policy.isRoundOver.1
  if r.policy.isRoundOver.2 then started p weights
  else
    { r with
      policy := p
      servedInSubRound := if r.policy.eligible = ∅ then fun _ => 0 else r.servedInSubRound }

def returned (r : PolicyRun α) (policy : WeightedRoundRobinPolicy α) : Option α → PolicyRun α
  | none => { r with policy := policy }
  | some x =>
    { r with
      policy := policy
      served := update r.served x (r.served x + 1)
      servedInSubRound := update r.servedInSubRound x (r.servedInSubRound x + 1) }

def changed (r : PolicyRun α) (policy : WeightedRoundRobinPolicy α) : PolicyRun α :=
  { r with policy := policy, steady := r.steady && decide (policy.active = r.policy.active) }

def next (r : PolicyRun α) : Label α → Except PolicyFatal (PolicyRun α)
  | .initializeEntity weights x => pure (r.changed (r.policy.initializeEntity weights x).1)
  | .deleteEntity x =>
    pure { r.changed (r.policy.deleteEntity x).1 with present := r.present.erase x }
  | .markEntityActive x => do
    let out ← r.policy.markEntityActive x
    pure (r.changed out.1)
  | .markEntityInactive x => do
    let out ← r.policy.markEntityInactive x
    pure (r.changed out.1)
  | .hasWork weights => pure (r.refreshed weights)
  | .getNextEntity weights => do
    let out ← r.policy.getNextEntity weights
    let r := if r.policy.eligible = ∅ ∧ r.policy.waiting = ∅ then r else r.refreshed weights
    pure (r.returned out.1 out.2)

def runs (α : Type) [LinearOrder α] (fetching : Bool) :
    TransitionSystem (PolicyRun α) (Label α) PolicyFatal where
  init r := ∃ batched enforceOrder x,
    r = { policy := { batched := batched, enforceOrder := enforceOrder, lastServicedEntity := x } }
  allowed _ l := Allowed fetching l
  next := next

instance [Fintype α] (fetching : Bool) : ∀ l : Label α, Decidable (Allowed fetching l)
  | .initializeEntity weights _ | .hasWork weights | .getNextEntity weights =>
    haveI : Decidable (Consistent.NonNegative weights) :=
      inferInstanceAs (Decidable (∀ fetch ∈ weights, ∀ x, 0 ≤ fetch x))
    inferInstanceAs (Decidable (Consistent.NonNegative weights ∧ weights.isSome = fetching))
  | .deleteEntity _ | .markEntityActive _ | .markEntityInactive _ => isTrue trivial

instance [Fintype α] (fetching : Bool) (r : PolicyRun α) (l : Label α) :
    Decidable ((runs α fetching).allowed r l) :=
  inferInstanceAs (Decidable (Allowed fetching l))

/-- A call that may start a round finds weights with a sum that fits in an `int`. -/
def SumFits (r : PolicyRun α) : Label α → Prop
  | .hasWork weights | .getNextEntity weights => r.policy.Fits weights
  | _ => True

instance (r : PolicyRun α) : ∀ l, Decidable (r.SumFits l)
  | .hasWork weights | .getNextEntity weights => inferInstanceAs (Decidable (r.policy.Fits weights))
  | .initializeEntity .. | .deleteEntity _ | .markEntityActive _ | .markEntityInactive _ =>
    isTrue trivial

variable {r r' : PolicyRun α} {fetching : Bool} {C : PolicyRun α → Label α → Prop}
  {weights : Option (α → Int)} {p q : WeightedRoundRobinPolicy α}
  {x : α}

lemma refreshed_policy (r : PolicyRun α) (weights : Option (α → Int)) :
    (r.refreshed weights).policy = (r.policy.hasWork weights).1 := by
  unfold refreshed hasWork
  dsimp only
  split <;> rfl

lemma reachable_consistent (hC : ∀ r l, C r l → SumFits r l)
    (h : (runs α fetching).Reachable C r) : r.policy.Consistent := by
  refine h.invariant (I := fun r => r.policy.Consistent) (E := fun _ => True) (fun r hr => ?_)
    fun r l hr hallowed hfits => ?_
  · obtain ⟨batched, enforceOrder, x, rfl⟩ := hr
    refine ⟨fun state y => ?_, nofun, nofun, nofun, le_rfl⟩
    cases state <;> exact iff_of_false (Finset.notMem_empty y) nofun
  · cases l with
    | initializeEntity weights x =>
      by_cases hx : x ∈ r.policy.entities
      · change (r.policy.initializeEntity weights x).1.Consistent
        unfold initializeEntity
        rw [if_pos hx]
        exact hr
      · exact (initializeEntity_spec hr hallowed.1 hx).1
    | deleteEntity x =>
      change (r.policy.deleteEntity x).1.Consistent
      rw [deleteEntity_eq hr]
      exact hr.forget x
    | markEntityActive x =>
      by_cases hx : x ∈ r.policy.entities
      · refine Ensures.bind (E := fun _ => True) ((markEntityActive_spec hr hx).mono nofun
          fun q hq => hq)
          fun q hq => hq.1
      · change Ensures _ _ (r.policy.markEntityActive x >>= _)
        unfold markEntityActive
        rw [if_pos hx]
        trivial
    | markEntityInactive x =>
      by_cases hx : x ∈ r.policy.entities
      · refine Ensures.bind (E := fun _ => True) ((markEntityInactive_spec hr hx).mono nofun
          fun q hq => hq)
          fun q hq => hq.1
      · change Ensures _ _ (r.policy.markEntityInactive x >>= _)
        unfold markEntityInactive
        rw [if_pos hx]
        trivial
    | hasWork weights =>
      change (r.refreshed weights).policy.Consistent
      rw [refreshed_policy]
      exact (hasWork_spec hr hallowed.1 (hC _ _ hfits)).1
    | getNextEntity weights =>
      refine Ensures.bind (E := fun _ => True)
        ((getNextEntity_spec hr hallowed.1 (hC _ _ hfits)).mono nofun fun q hq => hq) fun q hq => ?_
      obtain ⟨p, out⟩ := q
      cases out with
      | none => exact hq.1
      | some x => exact hq.1

/-- A policy that is ready does not fetch weights. -/
lemma getNextEntity_of_ready (h : p.Ready) (weights weights' : Option (α → Int)) :
    p.getNextEntity weights = p.getNextEntity weights' := by
  have hover : p.isRoundOver = (p, false) := by
    unfold isRoundOver
    rw [if_neg h.global_pos.ne', if_pos h.eligible]
  unfold getNextEntity
  simp only [hover, Bool.false_eq_true, if_false]

lemma getNextEntity_returns (hp : p.Consistent) (hw : Consistent.NonNegative weights)
    (hfits : p.Fits weights) : ∃ out, p.getNextEntity weights = .ok out ∧
      (∀ x, out.2 = some x → p.isActive x = true) ∧ (p.Ready → out.2 ≠ none) := by
  have hspec := getNextEntity_spec hp hw hfits
  cases hout : p.getNextEntity weights with
  | error e =>
    rw [hout] at hspec
    exact absurd hspec id
  | ok out =>
    rw [hout] at hspec
    exact ⟨out, rfl, hspec.2.2.1, hspec.2.2.2.2⟩

lemma getNextEntity_of_work (hp : p.Consistent) (hw : Consistent.NonNegative weights)
    (hfits : p.Fits weights) (hwork : (p.hasWork weights).2 = true) (weights' : Option (α → Int)) :
    ∃ q x, (p.hasWork weights).1.getNextEntity weights' = .ok (q, some x) ∧
      (p.hasWork weights).1.isActive x = true := by
  obtain ⟨hnext, -, hready, -⟩ := hasWork_spec hp hw hfits
  have hfits₀ : (p.hasWork weights).1.Fits (some fun _ => 0) := by
    unfold Fits weightSum
    simp
  have hw₀ : Consistent.NonNegative (some fun _ : α => (0 : Int)) := by
    rintro fetch hfetch x
    cases hfetch
    exact le_rfl
  obtain ⟨⟨q, out⟩, hout, hactive, hsome⟩ := getNextEntity_returns hnext hw₀ hfits₀
  rw [getNextEntity_of_ready (hready.mp hwork) _ weights'] at hout
  cases out with
  | none => exact absurd rfl (hsome (hready.mp hwork))
  | some x => exact ⟨q, x, hout, hactive x rfl⟩

/-- In every run in which the weights of a round add up to less than `2 ^ 31`, each entity is in
exactly the list named by its state, no `CHECK` of `GetNextEntity` fails, after `HasWork` has
returned true `GetNextEntity` returns an active entity, and when it returns false every active
entity has weight zero. -/
theorem policy_consistent_and_live (h : (runs α fetching).Reachable SumFits r) :
    (∀ x ∈ r.policy.entities, ∀ state, x ∈ r.policy.listOf state ↔
      (r.policy.metadata x).state = state) ∧
    (∀ weights, Consistent.NonNegative weights → r.policy.Fits weights →
      ∃ out, r.policy.getNextEntity weights = .ok out) ∧
    ∀ weights, Consistent.NonNegative weights → r.policy.Fits weights →
      ((r.policy.hasWork weights).2 = true → ∀ weights',
        ∃ q x, (r.policy.hasWork weights).1.getNextEntity weights' = .ok (q, some x) ∧
          (r.policy.hasWork weights).1.isActive x = true) ∧
      ((r.policy.hasWork weights).2 = false → ∀ x, r.policy.isActive x = true →
        r.policy.newWeight weights x = 0) := by
  have hconsistent := reachable_consistent (fun _ _ => id) h
  refine ⟨fun x hx state => ?_, fun weights hw hfits => ?_,
    fun weights hw hfits => ⟨fun hwork weights' => ?_, fun hwork x hx => ?_⟩⟩
  · rw [hconsistent.listed]
    exact and_iff_right hx
  · obtain ⟨out, hout, -⟩ := getNextEntity_returns hconsistent hw hfits
    exact ⟨out, hout⟩
  · exact getNextEntity_of_work hconsistent hw hfits hwork weights'
  · obtain ⟨-, -, -, hzero, -⟩ := hasWork_spec hconsistent hw hfits
    have hnonneg : 0 ≤ r.policy.newWeight weights x := by
      cases weights with
      | none => exact hconsistent.weight_nonneg x (hconsistent.isActive_iff.mp hx).1
      | some fetch => exact hw fetch rfl x
    exact le_antisymm (hzero hwork x hx) hnonneg

/-- Two entities are active, and their weights become positive after a round without work. -/
theorem policy_consistent_and_live_two :
    ∃ r, (runs (Fin 2) true).Reachable SumFits r ∧
      (r.policy.hasWork (some fun _ => 1)).2 = true ∧
      ∃ q x, (r.policy.hasWork (some fun _ => 1)).1.getNextEntity (some fun _ => 0) =
        .ok (q, some x) := by
  obtain ⟨r, hr, hwork, hfits⟩ := Reachable.exists_of_run
    (T := runs (Fin 2) true) (C := SumFits)
    (s := { policy := { batched := false, enforceOrder := true, lastServicedEntity := 0 } })
    (P := fun r => (r.policy.hasWork (some fun _ => 1)).2 = true ∧ r.policy.Fits (some fun _ => 1))
    [.initializeEntity (some fun _ => 2) 0, .initializeEntity (some fun _ => 0) 1,
      .markEntityActive 0, .markEntityActive 1, .hasWork (some fun _ => 0)]
    ⟨_, _, _, rfl⟩ (by decide +kernel)
  have hone : Consistent.NonNegative (some fun _ : Fin 2 => (1 : Int)) := by
    rintro fetch hfetch x
    cases hfetch
    exact zero_le_one
  obtain ⟨q, x, hnext, -⟩ :=
    ((policy_consistent_and_live hr).2.2 _ hone hfits).1 hwork (some fun _ => 0)
  exact ⟨r, hr, hwork, q, x, hnext⟩

def largestWeight : Int := 2 ^ 31 - 1

/-- Two entities have the largest weight and one of them is active. The sum is `-2`, and the `CHECK`
of the global credits fails although `HasWork` has returned true. -/
theorem work_without_credits :
    ∃ r, (runs (Fin 2) true).Reachable (fun _ _ => True) r ∧
      (r.policy.hasWork (some fun _ => largestWeight)).2 = true ∧
      (r.policy.hasWork (some fun _ => largestWeight)).1.globalCreditsRemaining = -2 ∧
      ((r.policy.hasWork (some fun _ => largestWeight)).1.getNextEntity
        (some fun _ => largestWeight)).map Prod.snd = .error .noGlobalCredits :=
  Reachable.exists_of_run (T := runs (Fin 2) true) (C := fun _ _ => True)
    (s := { policy := { batched := false, enforceOrder := false, lastServicedEntity := 0 } })
    (P := fun r => (r.policy.hasWork (some fun _ => largestWeight)).2 = true ∧
      (r.policy.hasWork (some fun _ => largestWeight)).1.globalCreditsRemaining = -2 ∧
      ((r.policy.hasWork (some fun _ => largestWeight)).1.getNextEntity
        (some fun _ => largestWeight)).map Prod.snd = .error .noGlobalCredits)
    [.initializeEntity (some fun _ => largestWeight) 0,
      .initializeEntity (some fun _ => largestWeight) 1, .markEntityActive 0]
    ⟨_, _, _, rfl⟩ (by decide +kernel)

/-! ## Fairness -/

/-- The credits of an entity account for its returns. -/
structure Fair (fetching : Bool) (r : PolicyRun α) : Prop where
  present : r.present ⊆ r.policy.entities
  weight : ∀ x ∈ r.present, (r.policy.metadata x).weight = r.weight x
  -- an entity without credits of this round was idle since the round started
  account : ∀ x ∈ r.present,
    (r.policy.metadata x).roundNumber = r.policy.globalRoundNumber ∧
      (r.served x : Int) + (r.policy.metadata x).remainingCredits = r.weight x ∨
    (r.policy.metadata x).roundNumber < r.policy.globalRoundNumber ∧ r.served x = 0 ∧
      (r.policy.metadata x).state = .idle
  subRound : r.policy.batched = false → ∀ x ∈ r.present, r.servedInSubRound x = 0 ∨
    r.servedInSubRound x = 1 ∧ ((r.policy.metadata x).state = .waiting ∨
      (r.policy.metadata x).state = .waitingGoingIdle)
  steady : r.steady = true → r.policy.active ⊆ r.present ∧
    ∑ x ∈ r.policy.active, (r.policy.metadata x).remainingCredits ≤ r.policy.globalCreditsRemaining
  unit : fetching = false → ∀ x ∈ r.policy.entities, (r.policy.metadata x).weight = 1
  round_nonneg : 0 ≤ r.policy.globalRoundNumber
  old : ∀ x ∈ r.policy.entities,
    (r.policy.metadata x).roundNumber ≤ r.policy.globalRoundNumber

/-- How marking an entity may change its metadata. -/
structure Marks (round : Int) (m m' : EntityMetadata) : Prop where
  weight : m'.weight = m.weight
  account : m'.roundNumber = m.roundNumber ∧ m'.remainingCredits = m.remainingCredits ∧
      (m.roundNumber < round → m.state = .idle → m'.state = .idle) ∨
    m.roundNumber < round ∧ m'.roundNumber = round ∧ m'.remainingCredits = m.weight
  subRound : m.state = .waiting ∨ m.state = .waitingGoingIdle →
    m'.state = .waiting ∨ m'.state = .waitingGoingIdle
  same : m.state.isActive = m'.state.isActive → m.state.isActive = true → m' = m

lemma marks_activated (round : Int) (m : EntityMetadata) : Marks round m (activated round m) := by
  obtain ⟨state, weight, credits, number⟩ := m
  cases state with
  | idle =>
    by_cases hlt : number < round
    · refine ⟨?_, ?_, nofun, fun _ hactive => absurd hactive nofun⟩
      · simp [activated, hlt]
      · simp [activated, hlt]
    · refine ⟨?_, ?_, nofun, fun _ hactive => absurd hactive nofun⟩
      · simp [activated, hlt]
      · simp [activated, hlt]
  | eligible => exact ⟨rfl, .inl ⟨rfl, rfl, fun _ h => h⟩, id, fun _ _ => rfl⟩
  | waiting => exact ⟨rfl, .inl ⟨rfl, rfl, fun _ h => h⟩, id, fun _ _ => rfl⟩
  | waitingGoingIdle =>
    exact ⟨rfl, .inl ⟨rfl, rfl, fun _ h => absurd h nofun⟩, fun _ => .inl rfl,
      fun _ hactive => absurd hactive nofun⟩

lemma marks_deactivated (round : Int) (m : EntityMetadata) : Marks round m (deactivated m) := by
  obtain ⟨state, weight, credits, number⟩ := m
  cases state with
  | idle => exact ⟨rfl, .inl ⟨rfl, rfl, fun _ h => h⟩, id, fun _ _ => rfl⟩
  | eligible =>
    exact ⟨rfl, .inl ⟨rfl, rfl, fun _ h => absurd h nofun⟩, nofun, fun hsame _ =>
      absurd hsame nofun⟩
  | waiting =>
    exact ⟨rfl, .inl ⟨rfl, rfl, fun _ h => absurd h nofun⟩, fun _ => .inr rfl,
      fun hsame _ => absurd hsame nofun⟩
  | waitingGoingIdle => exact ⟨rfl, .inl ⟨rfl, rfl, fun _ h => absurd h nofun⟩, id, fun _ _ => rfl⟩

lemma Fair.of_changes {m : EntityMetadata} {served servedInSubRound : α → Nat} {steady : Bool}
    (h : Fair fetching r) (hchanges : r.policy.Changes x m q)
    (hserved : ∀ y ≠ x, served y = r.served y)
    (hsubRound : ∀ y ≠ x, servedInSubRound y = r.servedInSubRound y)
    (hweight : m.weight = (r.policy.metadata x).weight)
    (hold : (r.policy.metadata x).roundNumber ≤ r.policy.globalRoundNumber →
      m.roundNumber ≤ r.policy.globalRoundNumber) (haccount : x ∈ r.present →
      m.roundNumber = r.policy.globalRoundNumber ∧
        (served x : Int) + m.remainingCredits = r.weight x ∨
      m.roundNumber < r.policy.globalRoundNumber ∧ served x = 0 ∧ m.state = .idle)
    (hwaits : r.policy.batched = false → x ∈ r.present → servedInSubRound x = 0 ∨
      servedInSubRound x = 1 ∧ (m.state = .waiting ∨ m.state = .waitingGoingIdle))
    (hsteady : steady = true → q.active ⊆ r.present ∧
      ∑ y ∈ q.active, (q.metadata y).remainingCredits ≤ q.globalCreditsRemaining) :
    Fair fetching { r with policy := q, served, servedInSubRound, steady } := by
  have hself : q.metadata x = m := by rw [hchanges.metadata, update_self]
  have hothers : ∀ y ≠ x, q.metadata y = r.policy.metadata y := by
    intro y hne
    rw [hchanges.metadata, update_of_ne hne]
  constructor
  all_goals dsimp only
  case present =>
    rw [hchanges.entities]
    exact h.present
  case weight =>
    intro y hy
    by_cases hne : y = x
    · subst hne
      rw [hself, hweight]
      exact h.weight y hy
    · rw [hothers y hne]
      exact h.weight y hy
  case account =>
    intro y hy
    rw [hchanges.round]
    by_cases hne : y = x
    · subst hne
      rw [hself]
      exact haccount hy
    · rw [hothers y hne, hserved y hne]
      exact h.account y hy
  case subRound =>
    intro hbatched y hy
    rw [hchanges.batched] at hbatched
    by_cases hne : y = x
    · subst hne
      rw [hself]
      exact hwaits hbatched hy
    · rw [hothers y hne, hsubRound y hne]
      exact h.subRound hbatched y hy
  case steady => exact hsteady
  case unit =>
    intro hfetch y hy
    rw [hchanges.entities] at hy
    by_cases hne : y = x
    · subst hne
      rw [hself, hweight]
      exact h.unit hfetch y hy
    · rw [hothers y hne]
      exact h.unit hfetch y hy
  case round_nonneg =>
    rw [hchanges.round]
    exact h.round_nonneg
  case old =>
    intro y hy
    rw [hchanges.entities] at hy
    rw [hchanges.round]
    by_cases hne : y = x
    · subst hne
      rw [hself]
      exact hold (h.old y hy)
    · rw [hothers y hne]
      exact h.old y hy

lemma Fair.marked {m : EntityMetadata} (h : Fair fetching r) (hp : r.policy.Consistent)
    (hq : q.Consistent) (hx : x ∈ r.policy.entities) (hchanges : r.policy.Changes x m q)
    (hglobal : q.globalCreditsRemaining = r.policy.globalCreditsRemaining)
    (hmarks : Marks r.policy.globalRoundNumber (r.policy.metadata x) m) :
    Fair fetching (r.changed q) := by
  refine h.of_changes hchanges (fun _ _ => rfl) (fun _ _ => rfl) hmarks.weight (fun hold => ?_)
    (fun hpresent => ?_) (fun hbatched hpresent => ?_) fun hsteady => ?_
  · rcases hmarks.account with ⟨hround, -⟩ | ⟨-, hround, -⟩
    · exact hround.trans_le hold
    · exact hround.le
  · rcases h.account x hpresent with ⟨hround, hsum⟩ | ⟨hround, hserved, hstate⟩
    · rcases hmarks.account with ⟨hround', hcredits, -⟩ | ⟨hold, -⟩
      · exact .inl ⟨hround'.trans hround, by rw [hcredits]; exact hsum⟩
      · exact absurd hround hold.ne
    · rcases hmarks.account with ⟨hround', -, hidle⟩ | ⟨-, hround', hcredits⟩
      · exact .inr ⟨hround' ▸ hround, hserved, hidle hround hstate⟩
      · refine .inl ⟨hround', ?_⟩
        rw [hserved, hcredits, h.weight x hpresent]
        exact Int.zero_add _
  · exact (h.subRound hbatched x hpresent).imp id fun hone => ⟨hone.1, hmarks.subRound hone.2⟩
  · rw [Bool.and_eq_true, decide_eq_true_iff] at hsteady
    obtain ⟨hactive, hsum⟩ := h.steady hsteady.1
    rw [hsteady.2, hglobal]
    refine ⟨hactive, le_of_eq_of_le (Finset.sum_congr rfl fun y hy => ?_) hsum⟩
    rw [hchanges.metadata]
    by_cases hne : y = x
    · subst hne
      have hbefore := mem_active.mp hy
      have hafter := mem_active.mp (hsteady.2 ▸ hy)
      rw [hp.isActive_eq hx] at hbefore
      rw [hq.isActive_eq (hchanges.entities ▸ hx), hchanges.metadata, update_self] at hafter
      rw [update_self, hmarks.same (hbefore.trans hafter.symm) hbefore]
    · rw [update_of_ne hne]

lemma Fair.initialized (h : Fair fetching r) (hweights : weights.isSome = fetching) :
    Fair fetching (r.changed (r.policy.initializeEntity weights x).1) := by
  unfold initializeEntity
  split
  · unfold changed
    refine ⟨h.present, h.weight, h.account, h.subRound, fun hsteady => ?_, h.unit, h.round_nonneg,
      h.old⟩
    exact h.steady (Bool.and_eq_true_iff.mp hsteady).1
  · rename_i hx
    have hne : ∀ y ∈ r.policy.entities, y ≠ x := fun y hy heq => hx (heq ▸ hy)
    have hsame : ∀ y ∈ r.present, ∀ m, update r.policy.metadata x m y =
        r.policy.metadata y := fun y hy m => by rw [update_of_ne (hne y (h.present hy))]
    unfold changed setMetadata
    refine ⟨h.present.trans (Finset.subset_insert x _), fun y hy => ?_, fun y hy => ?_,
      fun hbatched y hy => ?_, fun hsteady => ?_, fun hfetch y hy => ?_, h.round_nonneg,
      fun y hy => ?_⟩ <;> dsimp only at *
    · rw [hsame y hy]
      exact h.weight y hy
    · rw [hsame y hy]
      exact h.account y hy
    · rw [hsame y hy]
      exact h.subRound hbatched y hy
    · obtain ⟨hactive, hsum⟩ := h.steady (Bool.and_eq_true_iff.mp hsteady).1
      refine ⟨hactive, le_of_eq_of_le (Finset.sum_congr rfl fun y hy => ?_) hsum⟩
      rw [hsame y (hactive hy)]
    · rw [update_apply]
      split
      · cases weights with
        | none => rfl
        | some fetch => exact absurd hweights (by rw [hfetch]; exact nofun)
      · rename_i hyx
        exact h.unit hfetch y (Finset.mem_of_mem_insert_of_ne hy hyx)
    · rw [update_apply]
      split
      · have hround := h.round_nonneg
        change (-1 : Int) ≤ _
        omega
      · rename_i hyx
        exact h.old y (Finset.mem_of_mem_insert_of_ne hy hyx)

lemma Fair.deleted (h : Fair fetching r) (hp : r.policy.Consistent) (x : α) :
    Fair fetching { r.changed (r.policy.deleteEntity x).1 with present := r.present.erase x } := by
  rw [deleteEntity_eq hp]
  unfold changed
  refine ⟨Finset.erase_subset_erase x h.present,
    fun y hy => h.weight y (Finset.mem_of_mem_erase hy),
    fun y hy => h.account y (Finset.mem_of_mem_erase hy),
    fun hbatched y hy => h.subRound hbatched y (Finset.mem_of_mem_erase hy), fun hsteady => ?_,
    fun hfetch y hy => h.unit hfetch y (Finset.mem_of_mem_erase hy), h.round_nonneg,
    fun y hy => h.old y (Finset.mem_of_mem_erase hy)⟩
  rw [Bool.and_eq_true, decide_eq_true_iff] at hsteady
  obtain ⟨hactive, hsum⟩ := h.steady hsteady.1
  have hnot : x ∉ (r.policy.forget x).active := by
    change x ∉ r.policy.eligible.erase x ∪ r.policy.waiting.erase x
    simp
  refine ⟨fun y hy => Finset.mem_erase.mpr ⟨fun heq => hnot (heq ▸ hy), ?_⟩, ?_⟩
  · exact hactive (hsteady.2 ▸ hy)
  · rw [hsteady.2]
    exact hsum

/-! ### Rounds -/

lemma isRoundOver_eq (p : WeightedRoundRobinPolicy α) :
    p.isRoundOver.1 = p ∨ p.isRoundOver.1 = p.startSubRound := by
  unfold isRoundOver
  split
  · exact .inl rfl
  split
  · exact .inl rfl
  split
  · exact .inl rfl
  · exact .inr rfl

lemma isRoundOver_of_not_over (h : p.isRoundOver.2 = false) :
    p.isRoundOver.1 = if p.eligible = ∅ then p.startSubRound else p := by
  unfold isRoundOver at h ⊢
  split at h
  · exact absurd h nofun
  split at h
  · rename_i hzero hsome
    rw [if_neg hzero, if_pos hsome, if_neg hsome]
  split at h
  · exact absurd h nofun
  · rename_i hzero hnone hwaiting
    rw [if_neg hzero, if_neg hnone, if_neg hwaiting, if_pos (not_not.mp hnone)]

lemma startSubRound_active (p : WeightedRoundRobinPolicy α) : p.startSubRound.active =
    p.active := by
  ext x
  rw [mem_active, mem_active, (startSubRound_sameActivity p).isActive]

lemma Fair.subRoundStarted (h : Fair fetching r) (hp : r.policy.Consistent) :
    Fair fetching { r with policy := r.policy.startSubRound, servedInSubRound := fun _ => 0 } := by
  have hmetadata : ∀ x ∈ r.policy.entities, r.policy.startSubRound.metadata x =
      { r.policy.metadata x with state := subRoundState (r.policy.metadata x) } := fun x hx =>
    metadata_startSubRound hp hx
  refine ⟨h.present, fun x hx => ?_, fun x hx => ?_, fun _ _ _ => .inl rfl, fun hsteady => ?_,
    fun hfetch x hx => ?_, h.round_nonneg, fun x hx => ?_⟩ <;> dsimp only at *
  · rw [hmetadata x (h.present hx)]
    exact h.weight x hx
  · rw [hmetadata x (h.present hx)]
    refine (h.account x hx).imp id fun hidle => ⟨hidle.1, hidle.2.1, ?_⟩
    dsimp only [subRoundState]
    rw [hidle.2.2]
  · obtain ⟨hactive, hsum⟩ := h.steady hsteady
    rw [startSubRound_active]
    refine ⟨hactive, le_of_eq_of_le (Finset.sum_congr rfl fun x hx => ?_) hsum⟩
    rw [hmetadata x (h.present (hactive hx))]
  · rw [hmetadata x hx]
    exact h.unit hfetch x hx
  · rw [hmetadata x hx]
    exact h.old x hx

lemma active_resetAndRestartRound (hp : p.Consistent)
    (hx : x ∈ (p.resetAndRestartRound weights).active) : x ∈ p.entities ∧
      ((p.resetAndRestartRound weights).metadata x).remainingCredits = p.newWeight weights x := by
  rw [mem_active, (resetAndRestartRound_sameActivity p weights).isActive] at hx
  obtain ⟨hentity, hstate⟩ := hp.isActive_iff.mp hx
  refine ⟨hentity, ?_⟩
  rw [metadata_resetAndRestartRound hp hentity]
  unfold roundMetadata
  rcases hstate with hstate | hstate
  · rw [hstate]
  · rw [hstate]

/-- A round starts with the credits of all entities, the idle ones included. -/
lemma sum_credits_resetAndRestartRound (hp : p.Consistent) (hw : Consistent.NonNegative weights)
    (hfits : p.Fits weights) (hunit : weights = none →
      ∀ x ∈ p.entities, p.newWeight weights x = 1) :
    ∑ x ∈ (p.resetAndRestartRound weights).active,
        ((p.resetAndRestartRound weights).metadata x).remainingCredits ≤
      (p.resetAndRestartRound weights).globalCreditsRemaining := by
  have hnonneg : ∀ x ∈ p.entities, 0 ≤ p.newWeight weights x := by
    intro x hx
    cases weights with
    | none => exact hp.weight_nonneg x hx
    | some fetch => exact hw fetch rfl x
  calc ∑ x ∈ (p.resetAndRestartRound weights).active,
        ((p.resetAndRestartRound weights).metadata x).remainingCredits
      = ∑ x ∈ (p.resetAndRestartRound weights).active, p.newWeight weights x :=
        Finset.sum_congr rfl fun x hx => (active_resetAndRestartRound hp hx).2
    _ ≤ ∑ x ∈ p.entities, p.newWeight weights x :=
        Finset.sum_le_sum_of_subset_of_nonneg (fun x hx => (active_resetAndRestartRound hp hx).1)
          fun x hx _ => hnonneg x hx
    _ = (p.resetAndRestartRound weights).globalCreditsRemaining := by
      change _ = (p.fetchWeights weights).globalCreditsRemaining
      rw [Consistent.globalCredits_fetchWeights hw hfits]
      unfold weightSum
      cases weights with
      | some fetch => rfl
      | none =>
        rw [Finset.sum_congr rfl (hunit rfl)]
        simp

lemma Fair.roundStarted (hp : p.Consistent)
    (hold : ∀ x ∈ p.entities, (p.metadata x).roundNumber ≤ p.globalRoundNumber)
    (hround : 0 ≤ p.globalRoundNumber) (hlast : p.globalRoundNumber + 1 < 2 ^ 31)
    (hunit : fetching = false → ∀ x ∈ p.entities, (p.metadata x).weight = 1)
    (hw : Consistent.NonNegative weights) (hfits : p.Fits weights)
    (hweights : weights.isSome = fetching) : Fair fetching (started p weights) := by
  have hnumber : toInt32 (p.globalRoundNumber + 1) = p.globalRoundNumber + 1 :=
    toInt32_eq (by omega) hlast
  have hnext : (p.resetAndRestartRound weights).globalRoundNumber =
    p.globalRoundNumber + 1 := hnumber
  have hmetadata : ∀ x ∈ p.entities, (p.resetAndRestartRound weights).metadata x =
      roundMetadata (p.newWeight weights x) (p.globalRoundNumber + 1) (p.metadata x) := by
    intro x hx
    rw [metadata_resetAndRestartRound hp hx, hnumber]
  have hunitWeight : fetching = false → ∀ x ∈ p.entities, p.newWeight weights x = 1 := by
    intro hfetch x hx
    cases weights with
    | none => exact hunit hfetch x hx
    | some fetch => exact absurd hweights (by rw [hfetch]; exact nofun)
  have hsum := sum_credits_resetAndRestartRound hp hw hfits fun hnone =>
    hunitWeight (hweights.symm.trans (by rw [hnone]; rfl))
  unfold started
  refine ⟨?_, fun x hx => ?_, fun x hx => ?_, fun _ _ _ => .inl rfl, fun _ =>
    ⟨fun x hx => ?_, hsum⟩,
    fun hfetch x hx => ?_, ?_, fun x hx => ?_⟩ <;> dsimp only at *
  · rw [entities_resetAndRestartRound]
  · rw [hmetadata x hx]
    unfold roundMetadata
    split <;> rfl
  · rw [hmetadata x hx, hnext]
    have hlt := hold x hx
    unfold roundMetadata
    split
    · exact .inr ⟨by dsimp only; omega, rfl, rfl⟩
    · exact .inr ⟨by dsimp only; omega, rfl, rfl⟩
    · exact .inl ⟨rfl, by dsimp only; omega⟩
    · exact .inl ⟨rfl, by dsimp only; omega⟩
  · exact (active_resetAndRestartRound hp hx).1
  · rw [entities_resetAndRestartRound] at hx
    rw [hmetadata x hx]
    have hone := hunitWeight hfetch x hx
    unfold roundMetadata
    split <;> exact hone
  · rw [hnext]
    omega
  · rw [entities_resetAndRestartRound] at hx
    have hlt := hold x hx
    rw [hmetadata x hx, hnext]
    unfold roundMetadata
    split <;> dsimp only <;> omega

/-- The condition on a run in which every round is fair: the sums fit, and so does the number of the
next round. -/
structure RoundFits (r : PolicyRun α) (l : Label α) : Prop where
  sum : r.SumFits l
  number : r.policy.globalRoundNumber + 1 < 2 ^ 31

instance (r : PolicyRun α) (l : Label α) : Decidable (r.RoundFits l) :=
  decidable_of_iff (r.SumFits l ∧ r.policy.globalRoundNumber + 1 < 2 ^ 31)
    ⟨fun h => ⟨h.1, h.2⟩, fun h => ⟨h.sum, h.number⟩⟩

lemma Fair.refreshed (h : Fair fetching r) (hp : r.policy.Consistent)
    (hw : Consistent.NonNegative weights) (hfits : r.policy.Fits weights)
    (hlast : r.policy.globalRoundNumber + 1 < 2 ^ 31) (hweights : weights.isSome = fetching) :
    Fair fetching (r.refreshed weights) := by
  unfold PolicyRun.refreshed
  cases hover : r.policy.isRoundOver.2 with
  | true =>
    have hentities : r.policy.isRoundOver.1.entities = r.policy.entities :=
      (isRoundOver_sameActivity r.policy).entities
    have hsame : ∀ x ∈ r.policy.entities,
        (r.policy.isRoundOver.1.metadata x).roundNumber = (r.policy.metadata x).roundNumber ∧
        (r.policy.isRoundOver.1.metadata x).weight = (r.policy.metadata x).weight := by
      intro x hx
      rcases isRoundOver_eq r.policy with heq | heq
      · rw [heq]
        exact ⟨rfl, rfl⟩
      · rw [heq, metadata_startSubRound hp hx]
        exact ⟨rfl, rfl⟩
    have hround : r.policy.isRoundOver.1.globalRoundNumber = r.policy.globalRoundNumber := by
      rcases isRoundOver_eq r.policy with heq | heq
      · rw [heq]
      · rw [heq]
        rfl
    refine .roundStarted hp.isRoundOver (fun x hx => ?_) ?_ ?_ (fun hfetch x hx => ?_) hw
      hfits.isRoundOver hweights
    · rw [hentities] at hx
      rw [(hsame x hx).1, hround]
      exact h.old x hx
    · rw [hround]
      exact h.round_nonneg
    · rw [hround]
      exact hlast
    · rw [hentities] at hx
      rw [(hsame x hx).2]
      exact h.unit hfetch x hx
  | false =>
    rw [isRoundOver_of_not_over hover]
    split
    · exact h.subRoundStarted hp
    · exact h

lemma sum_credits_serviced {p q : WeightedRoundRobinPolicy α} (hx : x ∈ p.active)
    (hchanges : p.Changes x (serviced p.batched (p.metadata x)) q) :
    ∑ y ∈ p.active, (q.metadata y).remainingCredits =
      ∑ y ∈ p.active, (p.metadata y).remainingCredits - 1 := by
  rw [← Finset.add_sum_erase _ _ hx,
    ← Finset.add_sum_erase _ (fun y => (p.metadata y).remainingCredits) hx,
    Finset.sum_congr rfl (g := fun y => (p.metadata y).remainingCredits)]
  · rw [hchanges.metadata, update_self]
    dsimp only [serviced]
    omega
  · intro y hy
    rw [hchanges.metadata, update_of_ne (Finset.ne_of_mem_erase hy)]

lemma Fair.returned (h : Fair fetching r) (hp : r.policy.Consistent) (hx : x ∈ r.policy.eligible)
    (hpos : 0 < r.policy.globalCreditsRemaining) (hservice : r.policy.service x = .ok q) :
    Fair fetching (r.returned q (some x)) := by
  obtain ⟨hentity, hstate⟩ := hp.mem_eligible.mp hx
  obtain ⟨hchanges, hglobal⟩ := (service_changes r.policy x).of_ok hservice
  have hsame : SameActivity r.policy q := ((service_spec hp hx hpos).of_ok hservice).2
  refine h.of_changes hchanges (fun y hne => update_of_ne hne _ _)
    (fun y hne => update_of_ne hne _ _) rfl id (fun hpresent => ?_)
    (fun hbatched hpresent => ?_) fun hsteady => ?_
  · rw [update_self]
    rcases h.account x hpresent with ⟨hround, hsum⟩ | ⟨-, -, hidle⟩
    · refine .inl ⟨hround, ?_⟩
      dsimp only [serviced]
      omega
    · rw [hstate] at hidle
      exact absurd hidle nofun
  · rw [update_self]
    rcases h.subRound hbatched x hpresent with hzero | ⟨-, hwaits | hwaits⟩
    · refine .inr ⟨by rw [hzero], .inl ?_⟩
      rw [hbatched]
      rfl
    · rw [hstate] at hwaits
      exact absurd hwaits nofun
    · rw [hstate] at hwaits
      exact absurd hwaits nofun
  · obtain ⟨hactive, hsum⟩ := h.steady hsteady
    have hset : q.active = r.policy.active := by
      ext y
      rw [mem_active, mem_active, hsame.isActive]
    rw [hset, hglobal, sum_credits_serviced (Finset.mem_union_left _ hx) hchanges]
    exact ⟨hactive, by omega⟩

lemma Fair.getNext {out : WeightedRoundRobinPolicy α × Option α} (h : Fair fetching r)
    (hp : r.policy.Consistent) (hw : Consistent.NonNegative weights)
    (hfits : r.policy.Fits weights) (hlast : r.policy.globalRoundNumber + 1 < 2 ^ 31)
    (hweights : weights.isSome = fetching) (hout : r.policy.getNextEntity weights = .ok out) :
    Fair fetching ((if r.policy.eligible = ∅ ∧ r.policy.waiting = ∅ then r
      else r.refreshed weights).returned out.1 out.2) := by
  unfold getNextEntity at hout
  by_cases hnone : r.policy.eligible = ∅ ∧ r.policy.waiting = ∅
  · rw [if_pos hnone] at hout ⊢
    obtain rfl := Except.ok.inj hout
    exact h
  · rw [if_neg hnone] at hout ⊢
    have hpolicy := r.policy.hasWork_policy weights
    rw [← refreshed_policy] at hpolicy
    dsimp only at hpolicy hout
    rw [hpolicy] at hout
    have hfair := h.refreshed hp hw hfits hlast hweights
    have hconsistent : (r.refreshed weights).policy.Consistent := by
      rw [refreshed_policy]
      exact (hasWork_spec hp hw hfits).1
    cases hx : (r.refreshed weights).policy.nextEligible with
    | none =>
      rw [hx] at hout
      obtain rfl := Except.ok.inj hout
      exact hfair
    | some x =>
      rw [hx] at hout
      obtain ⟨q, hservice, hq⟩ := exists_of_bind_eq_ok hout
      obtain rfl := Except.ok.inj hq
      have hmem := (nextEligible_spec (r.refreshed weights).policy).2 x hx
      refine hfair.returned hconsistent hmem ?_ hservice
      rw [refreshed_policy] at hmem ⊢
      exact ((hasWork_spec hp hw hfits).2.2.2.2 (Finset.ne_empty_of_mem hmem)).global_pos

lemma reachable_fair (h : (runs α fetching).Reachable RoundFits r) : Fair fetching r := by
  refine h.invariant_of_ok (I := Fair fetching) (fun r hr => ?_)
    fun r l r' hreach hr hallowed hfits hnext => ?_
  · obtain ⟨batched, enforceOrder, x, rfl⟩ := hr
    exact ⟨Finset.Subset.refl _, nofun, nofun, fun _ => nofun, fun _ => ⟨nofun, le_rfl⟩,
      fun _ => nofun, le_rfl, nofun⟩
  · have hp := reachable_consistent (fun _ _ hfits => hfits.sum) hreach
    cases l with
    | initializeEntity weights x =>
      obtain rfl := Except.ok.inj hnext
      exact hr.initialized hallowed.2
    | deleteEntity x =>
      obtain rfl := Except.ok.inj hnext
      exact hr.deleted hp x
    | markEntityActive x =>
      obtain ⟨q, hq, hr'⟩ := exists_of_bind_eq_ok hnext
      obtain rfl := Except.ok.inj hr'
      obtain ⟨hx, hchanges, hglobal⟩ := (markEntityActive_changes r.policy x).of_ok hq
      exact hr.marked hp ((markEntityActive_spec hp hx).of_ok hq).1 hx hchanges hglobal
        (marks_activated _ _)
    | markEntityInactive x =>
      obtain ⟨q, hq, hr'⟩ := exists_of_bind_eq_ok hnext
      obtain rfl := Except.ok.inj hr'
      obtain ⟨hx, hchanges, hglobal⟩ := (markEntityInactive_changes r.policy x).of_ok hq
      exact hr.marked hp ((markEntityInactive_spec hp hx).of_ok hq).1 hx hchanges hglobal
        (marks_deactivated _ _)
    | hasWork weights =>
      obtain rfl := Except.ok.inj hnext
      exact hr.refreshed hp hallowed.1 hfits.sum hfits.number hallowed.2
    | getNextEntity weights =>
      obtain ⟨out, hout, hr'⟩ := exists_of_bind_eq_ok hnext
      obtain rfl := Except.ok.inj hr'
      exact hr.getNext hp hallowed.1 hfits.sum hfits.number hallowed.2 hout

/-- At the end of a round the active entities have no credits left if these are covered by the
global credits. -/
lemma credits_of_round_over (hp : p.Consistent) (hover : p.isRoundOver.2 = true)
    (hsum : ∑ y ∈ p.active, (p.metadata y).remainingCredits ≤ p.globalCreditsRemaining)
    (hx : x ∈ p.active) : (p.metadata x).remainingCredits = 0 := by
  have hentities : ∀ y ∈ p.active, y ∈ p.entities := fun y hy =>
    (hp.isActive_iff.mp (mem_active.mp hy)).1
  have hnonneg : ∀ y ∈ p.active, 0 ≤ (p.metadata y).remainingCredits := fun y hy =>
    hp.credits_nonneg y (hentities y hy)
  refine le_antisymm ?_ (hnonneg x hx)
  unfold isRoundOver at hover
  split at hover
  · rename_i hzero
    have hle := Finset.single_le_sum hnonneg hx
    rw [hzero] at hsum
    exact hle.trans hsum
  split at hover
  · exact absurd hover nofun
  rename_i heligible
  rw [not_not] at heligible
  have hwaiting : x ∈ p.waiting := by
    have hmem := Finset.mem_union.mp hx
    rw [heligible] at hmem
    exact hmem.resolve_left (Finset.notMem_empty x)
  split at hover
  · rename_i hempty
    rw [hempty] at hwaiting
    exact absurd hwaiting (Finset.notMem_empty x)
  · by_contra hpos
    have hmem : x ∈ p.startSubRound.eligible := by
      refine Finset.mem_union_right _ (Finset.mem_filter.mpr ⟨hwaiting, ?_⟩)
      exact decide_eq_true (not_le.mp hpos)
    rw [of_decide_eq_true hover] at hmem
    exact Finset.notMem_empty x hmem

/-- In every run with sums and round numbers below `2 ^ 31`, an entity that is there since the start
of the round was returned at most as often as its weight in the round, and without batching at most
once in the sub-round. When a round is over in which the active entities stayed the same, each of
them was returned as often as its weight. -/
theorem policy_fair (h : (runs α fetching).Reachable RoundFits r) :
    (∀ x ∈ r.present, (r.served x : Int) ≤ r.weight x) ∧
    (r.policy.batched = false → ∀ x ∈ r.present, r.servedInSubRound x ≤ 1) ∧
    (r.steady = true → r.policy.isRoundOver.2 = true → ∀ x, r.policy.isActive x = true →
      (r.served x : Int) = r.weight x) := by
  have hp := reachable_consistent (fun _ _ hfits => hfits.sum) h
  have hfair := reachable_fair h
  refine ⟨fun x hx => ?_, fun hbatched x hx => ?_, fun hsteady hover x hx => ?_⟩
  · have hcredits := hp.credits_nonneg x (hfair.present hx)
    have hweight := hp.weight_nonneg x (hfair.present hx)
    rw [hfair.weight x hx] at hweight
    rcases hfair.account x hx with ⟨-, hsum⟩ | ⟨-, hzero, -⟩
    · omega
    · rw [hzero]
      exact hweight
  · rcases hfair.subRound hbatched x hx with hzero | ⟨hone, -⟩
    · rw [hzero]
      exact Nat.zero_le 1
    · exact hone.le
  · obtain ⟨hactive, hsum⟩ := hfair.steady hsteady
    have hmem : x ∈ r.policy.active := mem_active.mpr hx
    have hcredits := credits_of_round_over hp hover hsum hmem
    obtain ⟨-, hstate⟩ := hp.isActive_iff.mp hx
    rcases hfair.account x (hactive hmem) with ⟨-, hserved⟩ | ⟨-, -, hidle⟩
    · rw [hcredits, add_zero] at hserved
      exact hserved
    · rw [hidle] at hstate
      exact absurd hstate nofun

/-- A round with the weights two and one. -/
theorem policy_fair_two_one :
    ∃ r, (runs (Fin 2) true).Reachable RoundFits r ∧
      r.policy.isRoundOver.2 = true ∧ r.weight 0 = 2 ∧ r.served 0 = 2 := by
  obtain ⟨r, hr, hover, hsteady, hactive, hweight⟩ := Reachable.exists_of_run
    (T := runs (Fin 2) true) (C := RoundFits)
    (s := { policy := { batched := false, enforceOrder := false, lastServicedEntity := 0 } })
    (P := fun r => r.policy.isRoundOver.2 = true ∧ r.steady = true ∧ r.policy.isActive 0 = true ∧
      r.weight 0 = 2)
    [.initializeEntity (some fun _ => 1) 0, .initializeEntity (some fun _ => 1) 1,
      .markEntityActive 0, .markEntityActive 1,
      .getNextEntity (some fun x => if x = 0 then 2 else 1),
      .getNextEntity (some fun _ => 0), .getNextEntity (some fun _ => 0)]
    ⟨_, _, _, rfl⟩ (by decide +kernel)
  have hserved := (policy_fair hr).2.2 hsteady hover 0 hactive
  rw [hweight] at hserved
  exact ⟨r, hr, hover, hweight, by exact_mod_cast hserved⟩

/-- The weights of three active entities add up to `1` modulo `2 ^ 32`: the round is over when one
of them was returned once. -/
theorem round_ends_early :
    ∃ r, (runs (Fin 3) true).Reachable (fun _ _ => True) r ∧
      r.steady = true ∧ r.policy.isRoundOver.2 = true ∧
      ∀ x, r.policy.isActive x = true ∧ r.weight x = (if x = 2 then 3 else largestWeight) ∧
        r.served x = if x = 0 then 1 else 0 :=
  Reachable.exists_of_run (T := runs (Fin 3) true) (C := fun _ _ => True)
    (s := { policy := { batched := false, enforceOrder := false, lastServicedEntity := 0 } })
    (P := fun r => r.steady = true ∧ r.policy.isRoundOver.2 = true ∧
      ∀ x, r.policy.isActive x = true ∧ r.weight x = (if x = 2 then 3 else largestWeight) ∧
        r.served x = if x = 0 then 1 else 0)
    [.initializeEntity (some fun _ => 1) 0, .initializeEntity (some fun _ => 1) 1,
      .initializeEntity (some fun _ => 1) 2, .markEntityActive 0, .markEntityActive 1,
      .markEntityActive 2, .getNextEntity (some fun x => if x = 2 then 3 else largestWeight)]
    ⟨_, _, _, rfl⟩ (by decide +kernel)

end PolicyRun

end Isekai.Falcon

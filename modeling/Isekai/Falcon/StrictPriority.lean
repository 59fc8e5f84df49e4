import Mathlib.Data.Finset.Sort

/-!
# Strict priority policy

`gen3/strict_priority_policy.h`. An iterator is the list of the entities from its position on, and
the end of the set is the empty list. `GetNextEntity` keeps the entity in an `int`, which is exact
for the 8-bit flow identifiers that the policy is used with.
-/

namespace Isekai.Falcon

/-- The entities and the one that was served last. -/
structure StrictPriorityPolicy (α : Type) where
  entities : Finset α := ∅
  lastServicedEntity : α

namespace StrictPriorityPolicy

variable {α : Type} (priority : α → Int)

def IsFirstBest (l : List α) (best : α) : Prop :=
  ∃ before after, l = before ++ best :: after ∧
    (∀ x ∈ before, priority x < priority best) ∧
      ∀ x ∈ after, priority x ≤ priority best

/-- An iterator that has reached the end starts again. -/
def wrap (entities it : List α) : List α := if it = [] then entities else it

/-- The loop of `GetNextEntity` with the number of turns that are left. -/
def getNextLoop (entities : List α) : Nat → List α → α → Int → α
  | 0, _, nextEntity, _ => nextEntity
  | n + 1, it, nextEntity, maxPrio =>
    match wrap entities it.tail with
    | [] => nextEntity
    | entity :: rest =>
      let prio := priority entity
      if prio > maxPrio then getNextLoop entities n (entity :: rest) entity prio
      else getNextLoop entities n (entity :: rest) nextEntity maxPrio

section

variable {priority} {seen : List α} {best x : α}
  (h : IsFirstBest priority seen best)

include h

lemma IsFirstBest.le (hx : x ∈ seen) : priority x ≤ priority best := by
  obtain ⟨before, after, rfl, hbefore, hafter⟩ := h
  rcases List.mem_append.mp hx with hx | hx
  · exact (hbefore x hx).le
  · rcases List.mem_cons.mp hx with rfl | hx
    · exact le_rfl
    · exact hafter x hx

lemma IsFirstBest.concat_of_gt (hgt : priority x > priority best) :
    IsFirstBest priority (seen ++ [x]) x :=
  ⟨seen, [], rfl, fun _ hy => (h.le hy).trans_lt hgt, nofun⟩

lemma IsFirstBest.concat_of_le (hle : priority x ≤ priority best) :
    IsFirstBest priority (seen ++ [x]) best := by
  obtain ⟨before, after, rfl, hbefore, hafter⟩ := h
  refine ⟨before, after ++ [x], by simp, hbefore, fun y hy => ?_⟩
  rcases List.mem_append.mp hy with hy | hy
  · exact hafter y hy
  · rwa [List.mem_singleton.mp hy]

lemma getNextLoop_isFirstBest {entities rest : List α} (hentities : entities ≠ []) (n : Nat)
    (it : α) (hn : n ≤ rest.length + entities.length) :
    IsFirstBest priority (seen ++ (rest ++ entities).take n)
      (getNextLoop priority entities n (it :: rest) best (priority best)) := by
  induction n generalizing it rest seen best with
  | zero => simpa [getNextLoop] using h
  | succ n ih =>
    obtain ⟨y, rest', hwrap, hn', htake⟩ : ∃ y rest', wrap entities rest = y :: rest' ∧
        n ≤ rest'.length + entities.length ∧
          (rest ++ entities).take (n + 1) = [y] ++ (rest' ++ entities).take n := by
      cases rest with
      | nil =>
        obtain ⟨y, rest', rfl⟩ := List.exists_cons_of_ne_nil hentities
        have hn' : n ≤ rest'.length := by simpa using hn
        refine ⟨y, rest', rfl, by omega, ?_⟩
        rw [List.take_append_of_le_length hn']
        rfl
      | cons y rest =>
        rw [List.length_cons] at hn
        exact ⟨y, rest, rfl, by omega, rfl⟩
    rw [htake, ← List.append_assoc]
    simp only [getNextLoop, List.tail_cons, hwrap]
    split
    · exact ih (h.concat_of_gt ‹_›) y hn'
    · exact ih (h.concat_of_le (not_lt.mp ‹_›)) y hn'

end

variable [LinearOrder α] (p : StrictPriorityPolicy α)

def upperBound : List α := p.entities.sort.dropWhile (· ≤ p.lastServicedEntity)

/-- The status `Unavailable` is `none`. -/
def getNextEntity : StrictPriorityPolicy α × Option α :=
  match wrap p.entities.sort p.upperBound with
  | [] => (p, none)
  | entity :: rest =>
    let nextEntity := getNextLoop priority p.entities.sort (p.entities.card - 1)
      (entity :: rest) entity (priority entity)
    ({ p with lastServicedEntity := nextEntity }, some nextEntity)

/-- The entities in cyclic order, from the first one after the last serviced one. -/
def turnOrder : List α :=
  p.upperBound ++ p.entities.sort.takeWhile (· ≤ p.lastServicedEntity)

def serve : Nat → StrictPriorityPolicy α → List α
  | 0, _ => []
  | n + 1, p => (p.getNextEntity priority).2.toList ++
      serve n (p.getNextEntity priority).1

variable {p} (hne : p.entities.Nonempty)

include hne

lemma exists_turnOrder : ∃ entity before after,
    p.entities.sort = before ++ entity :: after ∧ p.turnOrder = entity :: after ++ before ∧
      wrap p.entities.sort p.upperBound = entity :: after := by
  have hsplit : p.entities.sort.takeWhile (· ≤ p.lastServicedEntity) ++ p.upperBound =
      p.entities.sort := List.takeWhile_append_dropWhile
  cases hupper : p.upperBound with
  | nil =>
    rw [hupper, List.append_nil] at hsplit
    cases hentities : p.entities.sort with
    | nil =>
      have hmem := (p.entities.mem_sort (· ≤ ·)).mpr hne.choose_spec
      rw [hentities] at hmem
      cases hmem
    | cons entity after =>
      refine ⟨entity, [], after, rfl, ?_, rfl⟩
      rw [turnOrder, hupper, hsplit, hentities, List.append_nil]
      rfl
  | cons entity after =>
    rw [hupper] at hsplit
    exact ⟨entity, _, after, hsplit.symm, by rw [turnOrder, hupper], rfl⟩

lemma getNextEntity_isFirstBest : ∃ best,
    p.getNextEntity priority = ({ p with lastServicedEntity := best }, some best) ∧
      IsFirstBest priority p.turnOrder best := by
  obtain ⟨entity, before, after, hentities, hturn, hwrap⟩ := exists_turnOrder hne
  have hcard : p.entities.card = before.length + after.length + 1 := by
    rw [← p.entities.length_sort (· ≤ ·), hentities, List.length_append, List.length_cons]
    omega
  have htake : (after ++ p.entities.sort).take (p.entities.card - 1) = after ++ before := by
    rw [hentities, ← List.append_assoc, List.take_left' (by simp; omega)]
  simp only [getNextEntity, hwrap]
  refine ⟨_, rfl, ?_⟩
  rw [hturn, List.cons_append, ← htake]
  apply getNextLoop_isFirstBest (⟨[], [], rfl, nofun, nofun⟩ : IsFirstBest _ [entity] entity)
  · simp [hentities]
  · rw [p.entities.length_sort]
    omega

lemma turnOrder_serviced {entity : α} {order : List α} (h : p.turnOrder = entity :: order) :
    turnOrder { p with lastServicedEntity := entity } = order ++ [entity] := by
  obtain ⟨_, before, after, hentities, hturn, -⟩ := exists_turnOrder hne
  obtain ⟨rfl, rfl⟩ := List.cons.inj (h.symm.trans hturn)
  have hsorted := p.entities.sortedLT_sort.pairwise
  rw [hentities, List.pairwise_append, List.pairwise_cons] at hsorted
  have hbefore : ∀ x ∈ before, x ≤ entity := fun x hx => (hsorted.2.2 x hx entity (by simp)).le
  have hafter : ∀ x ∈ after, ¬x ≤ entity := fun x hx => (hsorted.2.1.1 x hx).not_ge
  simp only [turnOrder, upperBound, hentities]
  rw [List.dropWhile_append_of_pos (by simpa using hbefore),
    List.takeWhile_append_of_pos (by simpa using hbefore)]
  cases after with
  | nil => simp
  | cons y after => simp [hafter y]

lemma turnOrder_perm : p.turnOrder.Perm p.entities.sort := by
  obtain ⟨entity, before, after, hentities, hturn, -⟩ := exists_turnOrder hne
  rw [hturn, hentities]
  exact List.perm_append_comm

lemma mem_turnOrder {x : α} : x ∈ p.turnOrder ↔ x ∈ p.entities :=
  (turnOrder_perm hne).mem_iff.trans (p.entities.mem_sort _)

lemma serve_eq_take
    (hequal : ∀ x ∈ p.entities, ∀ y ∈ p.entities, priority x = priority y) (n : Nat)
    (hn : n ≤ p.turnOrder.length) : p.serve priority n = p.turnOrder.take n := by
  induction n generalizing p with
  | zero => rfl
  | succ n ih =>
    obtain ⟨best, hnext, before, after, hturn, hbefore, -⟩ :=
      getNextEntity_isFirstBest priority hne
    have hmem {x : α} (hx : x ∈ before ++ best :: after) : x ∈ p.entities := by
      rwa [← hturn, mem_turnOrder hne] at hx
    cases before with
    | cons x before =>
      have heq := hequal x (hmem (by simp)) best (hmem (by simp))
      exact absurd heq (hbefore x (by simp)).ne
    | nil =>
      have hserviced := turnOrder_serviced hne hturn
      rw [hturn] at hn
      have hn' : n ≤ after.length := by simpa using hn
      have hrest := ih (p := { p with lastServicedEntity := best }) hne hequal
        (by rw [hserviced, List.length_append]; omega)
      rw [hserviced, List.take_append_of_le_length hn'] at hrest
      rw [serve, hnext, hturn]
      exact congrArg (best :: ·) hrest

/-- The policy returns the first entity of the highest priority in cyclic order, and serves every
entity once in as many calls as there are entities if their priorities are equal. -/
theorem getNextEntity_strict_priority :
    (∃ best ∈ p.entities,
      p.getNextEntity priority = ({ p with lastServicedEntity := best }, some best) ∧
      (∀ x ∈ p.entities, priority x ≤ priority best) ∧
      ∃ before after, p.turnOrder = before ++ best :: after ∧
        ∀ x ∈ before, priority x < priority best) ∧
    ((∀ x ∈ p.entities, ∀ y ∈ p.entities, priority x = priority y) →
      (p.serve priority p.entities.card : Multiset α) = p.entities.val) := by
  refine ⟨?_, fun hequal => ?_⟩
  · obtain ⟨best, hnext, hbest⟩ := getNextEntity_isFirstBest priority hne
    obtain ⟨before, after, hturn, hbefore, -⟩ := id hbest
    refine ⟨best, ?_, hnext, fun x hx => hbest.le ((mem_turnOrder hne).mpr hx), before,
      after, hturn,
      hbefore⟩
    rw [← mem_turnOrder hne, hturn]
    simp
  · have hlength : p.turnOrder.length = p.entities.card := by
      rw [(turnOrder_perm hne).length_eq, p.entities.length_sort]
    rw [serve_eq_take priority hne hequal _ hlength.ge, List.take_of_length_le hlength.le,
      Multiset.coe_eq_coe.mpr (turnOrder_perm hne), p.entities.sort_eq]

omit hne in
theorem getNextEntity_strict_priority_three :
    (serve (fun _ => 0) 3 { entities := {1, 4, 6}, lastServicedEntity := 5 } : Multiset Nat) =
      {1, 4, 6} :=
  (getNextEntity_strict_priority _ (p := { entities := {1, 4, 6}, lastServicedEntity := 5 })
    ⟨1, by decide⟩).2 fun _ _ _ _ => rfl

end StrictPriorityPolicy

end Isekai.Falcon

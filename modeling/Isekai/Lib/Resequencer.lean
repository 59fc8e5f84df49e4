import Isekai.Lib.OrderedMap
import Isekai.Lib.Serial

/-!
# Resequencing

Items arrive with numbers of `w` bits in any order and are delivered in the order of their numbers.
What arrives early waits in a map that is ordered by the plain values of the numbers, and is
delivered from the head of the map.
-/

namespace Isekai.Lib

/-- The next number and the items that came early. -/
structure Resequencer (w : Nat) (α : Type) where
  next : BitVec w
  buffer : List (Nat × α) := []

namespace Resequencer

variable {w : Nat} {α : Type}

/-- Delivers from the head of the buffer as long as the expected number is there. -/
def drain (next : BitVec w) : List (Nat × α) → Resequencer w α × List (BitVec w × α)
  | [] => (⟨next, []⟩, [])
  | (key, value) :: rest =>
    if next.toNat = key then
      let r := drain (next + 1) rest
      (r.1, (next, value) :: r.2)
    else (⟨next, (key, value) :: rest⟩, [])

def insert (q : Resequencer w α) (number : BitVec w) (value : α) :
    Resequencer w α × List (BitVec w × α) :=
  if number = q.next then
    let r := drain (q.next + 1) q.buffer
    (r.1, (number, value) :: r.2)
  else (⟨q.next, OrderedMap.insert number.toNat value q.buffer⟩, [])

/-- The plain order of the buffered numbers is the order in which they are expected. -/
def Consistent (q : Resequencer w α) : Prop :=
  ∀ a ∈ OrderedMap.keys q.buffer, ∀ b ∈ OrderedMap.keys q.buffer, a < b →
    Serial.dist q.next (BitVec.ofNat w a) < Serial.dist q.next (BitVec.ofNat w b)

instance (q : Resequencer w α) : Decidable q.Consistent :=
  inferInstanceAs (Decidable (∀ a ∈ _, ∀ b ∈ _, _))

/-! ## Positions

The position of an item is its number without wrapping, counted from the first number. -/

section Positions

variable (start : BitVec w)

def delivered (a : Nat × α) : BitVec w × α := (Serial.shift start a.1, a.2)

def buffered (a : Nat × α) : Nat × α := ((Serial.shift start a.1).toNat, a.2)

/-- The buffer when the items of `arrived` have arrived and those below position `n` are
delivered. -/
structure Tracks (arrived : List (Nat × α)) (n : Nat) (q : Resequencer w α) : Prop where
  next : q.next = Serial.shift start n
  below : ∀ p < n, p ∈ arrived.map Prod.fst
  notMem : n ∉ arrived.map Prod.fst
  lt : ∀ a ∈ arrived, a.1 < n + 2 ^ w
  sorted : OrderedMap.Sorted q.buffer
  mem_iff : ∀ b, b ∈ q.buffer ↔ ∃ a ∈ arrived, n < a.1 ∧ b = buffered start a

variable {start} {arrived : List (Nat × α)} {n : Nat} {q : Resequencer w α}

lemma shift_succ (start : BitVec w) (n : Nat) :
    Serial.shift start n + 1 = Serial.shift start (n + 1) := by
  rw [← Serial.shift_add, Serial.shift, Serial.shift]
  rfl

lemma shift_inj (start : BitVec w) {m p : Nat} (hm : n ≤ m) (hm' : m < n + 2 ^ w) (hp : n ≤ p)
    (hp' : p < n + 2 ^ w)
    (h : Serial.shift start m = Serial.shift start p) : m = p := by
  obtain ⟨i, rfl⟩ := Nat.exists_eq_add_of_le hm
  obtain ⟨j, rfl⟩ := Nat.exists_eq_add_of_le hp
  rw [← Serial.shift_add, ← Serial.shift_add] at h
  rw [Serial.shift_injOn _ (by omega) (by omega) h]

lemma drain_spec (start : BitVec w) (l : List (Nat × α)) (hl : (l.map Prod.fst).Pairwise (· < ·))
    (hle : ∀ a ∈ l, n ≤ a.1 ∧ a.1 < n + 2 ^ w) :
    ∃ out rest, l = out ++ rest ∧ out.map Prod.fst = List.range' n out.length ∧
      n + out.length ∉ rest.map Prod.fst ∧
      drain (Serial.shift start n) (l.map (buffered start)) =
        (⟨Serial.shift start (n + out.length), rest.map (buffered start)⟩,
          out.map (delivered start)) := by
  induction l generalizing n with
  | nil => exact ⟨[], [], rfl, rfl, List.not_mem_nil, rfl⟩
  | cons a l ih =>
    obtain ⟨ha, ha'⟩ := hle a List.mem_cons_self
    rw [List.map_cons, List.pairwise_cons] at hl
    by_cases heq : n = a.1
    · obtain ⟨out, rest, hsplit, hout, hrest, hdrain⟩ := ih (n := n + 1) hl.2 fun b hb => by
        have hb' := hle b (List.mem_cons_of_mem _ hb)
        have hlt := hl.1 b.1 (List.mem_map_of_mem hb)
        omega
      refine ⟨a :: out, rest, by rw [hsplit]; rfl, ?_, ?_, ?_⟩
      · rw [List.map_cons, hout, List.length_cons, List.range'_succ, heq]
      · rw [List.length_cons, Nat.add_comm out.length 1, ← Nat.add_assoc]
        exact hrest
      · have hhead : (Serial.shift start n).toNat = (Serial.shift start a.1).toNat := by rw [heq]
        rw [List.map_cons, buffered, drain, if_pos hhead]
        rw [shift_succ, hdrain, List.length_cons, Nat.add_comm out.length 1, ← Nat.add_assoc]
        rw [List.map_cons, delivered, ← heq]
    · have hne : (Serial.shift start n).toNat ≠ (Serial.shift start a.1).toNat := fun h =>
        heq (shift_inj start le_rfl (by have := Nat.two_pow_pos w; omega) ha ha'
          (BitVec.eq_of_toNat_eq h))
      refine ⟨[], a :: l, rfl, rfl, fun hmem => ?_, ?_⟩
      · rw [List.length_nil, Nat.add_zero, List.map_cons, List.mem_cons] at hmem
        rcases hmem with hmem | hmem
        · exact heq hmem
        · have := hl.1 n hmem
          omega
      · rw [List.map_cons, buffered, drain, if_neg hne]
        rfl

def position (n : Nat) (q : Resequencer w α) (b : Nat × α) : Nat × α :=
  (n + Serial.dist q.next (BitVec.ofNat w b.1), b.2)

variable (h : Tracks start arrived n q)

include h

lemma Tracks.position_buffered {a : Nat × α} (ha : n ≤ a.1) (ha' : a.1 < n + 2 ^ w) :
    position n q (buffered start a) = a := by
  obtain ⟨i, hi⟩ := Nat.exists_eq_add_of_le ha
  have hdist : Serial.dist q.next (Serial.shift start a.1) = i := by
    rw [h.next, hi, ← Serial.shift_add]
    exact Serial.dist_shift _ (by omega)
  unfold position buffered
  rw [BitVec.ofNat_toNat, BitVec.setWidth_eq, hdist, ← hi]

lemma Tracks.mem_positions (a : Nat × α) :
    a ∈ q.buffer.map (position n q) ↔ a ∈ arrived ∧ n < a.1 := by
  constructor
  · intro hmem
    obtain ⟨b, hb, rfl⟩ := List.mem_map.mp hmem
    obtain ⟨a, ha, hlt, rfl⟩ := (h.mem_iff b).mp hb
    rw [h.position_buffered hlt.le (h.lt a ha)]
    exact ⟨ha, hlt⟩
  · rintro ⟨ha, hlt⟩
    refine List.mem_map.mpr ⟨buffered start a, (h.mem_iff _).mpr ⟨a, ha, hlt, rfl⟩, ?_⟩
    exact h.position_buffered hlt.le (h.lt a ha)

lemma Tracks.buffered_positions :
    (q.buffer.map (position n q)).map (buffered start) = q.buffer := by
  rw [List.map_map]
  conv_rhs => rw [← List.map_id q.buffer]
  refine List.map_congr_left fun b hb => ?_
  obtain ⟨a, ha, hlt, rfl⟩ := (h.mem_iff b).mp hb
  rw [Function.comp_apply, h.position_buffered hlt.le (h.lt a ha), id]

lemma Tracks.positions_pairwise (hcons : q.Consistent) :
    ((q.buffer.map (position n q)).map Prod.fst).Pairwise (· < ·) := by
  have hsorted := h.sorted
  unfold OrderedMap.Sorted OrderedMap.keys at hsorted
  rw [List.map_map, List.pairwise_map]
  rw [List.pairwise_map] at hsorted
  refine hsorted.imp_of_mem fun {a b} ha hb hlt => ?_
  exact Nat.add_lt_add_left (hcons a.1 (List.mem_map_of_mem ha) b.1 (List.mem_map_of_mem hb) hlt) n

lemma Tracks.insert_early {p : Nat} (v : α) (hn : n < p) (hlt : p < n + 2 ^ w)
    (hp : p ∉ arrived.map Prod.fst) :
    (q.insert (Serial.shift start p) v).2 = [] ∧
      Tracks start ((p, v) :: arrived) n (q.insert (Serial.shift start p) v).1 := by
  have hne : Serial.shift start p ≠ q.next := by
    rw [h.next]
    intro heq
    have := shift_inj start hn.le hlt le_rfl (by have := Nat.two_pow_pos w; omega) heq
    omega
  have hfresh : (Serial.shift start p).toNat ∉ OrderedMap.keys q.buffer := by
    intro hmem
    obtain ⟨b, hb, hkey⟩ := List.mem_map.mp hmem
    obtain ⟨a, ha, hna, rfl⟩ := (h.mem_iff b).mp hb
    have heq := shift_inj start hna.le (h.lt a ha) hn.le hlt
      (BitVec.eq_of_toNat_eq hkey)
    exact hp (List.mem_map.mpr ⟨a, ha, heq⟩)
  unfold insert
  rw [if_neg hne]
  refine ⟨rfl, h.next, fun i hi => List.mem_cons_of_mem _ (h.below i hi), ?_, ?_,
    h.sorted.insert _ v, fun b => ?_⟩
  · rw [List.map_cons, List.mem_cons, not_or]
    exact ⟨hn.ne, h.notMem⟩
  · intro a ha
    rcases List.mem_cons.mp ha with rfl | ha
    · exact hlt
    · exact h.lt a ha
  · rw [(OrderedMap.insert_perm v hfresh).mem_iff, List.mem_cons, h.mem_iff]
    simp only [List.mem_cons, exists_eq_or_imp, hn, true_and]
    rfl

lemma Tracks.insert_next (v : α) (hcons : q.Consistent) :
    ∃ out : List (Nat × α),
      (q.insert (Serial.shift start n) v).2 = ((n, v) :: out).map (delivered start) ∧
      out.map Prod.fst = List.range' (n + 1) out.length ∧ (∀ a ∈ out, a ∈ arrived) ∧
      Tracks start ((n, v) :: arrived) (n + 1 + out.length)
        (q.insert (Serial.shift start n) v).1 := by
  have hpositions := h.mem_positions
  obtain ⟨out, rest, hsplit, hout, hrest, hdrain⟩ := drain_spec start (n := n + 1)
    (q.buffer.map (position n q)) (h.positions_pairwise hcons) fun a ha => by
      obtain ⟨hmem, hlt⟩ := (hpositions a).mp ha
      have := h.lt a hmem
      omega
  rw [h.buffered_positions] at hdrain
  have hmem : ∀ a, a ∈ out ∨ a ∈ rest ↔ a ∈ arrived ∧ n < a.1 := by
    intro a
    rw [← List.mem_append, ← hsplit]
    exact hpositions a
  have hrange : ∀ i, i ∈ out.map Prod.fst ↔ n + 1 ≤ i ∧ i < n + 1 + out.length := by
    intro i
    rw [hout, List.mem_range'_1]
  have hpairwise := h.positions_pairwise hcons
  rw [hsplit, List.map_append, List.pairwise_append] at hpairwise
  unfold insert
  rw [if_pos h.next.symm]
  rw [h.next, shift_succ, hdrain]
  refine ⟨out, rfl, hout, fun a ha => ((hmem a).mp (.inl ha)).1, rfl, ?_, ?_, ?_, ?_, ?_⟩
  · intro i hi
    rw [List.map_cons, List.mem_cons]
    rcases Nat.lt_trichotomy i n with hlt | rfl | hgt
    · exact .inr (h.below i hlt)
    · exact .inl rfl
    · obtain ⟨a, ha, rfl⟩ := List.mem_map.mp ((hrange i).mpr ⟨hgt, hi⟩)
      exact .inr (List.mem_map_of_mem ((hmem a).mp (.inl ha)).1)
  · rw [List.map_cons, List.mem_cons, not_or]
    refine ⟨by omega, fun hin => ?_⟩
    obtain ⟨a, ha, heq⟩ := List.mem_map.mp hin
    rcases (hmem a).mpr ⟨ha, by omega⟩ with ho | hr
    · have := (hrange a.1).mp (List.mem_map_of_mem ho)
      omega
    · exact hrest (List.mem_map.mpr ⟨a, hr, heq⟩)
  · intro a ha
    rcases List.mem_cons.mp ha with rfl | ha
    · have := Nat.two_pow_pos w
      omega
    · have := h.lt a ha
      omega
  · have hsuffix : (rest.map (buffered start)).Sublist q.buffer := by
      rw [← h.buffered_positions, hsplit, List.map_append]
      exact List.sublist_append_right _ _
    exact List.Pairwise.sublist (hsuffix.map _) h.sorted
  · intro b
    rw [List.mem_map]
    constructor
    · rintro ⟨a, ha, rfl⟩
      obtain ⟨harrived, hlt⟩ := (hmem a).mp (.inr ha)
      refine ⟨a, List.mem_cons_of_mem _ harrived, ?_, rfl⟩
      by_contra hle
      have hnot : a.1 ≠ n + 1 + out.length := fun heq =>
        hrest (List.mem_map.mpr ⟨a, ha, heq⟩)
      have hin := (hrange a.1).mpr ⟨hlt, by omega⟩
      exact lt_irrefl _ (hpairwise.2.2 a.1 hin a.1 (List.mem_map_of_mem ha))
    · rintro ⟨a, ha, hlt, rfl⟩
      rcases List.mem_cons.mp ha with rfl | ha
      · dsimp only at hlt
        omega
      · rcases (hmem a).mpr ⟨ha, by omega⟩ with ho | hr
        · have := (hrange a.1).mp (List.mem_map_of_mem ho)
          omega
        · exact ⟨a, hr, rfl⟩

/-- What an item at position `p` delivers: those from position `n` on that are there. -/
lemma Tracks.insert {p : Nat} (v : α) (hn : n ≤ p) (hlt : p < n + 2 ^ w)
    (hp : p ∉ arrived.map Prod.fst) (hcons : p = n → q.Consistent) :
    ∃ out : List (Nat × α),
      (q.insert (Serial.shift start p) v).2.map Prod.snd = out.map Prod.snd ∧
      out.map Prod.fst = List.range' n out.length ∧ (∀ a ∈ out, a ∈ (p, v) :: arrived) ∧
      Tracks start ((p, v) :: arrived) (n + out.length) (q.insert (Serial.shift start p) v).1 := by
  rcases hn.eq_or_lt with rfl | hgt
  · obtain ⟨out, hout, hrange, hsub, htracks⟩ := h.insert_next v (hcons rfl)
    refine ⟨(n, v) :: out, ?_, ?_, ?_, ?_⟩
    · rw [hout, List.map_map]
      rfl
    · rw [List.map_cons, hrange, List.length_cons, List.range'_succ]
    · intro a ha
      rcases List.mem_cons.mp ha with rfl | ha
      · exact List.mem_cons_self
      · exact List.mem_cons_of_mem _ (hsub a ha)
    · rw [List.length_cons, Nat.add_comm out.length 1, ← Nat.add_assoc]
      exact htracks
  · obtain ⟨hout, htracks⟩ := h.insert_early v hgt hlt hp
    rw [hout]
    exact ⟨[], rfl, rfl, nofun, htracks⟩

end Positions

end Resequencer

end Isekai.Lib

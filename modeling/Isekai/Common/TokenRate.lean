import Isekai.Common.TokenBucket
import Isekai.Lib.TransitionSystem
import Mathlib.Tactic.Linarith
import Mathlib.Tactic.Ring

/-!
# The rate of a token bucket

Calls of `AreTokensAvailable` at times that do not decrease, and of `RequestTokens` for at most what
a successful test allows.
-/

namespace Isekai.Common

open Falcon (Time)
open Lib

/-- `now` is the time of the last test, `tested` what the tests found and no request has taken
since. `granted` has the tokens of all requests with their times, the latest first. -/
structure BucketRun where
  bucket : TokenBucket
  now : Time := 0
  tested : Nat := 0
  granted : List (Time × Nat) := []

inductive BucketFatal
  | insufficientTokens

inductive BucketLabel
  | areTokensAvailable (time : Time) (requestedTokens : Nat)
  | requestTokens (requiredTokens : Nat)

namespace BucketRun

variable (r : BucketRun) {b : TokenBucket}

def next : BucketLabel → Except BucketFatal BucketRun
  | .areTokensAvailable time requestedTokens =>
    let test := r.bucket.areTokensAvailable requestedTokens time
    .ok { r with
      bucket := test.1
      now := time
      tested := if test.2 then max r.tested requestedTokens else r.tested }
  | .requestTokens requiredTokens =>
    match r.bucket.requestTokens requiredTokens with
    | none => .error .insufficientTokens
    | some bucket =>
      .ok { r with
        bucket
        tested := r.tested - requiredTokens
        granted := (r.now, requiredTokens) :: r.granted }

def allowed : BucketLabel → Prop
  | .areTokensAvailable time _ => r.now ≤ time
  | .requestTokens requiredTokens => requiredTokens ≤ r.tested

instance : (l : BucketLabel) → Decidable (r.allowed l)
  | .areTokensAvailable time _ => inferInstanceAs (Decidable (r.now ≤ time))
  | .requestTokens requiredTokens => inferInstanceAs (Decidable (requiredTokens ≤ r.tested))

end BucketRun

def grantedIn (granted : List (Time × Nat)) (start finish : Time) : Nat :=
  ((granted.filter fun x => start ≤ x.1 ∧ x.1 ≤ finish).map Prod.snd).sum

namespace TokenBucket

variable (b : TokenBucket)

/-- Runs of a bucket that is full at time zero. -/
def system : TransitionSystem BucketRun BucketLabel BucketFatal where
  init r := r = { bucket := { b with availableTokens := b.bucketSize, lastRefillTimestamp := 0 } }
  allowed := BucketRun.allowed
  next := BucketRun.next

instance (r : BucketRun) (l : BucketLabel) : Decidable (b.system.allowed r l) :=
  inferInstanceAs (Decidable (r.allowed l))

def intervalOf (time : Time) : Int := time / b.bucketRefillInterval

def testedAt (available : Nat) (time : Time) : TokenBucket :=
  { b with
    availableTokens := available
    lastRefillTimestamp := b.intervalOf time * b.bucketRefillInterval }

def refilled (start finish : Time) : Nat :=
  (b.intervalOf finish - b.intervalOf start).toNat * b.tokensPerRefillInterval

variable {b} {available : Nat} {start now time finish : Time}
  (hinterval : 0 < b.bucketRefillInterval)

include hinterval

lemma intervalOf_mono (h : start ≤ finish) : b.intervalOf start ≤ b.intervalOf finish :=
  Int.ediv_le_ediv hinterval h

lemma refilled_add (hnow : start ≤ now) (hfinish : now ≤ finish) :
    b.refilled start now + b.refilled now finish = b.refilled start finish := by
  have h₁ := intervalOf_mono hinterval hnow
  have h₂ := intervalOf_mono hinterval hfinish
  rw [refilled, refilled, refilled, ← Nat.add_mul]
  congr 1
  omega

lemma refilled_le (T : Time) : b.refilled start (start + T) ≤
    (b.intervalOf T + 1).toNat * b.tokensPerRefillInterval := by
  have hstart := Int.lt_ediv_add_one_mul_self start hinterval
  have hT := Int.lt_ediv_add_one_mul_self T hinterval
  have hlt : b.intervalOf (start + T) < b.intervalOf start + b.intervalOf T + 2 := by
    apply Int.ediv_lt_of_lt_mul hinterval
    unfold intervalOf
    linarith
  apply Nat.mul_le_mul_right
  omega

lemma areTokensAvailable_testedAt (havailable : available ≤ b.bucketSize) (hnow : now ≤ time)
    (requestedTokens : Nat) :
    ((b.testedAt available now).areTokensAvailable requestedTokens time).1 =
      b.testedAt (min (available + b.refilled now time) b.bucketSize) time := by
  have helapsed : (time - b.intervalOf now * b.bucketRefillInterval) / b.bucketRefillInterval =
      b.intervalOf time - b.intervalOf now :=
    Int.sub_mul_ediv_right _ _ hinterval.ne'
  have hle := intervalOf_mono hinterval hnow
  simp only [areTokensAvailable, testedAt, helapsed, refilled]
  split
  · congr 1
    ring
  · have heq : b.intervalOf time = b.intervalOf now := by linarith
    simp [heq, havailable]

end TokenBucket

section

variable {granted : List (Time × Nat)} {start now finish : Time}

lemma grantedIn_cons (x : Time × Nat) : grantedIn (x :: granted) start finish =
    (if start ≤ x.1 ∧ x.1 ≤ finish then x.2 else 0) + grantedIn granted start finish := by
  by_cases hx : start ≤ x.1 ∧ x.1 ≤ finish <;> simp [grantedIn, hx]

lemma grantedIn_eq_zero (hpast : ∀ x ∈ granted, x.1 < start) :
    grantedIn granted start finish = 0 := by
  have hnil : granted.filter (fun x => start ≤ x.1 ∧ x.1 ≤ finish) = [] := by
    rw [List.filter_eq_nil_iff]
    intro x hx
    simp [hpast x hx]
  rw [grantedIn, hnil]
  rfl

lemma grantedIn_congr (hpast : ∀ x ∈ granted, x.1 ≤ now) (hfinish : now ≤ finish) :
    grantedIn granted start finish = grantedIn granted start now := by
  unfold grantedIn
  congr 2
  apply List.filter_congr
  intro x hx
  simp [hpast x hx, (hpast x hx).trans hfinish]

end

/-- What the requests of a span took, and what is left if the span lasts until now, comes from a
full bucket and the refills of the span. -/
structure BucketRun.Inv (b : TokenBucket) (r : BucketRun) : Prop where
  bucket : r.bucket = b.testedAt r.bucket.availableTokens r.now
  available_le : r.bucket.availableTokens ≤ b.bucketSize
  tested_le : r.tested ≤ r.bucket.availableTokens
  past : ∀ x ∈ r.granted, x.1 ≤ r.now
  paid : ∀ start ≤ r.now, grantedIn r.granted start r.now + r.bucket.availableTokens ≤
    b.bucketSize + b.refilled start r.now
  bound : ∀ start finish, grantedIn r.granted start finish ≤
    b.bucketSize + b.refilled start finish

variable {b : TokenBucket} {r : BucketRun} (hinterval : 0 < b.bucketRefillInterval)

lemma BucketRun.Inv.init (b : TokenBucket) :
    Inv b { bucket := { b with availableTokens := b.bucketSize, lastRefillTimestamp := 0 } } where
  bucket := by simp [TokenBucket.testedAt, TokenBucket.intervalOf]
  available_le := le_rfl
  tested_le := Nat.zero_le _
  past := nofun
  paid start _ := by simp [grantedIn]
  bound start finish := by simp [grantedIn]

include hinterval

lemma BucketRun.Inv.areTokensAvailable (h : r.Inv b) (time : Time) (requestedTokens : Nat)
    (hnow : r.now ≤ time) :
    Ensures (fun _ => False) (Inv b) (r.next (.areTokensAvailable time requestedTokens)) := by
  have hbucket := b.areTokensAvailable_testedAt hinterval h.available_le hnow requestedTokens
  rw [← h.bucket] at hbucket
  have hkept : r.bucket.availableTokens ≤
      (r.bucket.areTokensAvailable requestedTokens time).1.availableTokens := by
    rw [hbucket]
    exact le_min (Nat.le_add_right _ _) h.available_le
  constructor
  · change (r.bucket.areTokensAvailable requestedTokens time).1 = _
    rw [hbucket]
    rfl
  · exact hbucket ▸ min_le_right _ _
  · dsimp only
    split
    · exact max_le (h.tested_le.trans hkept) (of_decide_eq_true ‹_›)
    · exact h.tested_le.trans hkept
  · exact fun x hx => (h.past x hx).trans hnow
  · intro start hstart
    simp only [hbucket, TokenBucket.testedAt]
    rcases le_or_gt start r.now with hle | hgt
    · have hpaid := h.paid start hle
      have hadd := b.refilled_add hinterval hle hnow
      rw [grantedIn_congr h.past hnow]
      omega
    · rw [grantedIn_eq_zero fun x hx => (h.past x hx).trans_lt hgt]
      omega
  · exact h.bound

lemma BucketRun.Inv.requestTokens (h : r.Inv b) (requiredTokens : Nat)
    (hrequired : requiredTokens ≤ r.tested) :
    Ensures (fun _ => False) (Inv b) (r.next (.requestTokens requiredTokens)) := by
  have havailable := hrequired.trans h.tested_le
  have hpast : ∀ x ∈ (r.now, requiredTokens) :: r.granted, x.1 ≤ r.now := by
    rintro x (_ | ⟨_, hx⟩)
    · exact le_rfl
    · exact h.past x hx
  have hpaid : ∀ start ≤ r.now, grantedIn ((r.now, requiredTokens) :: r.granted) start r.now +
      (r.bucket.availableTokens - requiredTokens) ≤ b.bucketSize + b.refilled start r.now := by
    intro start hstart
    have hold := h.paid start hstart
    rw [grantedIn_cons, if_pos ⟨hstart, le_rfl⟩]
    omega
  simp only [BucketRun.next, TokenBucket.requestTokens, if_pos havailable]
  refine ⟨?_, (Nat.sub_le _ _).trans h.available_le, Nat.sub_le_sub_right h.tested_le _, hpast,
    hpaid, ?_⟩
  · rw [h.bucket]
    rfl
  · intro start finish
    by_cases hspan : start ≤ r.now ∧ r.now ≤ finish
    · have hadd := b.refilled_add hinterval hspan.1 hspan.2
      have hstart := hpaid start hspan.1
      rw [grantedIn_congr hpast hspan.2]
      omega
    · rw [grantedIn_cons, if_neg hspan, zero_add]
      exact h.bound start finish

lemma BucketRun.Inv.next (h : r.Inv b) : ∀ l, r.allowed l →
    Ensures (fun _ => False) (Inv b) (r.next l)
  | .areTokensAvailable time requestedTokens => h.areTokensAvailable hinterval time requestedTokens
  | .requestTokens requiredTokens => h.requestTokens hinterval requiredTokens

theorem granted_le_rate (h : b.system.Reachable (fun _ _ => True) r) :
    r.bucket.availableTokens ≤ b.bucketSize ∧
    (∀ l, r.allowed l → ∃ r', r.next l = .ok r') ∧
    b.bucketRefillInterval ∣ r.bucket.lastRefillTimestamp ∧ r.bucket.lastRefillTimestamp ≤ r.now ∧
    ∀ start T, grantedIn r.granted start (start + T) ≤
      b.bucketSize + (T / b.bucketRefillInterval + 1).toNat * b.tokensPerRefillInterval := by
  have hinv : r.Inv b := h.invariant (fun _ hinit => hinit ▸ .init b) fun _ l hs hallowed _ =>
    hs.next hinterval l hallowed
  have hlast : r.bucket.lastRefillTimestamp = b.intervalOf r.now * b.bucketRefillInterval := by
    rw [hinv.bucket]
    rfl
  refine ⟨hinv.available_le, fun l hallowed => ?_, ?_, ?_, fun start T => ?_⟩
  · cases hnext : r.next l with
    | ok r' => exact ⟨r', rfl⟩
    | error e => exact ((hinv.next hinterval l hallowed).of_error hnext).elim
  · rw [hlast]
    exact dvd_mul_left _ _
  · rw [hlast]
    exact Int.ediv_mul_le _ hinterval.ne'
  · exact (hinv.bound start _).trans (Nat.add_le_add_left (b.refilled_le hinterval T) _)

omit hinterval in
theorem granted_le_rate_twoRequests :
    ∃ r, (⟨3, 4, 10, 10, 0⟩ : TokenBucket).system.Reachable (fun _ _ => True) r ∧
      grantedIn r.granted 1 9 = 16 ∧ grantedIn r.granted 1 9 ≤ 10 + (8 / 4 + 1) * 3 := by
  obtain ⟨r, hr, hgranted⟩ : ∃ r, (⟨3, 4, 10, 10, 0⟩ : TokenBucket).system.Reachable
      (fun _ _ => True) r ∧ grantedIn r.granted 1 9 = 16 :=
    TransitionSystem.Reachable.exists_of_run [.areTokensAvailable 1 10, .requestTokens 10,
      .areTokensAvailable 9 6, .requestTokens 6] rfl (by decide +kernel)
  exact ⟨r, hr, hgranted, (granted_le_rate (by decide) hr).2.2.2.2 1 8⟩

end Isekai.Common

import Mathlib.Data.List.Basic
import Mathlib.Data.List.Range

/-!
# Ordered delivery with refusals

A sender hands out numbered items in order over a FIFO channel. The receiver accepts the number it
expects or refuses it, and once it has refused refuses everything else until it accepts that number.
Its answers travel back in order. A refusal takes the sender back to the refused number, unless the
sender is already there; an item is handed out again only after its last copy was answered.
-/

namespace Isekai.Lib.Rewind

/-- How the sender's next number, the channel and the answers on their way (`false` for a refusal)
fit the state of the receiver. Either the sender knows of the last refusal, and the channel holds
stale copies followed by the items from the expected number on; or that refusal is on its way. -/
inductive Aligned (expected : Nat) (refusing : Bool) (next : Nat) (channel : List Nat)
    (answers : List (Nat × Bool)) : Prop where
  | resumed (stale : List Nat) (hchannel : channel = stale ++ List.range' expected
      (next - expected))
      (hle : expected ≤ next) (hstale : ∀ r ∈ stale, expected < r ∧ next ≤ r)
      (hanswers : ∀ r, (r, false) ∈ answers → next ≤ r ∧ (refusing = true → expected < r))
      (hrefusing : refusing = false → stale = [])
  | refused (pre post : List (Nat × Bool)) (hrefusing : refusing = true) (hlt : expected < next)
      (hchannel : ∀ r ∈ channel, expected < r)
        (hanswers : answers = pre ++ (expected, false) :: post)
      (hpre : ∀ r, (r, false) ∈ pre → next ≤ r) (hpost : ∀ r, (r, false) ∈ post → expected < r)

namespace Aligned

variable {expected next r : Nat} {refusing : Bool} {channel : List Nat}
  {answers : List (Nat × Bool)}

lemma init : Aligned 0 false 0 [] [] :=
  .resumed [] rfl le_rfl (by simp) (by simp) fun _ => rfl

private lemma add_le_of_notMem_range' {k : Nat} (hle : next ≤ r) (hr : r ∉ List.range' next k) :
    next + k ≤ r := by
  rw [List.mem_range'_1] at hr
  omega

lemma hand (h : Aligned expected refusing next channel answers) (k : Nat)
    (hfresh : ∀ r ∈ List.range' next k, r ∉ channel ∧ ∀ b, (r, b) ∉ answers) :
    Aligned expected refusing (next + k) (channel ++ List.range' next k) answers := by
  cases h with
  | resumed stale hchannel hle hstale hanswers hrefusing =>
    refine .resumed stale ?_ (by omega) ?_ ?_ hrefusing
    · have hsplit : List.range' expected (next - expected) ++ List.range' next k =
          List.range' expected (next + k - expected) := by
        have happend := List.range'_append_1 (s := expected) (m := next - expected) (n := k)
        rw [show expected + (next - expected) = next by omega] at happend
        rw [happend]
        congr 1
        omega
      rw [hchannel, List.append_assoc, hsplit]
    · intro r hr
      refine ⟨(hstale r hr).1, add_le_of_notMem_range' (hstale r hr).2 fun hmem => ?_⟩
      exact (hfresh r hmem).1 (hchannel ▸ List.mem_append_left _ hr)
    · intro r hr
      exact ⟨add_le_of_notMem_range' (hanswers r hr).1 fun hmem => (hfresh r hmem).2 false hr,
        (hanswers r hr).2⟩
  | refused pre post hrefusing hlt hchannel hanswers hpre hpost =>
    refine .refused pre post hrefusing (by omega) ?_ hanswers ?_ hpost
    · intro r hr
      rcases List.mem_append.mp hr with hr | hr
      · exact hchannel r hr
      · rw [List.mem_range'_1] at hr
        omega
    · intro r hr
      refine add_le_of_notMem_range' (hpre r hr) fun hmem => (hfresh r hmem).2 false ?_
      rw [hanswers]
      exact List.mem_append_left _ hr

lemma learnAccepted (h : Aligned expected refusing next channel ((r, true) :: answers)) :
    Aligned expected refusing next channel answers := by
  cases h with
  | resumed stale hchannel hle hstale hanswers hrefusing =>
    exact .resumed stale hchannel hle hstale
      (fun r' hr' => hanswers r' (List.mem_cons_of_mem _ hr')) hrefusing
  | refused pre post hrefusing hlt hchannel hanswers hpre hpost =>
    cases pre with
    | nil => cases hanswers
    | cons a pre =>
      cases hanswers
      exact .refused pre post hrefusing hlt hchannel rfl
        (fun r' hr' => hpre r' (List.mem_cons_of_mem _ hr')) hpost

lemma learnRefused (h : Aligned expected refusing next channel ((r, false) :: answers)) :
    Aligned expected refusing (min r next) channel answers := by
  cases h with
  | resumed stale hchannel hle hstale hanswers hrefusing =>
    rw [min_eq_right (hanswers r List.mem_cons_self).1]
    exact .resumed stale hchannel hle hstale
      (fun r' hr' => hanswers r' (List.mem_cons_of_mem _ hr')) hrefusing
  | refused pre post hrefusing hlt hchannel hanswers hpre hpost =>
    cases pre with
    | nil =>
      -- This is the refusal of the expected item: what is in the channel is stale.
      cases hanswers
      rw [min_eq_left (le_of_lt hlt)]
      refine .resumed channel (by simp) le_rfl (fun r' hr' => ?_) (fun r' hr' => ?_)
        fun hfalse => absurd hrefusing (by simp [hfalse])
      · exact ⟨hchannel r' hr', le_of_lt (hchannel r' hr')⟩
      · exact ⟨le_of_lt (hpost r' hr'), fun _ => hpost r' hr'⟩
    | cons a pre =>
      cases hanswers
      rw [min_eq_right (hpre r List.mem_cons_self)]
      exact .refused pre post hrefusing hlt hchannel rfl
        (fun r' hr' => hpre r' (List.mem_cons_of_mem _ hr')) hpost

/-- What arrives is the expected item, unless the receiver is refusing. -/
lemma eq_expected (h : Aligned expected refusing next (r :: channel) answers) :
    r = expected ∨ refusing = true := by
  cases h with
  | resumed stale hchannel hle hstale hanswers hrefusing =>
    cases hb : refusing with
    | true => exact .inr rfl
    | false =>
      rw [hrefusing hb, List.nil_append] at hchannel
      refine .inl ?_
      cases hn : next - expected with
      | zero => simp [hn] at hchannel
      | succ k =>
        rw [hn, List.range'_succ] at hchannel
        exact (List.cons.inj hchannel).1
  | refused pre post hrefusing hlt hchannel hanswers hpre hpost => exact .inr hrefusing

lemma accept (h : Aligned expected refusing next (expected :: channel) answers) :
    Aligned (expected + 1) false next channel (answers ++ [(expected, true)]) := by
  cases h with
  | resumed stale hchannel hle hstale hanswers hrefusing =>
    cases stale with
    | cons a stale =>
      cases hchannel
      exact absurd (hstale expected List.mem_cons_self).1 (lt_irrefl _)
    | nil =>
      cases hn : next - expected with
      | zero => simp [hn] at hchannel
      | succ k =>
        rw [hn, List.nil_append, List.range'_succ] at hchannel
        refine .resumed [] ?_ (by omega) (by simp) ?_ fun _ => rfl
        · rw [(List.cons.inj hchannel).2, List.nil_append]
          congr 1
          omega
        · intro r hr
          simp only [List.mem_append, List.mem_singleton, Prod.mk.injEq, Bool.false_eq_true,
            and_false, or_false] at hr
          exact ⟨(hanswers r hr).1, by simp⟩
  | refused pre post hrefusing hlt hchannel hanswers hpre hpost =>
    exact absurd (hchannel expected List.mem_cons_self) (lt_irrefl _)

lemma refuse (h : Aligned expected refusing next (r :: channel) answers) :
    Aligned expected true next channel (answers ++ [(r, false)]) := by
  cases h with
  | resumed stale hchannel hle hstale hanswers hrefusing =>
    cases stale with
    | cons a stale =>
      obtain ⟨rfl, rfl⟩ := List.cons.inj hchannel
      have hrefusing' : refusing = true := by
        cases hb : refusing with
        | true => rfl
        | false => cases hrefusing hb
      refine .resumed stale rfl hle (fun r' hr' => hstale r' (List.mem_cons_of_mem _ hr')) ?_
        (by simp)
      intro r' hr'
      rcases List.mem_append.mp hr' with hr' | hr'
      · exact ⟨(hanswers r' hr').1, fun _ => (hanswers r' hr').2 hrefusing'⟩
      · cases List.mem_singleton.mp hr'
        have hr := hstale r List.mem_cons_self
        exact ⟨hr.2, fun _ => hr.1⟩
    | nil =>
      -- The expected item is refused; the sender will hear of it.
      cases hn : next - expected with
      | zero => simp [hn] at hchannel
      | succ k =>
        rw [hn, List.nil_append, List.range'_succ] at hchannel
        obtain ⟨rfl, rfl⟩ := List.cons.inj hchannel
        refine .refused answers [] rfl (by omega) ?_ rfl (fun r' hr' => (hanswers r' hr').1)
          (by simp)
        intro r' hr'
        rw [List.mem_range'_1] at hr'
        omega
  | refused pre post hrefusing hlt hchannel hanswers hpre hpost =>
    refine .refused pre (post ++ [(r, false)]) rfl hlt
      (fun r' hr' => hchannel r' (List.mem_cons_of_mem _ hr')) ?_ hpre ?_
    · rw [hanswers, List.append_assoc, List.cons_append]
    · intro r' hr'
      rcases List.mem_append.mp hr' with hr' | hr'
      · exact hpost r' hr'
      · cases List.mem_singleton.mp hr'
        exact hchannel r List.mem_cons_self

end Aligned

end Isekai.Lib.Rewind

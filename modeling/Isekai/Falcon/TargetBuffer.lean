import Isekai.Falcon.Reorder
import Isekai.Lib.TransitionSystem
import Mathlib.Data.List.TakeWhile

/-!
# The target buffer of an ordered connection

The reorder engine keeps the transactions for the target ULP until the ULP acknowledges them, since
the ULP may answer with RNR. Timers of entries that are not at the head of the line are dropped when
they fire.
-/

namespace Isekai.Falcon

open Lib OrderedMap

def isTargetRequest (type : PacketType) : Bool :=
  type = .pullRequest || type = .pushSolicitedData || type = .pushUnsolicitedData

namespace Endpoint

def targetEntry (e : Endpoint) (rsn : Rsn) : Option TargetBufferEntry :=
  lookup rsn e.reorder.targetRsnBuffer

/-- The copies that were sent to the target ULP and that it has not answered, the oldest first. -/
def inFlight (e : Endpoint) : List Rsn := e.ulp.given ++ e.interHostQueue.map (·.rsn)

def passToUlp (e : Endpoint) : Endpoint :=
  match e.interHostQueue with
  | [] => e
  | work :: rest =>
    { e with interHostQueue := rest, ulp := { e.ulp with given := e.ulp.given ++ [work.rsn] } }

def ulpAcks (e : Endpoint) : Endpoint :=
  match e.ulp.given with
  | [] => e
  | rsn :: rest => { e.reorderHandleAckFromUlp rsn with ulp := { e.ulp with given := rest } }

def ulpRefuses (e : Endpoint) (rnrTimeout : Time) : Endpoint :=
  match e.ulp.given with
  | [] => e
  | rsn :: rest =>
    { e.reorderHandleRnrNackFromUlp rsn rnrTimeout with ulp := { e.ulp with given := rest } }

def handOver (e : Endpoint) (rsn : Rsn) (entry : TargetBufferEntry) : Endpoint :=
  let e := e.setTargetEntry rsn { entry with retryTime := none }
  { e with
    interHostQueue := e.interHostQueue ++ [⟨rsn, entry.type⟩]
    reorder := { e.reorder with nextTargetRsn := e.reorder.nextTargetRsn + 1 } }

section

variable {e e' e'' : Endpoint} {r r' : Rsn} {entry entry' : TargetBufferEntry} {acked : List Rsn}
  {type : PacketType}

@[simp] lemma targetEntry_setTargetEntry :
    (e.setTargetEntry r entry).targetEntry r' = if r' = r then some entry else e.targetEntry r' :=
  lookup_insert _ _ _ _

@[simp] lemma targetEntry_handOver :
    (e.handOver r entry).targetEntry r' =
      if r' = r then some { entry with retryTime := none } else e.targetEntry r' :=
  lookup_insert _ _ _ _

@[simp] lemma inFlight_setTargetEntry : (e.setTargetEntry r entry).inFlight = e.inFlight := rfl

@[simp] lemma inFlight_handOver : (e.handOver r entry).inFlight = e.inFlight ++ [r] := by
  simp [inFlight, handOver, setTargetEntry]

lemma reorderCallback_targetRequest (h : isTargetRequest type = true) :
    e.reorderCallback r type = .ok { e with interHostQueue := e.interHostQueue ++
      [⟨r, type⟩] } := by
  cases type <;> first | rfl | cases h

lemma sendToUlpTarget_eq (hordered : e.config.ordered = true)
    (hentry : e.targetEntry r = some entry)
    (htype : isTargetRequest entry.type = true) :
    e.sendToUlpTarget r = .ok (e.handOver r entry) := by
  unfold sendToUlpTarget
  rw [show lookup r e.reorder.targetRsnBuffer = some entry from hentry]
  simp only
  rw [reorderCallback_targetRequest htype]
  show (Except.ok (if e.config.ordered then _ else _) : Outcome) = _
  rw [if_pos hordered]
  rfl

/-- From `e` to `e'` the transactions that follow each other from the head of the line were sent to
the ULP, none of which was there before. -/
structure Handed (e e' : Endpoint) : Prop where
  given : e'.ulp.given = e.ulp.given
  queue : ∃ k, e'.reorder.nextTargetRsn = e.reorder.nextTargetRsn + k ∧
    e'.interHostQueue.map (·.rsn) =
      e.interHostQueue.map (·.rsn) ++ List.range' e.reorder.nextTargetRsn k ∧
    ∀ r ∈ List.range' e.reorder.nextTargetRsn k, r ∉ e.inFlight

lemma Handed.of_eq (hgiven : e'.ulp.given = e.ulp.given)
    (hnext : e'.reorder.nextTargetRsn = e.reorder.nextTargetRsn)
    (hqueue : e'.interHostQueue = e.interHostQueue) : Handed e e' :=
  ⟨hgiven, 0, hnext, by simp [hqueue], by simp⟩

lemma Handed.refl : Handed e e := .of_eq rfl rfl rfl

lemma Handed.trans (h : Handed e e') (h' : Handed e' e'') : Handed e e'' := by
  obtain ⟨hgiven, k, hnext, hqueue, hfresh⟩ := h
  obtain ⟨hgiven', k', hnext', hqueue', hfresh'⟩ := h'
  have hrange : List.range' e.reorder.nextTargetRsn k ++ List.range'
    (e.reorder.nextTargetRsn + k) k'
      = List.range' e.reorder.nextTargetRsn (k + k') := by
    simp
  refine ⟨hgiven'.trans hgiven, k + k', by rw [hnext', hnext, Nat.add_assoc], ?_, ?_⟩
  · rw [hqueue', hqueue, hnext, List.append_assoc, hrange]
  · intro r hr
    rw [← hrange, List.mem_append] at hr
    rcases hr with hr | hr
    · exact hfresh r hr
    · intro hmem
      apply hfresh' r (by rwa [hnext])
      rw [inFlight, List.mem_append] at hmem ⊢
      rw [hgiven, hqueue, List.mem_append]
      exact hmem.imp_right .inl

lemma Handed.handOver (hr : r = e.reorder.nextTargetRsn) (hfresh : r ∉ e.inFlight) :
    Handed e (e.handOver r entry) := by
  refine ⟨rfl, 1, rfl, ?_, ?_⟩
  · simp [Endpoint.handOver, setTargetEntry, hr]
  · intro r' hr'
    rw [List.range'_one, List.mem_singleton] at hr'
    rw [hr', ← hr]
    exact hfresh

/-- The state of the buffer between the calls of the reorder engine. Exactly the entries without a
retry time are with the ULP; an entry whose retry time has not come has its timer. -/
structure Buffered (e : Endpoint) (acked : List Rsn) : Prop where
  ordered : e.config.ordered = true
  started : 0 ≤ e.now
  sorted : OrderedMap.Sorted e.reorder.targetRsnBuffer
  types : ∀ r entry, e.targetEntry r = some entry → isTargetRequest entry.type = true
  inFlight_iff : ∀ r, r ∈ e.inFlight ↔ ∃ entry, e.targetEntry r = some entry ∧
    entry.retryTime = none
  nodup : e.inFlight.Nodup
  below : ∀ r < e.reorder.nextTargetRsn, r ∈ acked ∨ r ∈ e.inFlight
  timer : ∀ r entry t, e.targetEntry r = some entry → entry.retryTime = some t → e.now < t →
    (t, .rnrTimeout r) ∈ e.pending

/-- The entry at the head of the line, when the ULP does not have it, has a timer that is not
overdue. -/
def Attended (e : Endpoint) : Prop :=
  ∀ entry t, e.targetEntry e.reorder.nextTargetRsn = some entry → entry.retryTime = some t →
    e.now ≤ t ∧ (t, .rnrTimeout e.reorder.nextTargetRsn) ∈ e.pending

namespace Buffered

lemma not_mem_inFlight (h : Buffered e acked) (hentry : e.targetEntry r = some entry)
    (hretry : entry.retryTime ≠ none) : r ∉ e.inFlight := by
  intro hr
  obtain ⟨entry', hentry', hnone⟩ := (h.inFlight_iff r).mp hr
  rw [hentry] at hentry'
  cases hentry'
  exact hretry hnone

lemma not_mem_inFlight_of_none (h : Buffered e acked) (hentry : e.targetEntry r = none) :
    r ∉ e.inFlight := by
  intro hr
  obtain ⟨entry', hentry', -⟩ := (h.inFlight_iff r).mp hr
  rw [hentry] at hentry'
  cases hentry'

lemma setTargetEntry (h : Buffered e acked) (hr : r ∉ e.inFlight)
    (htype : isTargetRequest entry.type = true) {t : Time} (ht : entry.retryTime = some t)
    (hnow : t ≤ e.now) : Buffered (e.setTargetEntry r entry) acked where
  ordered := h.ordered
  started := h.started
  sorted := h.sorted.insert r entry
  types r' entry' hentry' := by
    rw [targetEntry_setTargetEntry] at hentry'
    split at hentry'
    · cases hentry'
      exact htype
    · exact h.types r' entry' hentry'
  inFlight_iff r' := by
    rw [inFlight_setTargetEntry, targetEntry_setTargetEntry]
    split
    · rename_i heq
      subst heq
      simp [hr, ht]
    · exact h.inFlight_iff r'
  nodup := h.nodup
  below := h.below
  timer r' entry' t' hentry' ht' hlt := by
    rw [targetEntry_setTargetEntry] at hentry'
    split at hentry'
    · cases hentry'
      rw [ht] at ht'
      cases ht'
      exact absurd hlt (not_lt.mpr hnow)
    · exact h.timer r' entry' t' hentry' ht' hlt

lemma handOver (h : Buffered e acked) (hr : r = e.reorder.nextTargetRsn)
    (hentry : e.targetEntry r = some entry) (hfresh : r ∉ e.inFlight) :
    Buffered (e.handOver r entry) acked where
  ordered := h.ordered
  started := h.started
  sorted := h.sorted.insert r _
  types r' entry' hentry' := by
    rw [targetEntry_handOver] at hentry'
    split at hentry'
    · cases hentry'
      exact h.types r entry hentry
    · exact h.types r' entry' hentry'
  inFlight_iff r' := by
    rw [inFlight_handOver, targetEntry_handOver, List.mem_append, List.mem_singleton]
    split
    · rename_i heq
      simp [heq]
    · rename_i hne
      simp [hne, h.inFlight_iff r']
  nodup := by
    rw [inFlight_handOver]
    exact List.nodup_append.mpr ⟨h.nodup, List.nodup_singleton r, fun a ha b hb =>
      List.mem_singleton.mp hb ▸ fun hab => hfresh (hab ▸ ha)⟩
  below r' hr' := by
    rw [inFlight_handOver, List.mem_append, List.mem_singleton, ← or_assoc]
    rcases Nat.lt_succ_iff_lt_or_eq.mp hr' with hlt | heq
    · exact .inl (h.below r' hlt)
    · exact .inr (heq.trans hr.symm)
  timer r' entry' t hentry' ht hlt := by
    rw [targetEntry_handOver] at hentry'
    split at hentry'
    · cases hentry'
      cases ht
    · exact h.timer r' entry' t hentry' ht hlt

end Buffered

lemma isDue_iff : entry.isDue e.now = true ↔ ∃ t, entry.retryTime = some t ∧ t ≤ e.now := by
  unfold TargetBufferEntry.isDue
  cases entry.retryTime <;> simp

lemma scanTargetRsnBuffer_spec {l : List Rsn} (h : Buffered e acked)
    (hsorted : l.Pairwise (· < ·))
    (hentries : ∀ r ∈ l, (e.targetEntry r).isSome ∧ e.reorder.nextTargetRsn ≤ r)
    (hall : (e.targetEntry e.reorder.nextTargetRsn).isSome →
      ∀ r, (e.targetEntry r).isSome → e.reorder.nextTargetRsn ≤ r → r ∈ l) :
    ∃ e', e.scanTargetRsnBuffer l = .ok e' ∧ Handed e e' ∧ Buffered e' acked ∧ Attended e' := by
  -- The list holds every entry from the head of the line on, unless the head is missing.
  induction l generalizing e with
  | nil =>
    refine ⟨e, rfl, .refl, h, fun entry t hentry _ => ?_⟩
    have hsome : (e.targetEntry e.reorder.nextTargetRsn).isSome := by rw [hentry]; rfl
    exact absurd (hall hsome _ hsome le_rfl) (List.not_mem_nil)
  | cons r rest ih =>
    obtain ⟨hlt, hrest⟩ := List.pairwise_cons.mp hsorted
    obtain ⟨hsome, hle⟩ := hentries r (List.mem_cons_self)
    obtain ⟨entry, hentry⟩ := Option.isSome_iff_exists.mp hsome
    unfold scanTargetRsnBuffer
    rw [show lookup r e.reorder.targetRsnBuffer = some entry from hentry]
    simp only
    by_cases hdue : e.reorder.nextTargetRsn = r ∧ entry.isDue e.now = true
    · obtain ⟨hr, hdue⟩ := hdue
      obtain ⟨t, ht, hnow⟩ := isDue_iff.mp hdue
      have hfresh := h.not_mem_inFlight hentry (by simp [ht])
      rw [if_pos ⟨hr, hdue⟩, sendToUlpTarget_eq h.ordered hentry (h.types r entry hentry)]
      have hisSome : ∀ r', ((e.handOver r entry).targetEntry r').isSome ↔
          (e.targetEntry r').isSome := by
        intro r'
        by_cases hr' : r' = r <;> simp [hr', hsome]
      have hnext : (e.handOver r entry).reorder.nextTargetRsn = r + 1 := congrArg (· + 1) hr
      obtain ⟨e', hscan, hhanded, hbuffered, hattended⟩ :=
        ih (h.handOver hr.symm hentry hfresh) hrest
        (fun r' hr' => ⟨(hisSome r').mpr (hentries r' (List.mem_cons_of_mem _ hr')).1,
          hnext ▸ hlt r' hr'⟩)
        (fun _ r' hsome' hle' => by
          rw [hnext] at hle'
          have hmem := hall (hr ▸ hsome) r' ((hisSome r').mp hsome') (hr ▸ Nat.le_of_succ_le hle')
          exact (List.mem_cons.mp hmem).resolve_left (Nat.ne_of_gt hle'))
      exact ⟨e', hscan, (Handed.handOver hr.symm hfresh).trans hhanded, hbuffered, hattended⟩
    · rw [if_neg hdue]
      refine ⟨e, rfl, .refl, h, fun entry' t hentry' ht => ?_⟩
      -- The first key that is left is the head of the line, which is not due.
      have hsome' : (e.targetEntry e.reorder.nextTargetRsn).isSome := by rw [hentry']; rfl
      have hr : e.reorder.nextTargetRsn = r := by
        rcases List.mem_cons.mp (hall hsome' _ hsome' le_rfl) with heq | hmem
        · exact heq
        · exact le_antisymm hle (le_of_lt (hlt _ hmem))
      rw [hr, hentry] at hentry'
      cases hentry'
      have hfuture : e.now < t := by
        by_contra hnow
        exact hdue ⟨hr, isDue_iff.mpr ⟨t, ht, not_lt.mp hnow⟩⟩
      exact ⟨le_of_lt hfuture, hr ▸ h.timer r entry t hentry ht hfuture⟩

lemma checkTargetRsnBuffer_spec (h : Buffered e acked) :
    ∃ e', e.checkTargetRsnBuffer = .ok e' ∧ Handed e e' ∧ Buffered e' acked ∧ Attended e' := by
  have hkeys : ∀ r, r ∈ keys e.reorder.targetRsnBuffer ↔ (e.targetEntry r).isSome :=
    fun r => mem_keys_iff
  have hsub := List.dropWhile_sublist (fun r => decide (r ≠ e.reorder.nextTargetRsn))
    (l := keys e.reorder.targetRsnBuffer)
  refine scanTargetRsnBuffer_spec h (h.sorted.sublist hsub) (fun r hr => ?_)
    (fun hhead r hr hle => ?_)
  · refine ⟨(hkeys r).mp (hsub.mem hr), ?_⟩
    by_cases hhead : e.reorder.nextTargetRsn ∈ keys e.reorder.targetRsnBuffer
    · exact ((mem_dropWhile_ne h.sorted hhead).mp hr).2
    · have hnil : (keys e.reorder.targetRsnBuffer).dropWhile
          (fun r => decide (r ≠ e.reorder.nextTargetRsn)) = [] :=
        List.dropWhile_eq_nil_iff.mpr fun a ha => decide_eq_true fun heq => hhead (heq ▸ ha)
      rw [hnil] at hr
      cases hr
  · exact (mem_dropWhile_ne h.sorted ((hkeys _).mpr hhead)).mpr ⟨(hkeys r).mpr hr, hle⟩

lemma insertPacket_target (htype : isTargetRequest type = true) (hordered : e.config.ordered = true)
    (ssn : Ssn) :
    e.insertPacket type r ssn = (do
      let e ← e.insertTargetEntry r type
      if r = e.reorder.nextTargetRsn then
        let e ← e.sendToUlpTarget r
        let e ← e.checkTargetRsnBuffer
        pure (e, false)
      else pure (e, e.reorder.inRnr && type != .pullRequest)) := by
  unfold insertPacket
  rw [hordered, if_neg (by simp)]
  cases type <;> first | rfl | cases htype

lemma insertPacket_spec (htype : isTargetRequest type = true) (h : Buffered e acked)
    (hattended : Attended e) (ssn : Ssn) :
    Ensures AnyFault (fun p => Handed e p.1 ∧ Buffered p.1 acked ∧ Attended p.1)
      (e.insertPacket type r ssn) := by
  rw [insertPacket_target htype h.ordered, insertTargetEntry]
  split
  · exact .fail trivial
  · rename_i hnone
    have hfresh := h.not_mem_inFlight_of_none hnone
    have hset : Buffered (e.setTargetEntry r { type := type }) acked :=
      h.setTargetEntry hfresh htype rfl h.started
    have hhanded : Handed e (e.setTargetEntry r { type := type }) := .of_eq rfl rfl rfl
    apply Ensures.ite
    · intro hr
      have hentry : (e.setTargetEntry r { type := type }).targetEntry r =
        some { type := type } := by
        simp
      rw [sendToUlpTarget_eq hset.ordered hentry htype]
      obtain ⟨e', hcheck, hhanded', hbuffered, hattended'⟩ :=
        checkTargetRsnBuffer_spec (hset.handOver hr hentry hfresh)
      rw [Ensures.ok_bind, hcheck]
      exact ⟨hhanded.trans ((Handed.handOver hr hfresh).trans hhanded'), hbuffered, hattended'⟩
    · intro hr
      refine ⟨hhanded, hset, fun entry t hentry ht => hattended entry t ?_ ht⟩
      rw [targetEntry_setTargetEntry, if_neg (Ne.symm hr)] at hentry
      exact hentry

lemma retryRnrNackedPacket_spec (h : Buffered e acked) (hattended : Attended e) (r : Rsn) :
    Ensures AnyFault (fun p => Handed e p.1 ∧ Buffered p.1 acked ∧ Attended p.1)
      (e.retryRnrNackedPacket r) := by
  unfold retryRnrNackedPacket
  split
  · exact .fail trivial
  · rename_i entry hentry
    apply Ensures.ite
    · exact fun _ => .fail trivial
    intro _
    apply Ensures.ite
    · exact fun _ => ⟨.refl, h, hattended⟩
    intro hretry
    rw [h.ordered, if_neg (by simp)]
    apply Ensures.ite
    · intro hr
      have hfresh := h.not_mem_inFlight hentry hretry
      have hretried : Buffered (e.setTargetEntry r { entry with retryTime := some e.now }) acked :=
        h.setTargetEntry hfresh (h.types r entry hentry) rfl le_rfl
      obtain ⟨e', hcheck, hhanded, hbuffered, hattended'⟩ := checkTargetRsnBuffer_spec hretried
      have hset : Handed e (e.setTargetEntry r { entry with retryTime := some e.now }) :=
        .of_eq rfl rfl rfl
      rw [hcheck]
      exact ⟨hset.trans hhanded, hbuffered, hattended'⟩
    · exact fun _ => ⟨.refl, h, hattended⟩

variable (acked) in
lemma handleRnrTimeout_spec (h : Buffered e acked)
    (hattended : ∀ entry t, e.targetEntry e.reorder.nextTargetRsn = some entry →
      entry.retryTime = some t →
      (e.reorder.nextTargetRsn = r ∧ t = e.now) ∨
        e.now ≤ t ∧ (t, .rnrTimeout e.reorder.nextTargetRsn) ∈ e.pending) :
    Ensures AnyFault (fun e' => Handed e e' ∧ Buffered e' acked ∧ Attended e')
      (e.handleRnrTimeout r) := by
  unfold handleRnrTimeout
  split
  · rename_i hnone
    refine ⟨.refl, h, fun entry t hentry ht => (hattended entry t hentry ht).resolve_left ?_⟩
    rintro ⟨hr, -⟩
    rw [hr, targetEntry, hnone] at hentry
    cases hentry
  · rename_i entry hentry
    apply Ensures.ite
    · intro hretry
      refine ⟨.refl, h, fun entry' t hentry' ht => (hattended entry' t hentry' ht).resolve_left ?_⟩
      rintro ⟨hr, htime⟩
      rw [hr, targetEntry, hentry] at hentry'
      cases hentry'
      exact hretry (ht.trans (congrArg some htime))
    intro _
    rw [h.ordered, if_neg (by simp)]
    apply Ensures.ite
    · intro hr
      exact ⟨.refl, h, fun entry' t hentry' ht =>
        (hattended entry' t hentry' ht).resolve_left fun hhead => hr hhead.1.symm⟩
    · intro _
      obtain ⟨e', hcheck, hspec⟩ := checkTargetRsnBuffer_spec h
      rw [hcheck]
      exact hspec

/-! The answers of the ULP come in the order in which it was handed the copies. -/

variable {rest : List Rsn}

lemma ulpAcks_eq (hgiven : e.ulp.given = r :: rest) :
    e.ulpAcks = { e.reorderHandleAckFromUlp r with ulp := { e.ulp with given := rest } } := by
  simp only [ulpAcks, hgiven]

lemma ulpRefuses_eq (hgiven : e.ulp.given = r :: rest) (rnrTimeout : Time) :
    e.ulpRefuses rnrTimeout =
      { e.reorderHandleRnrNackFromUlp r rnrTimeout with ulp := { e.ulp with given := rest } } := by
  simp only [ulpRefuses, hgiven]

lemma inFlight_eq_cons (hgiven : e.ulp.given = r :: rest) :
    e.inFlight = r :: (rest ++ e.interHostQueue.map (·.rsn)) := by
  rw [inFlight, hgiven, List.cons_append]

lemma targetEntry_ulpAcks (hordered : e.config.ordered = true) (hgiven : e.ulp.given = r :: rest) :
    e.ulpAcks.targetEntry r' = if r' = r then none else e.targetEntry r' := by
  simp only [ulpAcks_eq hgiven, reorderHandleAckFromUlp, hordered, if_true, targetEntry]
  exact lookup_erase _ _ _

lemma Buffered.ulpAcks (h : Buffered e acked) (hgiven : e.ulp.given = r :: rest) :
    Buffered e.ulpAcks (r :: acked) := by
  have hinFlight : e.ulpAcks.inFlight = rest ++ e.interHostQueue.map (·.rsn) := by
    simp [ulpAcks_eq hgiven, reorderHandleAckFromUlp, h.ordered, inFlight]
  have hframe : e.ulpAcks.config = e.config ∧ e.ulpAcks.now = e.now ∧
      e.ulpAcks.pending = e.pending ∧ e.ulpAcks.reorder.nextTargetRsn = e.reorder.nextTargetRsn ∧
      e.ulpAcks.reorder.targetRsnBuffer = erase r e.reorder.targetRsnBuffer := by
    simp [ulpAcks_eq hgiven, reorderHandleAckFromUlp, h.ordered]
  obtain ⟨hconfig, hnow, hpending, hnext, hbuffer⟩ := hframe
  have hold := inFlight_eq_cons hgiven
  have hnodup := h.nodup
  rw [hold, List.nodup_cons] at hnodup
  have hentry (r' : Rsn) : e.ulpAcks.targetEntry r' = if r' = r then none else e.targetEntry r' :=
    targetEntry_ulpAcks h.ordered hgiven
  refine ⟨hconfig ▸ h.ordered, hnow ▸ h.started, hbuffer ▸ h.sorted.erase r, ?_, ?_, ?_, ?_, ?_⟩
  · intro r' entry' hentry'
    rw [hentry] at hentry'
    split at hentry'
    · cases hentry'
    · exact h.types r' entry' hentry'
  · intro r'
    rw [hentry, hinFlight]
    split
    · rename_i heq
      simp [heq, hnodup.1]
    · rename_i hne
      rw [← h.inFlight_iff r', hold, List.mem_cons, or_iff_right hne]
  · rw [hinFlight]
    exact hnodup.2
  · intro r' hr'
    rw [hnext] at hr'
    rw [hinFlight, List.mem_cons]
    rcases h.below r' hr' with hacked | hflight
    · exact .inl (.inr hacked)
    · rw [hold, List.mem_cons] at hflight
      exact hflight.imp .inl id
  · intro r' entry' t hentry' ht hlt
    rw [hentry] at hentry'
    split at hentry'
    · cases hentry'
    · rw [hpending]
      exact h.timer r' entry' t hentry' ht (hnow ▸ hlt)

lemma Attended.ulpAcks (h : Attended e) (hordered : e.config.ordered = true)
    (hgiven : e.ulp.given = r :: rest) : Attended e.ulpAcks := by
  have hframe : e.ulpAcks.now = e.now ∧ e.ulpAcks.pending = e.pending ∧
      e.ulpAcks.reorder.nextTargetRsn = e.reorder.nextTargetRsn := by
    simp [ulpAcks_eq hgiven, reorderHandleAckFromUlp, hordered]
  obtain ⟨hnow, hpending, hnext⟩ := hframe
  intro entry' t hentry' ht
  rw [hnext, targetEntry_ulpAcks hordered hgiven] at hentry'
  split at hentry'
  · cases hentry'
  · rw [hnow, hpending, hnext]
    exact h entry' t hentry' ht

/-- The ULP refuses transaction `r`. -/
structure Refused (e e' : Endpoint) (r : Rsn) (rest : List Rsn) (entry : TargetBufferEntry)
    (rnrTimeout : Time) : Prop where
  config : e'.config = e.config
  now : e'.now = e.now
  pending : e'.pending = e.pending ++ [(e.now + rnrTimeout, .rnrTimeout r)]
  next : e'.reorder.nextTargetRsn = min r e.reorder.nextTargetRsn
  buffer : e'.reorder.targetRsnBuffer = insert r
    { entry with retryTime := some (e.now + rnrTimeout) } e.reorder.targetRsnBuffer
  given : e'.ulp.given = rest
  queue : e'.interHostQueue = e.interHostQueue

lemma ulpRefuses_refused (hordered : e.config.ordered = true) (hgiven : e.ulp.given = r :: rest)
    (hentry : e.targetEntry r = some entry) (rnrTimeout : Time) :
    Refused e (e.ulpRefuses rnrTimeout) r rest entry rnrTimeout := by
  rw [targetEntry] at hentry
  rw [ulpRefuses_eq hgiven]
  simp only [reorderHandleRnrNackFromUlp, hordered, if_true, hentry, Option.getD_some]
  refine ⟨rfl, rfl, rfl, ?_, rfl, rfl, rfl⟩
  split
  · rename_i hlt
    exact (min_eq_left (le_of_lt hlt)).symm
  · rename_i hlt
    exact (min_eq_right (not_lt.mp hlt)).symm

namespace Refused

variable {rnrTimeout : Time}

variable (h : Refused e e' r rest entry rnrTimeout)

include h

lemma targetEntry (r' : Rsn) :
    e'.targetEntry r' = if r' = r then some { entry with retryTime := some (e.now + rnrTimeout) }
      else e.targetEntry r' := by
  rw [Endpoint.targetEntry, h.buffer, lookup_insert]
  rfl

lemma inFlight : e'.inFlight = rest ++ e.interHostQueue.map (·.rsn) := by
  rw [Endpoint.inFlight, h.given, h.queue]

lemma mem_pending {p : Time × Callback} (hp : p ∈ e.pending) : p ∈ e'.pending := by
  rw [h.pending]
  exact List.mem_append_left _ hp

lemma mem_pending_self : (e.now + rnrTimeout, .rnrTimeout r) ∈ e'.pending := by
  rw [h.pending]
  exact List.mem_append_right _ (List.mem_singleton_self _)

lemma buffered (hgiven : e.ulp.given = r :: rest) (hentry : e.targetEntry r = some entry)
    (hb : Buffered e acked) : Buffered e' acked := by
  have hold := inFlight_eq_cons hgiven
  have hnodup := hb.nodup
  rw [hold, List.nodup_cons] at hnodup
  refine ⟨h.config ▸ hb.ordered, h.now ▸ hb.started, h.buffer ▸ hb.sorted.insert r _, ?_,
    ?_, ?_, ?_,
    ?_⟩
  · intro r' entry' hentry'
    rw [h.targetEntry] at hentry'
    split at hentry'
    · cases hentry'
      exact hb.types r entry hentry
    · exact hb.types r' entry' hentry'
  · intro r'
    rw [h.targetEntry, h.inFlight]
    split
    · rename_i heq
      simp [heq, hnodup.1]
    · rename_i hne
      rw [← hb.inFlight_iff r', hold, List.mem_cons, or_iff_right hne]
  · rw [h.inFlight]
    exact hnodup.2
  · intro r' hr'
    rw [h.next, lt_min_iff] at hr'
    rw [h.inFlight]
    rcases hb.below r' hr'.2 with hacked | hflight
    · exact .inl hacked
    · rw [hold, List.mem_cons] at hflight
      exact .inr (hflight.resolve_left (ne_of_lt hr'.1))
  · intro r' entry' t hentry' ht hlt
    rw [h.targetEntry] at hentry'
    split at hentry'
    · rename_i heq
      cases hentry'
      cases ht
      exact heq ▸ h.mem_pending_self
    · exact h.mem_pending (hb.timer r' entry' t hentry' ht (h.now ▸ hlt))

lemma attended (hnonneg : 0 ≤ rnrTimeout) (ha : Attended e) : Attended e' := by
  intro entry' t hentry' ht
  rw [h.targetEntry] at hentry'
  split at hentry'
  · rename_i heq
    cases hentry'
    cases ht
    rw [h.now, heq]
    exact ⟨le_add_of_nonneg_right hnonneg, h.mem_pending_self⟩
  · rename_i hne
    -- The head of the line did not move to the refused transaction.
    have hnext : e'.reorder.nextTargetRsn = e.reorder.nextTargetRsn := by
      rw [h.next] at hne ⊢
      exact (min_choice r e.reorder.nextTargetRsn).resolve_left hne
    rw [hnext] at hentry' ⊢
    obtain ⟨hle, hmem⟩ := ha entry' t hentry' ht
    exact ⟨h.now ▸ hle, h.mem_pending hmem⟩

end Refused

lemma passToUlp_eq {work : WorkId} {queue : List WorkId}
    (hqueue : e.interHostQueue = work :: queue) :
    e.passToUlp = { e with
      interHostQueue := queue, ulp := { e.ulp with given := e.ulp.given ++ [work.rsn] } } := by
  simp only [passToUlp, hqueue]

lemma inFlight_passToUlp : e.passToUlp.inFlight = e.inFlight := by
  cases hqueue : e.interHostQueue with
  | nil => simp only [passToUlp, hqueue]
  | cons work queue => simp [passToUlp_eq hqueue, inFlight, hqueue]

lemma Buffered.congr (h : Buffered e acked) (hconfig : e'.config = e.config)
    (hreorder : e'.reorder = e.reorder) (hinFlight : e'.inFlight = e.inFlight)
    (hnow : e.now ≤ e'.now)
    (htimer : ∀ t r, e'.now < t → (t, .rnrTimeout r) ∈ e.pending →
      (t, .rnrTimeout r) ∈ e'.pending) :
    Buffered e' acked := by
  have hentry : ∀ r, e'.targetEntry r = e.targetEntry r := fun r => by
    rw [targetEntry, targetEntry, hreorder]
  refine ⟨hconfig ▸ h.ordered, h.started.trans hnow, hreorder ▸ h.sorted, ?_, ?_,
    hinFlight ▸ h.nodup,
    ?_, ?_⟩
  · simpa only [hentry] using h.types
  · simpa only [hentry, hinFlight] using h.inFlight_iff
  · simpa only [hreorder, hinFlight] using h.below
  · intro r entry t hsome ht hlt
    rw [hentry] at hsome
    exact htimer t r hlt (h.timer r entry t hsome ht (hnow.trans_lt hlt))

lemma Attended.congr (h : Attended e) (hreorder : e'.reorder = e.reorder)
    (htimer : ∀ t r, e.now ≤ t → (t, .rnrTimeout r) ∈ e.pending →
      e'.now ≤ t ∧ (t, .rnrTimeout r) ∈ e'.pending) : Attended e' := by
  intro entry t hentry ht
  rw [targetEntry, hreorder] at hentry
  obtain ⟨hle, hmem⟩ := h entry t hentry ht
  rw [hreorder]
  exact htimer t _ hle hmem

end

end Endpoint

/-- What happens to the target buffer: a transaction arrives, the inter-host scheduler passes a copy
on, the ULP answers the copy it was handed first, a timer fires, a duplicate of push data asks for a
retry, or time passes. -/
inductive TargetEvent where
  | insert (type : PacketType) (rsn : Rsn) (ssn : Ssn)
  | interHostRx
  | ulpAck
  | ulpRnrNack (rnrTimeout : Time)
  | rnrTimeout (rsn : Rsn)
  | retry (rsn : Rsn)
  | advance (time : Time)
  deriving DecidableEq, Repr

def TargetEvent.isLocal : TargetEvent → Bool
  | .insert .. | .rnrTimeout _ | .retry _ | .advance _ => true
  | .interHostRx | .ulpAck | .ulpRnrNack _ => false

structure Target where
  endpoint : Endpoint
  acked : List Rsn := []

namespace Target

def next (s : Target) : TargetEvent → Except Fatal Target
  | .insert type rsn ssn => do
    let (e, _) ← s.endpoint.insertPacket type rsn ssn
    pure { s with endpoint := e }
  | .interHostRx => pure { s with endpoint := s.endpoint.passToUlp }
  | .ulpAck => pure
    { endpoint := s.endpoint.ulpAcks, acked := s.endpoint.ulp.given.head?.toList ++ s.acked }
  | .ulpRnrNack rnrTimeout => pure { s with endpoint := s.endpoint.ulpRefuses rnrTimeout }
  | .rnrTimeout rsn => do
    let e ← { s.endpoint with
      pending := s.endpoint.pending.erase (s.endpoint.now, .rnrTimeout rsn) }.handleRnrTimeout rsn
    pure { s with endpoint := e }
  | .retry rsn => do
    let (e, _) ← s.endpoint.retryRnrNackedPacket rsn
    pure { s with endpoint := e }
  | .advance time => pure { s with endpoint := { s.endpoint with now := time } }

/-- The packets that arrive are for the ULP, RNR timeouts are not negative, a timer fires at its
time, and time does not pass over a timer. -/
def Allowed (s : Target) : TargetEvent → Prop
  | .insert type _ _ => isTargetRequest type = true
  | .ulpRnrNack rnrTimeout => 0 ≤ rnrTimeout
  | .rnrTimeout rsn => (s.endpoint.now, .rnrTimeout rsn) ∈ s.endpoint.pending
  | .advance time => s.endpoint.now ≤ time ∧ ∀ p ∈ s.endpoint.pending, time ≤ p.1
  | .interHostRx | .ulpAck | .retry _ => True

instance : (s : Target) → (ev : TargetEvent) → Decidable (s.Allowed ev)
  | _, .insert type _ _ => inferInstanceAs (Decidable (isTargetRequest type = true))
  | _, .ulpRnrNack rnrTimeout => inferInstanceAs (Decidable (0 ≤ rnrTimeout))
  | s, .rnrTimeout rsn =>
    inferInstanceAs (Decidable ((s.endpoint.now, .rnrTimeout rsn) ∈ s.endpoint.pending))
  | s, .advance time => inferInstanceAs (Decidable (s.endpoint.now ≤ time ∧
      ∀ p ∈ s.endpoint.pending, time ≤ p.1))
  | _, .interHostRx | _, .ulpAck | _, .retry _ => inferInstanceAs (Decidable True)

/-- An ordered connection before its first transaction. -/
structure Initial (s : Target) : Prop where
  ordered : s.endpoint.config.ordered = true
  started : 0 ≤ s.endpoint.now
  reorder : s.endpoint.reorder = {}
  queue : s.endpoint.interHostQueue = []
  given : s.endpoint.ulp.given = []
  acked : s.acked = []

def system : TransitionSystem Target TargetEvent Fatal where
  init := Initial
  allowed := Allowed
  next := next

instance (s : Target) (ev : TargetEvent) : Decidable (system.allowed s ev) :=
  inferInstanceAs (Decidable (s.Allowed ev))

structure Inv (s : Target) : Prop where
  buffered : s.endpoint.Buffered s.acked
  attended : s.endpoint.Attended

variable {s : Target}

lemma Initial.inv (h : s.Initial) : s.Inv := by
  have hinFlight : s.endpoint.inFlight = [] := by simp [Endpoint.inFlight, h.queue, h.given]
  have hentry : ∀ r, s.endpoint.targetEntry r = none := fun r => by
    rw [Endpoint.targetEntry, h.reorder]
    rfl
  constructor
  · constructor
    · exact h.ordered
    · exact h.started
    · rw [h.reorder]
      exact List.Pairwise.nil
    · simp [hentry]
    · simp [hinFlight, hentry]
    · simp [hinFlight]
    · simp [h.reorder]
    · simp [hentry]
  · simp [Endpoint.Attended, hentry]

lemma Inv.ulpAck (h : s.Inv) :
    Inv { endpoint := s.endpoint.ulpAcks, acked := s.endpoint.ulp.given.head?.toList ++
      s.acked } := by
  cases hgiven : s.endpoint.ulp.given with
  | nil =>
    simp only [Endpoint.ulpAcks, hgiven]
    exact h
  | cons r rest =>
    exact ⟨h.buffered.ulpAcks hgiven, h.attended.ulpAcks h.buffered.ordered hgiven⟩

lemma Inv.ulpRnrNack (h : s.Inv) {rnrTimeout : Time} (hnonneg : 0 ≤ rnrTimeout) :
    Inv { s with endpoint := s.endpoint.ulpRefuses rnrTimeout } := by
  cases hgiven : s.endpoint.ulp.given with
  | nil =>
    simp only [Endpoint.ulpRefuses, hgiven]
    exact h
  | cons r rest =>
    have hmem : r ∈ s.endpoint.inFlight := by
      rw [Endpoint.inFlight_eq_cons hgiven]
      exact List.mem_cons_self
    obtain ⟨entry, hentry, -⟩ := (h.buffered.inFlight_iff r).mp hmem
    have hrefused := Endpoint.ulpRefuses_refused h.buffered.ordered hgiven hentry rnrTimeout
    exact ⟨hrefused.buffered hgiven hentry h.buffered, hrefused.attended hnonneg h.attended⟩

lemma Inv.interHostRx (h : s.Inv) : Inv { s with endpoint := s.endpoint.passToUlp } := by
  have hframe : s.endpoint.passToUlp.config = s.endpoint.config ∧
      s.endpoint.passToUlp.reorder = s.endpoint.reorder ∧
      s.endpoint.passToUlp.now = s.endpoint.now ∧
      s.endpoint.passToUlp.pending = s.endpoint.pending := by
    unfold Endpoint.passToUlp
    split <;> exact ⟨rfl, rfl, rfl, rfl⟩
  obtain ⟨hconfig, hreorder, hnow, hpending⟩ := hframe
  constructor
  · apply h.buffered.congr hconfig hreorder Endpoint.inFlight_passToUlp (le_of_eq hnow.symm)
    intro t r _ hmem
    exact hpending ▸ hmem
  · apply h.attended.congr hreorder
    intro t r hle hmem
    exact ⟨hnow ▸ hle, hpending ▸ hmem⟩

lemma Inv.rnrTimeout (h : s.Inv) (rsn : Rsn) :
    Ensures AnyFault (fun e' => s.endpoint.Handed e' ∧ Inv { s with endpoint := e' })
      ({ s.endpoint with
        pending := s.endpoint.pending.erase (s.endpoint.now, .rnrTimeout rsn) }.handleRnrTimeout
          rsn) := by
  -- Only the timer of `rsn` for this moment is gone.
  refine (Endpoint.handleRnrTimeout_spec s.acked ?_ ?_).imp fun e' he' => ?_
  · refine h.buffered.congr ?_ ?_ ?_ ?_ ?_ <;> first | rfl | exact le_rfl | skip
    intro t r hlt hmem
    exact (List.mem_erase_of_ne fun heq => ne_of_gt hlt (congrArg Prod.fst heq)).mpr hmem
  · intro entry t hentry ht
    obtain ⟨hle, hmem⟩ := h.attended entry t hentry ht
    by_cases heq : (t, Callback.rnrTimeout s.endpoint.reorder.nextTargetRsn) =
        (s.endpoint.now, .rnrTimeout rsn)
    · simp only [Prod.mk.injEq, Callback.rnrTimeout.injEq] at heq
      exact .inl ⟨heq.2, heq.1⟩
    · exact .inr ⟨hle, (List.mem_erase_of_ne heq).mpr hmem⟩
  · obtain ⟨hhanded, hbuffered, hattended⟩ := he'
    exact ⟨⟨hhanded.given, hhanded.queue⟩, hbuffered, hattended⟩

lemma Inv.advance (h : s.Inv) {time : Time} (hle : s.endpoint.now ≤ time)
    (hpending : ∀ p ∈ s.endpoint.pending, time ≤ p.1) :
    Inv { s with endpoint := { s.endpoint with now := time } } := by
  constructor
  · exact h.buffered.congr rfl rfl rfl hle fun _ _ _ hmem => hmem
  · exact h.attended.congr rfl fun t r _ hmem => ⟨hpending _ hmem, hmem⟩

lemma Inv.next_local (h : s.Inv) {ev : TargetEvent} (hlocal : ev.isLocal = true)
    (hallowed : s.Allowed ev) :
    Ensures AnyFault (fun s' => s'.Inv ∧ s.endpoint.Handed s'.endpoint) (s.next ev) := by
  cases ev with
  | insert type rsn ssn =>
    exact (Endpoint.insertPacket_spec hallowed h.buffered h.attended ssn).bind
      fun p hp => ⟨⟨hp.2.1, hp.2.2⟩, hp.1⟩
  | rnrTimeout rsn => exact (h.rnrTimeout rsn).bind fun e' he' => ⟨he'.2, he'.1⟩
  | retry rsn =>
    exact (Endpoint.retryRnrNackedPacket_spec h.buffered h.attended rsn).bind
      fun p hp => ⟨⟨hp.2.1, hp.2.2⟩, hp.1⟩
  | advance time => exact ⟨h.advance hallowed.1 hallowed.2, .of_eq rfl rfl rfl⟩
  | interHostRx | ulpAck | ulpRnrNack rnrTimeout => cases hlocal

theorem Inv.next (h : s.Inv) (ev : TargetEvent) (hallowed : s.Allowed ev) :
    Ensures AnyFault Inv (s.next ev) := by
  cases ev with
  | interHostRx => exact h.interHostRx
  | ulpAck => exact h.ulpAck
  | ulpRnrNack rnrTimeout => exact h.ulpRnrNack hallowed
  | insert type rsn ssn => exact (h.next_local rfl hallowed).imp fun _ hs' => hs'.1
  | rnrTimeout rsn => exact (h.next_local rfl hallowed).imp fun _ hs' => hs'.1
  | retry rsn => exact (h.next_local rfl hallowed).imp fun _ hs' => hs'.1
  | advance time => exact (h.next_local rfl hallowed).imp fun _ hs' => hs'.1

lemma inv_of_reachable (h : system.Reachable (fun _ _ => True) s) : s.Inv :=
  h.invariant (I := Inv) (E := AnyFault) (fun _ hs => Initial.inv hs)
    fun _ ev hs hallowed _ => hs.next ev hallowed

/-- No entry of the target buffer of an ordered connection is stuck: every transaction before the
head of the line was acknowledged by the ULP or is in flight to it, and the entry at the head of the
line is in flight or has its timer pending at its retry time, which has not passed. -/
theorem targetBuffer_not_stuck (h : system.Reachable (fun _ _ => True) s) :
    (∀ r < s.endpoint.reorder.nextTargetRsn, r ∈ s.acked ∨ r ∈ s.endpoint.inFlight) ∧
    ∀ entry, s.endpoint.targetEntry s.endpoint.reorder.nextTargetRsn = some entry →
      s.endpoint.reorder.nextTargetRsn ∈ s.endpoint.inFlight ∨
      ∃ t, entry.retryTime = some t ∧ s.endpoint.now ≤ t ∧
        (t, .rnrTimeout s.endpoint.reorder.nextTargetRsn) ∈ s.endpoint.pending := by
  have hinv := inv_of_reachable h
  refine ⟨hinv.buffered.below, fun entry hentry => ?_⟩
  cases hretry : entry.retryTime with
  | none => exact .inl ((hinv.buffered.inFlight_iff _).mpr ⟨entry, hentry, hretry⟩)
  | some t => exact .inr ⟨t, rfl, hinv.attended entry t hentry hretry⟩

def fresh : Target where
  endpoint :=
    { config := { ordered := true }
      congestionControl :=
        { fabricCongestionWindow := 0, nicCongestionWindow := 0, retransmitTimeout := 0 }
      tx := fun _ => { base := 0, next := 0 }
      rx := fun _ => { base := 0 } }

/-- The ULP refuses the first of two transactions that it was handed. -/
theorem targetBuffer_not_stuck_refused : ∃ s, system.Reachable (fun _ _ => True) s ∧
    s.endpoint.inFlight = [1] ∧ s.endpoint.targetEntry 0 = some ⟨.pullRequest, some 5⟩ ∧
    (∀ r < s.endpoint.reorder.nextTargetRsn, r ∈ s.acked ∨ r ∈ s.endpoint.inFlight) ∧
    ∀ entry, s.endpoint.targetEntry s.endpoint.reorder.nextTargetRsn = some entry →
      s.endpoint.reorder.nextTargetRsn ∈ s.endpoint.inFlight ∨
      ∃ t, entry.retryTime = some t ∧ s.endpoint.now ≤ t ∧
        (t, .rnrTimeout s.endpoint.reorder.nextTargetRsn) ∈ s.endpoint.pending := by
  obtain ⟨s, hs, hflight, hentry⟩ := TransitionSystem.Reachable.exists_of_run (T := system)
    (C := fun _ _ => True)
    (P := fun s => s.endpoint.inFlight = [1] ∧
      s.endpoint.targetEntry 0 = some ⟨.pullRequest, some 5⟩)
    (s := fresh)
    [.insert .pushUnsolicitedData 1 0, .insert .pullRequest 0 0, .interHostRx, .ulpRnrNack 5]
    ⟨rfl, le_rfl, rfl, rfl, rfl, rfl⟩ (by decide +kernel)
  exact ⟨s, hs, hflight, hentry, targetBuffer_not_stuck hs⟩

end Target

end Isekai.Falcon

import Isekai.Common.TokenBucket
import Isekai.Falcon.Transaction
import Isekai.Lib.TransitionSystem
import Mathlib.Algebra.BigOperators.Group.List.Basic

/-!
# Admission control

`gen1/admission_control_manager.cc` as the connection scheduler calls it, which reserves what it has
just found available, and as the Falcon model refunds. Statistics are left out.
-/

namespace Isekai.Falcon

open Common Lib

inductive AdmissionControlPolicy
  | rxWindowBased | rxRateBased | txRateBased | rxTxRateBased | rxTxRateRxWindowBased
  deriving DecidableEq

abbrev TransactionId := Nat × TransactionKey

/-- A transaction keeps its type and its length. -/
structure AdmissionConfig where
  policy : AdmissionControlPolicy
  admissionWindowBytes : Nat
  transaction : TransactionId → TransactionMetadata

/-- `outstanding` are the transactions that have bytes in the window. -/
structure SolicitationWindow where
  solicitedDataBytes : Nat := 0
  outstanding : List TransactionId := []

/-- The RX rate limiter is the incoming one. -/
structure AdmissionControl where
  rateLimiter : PacketDirection → TokenBucket
  window : SolicitationWindow := {}

inductive AdmissionFatal
  | insufficientTokens | cannotSend | unsolicitedRefund

inductive AdmissionLabel
  | meetsCriteria (time : Time) (requestLength : Nat) (type : PacketType)
  | schedule (time : Time) (x : TransactionId) (type : PacketType)
  | refund (x : TransactionId)

def solicits (type : PacketType) : Bool := type = .pullRequest || type = .pushGrant

namespace AdmissionConfig

variable (c : AdmissionConfig)

def hasRxWindow : Bool := c.policy = .rxWindowBased || c.policy = .rxTxRateRxWindowBased

def requestLength (x : TransactionId) : Nat := (c.transaction x).requestLength

/-- The limiter that packets of the type are tested against and charged to. -/
def limiterOf (type : PacketType) : Option PacketDirection :=
  let both := c.policy = .rxTxRateBased ∨ c.policy = .rxTxRateRxWindowBased
  if solicits type ∧ (c.policy = .rxRateBased ∨ both) then some .incoming
  else if type = .pushRequest ∧ (c.policy = .txRateBased ∨ both) then some .outgoing
  else none

end AdmissionConfig

namespace SolicitationWindow

variable (c : AdmissionConfig) (w : SolicitationWindow) (x : TransactionId)

def meetsRxWindowCriteria (requestLength : Nat) (type : PacketType) : Bool :=
  !(c.hasRxWindow && solicits type) ||
    requestLength ≤ (c.admissionWindowBytes + 2 ^ 64 - w.solicitedDataBytes) % 2 ^ 64

def reserveRxWindowResources (type : PacketType) : SolicitationWindow :=
  if c.hasRxWindow && solicits type then
    ⟨(w.solicitedDataBytes + c.requestLength x) % 2 ^ 64, x :: w.outstanding⟩
  else w

def refund : SolicitationWindow :=
  ⟨(w.solicitedDataBytes + 2 ^ 64 - c.requestLength x) % 2 ^ 64, w.outstanding.erase x⟩

end SolicitationWindow

namespace AdmissionControl

variable (c : AdmissionConfig) (m : AdmissionControl)

def meetsAdmissionControlCriteria (time : Time) (requestLength : Nat) (type : PacketType) :
    AdmissionControl × Bool :=
  let inWindow := m.window.meetsRxWindowCriteria c requestLength type
  match c.limiterOf type with
  | none => (m, inWindow)
  | some d =>
    let test := (m.rateLimiter d).areTokensAvailable requestLength time
    ({ m with rateLimiter := Function.update m.rateLimiter d test.1 }, test.2 && inWindow)

def reserveAdmissionControlResource (x : TransactionId) (type : PacketType) :
    Except AdmissionFatal AdmissionControl := do
  let rateLimiter ← match c.limiterOf type with
    | none => pure m.rateLimiter
    | some d =>
      match (m.rateLimiter d).requestTokens (c.requestLength x) with
      | none => throw .insufficientTokens
      | some b => pure (Function.update m.rateLimiter d b)
  return ⟨rateLimiter, m.window.reserveRxWindowResources c x type⟩

def refundAdmissionControlResource (x : TransactionId) : Except AdmissionFatal AdmissionControl :=
  if c.hasRxWindow then
    if (c.transaction x).type = .pushUnsolicited then .error .unsolicitedRefund
    else .ok { m with window := m.window.refund c x }
  else .ok m

def next : AdmissionLabel → Except AdmissionFatal AdmissionControl
  | .meetsCriteria time requestLength type =>
    .ok (m.meetsAdmissionControlCriteria c time requestLength type).1
  | .schedule time x type =>
    let test := m.meetsAdmissionControlCriteria c time (c.requestLength x) type
    if test.2 then test.1.reserveAdmissionControlResource c x type else .error .cannotSend
  | .refund x => m.refundAdmissionControlResource c x

/-- Only pulls and solicited pushes solicit data, and a refund is for a reservation. -/
def allowed : AdmissionLabel → Prop
  | .meetsCriteria _ _ _ => True
  | .schedule _ x type => solicits type → (c.transaction x).type ≠ .pushUnsolicited
  | .refund x => c.hasRxWindow → x ∈ m.window.outstanding

end AdmissionControl

def AdmissionConfig.system (c : AdmissionConfig) :
    TransitionSystem AdmissionControl AdmissionLabel AdmissionFatal where
  init m := m.window = {}
  allowed := AdmissionControl.allowed c
  next := AdmissionControl.next c

variable {c : AdmissionConfig} {w : SolicitationWindow} {m : AdmissionControl} {x : TransactionId}
  {type : PacketType}

/-- The solicited bytes are those of the outstanding requests. -/
structure SolicitationWindow.Inv (c : AdmissionConfig) (w : SolicitationWindow) : Prop where
  solicited : w.solicitedDataBytes = (w.outstanding.map c.requestLength).sum
  solicited_le : w.solicitedDataBytes ≤ c.admissionWindowBytes
  type : ∀ x ∈ w.outstanding, (c.transaction x).type ≠ .pushUnsolicited

variable (hwindow : c.admissionWindowBytes < 2 ^ 64)

include hwindow

namespace SolicitationWindow.Inv

lemma reserve (h : w.Inv c) (hmeets : w.meetsRxWindowCriteria c (c.requestLength x) type = true)
    (htype : solicits type → (c.transaction x).type ≠ .pushUnsolicited) :
    (w.reserveRxWindowResources c x type).Inv c := by
  unfold reserveRxWindowResources
  split
  · rename_i hw
    have hle := h.solicited_le
    simp only [meetsRxWindowCriteria, hw, Bool.not_true, Bool.false_or, decide_eq_true_eq] at hmeets
    have hmod : (w.solicitedDataBytes + c.requestLength x) % 2 ^ 64 =
        w.solicitedDataBytes + c.requestLength x := Nat.mod_eq_of_lt (by omega)
    rw [hmod]
    refine ⟨?_, by dsimp only; omega, List.forall_mem_cons.mpr
      ⟨htype (Bool.and_eq_true_iff.mp hw).2, h.type⟩⟩
    rw [h.solicited, Nat.add_comm]
    exact List.sum_cons.symm
  · exact h

lemma refund (h : w.Inv c) (hx : x ∈ w.outstanding) : (w.refund c x).Inv c := by
  have hsum := ((List.perm_cons_erase hx).map c.requestLength).sum_eq
  rw [List.map_cons, List.sum_cons, ← h.solicited] at hsum
  have hle := h.solicited_le
  have hmod : (w.refund c x).solicitedDataBytes = w.solicitedDataBytes - c.requestLength x := by
    simp only [SolicitationWindow.refund]
    omega
  refine ⟨?_, by omega, fun y hy => h.type y (List.mem_of_mem_erase hy)⟩
  rw [hmod, hsum, Nat.add_sub_cancel_left]
  rfl

end SolicitationWindow.Inv

namespace AdmissionControl

lemma next_spec (h : m.window.Inv c) : ∀ l, m.allowed c l →
    Ensures (· = .cannotSend) (·.window.Inv c) (m.next c l)
  | .meetsCriteria time requestLength type, _ => by
    simp only [next, meetsAdmissionControlCriteria]
    split <;> exact h
  | .schedule time x type, htype => by
    refine .ite (fun htest => ?_) fun _ => rfl
    unfold meetsAdmissionControlCriteria at htest ⊢
    unfold reserveAdmissionControlResource TokenBucket.requestTokens
    cases hd : c.limiterOf type with
    | none =>
      rw [hd] at htest
      exact h.reserve hwindow htest htype
    | some d =>
      rw [hd] at htest
      obtain ⟨htokens, htest⟩ := Bool.and_eq_true_iff.mp htest
      have htokens : c.requestLength x ≤ ((m.rateLimiter d).areTokensAvailable
        (c.requestLength x) time).1.availableTokens := of_decide_eq_true htokens
      simp only [Function.update_self, if_pos htokens]
      exact h.reserve hwindow htest htype
  | .refund x, hx => by
    refine .ite (fun hw => ?_) fun _ => h
    rw [if_neg (h.type x (hx hw))]
    exact h.refund hwindow (hx hw)

/-- In every order of tests, reservations and refunds, the window holds the bytes of the
reservations not yet refunded, and no check fails but that of a packet that is not admitted. -/
theorem reservations_fit_window (h : c.system.Reachable (fun _ _ => True) m) :
    m.window.solicitedDataBytes = (m.window.outstanding.map c.requestLength).sum ∧
    m.window.solicitedDataBytes ≤ c.admissionWindowBytes ∧
    ∀ l, m.allowed c l → Ensures (· = .cannotSend) (fun _ => True) (m.next c l) := by
  have hinv := h.invariant (I := (·.window.Inv c)) (fun _ hinit =>
    hinit ▸ ⟨rfl, Nat.zero_le _, nofun⟩)
    fun _ l hs hl _ => next_spec hwindow hs l hl
  exact ⟨hinv.solicited, hinv.solicited_le,
    fun l hl => (next_spec hwindow hinv l hl).imp fun _ _ => trivial⟩

omit hwindow in
theorem reservations_fit_window_pull :
    let c : AdmissionConfig := ⟨.rxTxRateRxWindowBased, 5000, fun _ => ⟨7, .pull, .initiator, 4096,
      .pullReqUlpRx, fun _ => none⟩⟩
    ∃ m, c.system.Reachable (fun _ _ => True) m ∧ m.window.solicitedDataBytes = 4096 ∧
      m.window.solicitedDataBytes ≤ 5000 := by
  intro c
  let s : AdmissionControl := ⟨fun _ => ⟨1, 4, 9000, 9000, 0⟩, {}⟩
  let l : AdmissionLabel := .schedule 0 (1, ⟨7, .initiator⟩) .pullRequest
  obtain ⟨m, hnext, hbytes⟩ := exists_ok_of_any (x := c.system.next s l)
    (P := fun m => m.window.solicitedDataBytes = 4096) (by decide +kernel)
  have h : c.system.Reachable (fun _ _ => True) m :=
    .step (s := s) (l := l) (.init rfl) (fun _ => nofun) trivial hnext
  exact ⟨m, h, hbytes, (reservations_fit_window (by decide) h).2.1⟩

end AdmissionControl

end Isekai.Falcon

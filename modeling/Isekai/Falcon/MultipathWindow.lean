import Isekai.Falcon.Step
import Isekai.Lib.TransitionSystem
import Isekai.Rue.Fixed

/-!
# The fabric window of a multipath connection

A Gen3 connection has one flow, or four. The rate update engine answers for one flow at a time, and
the adapter of `event_response_format_adapter.cc` keeps the window of each flow and writes their sum
into `fabric_congestion_window`, which the transmission gating of the reliability manager reads for
the whole connection. Everything else that a Gen3 connection does leaves its fabric window as it is,
and is left open here. Flow labels and flow weights are not in the model.
-/

namespace Isekai.Falcon

open Lib Rue Function TransitionSystem

inductive Gen3Fatal where
  | zeroFabricWindow
  | endpoint (f : Fatal)
  deriving DecidableEq, Repr

/-- An endpoint with a congestion window for each flow. -/
structure Gen3Connection (flows : Nat) where
  endpoint : Endpoint
  flowFcwnds : Fin flows → BitVec 32

structure Gen3Response (flows : Nat) where
  flowId : Fin flows
  fabricCongestionWindow : BitVec 32
  nicCongestionWindow : BitVec 32
  retransmitTimeout : Time

namespace Gen3Connection

variable {flows : Nat}

def fabricCongestionWindow (c : Gen3Connection flows) : BitVec 32 :=
  c.endpoint.congestionControl.fabricCongestionWindow

/-- `InitializeGenSpecificMetadata`: the flows share the initial window of the connection. -/
def initialFlowFcwnd (flows : Nat) (fcwnd : BitVec 32) : BitVec 32 :=
  floatToFixed (fixedToFloat fcwnd fractionalBits / flows) fractionalBits

def initial (flows : Nat) (e : Endpoint) : Gen3Connection flows :=
  ⟨e, fun _ => initialFlowFcwnd flows e.congestionControl.fabricCongestionWindow⟩

/-- The window of a connection with these flow windows. A single flow keeps its window as it is. -/
def connectionFcwnd : {flows : Nat} → (Fin flows → BitVec 32) → BitVec 32
  | 1, flowFcwnds => flowFcwnds ⟨0, Nat.one_pos⟩
  | _, flowFcwnds =>
    floatToFixed (∑ i, fixedToFloat (flowFcwnds i) fractionalBits) fractionalBits

/-- What the Gen2 adapter writes: the window in the response goes to the connection first. -/
def updateGen2 (e : Endpoint) (r : Gen3Response flows) : Outcome := do
  let e ← e.setFabricCongestionWindow r.fabricCongestionWindow
  let ncwnd := fixedToUint r.nicCongestionWindow fractionalBits
  let e ← e.setNicCongestionWindow (if ncwnd = 0 then 1 else ncwnd)
  pure { e with congestionControl := { e.congestionControl with
    retransmitTimeout := r.retransmitTimeout } }

def updateConnectionStateFromResponse (c : Gen3Connection flows) (r : Gen3Response flows) :
    Except Gen3Fatal (Gen3Connection flows) := do
  let e ← (updateGen2 c.endpoint r).mapError .endpoint
  if r.fabricCongestionWindow = 0 then throw .zeroFabricWindow
  else
    let flowFcwnds := update c.flowFcwnds r.flowId r.fabricCongestionWindow
    let e ← (e.setFabricCongestionWindow (connectionFcwnd flowFcwnds)).mapError .endpoint
    pure ⟨e, flowFcwnds⟩

/-- `HandleNextResponse`: a shorter retransmission timeout restarts the timer. -/
def handleNextResponse (c : Gen3Connection flows) (r : Gen3Response flows) :
    Except Gen3Fatal (Gen3Connection flows) := do
  let c' ← c.updateConnectionStateFromResponse r
  if r.retransmitTimeout < c.endpoint.congestionControl.retransmitTimeout then
    let e ← c'.endpoint.handleRtoReduction.mapError .endpoint
    pure { c' with endpoint := e }
  else pure c'

inductive Event (flows : Nat) where
  | response (r : Gen3Response flows)
  | other (e : Endpoint)

def next (c : Gen3Connection flows) : Event flows → Except Gen3Fatal (Gen3Connection flows)
  | .response r => c.handleNextResponse r
  | .other e => pure { c with endpoint := e }

structure Limits where
  minFabricCongestionWindow : BitVec 32
  maxFabricCongestionWindow : BitVec 32

def Limits.Within (limits : Limits) (fcwnd : BitVec 32) : Prop :=
  limits.minFabricCongestionWindow.toNat ≤ fcwnd.toNat ∧
    fcwnd.toNat ≤ limits.maxFabricCongestionWindow.toNat

instance (limits : Limits) (fcwnd : BitVec 32) : Decidable (limits.Within fcwnd) :=
  inferInstanceAs (Decidable (_ ∧ _))

def Allowed (limits : Limits) (c : Gen3Connection flows) : Event flows → Prop
  | .response r => limits.Within r.fabricCongestionWindow
  | .other e => e.congestionControl.fabricCongestionWindow = c.fabricCongestionWindow

instance (limits : Limits) (c : Gen3Connection flows) :
    (ev : Event flows) → Decidable (Allowed limits c ev)
  | .response r => inferInstanceAs (Decidable (limits.Within r.fabricCongestionWindow))
  | .other e =>
    inferInstanceAs (Decidable (e.congestionControl.fabricCongestionWindow = _))

end Gen3Connection

def gen3Connection (limits : Gen3Connection.Limits) :
    TransitionSystem (Gen3Connection 4) (Gen3Connection.Event 4) Gen3Fatal where
  init c := ∃ e : Endpoint, limits.Within e.congestionControl.fabricCongestionWindow ∧
    c = .initial 4 e
  allowed := Gen3Connection.Allowed limits
  next := Gen3Connection.next

instance (limits : Gen3Connection.Limits) (c : Gen3Connection 4) (ev : Gen3Connection.Event 4) :
    Decidable ((gen3Connection limits).allowed c ev) :=
  inferInstanceAs (Decidable (Gen3Connection.Allowed limits c ev))

namespace Endpoint

variable {e : Endpoint} {fcwnd : BitVec 32} {P : Prop}

def FcwndFits (e : Endpoint) : Prop :=
  roundedFcwnd e.congestionControl.fabricCongestionWindow ≤ txWindowSize

/-- The aborts of a computation in which the `CHECK_LE` can only fail if `P` holds. -/
abbrev CwndOnlyIf (P : Prop) (f : Fatal) : Prop := f = .cwndExceedsWindow → P

lemma getPacketMetadata_check (r : Rsn) (t : PacketType) :
    Ensures (CwndOnlyIf P) (fun _ => True) (e.getPacketMetadata r t) := by
  refine Ensures.bind (P := fun _ => True) ?_ fun location _ => ?_
  · unfold getTransactionLocation
    split <;> simp
  refine Ensures.bind (P := fun _ => True) ?_ fun tr _ => ?_
  · unfold getTransaction
    split <;> simp
  refine Ensures.bind (P := fun _ => True) ?_ fun pm _ => trivial
  unfold TransactionMetadata.getPacketMetadata
  split <;> simp

section Gating

variable (hP : ¬e.FcwndFits → P)

include hP

lemma psnBound_check (t : PacketType) :
    Ensures (CwndOnlyIf P) (fun _ => True) (e.psnBound t) := by
  exact Ensures.ite (fun _ => trivial) fun hexceeds _ => hP hexceeds

lemma getOpenFcwnd_check (t : PacketType) :
    Ensures (CwndOnlyIf P) (fun _ => True) (e.getOpenFcwnd t) := by
  refine (psnBound_check hP t).bind fun bound _ => ?_
  dsimp only
  split <;> trivial

lemma meetsInitialTransmission_check (t : PacketType) :
    Ensures (CwndOnlyIf P) (fun _ => True) (e.meetsInitialTransmissionCCTxGatingCriteria t) := by
  refine (getOpenFcwnd_check hP t).bind fun n _ => ?_
  split
  · trivial
  · split <;> trivial

lemma meetsRetransmission_check (psn : Psn) (t : PacketType) :
    Ensures (CwndOnlyIf P) (fun _ => True) (e.meetsRetransmissionCCTxGatingCriteria psn t) := by
  refine (psnBound_check hP t).bind fun bound _ => ?_
  split
  · trivial
  · split <;> trivial

lemma recomputeQueue_check (q : PacketTypeQueue) :
    Ensures (CwndOnlyIf P) (fun _ => True) (e.recomputeQueue q) := by
  unfold recomputeQueue
  split
  · trivial
  · rename_i work _ _
    split
    · trivial
    · have hgating : Ensures (CwndOnlyIf P) (fun _ => True)
          (discard (e.meetsInitialTransmissionCCTxGatingCriteria work.type)) :=
        (meetsInitialTransmission_check hP work.type).bind fun _ _ => trivial
      split
      · exact Ensures.discard_bind (getPacketMetadata_check _ _) fun _ _ => hgating
      · exact hgating

lemma recomputeRetransmissionQueue_check (w : WindowType) :
    Ensures (CwndOnlyIf P) (fun _ => True) (e.recomputeRetransmissionQueue w) := by
  unfold recomputeRetransmissionQueue
  split
  · trivial
  · split
    · trivial
    · exact (meetsRetransmission_check hP _ _).bind fun _ _ => trivial

lemma gate_check : Ensures (CwndOnlyIf P) (· = e) e.gate := by
  refine (recomputeQueue_check hP _).bind fun _ _ => ?_
  refine (recomputeQueue_check hP _).bind fun _ _ => ?_
  refine (recomputeQueue_check hP _).bind fun _ _ => ?_
  refine (recomputeQueue_check hP _).bind fun _ _ => ?_
  refine (recomputeQueue_check hP _).bind fun _ _ => ?_
  refine (recomputeRetransmissionQueue_check hP _).bind fun _ _ => ?_
  exact (recomputeRetransmissionQueue_check hP _).bind fun _ _ => rfl

lemma setNicCongestionWindow_check (ncwnd : BitVec 32) :
    Ensures (CwndOnlyIf P) (fun e' => e'.congestionControl.fabricCongestionWindow =
      e.congestionControl.fabricCongestionWindow) (e.setNicCongestionWindow ncwnd) := by
  unfold setNicCongestionWindow
  split
  · rfl
  · refine (gate_check ?_).imp ?_
    · exact hP
    · rintro _ rfl
      rfl

end Gating

lemma setFabricCongestionWindow_check (hP : ¬roundedFcwnd fcwnd ≤ txWindowSize → P) :
    Ensures (CwndOnlyIf P) (fun e' => e'.congestionControl.fabricCongestionWindow = fcwnd)
      (e.setFabricCongestionWindow fcwnd) := by
  unfold setFabricCongestionWindow
  split
  · assumption
  · refine (gate_check ?_).imp ?_
    · exact hP
    · rintro _ rfl
      rfl

lemma headDeadline_check (w : WindowType) :
    Ensures (CwndOnlyIf P) (fun _ => True) (e.headDeadline w) := by
  unfold headDeadline
  split
  · trivial
  · exact (getPacketMetadata_check _ _).bind fun _ _ => trivial

lemma handleRtoReduction_check : Ensures (CwndOnlyIf P) (fun e' =>
    e'.congestionControl = e.congestionControl) e.handleRtoReduction := by
  refine (headDeadline_check _).bind fun request _ => ?_
  refine (headDeadline_check _).bind fun data _ => ?_
  split
  · rfl
  · dsimp only
    split <;> rfl

end Endpoint

namespace Gen3Connection

variable {limits : Limits} {c c' : Gen3Connection 4} {r : Gen3Response 4}

def otherFlows (c : Gen3Connection 4) (flowId : Fin 4) : Nat :=
  ∑ i ∈ Finset.univ.erase flowId, (c.flowFcwnds i).toNat

/-- The window of the response and those of the other flows fit the transmitter window together. -/
def SharesWindow (c : Gen3Connection 4) : Event 4 → Prop
  | .response r =>
    r.fabricCongestionWindow.toNat + c.otherFlows r.flowId < (txWindowSize + 1) * 2 ^ fractionalBits
  | .other _ => True

instance (c : Gen3Connection 4) : (ev : Event 4) → Decidable (c.SharesWindow ev)
  | .response _ => inferInstanceAs (Decidable (_ < _))
  | .other _ => inferInstanceAs (Decidable True)

lemma sum_update (f : Fin 4 → BitVec 32) (i : Fin 4) (x : BitVec 32) :
    ∑ j, (update f i x j).toNat = x.toNat + ∑ j ∈ Finset.univ.erase i, (f j).toNat := by
  rw [← Finset.add_sum_erase _ _ (Finset.mem_univ i), update_self]
  congr 1
  refine Finset.sum_congr rfl fun j hj => ?_
  rw [update_of_ne (Finset.ne_of_mem_erase hj)]

lemma connectionFcwnd_eq (f : Fin 4 → BitVec 32) :
    connectionFcwnd f = BitVec.ofNat 32 (∑ i, (f i).toNat) :=
  floatToFixed_sum _ _ _

lemma roundedFcwnd_le_of_lt {fcwnd : BitVec 32}
    (h : fcwnd.toNat < (txWindowSize + 1) * 2 ^ fractionalBits) :
    roundedFcwnd fcwnd ≤ txWindowSize := by
  have hdiv : fcwnd.toNat / 2 ^ fractionalBits < txWindowSize + 1 :=
    Nat.div_lt_of_lt_mul (by rwa [Nat.mul_comm])
  have hsize : txWindowSize = 1024 := rfl
  unfold roundedFcwnd
  omega

abbrev CheckOnlyIf (P : Prop) (f : Gen3Fatal) : Prop := f = .endpoint .cwndExceedsWindow → P

lemma checkOnlyIf_endpoint {P : Prop} {f : Fatal} (h : Endpoint.CwndOnlyIf P f) :
    CheckOnlyIf P (.endpoint f) := fun heq => h (Gen3Fatal.endpoint.inj heq)

section

variable {P : Prop} (hresponse : ¬roundedFcwnd r.fabricCongestionWindow ≤ txWindowSize → P)
  (hsum : ¬roundedFcwnd (connectionFcwnd
    (update c.flowFcwnds r.flowId r.fabricCongestionWindow)) ≤ txWindowSize → P)

include hresponse hsum

lemma updateConnectionStateFromResponse_check : Ensures (CheckOnlyIf P) (fun c' =>
      c'.flowFcwnds = update c.flowFcwnds r.flowId r.fabricCongestionWindow ∧
      c'.fabricCongestionWindow = connectionFcwnd c'.flowFcwnds)
      (c.updateConnectionStateFromResponse r) := by
  have hgen2 : Ensures (Endpoint.CwndOnlyIf P) (fun _ => True) (updateGen2 c.endpoint r) := by
    refine (Endpoint.setFabricCongestionWindow_check hresponse).bind fun e he => ?_
    refine (Endpoint.setNicCongestionWindow_check ?_ _).bind fun e' _ => trivial
    rw [Endpoint.FcwndFits, he]
    exact hresponse
  refine (Ensures.mapError (hgen2.mono (fun _ => checkOnlyIf_endpoint) fun _ h => h)).bind
    fun e _ => ?_
  split
  · exact nofun
  · have hwrite := Endpoint.setFabricCongestionWindow_check (e := e) hsum
    refine (Ensures.mapError (hwrite.mono (fun _ => checkOnlyIf_endpoint) fun _ h => h)).bind
      fun e' he' => ?_
    exact ⟨rfl, he'⟩

lemma handleNextResponse_check : Ensures (CheckOnlyIf P) (fun c' =>
      c'.flowFcwnds = update c.flowFcwnds r.flowId r.fabricCongestionWindow ∧
      c'.fabricCongestionWindow = connectionFcwnd c'.flowFcwnds) (c.handleNextResponse r) := by
  refine (updateConnectionStateFromResponse_check hresponse hsum).bind fun c' hc' => ?_
  split
  · have htimer := Endpoint.handleRtoReduction_check (e := c'.endpoint) (P := P)
    refine (Ensures.mapError (htimer.mono (fun _ => checkOnlyIf_endpoint) fun _ h => h)).bind
      fun e he => ?_
    refine ⟨hc'.1, ?_⟩
    rw [← hc'.2]
    exact congrArg CongestionControlMetadata.fabricCongestionWindow he
  · exact hc'

end

/-- The connection window passes the `CHECK_LE`, and the windows of the flows keep to the limits. -/
structure Bounded (limits : Limits) (c : Gen3Connection 4) : Prop where
  fits : c.endpoint.FcwndFits
  flows : ∀ i, (c.flowFcwnds i).toNat ≤ limits.maxFabricCongestionWindow.toNat

lemma initialFlowFcwnd_le (fcwnd : BitVec 32) :
    (initialFlowFcwnd 4 fcwnd).toNat ≤ fcwnd.toNat := by
  have hscale : fixedToFloat fcwnd fractionalBits / (4 : Nat) * 2 ^ fractionalBits =
      (fcwnd.toNat : ℚ) / 4 := by
    unfold fixedToFloat
    push_cast
    field_simp
  have hquarter : (0 : ℚ) ≤ fcwnd.toNat / 4 := by positivity
  have hfloor : ⌊(fcwnd.toNat : ℚ) / 4 + 1 / 2⌋ ≤ fcwnd.toNat := by
    rw [Int.floor_le_iff]
    push_cast
    linarith
  have hpos : 0 ≤ ⌊(fcwnd.toNat : ℚ) / 4 + 1 / 2⌋ := Int.floor_nonneg.mpr (by linarith)
  rw [initialFlowFcwnd, floatToFixed, hscale, roundHalfAway, if_pos hquarter, BitVec.toNat_ofInt,
    Int.emod_eq_of_lt hpos (by omega)]
  omega

section Step

variable (hmax : limits.maxFabricCongestionWindow.toNat ≤ txWindowSize * 2 ^ fractionalBits)

include hmax

lemma roundedFcwnd_le_of_within {fcwnd : BitVec 32} (h : limits.Within fcwnd) :
    roundedFcwnd fcwnd ≤ txWindowSize := by
  refine roundedFcwnd_le_of_lt ?_
  have hle := h.2
  have hpos : 0 < 2 ^ fractionalBits := Nat.two_pow_pos _
  rw [Nat.succ_mul]
  omega

lemma Bounded.initial {e : Endpoint}
    (h : limits.Within e.congestionControl.fabricCongestionWindow) :
    Bounded limits (.initial 4 e) where
  fits := roundedFcwnd_le_of_within hmax h
  flows _ := (initialFlowFcwnd_le _).trans h.2

lemma Bounded.toNat_connectionFcwnd (h : c.Bounded limits)
    (hr : limits.Within r.fabricCongestionWindow) :
    (connectionFcwnd (update c.flowFcwnds r.flowId r.fabricCongestionWindow)).toNat =
      r.fabricCongestionWindow.toNat + c.otherFlows r.flowId := by
  have hothers : c.otherFlows r.flowId ≤
      (Finset.univ.erase r.flowId).card • limits.maxFabricCongestionWindow.toNat :=
    Finset.sum_le_card_nsmul _ _ _ fun i _ => h.flows i
  have hcard : (Finset.univ.erase r.flowId).card = 3 := by
    rw [Finset.card_erase_of_mem (Finset.mem_univ _)]
    rfl
  have hlimit : txWindowSize * 2 ^ fractionalBits = 2 ^ 20 := rfl
  have hle := hr.2
  rw [hcard, nsmul_eq_mul, Nat.cast_ofNat] at hothers
  rw [connectionFcwnd_eq, sum_update, BitVec.toNat_ofNat]
  exact Nat.mod_eq_of_lt (by rw [otherFlows] at hothers; omega)

lemma Bounded.handleNextResponse (h : c.Bounded limits)
    (hr : limits.Within r.fabricCongestionWindow) :
    Ensures (CheckOnlyIf ¬c.SharesWindow (.response r)) (fun c' =>
      c'.flowFcwnds = update c.flowFcwnds r.flowId r.fabricCongestionWindow ∧
      c'.fabricCongestionWindow.toNat =
        r.fabricCongestionWindow.toNat + c.otherFlows r.flowId) (c.handleNextResponse r) := by
  have hsum := h.toNat_connectionFcwnd hmax hr
  refine (handleNextResponse_check ?_ ?_).imp fun c' hc' => ?_
  · exact fun hexceeds => absurd (roundedFcwnd_le_of_within hmax hr) hexceeds
  · intro hexceeds hshares
    refine hexceeds (roundedFcwnd_le_of_lt ?_)
    rw [hsum]
    exact hshares
  · refine ⟨hc'.1, ?_⟩
    rw [hc'.2, hc'.1, hsum]

lemma Bounded.next (h : c.Bounded limits) (ev : Event 4) (hallowed : Allowed limits c ev)
    (hshares : c.SharesWindow ev) :
    Ensures (fun f => f ≠ .endpoint .cwndExceedsWindow) (Bounded limits) (c.next ev) := by
  cases ev with
  | response r =>
    refine (h.handleNextResponse hmax hallowed).mono (fun f hf heq => hf heq hshares) ?_
    rintro c' ⟨hflows, hwindow⟩
    refine ⟨roundedFcwnd_le_of_lt ?_, fun i => ?_⟩
    · rw [← fabricCongestionWindow, hwindow]
      exact hshares
    · rw [hflows, update_apply]
      split
      · exact hallowed.2
      · exact h.flows i
  | other e =>
    refine ⟨?_, h.flows⟩
    have hsame : e.congestionControl.fabricCongestionWindow = c.fabricCongestionWindow := hallowed
    rw [Endpoint.FcwndFits, hsame]
    exact h.fits

end Step

end Gen3Connection

open Gen3Connection

/-- As long as the window of every response fits the transmitter window together with the windows of
the other flows, the connection window does too, and the `CHECK_LE` of the gating passes. -/
theorem multipath_window_fits (limits : Limits)
    (hmax : limits.maxFabricCongestionWindow.toNat ≤ txWindowSize * 2 ^ fractionalBits)
    {c : Gen3Connection 4} (h : (gen3Connection limits).Reachable SharesWindow c) :
    c.fabricCongestionWindow.toNat / 2 ^ fractionalBits ≤ txWindowSize ∧
    (∀ t, c.endpoint.getOpenFcwnd t ≠ .error .cwndExceedsWindow) ∧
    (∀ psn t, c.endpoint.meetsRetransmissionCCTxGatingCriteria psn t ≠
      .error .cwndExceedsWindow) ∧
    (∀ ev, Allowed limits c ev → c.SharesWindow ev →
      c.next ev ≠ .error (.endpoint .cwndExceedsWindow)) ∧
    ∀ r c', limits.Within r.fabricCongestionWindow → c.next (.response r) = .ok c' →
      (c'.fabricCongestionWindow.toNat / 2 ^ fractionalBits ≤ txWindowSize ↔
        c.SharesWindow (.response r)) := by
  have hinit : ∀ c, (gen3Connection limits).init c → c.Bounded limits := by
    rintro _ ⟨e, he, rfl⟩
    exact .initial hmax he
  have hbounded : c.Bounded limits := h.invariant hinit
    fun c ev hc hallowed hshares => hc.next hmax ev hallowed hshares
  have hfits : ¬c.endpoint.FcwndFits → False := fun hexceeds => hexceeds hbounded.fits
  refine ⟨?_, fun t herror => ?_, fun psn t herror => ?_, fun ev hallowed hshares herror => ?_,
    fun r c' hr hnext => ?_⟩
  · exact (le_max_right _ _).trans hbounded.fits
  · exact (Endpoint.getOpenFcwnd_check hfits t).of_error herror rfl
  · exact (Endpoint.meetsRetransmission_check hfits psn t).of_error herror rfl
  · exact (hbounded.next hmax ev hallowed hshares).of_error herror rfl
  · have hwindow := ((hbounded.handleNextResponse hmax hr).of_ok hnext).2
    rw [hwindow, ← Nat.lt_succ_iff, Nat.div_lt_iff_lt_mul (Nat.two_pow_pos _)]
    rfl

def swiftLimits : Limits where
  minFabricCongestionWindow := floatToFixed (1 / 100) fractionalBits
  maxFabricCongestionWindow := 1024 * 1024

def multipathEndpoint : Endpoint :=
  .initial { ordered := true }
    { fabricCongestionWindow := 32 * 1024, nicCongestionWindow := 1024, retransmitTimeout := 4000 }
    (fun _ => 0) fun _ => 0

def flowResponse (flowId : Fin 4) (packets : BitVec 32) : Gen3Connection.Event 4 :=
  .response
    { flowId := flowId
      fabricCongestionWindow := packets * 1024
      nicCongestionWindow := 1024 * 1024
      retransmitTimeout := 4000 }

/-- One flow reaches the maximal window while the other flows have their initial ones. -/
theorem flow_window_exceeds_tx_window :
    ∃ c, (gen3Connection swiftLimits).Reachable (fun _ _ => True) c ∧
      c.fabricCongestionWindow.toNat / 2 ^ fractionalBits = 1048 ∧
      c.endpoint.getOpenFcwnd .pullRequest = .error .cwndExceedsWindow ∧
      c.endpoint.meetsRetransmissionCCTxGatingCriteria 0 .pullRequest =
        .error .cwndExceedsWindow :=
  Reachable.exists_of_run (T := gen3Connection swiftLimits)
    (C := fun _ _ => True)
    (P := fun c => c.fabricCongestionWindow.toNat / 2 ^ fractionalBits = 1048 ∧
      c.endpoint.getOpenFcwnd .pullRequest = .error .cwndExceedsWindow ∧
      c.endpoint.meetsRetransmissionCCTxGatingCriteria 0 .pullRequest =
        .error .cwndExceedsWindow)
    (s := .initial 4 multipathEndpoint) [flowResponse 0 1024]
    ⟨multipathEndpoint, by decide +kernel, rfl⟩ (by decide +kernel)

/-- Four flows of 256 packets each fill the transmitter window. -/
theorem multipath_window_fits_quarters :
    swiftLimits.maxFabricCongestionWindow.toNat ≤ txWindowSize * 2 ^ fractionalBits ∧
    ∃ c, (gen3Connection swiftLimits).Reachable SharesWindow c ∧
      c.fabricCongestionWindow.toNat / 2 ^ fractionalBits = 1024 ∧
      ∀ t, c.endpoint.getOpenFcwnd t ≠ .error .cwndExceedsWindow := by
  have hmax : swiftLimits.maxFabricCongestionWindow.toNat ≤ txWindowSize * 2 ^ fractionalBits := by
    decide
  refine ⟨hmax, ?_⟩
  obtain ⟨c, hc, hwindow⟩ := Reachable.exists_of_run
    (T := gen3Connection swiftLimits) (C := SharesWindow)
    (P := fun c => c.fabricCongestionWindow.toNat / 2 ^ fractionalBits = 1024)
    (s := .initial 4 multipathEndpoint)
    [flowResponse 0 256, flowResponse 1 256, flowResponse 2 256, flowResponse 3 256]
    ⟨multipathEndpoint, by decide +kernel, rfl⟩ (by decide +kernel)
  exact ⟨c, hc, hwindow, (multipath_window_fits swiftLimits hmax hc).2.1⟩

end Isekai.Falcon

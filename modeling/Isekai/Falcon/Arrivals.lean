import Isekai.Falcon.Stages
import Isekai.Falcon.Step

/-!
# What an accepted packet does

The reservation of its credits, and the creation or update of its transaction.
-/

namespace Isekai.Falcon

open Lib

namespace Endpoint

lemma takeCredits_eq (e : Endpoint) (key : TransactionKey) (credits : FalconResourceCredits)
    (packets : List (PacketType × FalconResourceCredits)) :
    e.takeCredits key credits packets = { e with
      globalCredits := e.globalCredits - credits
      log := (packets.reverse.map fun p => .reserve ⟨key, p.1, p.2⟩) ++ e.log } := by
  have h : ∀ e : Endpoint, packets.foldl (fun e p => e.emit (.reserve ⟨key, p.1, p.2⟩)) e =
      { e with log := (packets.reverse.map fun p => .reserve ⟨key, p.1, p.2⟩) ++ e.log } := by
    induction packets with
    | nil => exact fun e => rfl
    | cons p packets ih =>
      intro e
      rw [List.foldl_cons, ih, List.reverse_cons, List.map_append, List.append_assoc]
      rfl
  exact h _

inductive Fresh (p : TransactionPacket) : TransactionLocation → TransactionMetadata → Prop where
  | pullRequest (ht : p.type = .pullRequest) : Fresh p .target
      { rsn := p.rsn, type := .pull, location := .target, requestLength := p.requestLength }
  | pushRequest (ht : p.type = .pushRequest) : Fresh p .target
      (TransactionMetadata.createPacket
        { rsn := p.rsn, type := .pushSolicited, location := .target,
          requestLength := p.requestLength }
        .pushGrant { ssn := p.ssn })
  | pushUnsolicitedData (ht : p.type = .pushUnsolicitedData) : Fresh p .target
      { rsn := p.rsn, type := .pushUnsolicited, location := .target }

lemma createOrUpdateTransactionFromNetwork_cases (e : Endpoint) (p : TransactionPacket) :
    Ensures AnyFault (fun e' => ∃ location tr state,
      getTransactionLocation p.type true = .ok location ∧
      (e.transactions ⟨p.rsn, location⟩ = some tr ∨ Fresh p location tr) ∧
      nextState tr.state p.type .ntwkRx = .ok state ∧
      (p.type = .pullData ∨ p.type = .pushSolicitedData →
        tr.requestLength % 2 ^ 16 = p.payloadLength % 2 ^ 16) ∧
      e' = e.setTransaction ⟨p.rsn, location⟩ { tr.createPacket p.type
        { ssn := p.ssn, payloadLength := p.payloadLength, direction := .incoming } with
        state := state }) (e.createOrUpdateTransactionFromNetwork p) := by
  have hfound : Ensures AnyFault (fun q => getTransactionLocation p.type true = .ok q.1.location ∧
      q.1.rsn = p.rsn ∧ (e.transactions q.1 = some q.2 ∨ Fresh p q.1.location q.2))
      (e.transactionFromNetwork p) := by
    refine (ensures_eq _).bind fun location hlocation => ?_
    dsimp only
    split
    · exact ⟨hlocation, rfl, .inl ‹_›⟩
    · rename_i ht
      rw [ht] at hlocation
      cases hlocation
      exact ⟨by rw [ht]; rfl, rfl, .inr (.pullRequest ht)⟩
    · rename_i ht
      rw [ht] at hlocation
      cases hlocation
      exact ⟨by rw [ht]; rfl, rfl, .inr (.pushRequest ht)⟩
    · rename_i ht
      rw [ht] at hlocation
      cases hlocation
      exact ⟨by rw [ht]; rfl, rfl, .inr (.pushUnsolicitedData ht)⟩
    · trivial
  refine hfound.bind ?_
  rintro ⟨⟨_, location⟩, tr⟩ ⟨hlocation, rfl, htr⟩
  refine Ensures.bind (P := fun tr' => ∃ state, nextState tr.state p.type .ntwkRx = .ok state ∧
    tr' = { tr.createPacket p.type
      { ssn := p.ssn, payloadLength := p.payloadLength, direction := .incoming } with
      state := state }) ?_ ?_
  · exact (ensures_eq _).bind fun state hstate => ⟨state, hstate, rfl⟩
  rintro _ ⟨state, hstate, rfl⟩
  apply Ensures.ite
  · exact fun _ => trivial
  · intro hlength
    refine ⟨location, tr, state, hlocation, htr, hstate, fun ht => ?_, rfl⟩
    by_contra hne
    apply hlength
    obtain ht | ht := ht
    · exact ⟨.inl ht, by rw [ht]; exact hne⟩
    · exact ⟨.inr (.inr ht), by rw [ht]; exact hne⟩

def isReservedEarlier (t : PacketType) : Bool :=
  t = .pullData || t = .pushGrant || t = .pushSolicitedData

lemma reserveIncoming_cases (e : Endpoint) (p : TransactionPacket) :
    Ensures AnyFault (fun e' => e' = e ∧ (e.config.resources.bypassReservation = true ∨
        isReservedEarlier p.type = true) ∨
      isReservedEarlier p.type = false ∧ e.networkRequestCredits p ≤ e.globalCredits ∧
        e' = e.takeCredits ⟨p.rsn, .target⟩ (e.networkRequestCredits p) (e.networkReservations p))
      (e.reserveIncoming p) := by
  unfold reserveIncoming
  split
  · rename_i hok
    apply Ensures.ite
    · exact fun hbypass => .inl ⟨rfl, .inl hbypass⟩
    · intro hbypass
      split
      · rename_i ht
        exact .inl ⟨rfl, .inr (by simp [isReservedEarlier, ht])⟩
      · rename_i ht
        exact .inl ⟨rfl, .inr (by simp [isReservedEarlier, ht])⟩
      · rename_i ht
        exact .inl ⟨rfl, .inr (by simp [isReservedEarlier, ht])⟩
      · rename_i h₁ h₂ h₃
        refine .inr ⟨?_, ?_, rfl⟩
        · cases ht : p.type <;> first | rfl | exact absurd ht h₁ | exact absurd ht h₂ |
            exact absurd ht h₃
        unfold verifyResourceAvailability at hok
        rw [if_neg hbypass] at hok
        split at hok
        · exact absurd ‹_› h₁
        · exact absurd ‹_› h₂
        · exact absurd ‹_› h₃
        · split at hok
          · cases hok
          · split at hok
            · assumption
            · cases hok
  · trivial
  · trivial

end Endpoint

end Isekai.Falcon

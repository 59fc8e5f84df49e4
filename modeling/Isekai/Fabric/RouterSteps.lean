import Isekai.Fabric.NetworkRouter

/-!
# Steps of the router

What the functions of the router leave as it is.
-/

namespace Isekai.Fabric

open Lib

namespace Router

variable {n q : Nat} {c : RouterConfig n q} {s s' s'' : Router n q} {port : Fin n}

/-- The routers differ in the outputs that are scheduled. -/
structure Unchanged (s s' : Router n q) : Prop where
  now : s'.now = s.now
  mmu : s'.mmu = s.mmu
  routerDelays : s'.routerDelays = s.routerDelays
  txQueueUnpauseTimes : s'.txQueueUnpauseTimes = s.txQueueUnpauseTimes
  pfcSetPausedMessages : s'.pfcSetPausedMessages = s.pfcSetPausedMessages
  pfcRefreshmentMessages : s'.pfcRefreshmentMessages = s.pfcRefreshmentMessages
  history : s'.history = s.history
  packetQueues : ∀ port, (s'.ports port).packetQueues = (s.ports port).packetQueues

lemma Unchanged.refl (s : Router n q) : s.Unchanged s :=
  ⟨rfl, rfl, rfl, rfl, rfl, rfl, rfl, fun _ => rfl⟩

lemma Unchanged.trans (h : s.Unchanged s') (h' : s'.Unchanged s'') : s.Unchanged s'' where
  now := h'.now.trans h.now
  mmu := h'.mmu.trans h.mmu
  routerDelays := h'.routerDelays.trans h.routerDelays
  txQueueUnpauseTimes := h'.txQueueUnpauseTimes.trans h.txQueueUnpauseTimes
  pfcSetPausedMessages := h'.pfcSetPausedMessages.trans h.pfcSetPausedMessages
  pfcRefreshmentMessages := h'.pfcRefreshmentMessages.trans h.pfcRefreshmentMessages
  history := h'.history.trans h.history
  packetQueues port := (h'.packetQueues port).trans (h.packetQueues port)

lemma Unchanged.setPort (s : Router n q) {p : Port n q}
    (h : p.packetQueues = (s.ports port).packetQueues) : s.Unchanged (s.setPort port p) := by
  refine ⟨rfl, rfl, rfl, rfl, rfl, rfl, rfl, fun port' => ?_⟩
  by_cases heq : port' = port
  · subst heq
    simpa [Router.setPort] using h
  · simp [Router.setPort, heq]

lemma scheduleOutputAfter_unchanged {delay : Nat} (h : s.scheduleOutputAfter port delay = .ok s') :
    s.Unchanged s' := by
  unfold scheduleOutputAfter at h
  split at h
  · cases h
  · cases h
    exact ⟨rfl, rfl, rfl, rfl, rfl, rfl, rfl, fun _ => rfl⟩

lemma wakePort_unchanged (h : s.wakePort port = .ok s') : s.Unchanged s' := by
  unfold wakePort at h
  split at h
  · apply Unchanged.trans _ (scheduleOutputAfter_unchanged h)
    exact .setPort s rfl
  · cases h
    exact .refl s

lemma generatePfc_unchanged {priority : Fin q} {pauseUnits : Int}
    (h : s.generatePfc port priority pauseUnits = .ok s') : s.Unchanged s' := by
  unfold generatePfc at h
  dsimp only at h
  split at h
  · apply Unchanged.trans _ (wakePort_unchanged h)
    exact .setPort s rfl
  · apply Unchanged.trans _ (wakePort_unchanged h)
    exact .setPort s rfl
  · cases h

lemma sendPfc_unchanged {priority : Fin q} (h : s.sendPfc c port priority = .ok s') :
    s.Unchanged s' := by
  unfold sendPfc at h
  split at h
  · cases h
    exact .refl s
  · obtain ⟨s₁, hs₁, h⟩ := exists_of_bind_eq_ok h
    cases h
    have hs := generatePfc_unchanged hs₁
    exact hs.trans ⟨rfl, rfl, rfl, rfl, rfl, rfl, rfl, fun _ => rfl⟩

lemma sendXon_unchanged {xon : Option (Fin n × Fin q)} (h : s.sendXon xon = .ok s') :
    s.Unchanged s' := by
  cases xon with
  | some ingress => exact generatePfc_unchanged h
  | none =>
    cases h
    exact .refl s

lemma sendPacket_unchanged {transmissionDelay : Nat}
    (h : s.sendPacket c port transmissionDelay = .ok s') : s.Unchanged s' := by
  apply Unchanged.trans _ (scheduleOutputAfter_unchanged h)
  exact .setPort s rfl

lemma enablePfcSending_unchanged [NeZero q] {triggers : Bool}
    (h : s.enablePfcSending c port triggers = .ok s') : s.Unchanged s' := by
  unfold enablePfcSending at h
  split at h
  · exact sendPfc_unchanged h
  · cases h
    exact .refl s

end Router

end Isekai.Fabric

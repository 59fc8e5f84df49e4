import Isekai.Falcon.ReorderEngine

/-!
# Delivery in order and the head of the line

The reorder engine delivers each stream in order as long as the buffered numbers do not lie on both
sides of the wrap. The head of the line is found by counting acknowledgements.
-/

namespace Isekai.Falcon

open Lib TransitionSystem ReorderStream

namespace ReorderEngine

variable {s s' s'' : ReorderEngine} {rsn : BitVec 32} {type : PacketType}

def Typed (s : ReorderEngine) : Prop :=
  ∀ e ∈ s.targetRsnBuffer, ofType e.2.type = none

/-- What a call for the target buffer leaves alone. -/
structure Frame (s s' : ReorderEngine) : Prop where
  queues : s'.queues = s.queues
  ordered : s'.ordered = s.ordered
  network : s'.nextTargetNetworkRsn = s.nextTargetNetworkRsn
  typed : s.Typed → s'.Typed ∧ ∀ stream, s'.callbacksOf stream = s.callbacksOf stream

lemma Frame.refl (s : ReorderEngine) : s.Frame s := ⟨rfl, rfl, rfl, fun h => ⟨h, fun _ => rfl⟩⟩

lemma Frame.trans (h : s.Frame s') (h' : s'.Frame s'') : s.Frame s'' := by
  refine ⟨h'.queues.trans h.queues, h'.ordered.trans h.ordered, h'.network.trans h.network,
    fun htyped => ?_⟩
  obtain ⟨htyped', hcallbacks⟩ := h.typed htyped
  obtain ⟨htyped'', hcallbacks'⟩ := h'.typed htyped'
  exact ⟨htyped'', fun stream => (hcallbacks' stream).trans (hcallbacks stream)⟩

lemma setTargetEntry_frame (s : ReorderEngine) (rsn : BitVec 32) (entry : TargetBufferEntry)
    (hentry : s.Typed → ofType entry.type = none) :
    s.Frame (s.setTargetEntry rsn entry) := by
  refine ⟨rfl, rfl, rfl, fun htyped => ⟨fun e he => ?_, fun _ => rfl⟩⟩
  rcases OrderedMap.mem_insert he with rfl | he
  · exact hentry htyped
  · exact htyped e he

lemma callbacksOf_cons (s : ReorderEngine) (rsn : BitVec 32)
    (htype : ofType type = none) (stream : ReorderStream) :
    (s.reorderCallback rsn type).callbacksOf stream = s.callbacksOf stream := by
  have hne : ¬ ofType type = some stream := by
    rw [htype]
    exact nofun
  unfold callbacksOf reorderCallback
  rw [List.filter_cons_of_neg (by simpa using hne)]

lemma sendToUlpTarget_frame (s : ReorderEngine) (rsn : BitVec 32) :
    Ensures AnyFault s.Frame (s.sendToUlpTarget rsn) := by
  unfold sendToUlpTarget
  cases hlookup : OrderedMap.lookup rsn.toNat s.targetRsnBuffer with
  | none => trivial
  | some entry =>
    have htype : s.Typed → ofType entry.type = none := fun htyped =>
      htyped _ (OrderedMap.mem_of_lookup hlookup)
    have hset := s.setTargetEntry_frame rsn { entry with retryTime := none } htype
    have hcallback : s.Frame ((s.setTargetEntry rsn
      { entry with retryTime := none }).reorderCallback
        rsn entry.type) := by
      refine ⟨rfl, rfl, rfl, fun htyped => ⟨(hset.typed htyped).1, fun stream => ?_⟩⟩
      exact callbacksOf_cons _ rsn (htype htyped) stream
    refine hcallback.trans ?_
    split
    · exact ⟨rfl, rfl, rfl, fun h => ⟨h, fun _ => rfl⟩⟩
    · exact .refl _

lemma scanTargetRsnBuffer_frame (s : ReorderEngine) (l : List Nat) :
    Ensures AnyFault s.Frame (s.scanTargetRsnBuffer l) := by
  induction l generalizing s with
  | nil => exact Frame.refl s
  | cons key rest ih =>
    unfold scanTargetRsnBuffer
    cases OrderedMap.lookup key s.targetRsnBuffer with
    | none => trivial
    | some entry =>
      refine .ite (fun _ => ?_) fun _ => .refl s
      refine (s.sendToUlpTarget_frame s.nextTargetRsn).bind fun s₁ h₁ => ?_
      exact (ih s₁).imp fun s₂ h₂ => h₁.trans h₂

lemma checkTargetRsnBuffer_frame (s : ReorderEngine) :
    Ensures AnyFault s.Frame s.checkTargetRsnBuffer :=
  s.scanTargetRsnBuffer_frame _

lemma insertTargetEntry_frame (s : ReorderEngine) (rsn : BitVec 32)
    (htype : ofType type = none) :
    Ensures AnyFault s.Frame (s.insertTargetEntry rsn type) := by
  unfold insertTargetEntry
  cases OrderedMap.lookup rsn.toNat s.targetRsnBuffer with
  | some _ => trivial
  | none => exact s.setTargetEntry_frame rsn _ fun _ => htype

lemma retryRnrNackedPacket_frame (s : ReorderEngine) (rsn : BitVec 32) :
    Ensures AnyFault (fun out => s.Frame out.1) (s.retryRnrNackedPacket rsn) := by
  unfold retryRnrNackedPacket
  cases hlookup : OrderedMap.lookup rsn.toNat s.targetRsnBuffer with
  | none => trivial
  | some entry =>
    refine .ite (fun _ => trivial) fun _ => .ite (fun _ => .refl s) fun _ => ?_
    refine .ite (fun _ => ?_) fun _ => .ite (fun _ => ?_) fun _ => .refl s
    · exact (s.sendToUlpTarget_frame rsn).bind fun s₁ h₁ => h₁
    · have hset := s.setTargetEntry_frame rsn { entry with retryTime := some s.now }
        fun htyped => htyped _ (OrderedMap.mem_of_lookup hlookup)
      exact (checkTargetRsnBuffer_frame _).bind fun s₁ h₁ => hset.trans h₁

lemma handleRnrNackFromUlp_frame (s : ReorderEngine) (rsn : BitVec 32) (rnrTimeout : Time) :
    s.Frame (s.handleRnrNackFromUlp rsn rnrTimeout) := by
  unfold handleRnrNackFromUlp
  refine Frame.trans ?_ (setTargetEntry_frame (if s.ordered then _ else s) rsn _ fun htyped => ?_)
  · split
    · exact ⟨rfl, rfl, rfl, fun h => ⟨h, fun _ => rfl⟩⟩
    · exact .refl s
  · cases hlookup : OrderedMap.lookup rsn.toNat
        (if s.ordered = true then { s with
          nextTargetRsn := if rsn.toNat < s.nextTargetRsn.toNat then rsn else s.nextTargetRsn
          inRnr := true
          rnrTimeout := rnrTimeout } else s).targetRsnBuffer with
    | none => rfl
    | some entry => exact htyped _ (OrderedMap.mem_of_lookup hlookup)

lemma handleRnrTimeout_frame (s : ReorderEngine) (rsn : BitVec 32) :
    Ensures AnyFault s.Frame (s.handleRnrTimeout rsn) := by
  unfold handleRnrTimeout
  cases OrderedMap.lookup rsn.toNat s.targetRsnBuffer with
  | none => exact Frame.refl s
  | some entry =>
    refine .ite (fun _ => .refl s) fun _ => .ite (fun _ => s.sendToUlpTarget_frame rsn) fun _ => ?_
    exact .ite (fun _ => .refl s) fun _ => s.checkTargetRsnBuffer_frame

lemma insertPacket_cases (hordered : s.ordered = true) (type : PacketType) (rsn ssn : BitVec 32) :
    (∃ stream, ofType type = some stream ∧ s.insertPacket type rsn ssn =
      .ok (s.insertInStream stream (stream.number rsn ssn) rsn type, false)) ∨
    ofType type = none ∧
      Ensures AnyFault (fun out => s.Frame out.1) (s.insertPacket type rsn ssn) := by
  have htarget : ofType type = none → Ensures AnyFault (fun out => s.Frame out.1) (do
      let s ← s.insertTargetEntry rsn type
      if rsn = s.nextTargetRsn then
        let s ← s.sendToUlpTarget rsn
        let s ← s.checkTargetRsnBuffer
        pure (s, false)
      else pure (s, s.inRnr && type != .pullRequest)) := by
    intro htype
    refine (s.insertTargetEntry_frame rsn htype).bind fun s₁ h₁ => .ite (fun _ => ?_) fun _ => h₁
    refine (s₁.sendToUlpTarget_frame rsn).bind fun s₂ h₂ => ?_
    exact s₂.checkTargetRsnBuffer_frame.bind fun s₃ h₃ => (h₁.trans h₂).trans h₃
  have hnot : (!s.ordered) = false := by rw [hordered]; rfl
  unfold insertPacket
  rw [hnot]
  cases type with
  | pullData => exact .inl ⟨_, rfl, rfl⟩
  | ack => exact .inl ⟨_, rfl, rfl⟩
  | nack => exact .inl ⟨_, rfl, rfl⟩
  | pushGrant => exact .inl ⟨_, rfl, rfl⟩
  | pushRequest => exact .inl ⟨_, rfl, rfl⟩
  | pullRequest => exact .inr ⟨rfl, htarget rfl⟩
  | pushSolicitedData => exact .inr ⟨rfl, htarget rfl⟩
  | pushUnsolicitedData => exact .inr ⟨rfl, htarget rfl⟩
  | back => exact .inr ⟨rfl, trivial⟩
  | eack => exact .inr ⟨rfl, trivial⟩
  | resync => exact .inr ⟨rfl, trivial⟩
  | invalid => exact .inr ⟨rfl, trivial⟩

end ReorderEngine

namespace ReorderRun

open ReorderEngine

variable {start : ReorderStream → BitVec 32} {targetRsn : BitVec 32} {r r' : ReorderRun}
  {C : ReorderRun → Label → Prop} {stream : ReorderStream}

/-! ## Streams -/

/-- The stream's queue follows its arrivals. -/
structure StreamInv (start : ReorderStream → BitVec 32) (r : ReorderRun) (stream : ReorderStream) :
    Prop where
  kinds : ∀ a ∈ r.arrived stream, ofType a.2.2 = some stream
  tracks : ∃ n, Resequencer.Tracks (start stream) (r.arrived stream) n (r.engine.queues stream) ∧
    ∃ l : List (Nat × (BitVec 32 × PacketType)), l.map Prod.fst = List.range n ∧
      (∀ a ∈ l, a ∈ r.arrived stream) ∧
      r.engine.callbacksOf stream = l.map Prod.snd

def Orderly (r : ReorderRun) : Label → Prop
  | .insertPacket type rsn ssn _ => ∀ stream ∈ ofType type,
      stream.number rsn ssn = (r.engine.queues stream).next → (r.engine.queues stream).Consistent
  | _ => True

instance (r : ReorderRun) : ∀ l, Decidable (r.Orderly l)
  | .insertPacket type rsn ssn _ => inferInstanceAs (Decidable (∀ stream ∈ ofType type,
      stream.number rsn ssn = (r.engine.queues stream).next → (r.engine.queues stream).Consistent))
  | .retryRnrNackedPacket _ => isTrue trivial
  | .handleRnrNackFromUlp .. => isTrue trivial
  | .handleAckFromUlp _ => isTrue trivial
  | .handleRnrTimeout _ => isTrue trivial
  | .advance _ => isTrue trivial

lemma StreamInv.frame (h : StreamInv start r stream)
    (hqueue : r'.engine.queues stream = r.engine.queues stream)
    (harrived : r'.arrived stream = r.arrived stream)
    (hcallbacks : r'.engine.callbacksOf stream = r.engine.callbacksOf stream) :
    StreamInv start r' stream := by
  obtain ⟨hkinds, htracks⟩ := h
  refine ⟨?_, ?_⟩
  · rw [harrived]
    exact hkinds
  · rw [harrived, hqueue, hcallbacks]
    exact htracks

lemma insertInStream_callbacksOf {engine : ReorderEngine} {number rsn : BitVec 32}
    {type : PacketType} {l : List (BitVec 32 × PacketType)}
    (hl : ((engine.queues stream).insert number (rsn, type)).2.map Prod.snd = l)
    (hkinds : ∀ c ∈ l, ofType c.2 = some stream) (stream' : ReorderStream) :
    (engine.insertInStream stream number rsn type).callbacksOf stream' =
      engine.callbacksOf stream' ++ if stream' = stream then l else [] := by
  unfold callbacksOf insertInStream
  dsimp only
  rw [hl, List.filter_append, List.reverse_append]
  congr 1
  split
  · rename_i heq
    rw [List.filter_eq_self.mpr, List.reverse_reverse]
    intro c hc
    rw [heq, hkinds c (List.mem_reverse.mp hc)]
    exact decide_eq_true rfl
  · rename_i hne
    rw [List.filter_eq_nil_iff.mpr, List.reverse_nil]
    intro c hc
    rw [hkinds c (List.mem_reverse.mp hc)]
    simpa using Ne.symm hne

lemma range_append_range' (n m : Nat) : List.range n ++ List.range' n m = List.range (n + m) := by
  rw [List.range_eq_range', List.range_eq_range']
  have h := List.range'_append_1 (s := 0) (m := n) (n := m)
  rwa [Nat.zero_add] at h

lemma StreamInv.insert {type : PacketType} {rsn ssn : BitVec 32} {position : Nat}
    (h : ∀ stream, StreamInv start r stream) (htype : ofType type = some stream)
    (hallowed : Allowed start r (.insertPacket type rsn ssn position))
    (horderly : r.Orderly (.insertPacket type rsn ssn position)) (stream' : ReorderStream) :
    StreamInv start { r with
      engine := r.engine.insertInStream stream (stream.number rsn ssn) rsn type
      arrived := fun stream =>
        if ofType type = some stream then (position, (rsn, type)) :: r.arrived stream
        else r.arrived stream } stream' := by
  obtain ⟨hnumber, hnew, hahead⟩ := hallowed stream htype
  obtain ⟨n, htracks, l, hl, hmem, hcallbacks⟩ := (h stream).tracks
  have hn : n ≤ position := by
    by_contra hlt
    exact hnew (htracks.below position (Nat.lt_of_not_le hlt))
  have hlt : position < n + 2 ^ 32 := by
    have := hahead n hn htracks.notMem
    omega
  have hkinds : ∀ a ∈ (position, (rsn, type)) :: r.arrived stream,
      ofType a.2.2 = some stream := by
    intro a ha
    rcases List.mem_cons.mp ha with rfl | ha
    · exact htype
    · exact (h stream).kinds a ha
  obtain ⟨out, hout, hrange, hsub, htracks'⟩ := htracks.insert (rsn, type) hn hlt hnew
    fun heq => horderly stream htype (by rw [hnumber, htracks.next, heq])
  rw [← hnumber] at hout htracks'
  have hcallbacks' := insertInStream_callbacksOf hout (fun c hc => by
    obtain ⟨a, ha, rfl⟩ := List.mem_map.mp hc
    exact hkinds a (hsub a ha)) stream'
  by_cases hsame : stream' = stream
  · subst hsame
    rw [if_pos rfl] at hcallbacks'
    refine ⟨?_, n + out.length, ?_, l ++ out, ?_, ?_, ?_⟩
    · dsimp only
      rw [if_pos htype]
      exact hkinds
    · dsimp only [insertInStream]
      rw [if_pos htype, Function.update_self]
      exact htracks'
    · rw [List.map_append, hl, hrange, range_append_range']
    · intro a ha
      dsimp only
      rw [if_pos htype]
      rcases List.mem_append.mp ha with ha | ha
      · exact List.mem_cons_of_mem _ (hmem a ha)
      · exact hsub a ha
    · rw [List.map_append, ← hcallbacks]
      exact hcallbacks'
  · have hne : ¬ ofType type = some stream' := by
      rw [htype]
      exact fun heq => hsame (Option.some.inj heq).symm
    rw [if_neg hsame, List.append_nil] at hcallbacks'
    refine (h stream').frame ?_ (if_neg hne) hcallbacks'
    exact Function.update_of_ne hsame _ _

/-! ## Runs -/

/-- What holds of the engine besides its streams. -/
structure EngineInv (targetRsn : BitVec 32) (r : ReorderRun) : Prop where
  ordered : r.engine.ordered = true
  typed : r.engine.Typed
  network : r.engine.nextTargetNetworkRsn = Serial.shift targetRsn r.acked.length
  nodup : r.acked.Nodup
  count : r.acked.length < 2 ^ 32

/-- What a step does to the engine: a packet is delivered in its stream, the ULP acknowledges, or
the transactions for the target ULP change. -/
lemma EngineInv.next_cases (h : EngineInv targetRsn r) {l : Label} (hnext : r.next l = .ok r') :
    (∃ type rsn ssn position stream, l = .insertPacket type rsn ssn position ∧
      ofType type = some stream ∧ r' = { r with
        engine := r.engine.insertInStream stream (stream.number rsn ssn) rsn type
        arrived := fun stream =>
          if ofType type = some stream then
            (position, (rsn, type)) :: r.arrived stream
          else r.arrived stream }) ∨
    (∃ rsn, l = .handleAckFromUlp rsn ∧
      r' = { r with engine := r.engine.handleAckFromUlp rsn, acked := rsn :: r.acked }) ∨
    r'.arrived = r.arrived ∧ r'.acked = r.acked ∧ r.engine.Frame r'.engine := by
  cases l with
  | insertPacket type rsn ssn position =>
    obtain ⟨out, hout, hr'⟩ := exists_of_bind_eq_ok hnext
    obtain rfl := Except.ok.inj hr'
    rcases insertPacket_cases h.ordered type rsn ssn with ⟨stream, htype, heq⟩ | ⟨htype, hframe⟩
    · rw [heq] at hout
      obtain rfl := Except.ok.inj hout
      exact .inl ⟨type, rsn, ssn, position, stream, rfl, htype, rfl⟩
    · refine .inr (.inr ⟨?_, rfl, hframe.of_ok hout⟩)
      funext stream
      dsimp only
      rw [htype, if_neg nofun]
  | retryRnrNackedPacket rsn =>
    obtain ⟨out, hout, hr'⟩ := exists_of_bind_eq_ok hnext
    obtain rfl := Except.ok.inj hr'
    exact .inr (.inr ⟨rfl, rfl, (r.engine.retryRnrNackedPacket_frame rsn).of_ok hout⟩)
  | handleRnrNackFromUlp rsn rnrTimeout =>
    obtain rfl := Except.ok.inj hnext
    exact .inr (.inr ⟨rfl, rfl, r.engine.handleRnrNackFromUlp_frame rsn rnrTimeout⟩)
  | handleAckFromUlp rsn =>
    obtain rfl := Except.ok.inj hnext
    exact .inr (.inl ⟨rsn, rfl, rfl⟩)
  | handleRnrTimeout rsn =>
    obtain ⟨out, hout, hr'⟩ := exists_of_bind_eq_ok hnext
    obtain rfl := Except.ok.inj hr'
    exact .inr (.inr ⟨rfl, rfl, (r.engine.handleRnrTimeout_frame rsn).of_ok hout⟩)
  | advance time =>
    obtain rfl := Except.ok.inj hnext
    exact .inr (.inr ⟨rfl, rfl, rfl, rfl, rfl, fun htyped => ⟨htyped, fun _ => rfl⟩⟩)

lemma handleAckFromUlp_eq {engine : ReorderEngine} (hordered : engine.ordered = true)
    (rsn : BitVec 32) : engine.handleAckFromUlp rsn = { engine with
      targetRsnBuffer := OrderedMap.erase rsn.toNat engine.targetRsnBuffer
      nextTargetNetworkRsn := engine.nextTargetNetworkRsn + 1
      inRnr := false } := by
  exact if_pos hordered

lemma reachable_engine (h : (runs start targetRsn).Reachable C r) : EngineInv targetRsn r := by
  refine h.invariant_of_ok (I := EngineInv targetRsn) (fun r hr => ?_)
    fun r l r' _ hinv hallowed _ hnext => ?_
  · cases hr
    exact ⟨rfl, nofun, (Serial.shift_zero _).symm, List.nodup_nil, Nat.two_pow_pos 32⟩
  · rcases hinv.next_cases hnext with ⟨type, rsn, ssn, position, stream, rfl, htype, rfl⟩ |
      ⟨rsn, rfl, rfl⟩ | ⟨-, hacked, hframe⟩
    · exact ⟨hinv.ordered, hinv.typed, hinv.network, hinv.nodup, hinv.count⟩
    · rw [handleAckFromUlp_eq hinv.ordered]
      refine ⟨hinv.ordered, fun e he => ?_, ?_, List.nodup_cons.mpr ⟨hallowed.1, hinv.nodup⟩,
        hallowed.2.1⟩
      · exact hinv.typed e (List.mem_of_mem_filter he)
      · dsimp only
        rw [hinv.network, Resequencer.shift_succ]
        rfl
    · obtain ⟨htyped, -⟩ := hframe.typed hinv.typed
      refine ⟨hframe.ordered.trans hinv.ordered, htyped, ?_, ?_, ?_⟩
      · rw [hframe.network, hacked]
        exact hinv.network
      · rw [hacked]
        exact hinv.nodup
      · rw [hacked]
        exact hinv.count

lemma reachable_streams (h : (runs start targetRsn).Reachable Orderly r) (stream : ReorderStream) :
    StreamInv start r stream := by
  refine h.invariant_of_ok (I := fun r => ∀ stream, StreamInv start r stream)
    (fun r hr stream => ?_)
    (fun r l r' hreach hinv hallowed horderly hnext stream => ?_) stream
  · cases hr
    refine ⟨nofun, 0, ⟨(Serial.shift_zero _).symm, nofun, List.not_mem_nil, nofun,
      List.Pairwise.nil, fun b => ?_⟩, [], rfl, nofun, rfl⟩
    exact iff_of_false List.not_mem_nil nofun
  · have hengine := reachable_engine hreach
    rcases hengine.next_cases hnext with ⟨type, rsn, ssn, position, stream', rfl, htype, rfl⟩ |
      ⟨rsn, rfl, rfl⟩ | ⟨harrived, -, hframe⟩
    · exact StreamInv.insert hinv htype hallowed horderly stream
    · rw [handleAckFromUlp_eq hengine.ordered]
      exact (hinv stream).frame rfl rfl rfl
    · exact (hinv stream).frame (congrFun hframe.queues stream) (congrFun harrived stream)
        ((hframe.typed hengine.typed).2 stream)

/-- In every run in which the expected number of a stream only arrives while the buffered numbers
are in order, each stream has delivered, in every state, exactly the packets before the first number
that is missing, each once and in the order of their numbers. -/
theorem reorder_delivers_in_order (h : (runs start targetRsn).Reachable Orderly r)
    (stream : ReorderStream) :
    ∃ n, (∀ p < n, p ∈ (r.arrived stream).map Prod.fst) ∧ n ∉ (r.arrived stream).map Prod.fst ∧
      ∃ l : List (Nat × (BitVec 32 × PacketType)), l.map Prod.fst = List.range n ∧
        (∀ a ∈ l, a ∈ r.arrived stream) ∧ r.engine.callbacksOf stream = l.map Prod.snd := by
  obtain ⟨n, htracks, hdelivered⟩ := (reachable_streams h stream).tracks
  exact ⟨n, htracks.below, htracks.notMem, hdelivered⟩

/-- Numbers after the wrap wait for the last one before it, which comes last. -/
theorem reorder_delivers_in_order_wrapped :
    ∃ r, (runs (fun _ => 0xffffffff) 0).Reachable Orderly r ∧
      r.engine.callbacksOf .initiatorRsn =
        [(0xffffffff, .pullData), (0, .ack), (1, .pullData)] ∧
      ∃ n, (∀ p < n, p ∈ (r.arrived .initiatorRsn).map Prod.fst) ∧
        n ∉ (r.arrived .initiatorRsn).map Prod.fst := by
  obtain ⟨r, hr, hcallbacks⟩ := Reachable.exists_of_run
    (T := runs (fun _ => 0xffffffff) 0) (C := Orderly)
    (s := { engine := .initial (fun _ => 0xffffffff) 0 })
    (P := fun r => r.engine.callbacksOf .initiatorRsn =
      [(0xffffffff, .pullData), (0, .ack), (1, .pullData)])
    [.insertPacket .pullData 1 0 2, .insertPacket .ack 0 0 1,
      .insertPacket .pullData 0xffffffff 0 0]
    rfl (by decide +kernel)
  obtain ⟨n, hbelow, hmissing, -⟩ := reorder_delivers_in_order hr .initiatorRsn
  exact ⟨r, hr, hcallbacks, n, hbelow, hmissing⟩

/-- The first three numbers of a stream have arrived, and only the first one is delivered: the
buffer holds a number before and one after the wrap, and its least key is the latter. -/
theorem reorder_stalls_at_wrap :
    ∃ r, (runs (fun _ => 0xfffffffe) 0).Reachable (fun _ _ => True) r ∧
      (r.arrived .initiatorRsn).map Prod.fst = [0, 1, 2] ∧
      r.engine.callbacksOf .initiatorRsn = [(0xfffffffe, .pullData)] := by
  obtain ⟨r, hr, harrived, hcallbacks⟩ := Reachable.exists_of_run
    (T := runs (fun _ => 0xfffffffe) 0) (C := fun _ _ => True)
    (s := { engine := .initial (fun _ => 0xfffffffe) 0 })
    (P := fun r => (r.arrived .initiatorRsn).map Prod.fst = [0, 1, 2] ∧
      r.engine.callbacksOf .initiatorRsn = [(0xfffffffe, .pullData)])
    [.insertPacket .pullData 0 0 2, .insertPacket .pullData 0xffffffff 0 1,
      .insertPacket .pullData 0xfffffffe 0 0]
    rfl (by decide +kernel)
  exact ⟨r, hr, harrived, hcallbacks⟩

/-! ## The head of the line -/

/-- The RSN comes first among those that the ULP has not acknowledged. -/
def IsSmallestUnacked (targetRsn : BitVec 32) (acked : List (BitVec 32)) (rsn : BitVec 32) : Prop :=
  rsn ∉ acked ∧ ∀ other, other ∉ acked → Serial.dist targetRsn rsn ≤ Serial.dist targetRsn other

lemma lt_length_iff {l : List Nat} (hl : l.Nodup) :
    (∀ i ∈ l, i < l.length) ↔ ∀ i < l.length, i ∈ l := by
  constructor
  · intro h i hi
    have hsub : l.Subperm (List.range l.length) :=
      hl.subperm fun j hj => List.mem_range.mpr (h j hj)
    have hperm := hsub.perm_of_length_le (by rw [List.length_range])
    exact hperm.mem_iff.mpr (List.mem_range.mpr hi)
  · intro h i hi
    have hsub : (List.range l.length).Subperm l :=
      List.nodup_range.subperm fun j hj => h j (List.mem_range.mp hj)
    have hperm := hsub.perm_of_length_le (by rw [List.length_range])
    exact List.mem_range.mp (hperm.mem_iff.mpr hi)

lemma dist_lt_length_iff {acked : List (BitVec 32)} (hnodup : acked.Nodup)
    (hcount : acked.length < 2 ^ 32) :
    (∀ rsn ∈ acked, Serial.dist targetRsn rsn < acked.length) ↔
      ∀ i < acked.length, Serial.shift targetRsn i ∈ acked := by
  have hmem : ∀ i < 2 ^ 32, i ∈ acked.map (Serial.dist targetRsn) ↔
      Serial.shift targetRsn i ∈ acked := by
    intro i hi
    constructor
    · intro hin
      obtain ⟨rsn, hrsn, rfl⟩ := List.mem_map.mp hin
      rwa [Serial.shift_dist]
    · intro hin
      exact List.mem_map.mpr ⟨_, hin, Serial.dist_shift _ hi⟩
  have hdistinct : (acked.map (Serial.dist targetRsn)).Nodup :=
    hnodup.map fun a b heq => Serial.dist_inj heq
  have hall := lt_length_iff hdistinct
  rw [List.length_map, List.forall_mem_map] at hall
  rw [hall]
  exact forall₂_congr fun i hi => hmem i (hi.trans hcount)

lemma isSmallestUnacked_iff {acked : List (BitVec 32)} {n : Nat} {rsn : BitVec 32} (hn : n < 2 ^ 32)
    (hfirst : ∀ i < n, Serial.shift targetRsn i ∈ acked)
    (hnot : Serial.shift targetRsn n ∉ acked) :
    IsSmallestUnacked targetRsn acked rsn ↔ rsn = Serial.shift targetRsn n := by
  have hge : ∀ other, other ∉ acked → n ≤ Serial.dist targetRsn other := by
    intro other hother
    by_contra hlt
    have hin := hfirst _ (Nat.lt_of_not_le hlt)
    rw [Serial.shift_dist] at hin
    exact hother hin
  constructor
  · rintro ⟨hrsn, hmin⟩
    have hle := hmin _ hnot
    rw [Serial.dist_shift _ hn] at hle
    have heq := Nat.le_antisymm hle (hge rsn hrsn)
    rw [← heq, Serial.shift_dist]
  · rintro rfl
    refine ⟨hnot, fun other hother => ?_⟩
    rw [Serial.dist_shift _ hn]
    exact hge other hother

lemma EngineInv.isHeadOfLine_iff (hinv : EngineInv targetRsn r) (rsn : BitVec 32) :
    r.engine.isHeadOfLineNetworkRequest rsn = true ↔
      rsn = Serial.shift targetRsn r.acked.length := by
  unfold isHeadOfLineNetworkRequest
  rw [hinv.ordered, hinv.network]
  simp

/-- The head of the line is the first RSN that is not acknowledged exactly when the RSNs that are
acknowledged are the first ones. -/
theorem head_of_line_iff_acked_in_order
    (h : (runs start targetRsn).Reachable (fun _ _ => True) r) :
    (∀ rsn, r.engine.isHeadOfLineNetworkRequest rsn = true ↔
      IsSmallestUnacked targetRsn r.acked rsn) ↔
    ∀ rsn ∈ r.acked, Serial.dist targetRsn rsn < r.acked.length := by
  have hinv := reachable_engine h
  have hcount := hinv.count
  constructor
  · -- everything before the head of the line is acknowledged
    intro hright
    obtain ⟨-, hmin⟩ := (hright _).mp ((hinv.isHeadOfLine_iff _).mpr rfl)
    rw [dist_lt_length_iff hinv.nodup hcount]
    intro i hi
    by_contra hnot
    have hle := hmin _ hnot
    rw [Serial.dist_shift _ hcount, Serial.dist_shift _ (hi.trans hcount)] at hle
    omega
  · intro hlt rsn
    have hnot : Serial.shift targetRsn r.acked.length ∉ r.acked := by
      intro hin
      have hself := hlt _ hin
      rw [Serial.dist_shift _ hcount] at hself
      exact lt_irrefl _ hself
    have hfirst := (dist_lt_length_iff hinv.nodup hcount).mp hlt
    rw [hinv.isHeadOfLine_iff, isSmallestUnacked_iff hcount hfirst hnot]

/-- The ULP acknowledges the second RSN and then the first one. -/
theorem head_of_line_acked_in_order_both :
    ∃ r, (runs (fun _ => 0) 0xffffffff).Reachable (fun _ _ => True) r ∧
      r.acked = [0xffffffff, 0] ∧
      ∀ rsn, r.engine.isHeadOfLineNetworkRequest rsn = true ↔
        IsSmallestUnacked 0xffffffff r.acked rsn := by
  obtain ⟨r, hr, hacked⟩ := Reachable.exists_of_run
    (T := runs (fun _ => 0) 0xffffffff) (C := fun _ _ => True)
    (s := { engine := .initial (fun _ => 0) 0xffffffff })
    (P := fun r => r.acked = [0xffffffff, 0])
    [.insertPacket .pullRequest 0xffffffff 0 0, .insertPacket .pushUnsolicitedData 0 0 0,
      .handleAckFromUlp 0, .handleAckFromUlp 0xffffffff]
    rfl (by decide +kernel)
  refine ⟨r, hr, hacked, (head_of_line_iff_acked_in_order hr).mpr ?_⟩
  rw [hacked]
  intro rsn hrsn
  rcases List.mem_pair.mp hrsn with rfl | rfl
  · decide
  · decide

/-- The ULP acknowledges the second of two RSNs first. The first one is then the smallest that is
not acknowledged, but the second one is taken for the head of the line. -/
theorem head_of_line_out_of_order_ack :
    ∃ r, (runs (fun _ => 0) 0).Reachable (fun _ _ => True) r ∧ r.acked = [1] ∧
      r.engine.isHeadOfLineNetworkRequest 0 = false ∧
      r.engine.isHeadOfLineNetworkRequest 1 = true ∧ IsSmallestUnacked 0 r.acked 0 := by
  obtain ⟨r, hr, hacked, hfirst, hsecond⟩ := Reachable.exists_of_run
    (T := runs (fun _ => 0) 0) (C := fun _ _ => True)
    (s := { engine := .initial (fun _ => 0) 0 })
    (P := fun r => r.acked = [1] ∧ r.engine.isHeadOfLineNetworkRequest 0 = false ∧
      r.engine.isHeadOfLineNetworkRequest 1 = true)
    [.insertPacket .pullRequest 0 0 0, .insertPacket .pullRequest 1 0 0, .handleAckFromUlp 1]
    rfl (by decide +kernel)
  refine ⟨r, hr, hacked, hfirst, hsecond, ?_, fun other _ => ?_⟩
  · rw [hacked]
    decide
  · rw [Serial.dist_self]
    exact Nat.zero_le _

end ReorderRun

end Isekai.Falcon

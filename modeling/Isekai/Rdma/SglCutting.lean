import Isekai.Rdma.Model

/-!
# Cutting a scatter-gather list into packets

The fragments of the packets fill the segments one after the other. The size of a packet is a 32-bit
sum.
-/

namespace Isekai.Rdma

def sglBytes (sgl : List Word) : Nat := (sgl.map BitVec.toNat).sum

/-- What is left of the segments after the fragments: a fragment is a segment, or the first part of
one.
-/
def consume : List Word → List Word → Option (List Word)
  | [], sgl => some sgl
  | _ :: _, [] => none
  | fragment :: fragments, segment :: sgl =>
    if fragment = segment then consume fragments sgl
    else if fragment < segment then consume fragments ((segment - fragment) :: sgl)
    else none

/-- No segment wraps the size of the packet in which it starts, at this offset. -/
def Fits (mtu : Nat) : Nat → List Word → Prop
  | _, [] => True
  | offset, segment :: sgl =>
    offset + segment.toNat < 2 ^ 32 ∧ Fits mtu ((offset + segment.toNat) % mtu) sgl

def restAfter (mtu : Word) (sgl : List Word) : Nat → List Word
  | 0 => sgl
  | i + 1 => restAfter mtu (cutPacketFromSgl sgl mtu).2 i

def packetAt (mtu : Word) (sgl : List Word) (i : Nat) : List Word :=
  (cutPacketFromSgl (restAfter mtu sgl i) mtu).1

variable {mtu : Word} {sgl : List Word}

/-- The list is cut into the packet and the rest. -/
structure Cuts (mtu offset : Nat) (sgl packet rest : List Word) : Prop where
  consumed : ∀ fragments, consume (packet ++ fragments) sgl = consume fragments rest
  bytes : sglBytes packet + sglBytes rest = sglBytes sgl
  positive : (∀ segment ∈ sgl, segment ≠ 0) → (∀ fragment ∈ packet, fragment ≠ 0) ∧
    ∀ segment ∈ rest, segment ≠ 0
  full : rest = [] ∨ mtu ≤ offset + sglBytes packet
  fits_iff : Fits mtu (offset % mtu) sgl ↔ offset + sglBytes packet ≤ mtu ∧ Fits mtu 0 rest

lemma Cuts.take {segment accumulated : Word} {packet rest rest' : List Word}
    (hlt : accumulated < mtu)
    (h : Cuts mtu.toNat (accumulated + segment).toNat rest packet rest') :
    Cuts mtu.toNat accumulated.toNat (segment :: rest) (segment :: packet) rest' := by
  have hbytes := h.bytes
  have hadd := BitVec.toNat_add accumulated segment
  refine ⟨fun fragments => ?_, ?_, fun hpositive => ?_, h.full.imp_right fun hfull => ?_, ?_⟩
  · rw [List.cons_append, consume, if_pos rfl]
    exact h.consumed fragments
  · simp only [sglBytes, List.map_cons, List.sum_cons] at hbytes ⊢
    omega
  · obtain ⟨hsegment, hrest⟩ := List.forall_mem_cons.mp hpositive
    obtain ⟨hpacket, hrest'⟩ := h.positive hrest
    exact ⟨List.forall_mem_cons.mpr ⟨hsegment, hpacket⟩, hrest'⟩
  · simp only [sglBytes, List.map_cons, List.sum_cons] at hfull ⊢
    omega
  · have hiff := h.fits_iff
    simp only [Fits, sglBytes, List.map_cons, List.sum_cons, Nat.mod_eq_of_lt hlt] at hiff ⊢
    by_cases hwrap : accumulated.toNat + segment.toNat < 2 ^ 32
    · rw [hadd, Nat.mod_eq_of_lt hwrap] at hiff
      rw [hiff, Nat.add_assoc]
      exact ⟨fun h => h.2, fun h => ⟨hwrap, h⟩⟩
    · exact ⟨fun h => absurd h.1 hwrap, fun h => absurd h.1 (by omega)⟩

lemma Cuts.split {segment accumulated : Word} (rest : List Word) (hlt : accumulated < mtu)
    (hsum : mtu < accumulated + segment) :
    Cuts mtu.toNat accumulated.toNat (segment :: rest) [mtu - accumulated]
      ((segment - (mtu - accumulated)) :: rest) := by
  have hadd := BitVec.toNat_add accumulated segment
  rw [BitVec.lt_def] at hlt hsum
  have hdelta : (mtu - accumulated).toNat = mtu.toNat - accumulated.toNat :=
    BitVec.toNat_sub_of_le (BitVec.le_def.mpr (Nat.le_of_lt hlt))
  have hsmall : mtu - accumulated < segment := by
    rw [BitVec.lt_def, hdelta]
    omega
  have hrest : (segment - (mtu - accumulated)).toNat =
      segment.toNat - (mtu.toNat - accumulated.toNat) := by
    rw [BitVec.toNat_sub_of_le (BitVec.le_of_lt hsmall), hdelta]
  rw [BitVec.lt_def, hdelta] at hsmall
  have hne : ∀ x : Word, 0 < x.toNat → x ≠ 0 := by
    rintro x hx rfl
    exact absurd hx (by decide)
  refine ⟨fun fragments => ?_, ?_, fun hpositive => ⟨?_, ?_⟩, .inr ?_, ?_⟩
  · rw [List.singleton_append, consume, if_neg, if_pos (by rw [BitVec.lt_def]; omega)]
    intro heq
    rw [← heq] at hsmall
    omega
  · simp only [sglBytes, List.map_cons, List.sum_cons, List.map_nil, List.sum_nil]
    omega
  · exact List.forall_mem_singleton.mpr (hne _ (by omega))
  · exact List.forall_mem_cons.mpr ⟨hne _ (by omega), (List.forall_mem_cons.mp hpositive).2⟩
  · simp only [sglBytes, List.map_cons, List.map_nil, List.sum_cons, List.sum_nil]
    omega
  · simp only [Fits, sglBytes, List.map_cons, List.sum_cons, List.map_nil, List.sum_nil,
      Nat.mod_eq_of_lt hlt, hdelta, hrest]
    have hmod : (0 + (segment.toNat - (mtu.toNat - accumulated.toNat))) % mtu.toNat =
        (accumulated.toNat + segment.toNat) % mtu.toNat := by
      rw [Nat.mod_eq_sub_mod (a := accumulated.toNat + segment.toNat) (by omega)]
      congr 1
      omega
    rw [hmod]
    exact ⟨fun h => ⟨by omega, by omega, h.2⟩, fun h => ⟨by omega, h.2.2⟩⟩

lemma cutPacketLoop_cuts {accumulated : Word} (hle : accumulated ≤ mtu) :
    Cuts mtu.toNat accumulated.toNat sgl (cutPacketLoop mtu accumulated sgl).1
      (cutPacketLoop mtu accumulated sgl).2 := by
  induction sgl generalizing accumulated with
  | nil =>
    refine ⟨fun _ => rfl, rfl, fun h => ⟨nofun, h⟩, .inl rfl, ?_⟩
    simpa [Fits, cutPacketLoop, sglBytes] using BitVec.le_def.mp hle
  | cons segment rest ih =>
    unfold cutPacketLoop
    split
    · rename_i hlt
      split
      · exact Cuts.take hlt (ih ‹_›)
      · exact Cuts.split rest hlt (BitVec.not_le.mp ‹_›)
    · rename_i hge
      have heq : accumulated = mtu := BitVec.le_antisymm hle (BitVec.not_lt.mp hge)
      subst heq
      refine ⟨fun _ => rfl, Nat.zero_add _, fun h => ⟨nofun, h⟩, .inr (Nat.le_add_right ..), ?_⟩
      rw [Nat.mod_self]
      exact ⟨fun h => ⟨Nat.le_refl _, h⟩, fun h => h.2⟩

lemma cutPacketFromSgl_cuts (mtu : Word) (sgl : List Word) : Cuts mtu.toNat 0 sgl
    (cutPacketFromSgl sgl mtu).1 (cutPacketFromSgl sgl mtu).2 := by
  have hle : (0 : Word) ≤ mtu := BitVec.le_def.mpr (Nat.zero_le _)
  exact cutPacketLoop_cuts hle

lemma consume_packets (mtu : Word) (sgl : List Word) (i : Nat) :
    consume ((List.range i).flatMap (packetAt mtu sgl)) sgl = some (restAfter mtu sgl i) := by
  induction i generalizing sgl with
  | zero => rfl
  | succ i ih =>
    rw [List.range_succ_eq_map, List.flatMap_cons, List.flatMap_map]
    exact ((cutPacketFromSgl_cuts mtu sgl).consumed _).trans (ih _)

lemma restAfter_succ (mtu : Word) (sgl : List Word) (i : Nat) :
    restAfter mtu sgl (i + 1) = (cutPacketFromSgl (restAfter mtu sgl i) mtu).2 := by
  induction i generalizing sgl with
  | zero => rfl
  | succ i ih => exact ih _

lemma restAfter_positive (h : ∀ segment ∈ sgl, segment ≠ 0) (i : Nat) :
    ∀ segment ∈ restAfter mtu sgl i, segment ≠ 0 := by
  induction i generalizing sgl with
  | zero => exact h
  | succ i ih => exact ih ((cutPacketFromSgl_cuts mtu sgl).positive h).2

lemma sglBytes_eq_zero_iff (h : ∀ segment ∈ sgl, segment ≠ 0) : sglBytes sgl = 0 ↔ sgl = [] := by
  cases sgl with
  | nil => exact ⟨fun _ => rfl, fun _ => rfl⟩
  | cons segment rest =>
    have hne : segment.toNat ≠ 0 := fun heq => h segment List.mem_cons_self
      (BitVec.eq_of_toNat_eq heq)
    simp [sglBytes, hne]

lemma cut_of_fits (hpositive : ∀ segment ∈ sgl, segment ≠ 0) (h : Fits mtu.toNat 0 sgl) :
    sglBytes (cutPacketFromSgl sgl mtu).1 = min mtu.toNat (sglBytes sgl) ∧
      sglBytes (cutPacketFromSgl sgl mtu).2 = sglBytes sgl - mtu.toNat ∧
      Fits mtu.toNat 0 (cutPacketFromSgl sgl mtu).2 := by
  have hcuts := cutPacketFromSgl_cuts mtu sgl
  obtain ⟨hle, hfits⟩ := hcuts.fits_iff.mp (by rwa [Nat.zero_mod])
  have hbytes := hcuts.bytes
  have hfull := hcuts.full
  rw [← sglBytes_eq_zero_iff (hcuts.positive hpositive).2] at hfull
  exact ⟨by omega, by omega, hfits⟩

lemma sglBytes_of_fits (hpositive : ∀ segment ∈ sgl, segment ≠ 0) (h : Fits mtu.toNat 0 sgl)
    (i : Nat) :
    sglBytes (restAfter mtu sgl i) = sglBytes sgl - i * mtu.toNat ∧
      sglBytes (packetAt mtu sgl i) = min mtu.toNat (sglBytes sgl - i * mtu.toNat) := by
  induction i generalizing sgl with
  | zero => simpa [restAfter, packetAt] using (cut_of_fits hpositive h).1
  | succ i ih =>
    obtain ⟨-, hrest, hfits⟩ := cut_of_fits hpositive h
    have hstep := ih ((cutPacketFromSgl_cuts mtu sgl).positive hpositive).2 hfits
    rw [hrest, Nat.sub_sub, Nat.add_comm mtu.toNat, ← Nat.succ_mul] at hstep
    exact hstep

lemma fits_of_sizes {k : Nat} (hrest : restAfter mtu sgl k = [])
    (hsizes : ∀ i, sglBytes (packetAt mtu sgl i) ≤ mtu.toNat) : Fits mtu.toNat 0 sgl := by
  induction k generalizing sgl with
  | zero =>
    rw [show sgl = [] from hrest]
    trivial
  | succ k ih =>
    have hfits := (cutPacketFromSgl_cuts mtu sgl).fits_iff
    rw [Nat.zero_mod, Nat.zero_add] at hfits
    exact hfits.mpr ⟨hsizes 0, ih hrest fun i => hsizes (i + 1)⟩

/-- The fragments have no zero length, and fill the segments of the list. The number and the sizes
of the packets are as expected exactly if no segment wraps the size of its first packet. A receiver
with the same list accepts every packet in turn and no other, and its receive is complete with the
last one. -/
theorem sgl_cutting (hmtu : 1 ≤ mtu.toNat) (hpositive : ∀ segment ∈ sgl, segment ≠ 0) :
    (∀ i, consume ((List.range i).flatMap (packetAt mtu sgl)) sgl = some (restAfter mtu sgl i) ∧
      ∀ fragment ∈ packetAt mtu sgl i, fragment ≠ 0) ∧
    (((∀ i, restAfter mtu sgl i = [] ↔ (sglBytes sgl + mtu.toNat - 1) / mtu.toNat ≤ i) ∧
      ∀ i, sglBytes (packetAt mtu sgl i) = min mtu.toNat (sglBytes sgl - i * mtu.toNat)) ↔
      Fits mtu.toNat 0 sgl) ∧
    ∀ (c : RdmaConfig) (ctx : QpContext) (packet : Packet) (id : OpId) (op : RdmaOp) queue i,
      c.mtu = mtu → ctx.receiveQueue = (id, { op with sgl := restAfter mtu sgl i }) :: queue →
      packet.inlinePayloadLength = 0 → ctx.matchRecv c packet =
        if packet.sgl ≠ packetAt mtu sgl i then none
        else if restAfter mtu sgl (i + 1) =
          [] then some ({ ctx with receiveQueue := queue }, some id)
        else some ({ ctx with
          receiveQueue := (id, { op with sgl := restAfter mtu sgl (i + 1) }) :: queue }, none) := by
  have hcount : ∀ i, sglBytes sgl - i * mtu.toNat = 0 ↔
      (sglBytes sgl + mtu.toNat - 1) / mtu.toNat ≤ i := by
    intro i
    rw [Nat.div_le_iff_le_mul_add_pred hmtu, Nat.mul_comm]
    omega
  refine ⟨fun i => ⟨consume_packets mtu sgl i, ?_⟩, ⟨fun ⟨hrest, hsizes⟩ => ?_, fun h =>
    ⟨fun i => ?_,
    fun i => (sglBytes_of_fits hpositive h i).2⟩⟩, ?_⟩
  · exact ((cutPacketFromSgl_cuts mtu _).positive (restAfter_positive hpositive i)).1
  · refine fits_of_sizes ((hrest _).mpr (Nat.le_refl _)) fun i => ?_
    rw [hsizes]
    exact Nat.min_le_left ..
  · rw [← sglBytes_eq_zero_iff (restAfter_positive hpositive i), (sglBytes_of_fits hpositive h i).1,
      hcount]
  · rintro c ctx packet id op queue i rfl hqueue hinline
    rw [restAfter_succ, QpContext.matchRecv, hqueue, hinline]
    rfl

/-- Three segments are cut into packets of ten bytes. -/
theorem sgl_cutting_three : Fits 10 0 [4, 13, 6] ∧ restAfter 10 [4, 13, 6] 3 = [] := by
  have hfits : Fits 10 0 [4, 13, 6] := by simp [Fits]
  have hcut := (@sgl_cutting 10 [4, 13, 6] (by decide) (by simp)).2.1.mpr hfits
  exact ⟨hfits, (hcut.1 3).mpr (by decide)⟩

/-- The size wraps to four bytes, so that both segments go into a packet of ten. -/
theorem longSegment_wraps : packetAt 10 [5, 4294967295] 0 = [5, 4294967295] ∧
    sglBytes (packetAt 10 [5, 4294967295] 0) = 4294967300 := by
  decide

end Isekai.Rdma

import Isekai.Lib.Outcome

/-!
# The IPv6 prefix table

`IPTable` of `common/ipv6_trie.h` keeps one trie node per address bit. The walk reads the address
as two 64-bit words, the high one first.
-/

namespace Isekai.Fabric

open Lib Function

variable {T : Type}

structure IPRange where
  address : BitVec 128
  mask : BitVec 128

/-- A node or a null pointer; `child false` is `left` and `child true` is `right`. -/
inductive TrieNode (T : Type)
  | null
  | node (child : Bool → TrieNode T) (data : Option T)

/-- The trie and the number of its entries. -/
structure IPTable (T : Type) where
  head : TrieNode T := .node (fun _ => .null) none
  size : BitVec 32 := 0

def highBit : BitVec 64 := 0x8000000000000000

def uint128High64 (a : BitVec 128) : BitVec 64 := a.extractLsb' 64 64

def uint128Low64 (a : BitVec 128) : BitVec 64 := a.extractLsb' 0 64

/-- The loop variables of a walk down the trie. -/
structure Cursor where
  bit : BitVec 64
  addr : BitVec 64
  mask : BitVec 64
  count : BitVec 32

namespace IPRange

def start (range : IPRange) : Cursor :=
  ⟨highBit, uint128High64 range.address, uint128High64 range.mask, 0⟩

/-- The end of a loop body of `insert`; `none` where both words have been read. -/
def advance (range : IPRange) (c : Cursor) : Option Cursor :=
  if c.bit >>> 1 = 0 then
    if c.count + 1 = 2 then none
    else some ⟨highBit, uint128Low64 range.address, uint128Low64 range.mask, c.count + 1⟩
  else some { c with bit := c.bit >>> 1 }

def walk (range : IPRange) : ℕ → Option Cursor → List Bool
  | 0, _ | _, none => []
  | rounds + 1, some c =>
    if c.bit &&& c.mask = 0 then []
    else decide (c.bit &&& c.addr ≠ 0) :: range.walk rounds (range.advance c)

end IPRange

namespace TrieNode

/-- The second loop of `insert`: the nodes it creates below the last one that exists. -/
def grow (value : T) : List Bool → TrieNode T
  | [] => .node (fun _ => .null) (some value)
  | b :: path => .node (update (fun _ => .null) b (grow value path)) none

/-- The first loop of `insert`, down to the node of the prefix or to a missing child. -/
def insertAt (value : T) : TrieNode T → List Bool → Except String (TrieNode T)
  | .null, path => .ok (grow value path)
  | .node child data, [] =>
    if data.isSome then .error "Can not overwrite the data in Trie."
    else .ok (.node child (some value))
  | .node child data, b :: path =>
    ((child b).insertAt value path).map fun t => .node (update child b t) data

def findLoop (address : BitVec 128) : TrieNode T → BitVec 64 → BitVec 64 → Option T → Option T
  | .null, _, _, ptr => ptr
  | .node child data, bit, addr, ptr =>
    let next := if bit >>> 1 = 0 then (highBit, uint128Low64 address) else (bit >>> 1, addr)
    (child (decide (addr &&& bit ≠ 0))).findLoop address next.1 next.2 (data.or ptr)

end TrieNode

namespace IPTable

def insert (table : IPTable T) (range : IPRange) (value : T) (_overwrite : Bool) :
    IPTable T × Except String Unit :=
  match table.head.insertAt value (range.walk 128 (some range.start)) with
  | .ok head => (⟨head, table.size + 1⟩, .ok ())
  | .error message => (table, .error message)

def findLongest (table : IPTable T) (address : BitVec 128) : Except String T :=
  match table.head.findLoop address highBit (uint128High64 address) none with
  | some value => .ok value
  | none => .error "Fail to find a match for the given address."

end IPTable

/-! ### The bits that the walk reads -/

def bitAt (i : ℕ) : BitVec 64 := .twoPow 64 (63 - i % 64)

def wordAt (a : BitVec 128) (i : ℕ) : BitVec 64 :=
  if i < 64 then uint128High64 a else uint128Low64 a

def digit (a : BitVec 128) (i : ℕ) : Bool := (wordAt a i).getLsbD (63 - i % 64)

def digits (a : BitVec 128) (i n : ℕ) : List Bool := (List.range' i n).map (digit a)

lemma digits_succ (a : BitVec 128) (i n : ℕ) :
    digits a i (n + 1) = digit a i :: digits a (i + 1) n := rfl

@[simp] lemma length_digits (a : BitVec 128) (i n : ℕ) : (digits a i n).length = n := by
  simp [digits]

lemma digit_eq_getMsbD {a : BitVec 128} {i : ℕ} (hi : i < 128) : digit a i = a.getMsbD i := by
  by_cases h : i < 64
  · have hbit : 64 + (63 - i % 64) = 127 - i := by omega
    simp [digit, wordAt, h, uint128High64, BitVec.getMsbD_eq_getLsbD, hi, hbit]
    omega
  · have hbit : 63 - i % 64 = 127 - i := by omega
    simp [digit, wordAt, h, uint128Low64, BitVec.getMsbD_eq_getLsbD, hi, hbit]
    omega

lemma bitAt_ne_zero (i : ℕ) : bitAt i ≠ 0 := by
  have hbit : ∀ k : Fin 64, BitVec.twoPow 64 (63 - k.val) ≠ 0 := by decide
  exact hbit ⟨i % 64, Nat.mod_lt _ (by decide)⟩

lemma bitAt_and_eq_zero_iff (a : BitVec 128) (i : ℕ) :
    bitAt i &&& wordAt a i = 0 ↔ digit a i = false := by
  have hne := bitAt_ne_zero i
  rw [bitAt] at hne ⊢
  rw [BitVec.twoPow_and, ← digit]
  cases digit a i <;> simp_all

lemma bitAt_shift (i : ℕ) : bitAt i >>> 1 = if i % 64 = 63 then 0 else bitAt (i + 1) := by
  have hshift : ∀ k : Fin 64, BitVec.twoPow 64 (63 - k.val) >>> 1 =
      if k.val = 63 then 0 else BitVec.twoPow 64 (63 - (k.val + 1)) := by decide
  have h := hshift ⟨i % 64, Nat.mod_lt _ (by decide)⟩
  rw [bitAt, bitAt, h]
  by_cases hi : i % 64 = 63
  · simp [hi]
  · rw [if_neg hi, if_neg hi, show (i + 1) % 64 = i % 64 + 1 by omega]

/-- The arguments of a call of `Insert`. -/
structure Insertion (T : Type) where
  address : BitVec 128
  length : Fin 129
  value : T
  overwrite : Bool

namespace Insertion

variable (e : Insertion T)

def range : IPRange := ⟨e.address, BitVec.allOnes 128 <<< (128 - e.length.val)⟩

def Contains (address : BitVec 128) : Prop :=
  address &&& e.range.mask = e.address &&& e.range.mask

def SamePrefix (e' : Insertion T) : Prop := e.length = e'.length ∧ e.Contains e'.address

/-- Among `present`, `e` is the longest prefix that contains the address. -/
def IsLongest (present : List (Insertion T)) (address : BitVec 128) : Prop :=
  e ∈ present ∧ e.Contains address ∧ ∀ x ∈ present, x.Contains address → x.length ≤ e.length

def path : List Bool := digits e.address 0 e.length

lemma getMsbD_mask (i : ℕ) : e.range.mask.getMsbD i = decide (i < e.length.val) := by
  have := e.length.isLt
  rw [range, BitVec.getMsbD_shiftLeft, BitVec.getMsbD_allOnes]
  exact decide_eq_decide.mpr (by omega)

variable {e}

lemma contains_iff {address : BitVec 128} :
    e.Contains address ↔ digits address 0 e.length = e.path := by
  have hlen := e.length.isLt
  rw [path, digits, digits, List.map_inj_left]
  refine ⟨fun h i hi => ?_, fun h => BitVec.eq_of_getMsbD_eq fun i hi => ?_⟩
  · have hi' : i < e.length.val := by simpa using hi
    have hbit := congrArg (BitVec.getMsbD · i) h
    rw [digit_eq_getMsbD (by omega), digit_eq_getMsbD (by omega)]
    simpa [e.getMsbD_mask, hi'] using hbit
  · rw [BitVec.getMsbD_and, BitVec.getMsbD_and, e.getMsbD_mask i]
    by_cases hi' : i < e.length.val
    · rw [← digit_eq_getMsbD hi, ← digit_eq_getMsbD hi, h i (by simpa using hi')]
    · simp [hi']

lemma samePrefix_iff {e' : Insertion T} : e.SamePrefix e' ↔ e.path = e'.path := by
  rw [SamePrefix, contains_iff]
  constructor
  · rintro ⟨hlen, h⟩
    rw [← h, path, hlen]
  · intro h
    have hlen : e.length = e'.length := by
      simpa [path, Fin.val_inj] using congrArg List.length h
    exact ⟨hlen, by rw [hlen, h, path]⟩

variable (e)

def cursorAt (i : ℕ) : Option Cursor :=
  if i < 128 then some ⟨bitAt i, wordAt e.address i, wordAt e.range.mask i, .ofNat 32 (i / 64)⟩
  else none

lemma advance_cursorAt {i : ℕ} (hi : i < 128) :
    e.range.advance ⟨bitAt i, wordAt e.address i, wordAt e.range.mask i, .ofNat 32 (i / 64)⟩ =
      e.cursorAt (i + 1) := by
  rw [IPRange.advance, bitAt_shift]
  by_cases hlast : i % 64 = 63
  · obtain rfl | rfl : i = 63 ∨ i = 127 := by omega
    all_goals rfl
  · rw [if_neg hlast, if_neg (bitAt_ne_zero _), cursorAt, if_pos (by omega)]
    simp only [wordAt, show i + 1 < 64 ↔ i < 64 by omega, show (i + 1) / 64 = i / 64 by omega]

lemma walk_cursorAt (rounds : ℕ) : ∀ i, i + rounds = 128 → i ≤ e.length.val →
    e.range.walk rounds (e.cursorAt i) = digits e.address i (e.length - i) := by
  have hlen := e.length.isLt
  induction rounds with
  | zero =>
    intro i hi hle
    rw [show e.length.val - i = 0 by omega]
    rfl
  | succ rounds ih =>
    intro i hi hle
    have hmask : digit e.range.mask i = decide (i < e.length.val) :=
      (digit_eq_getMsbD (by omega)).trans (e.getMsbD_mask i)
    rw [cursorAt, if_pos (by omega), IPRange.walk, e.advance_cursorAt (by omega)]
    simp only [ne_eq, bitAt_and_eq_zero_iff, hmask, decide_eq_false_iff_not]
    by_cases h : i < e.length.val
    · rw [if_neg (not_not.mpr h), ih (i + 1) (by omega) h,
        show e.length.val - i = e.length.val - (i + 1) + 1 by omega, digits_succ]
      simp
    · rw [if_pos h, show e.length.val - i = 0 by omega]
      rfl

end Insertion

/-! ### The trie as a map from digit strings -/

namespace TrieNode

def lookup : TrieNode T → List Bool → Option T
  | .null, _ => none
  | .node _ data, [] => data
  | .node child _, b :: path => (child b).lookup path

lemma lookup_update (child : Bool → TrieNode T) {data : Option T} {b : Bool} {t : TrieNode T}
    {p path : List Bool} {v : T}
    (ht : ∀ path, t.lookup path = if path = p then some v else (child b).lookup path) :
    (node (update child b t) data).lookup path =
      if path = b :: p then some v else (node child data).lookup path := by
  rcases path with _ | ⟨c, path⟩
  · simp [lookup]
  · by_cases hc : c = b
    · simp [lookup, hc, ht]
    · simp [lookup, hc]

lemma grow_lookup (value : T) (p path : List Bool) :
    (grow value p).lookup path = if path = p then some value else none := by
  induction p generalizing path with
  | nil => cases path <;> simp [grow, lookup]
  | cons b p ih =>
    refine (lookup_update (fun _ => .null) ih).trans ?_
    cases path <;> rfl

lemma insertAt_spec (value : T) (t : TrieNode T) (p : List Bool) :
    Ensures (fun message => message = "Can not overwrite the data in Trie." ∧ t.lookup p ≠ none)
      (fun t' => t.lookup p = none ∧
        ∀ path, t'.lookup path = if path = p then some value else t.lookup path)
      (t.insertAt value p) := by
  induction t generalizing p with
  | null => exact ⟨rfl, grow_lookup value p⟩
  | node child data ih =>
    cases p with
    | nil =>
      cases data with
      | some v => simp [insertAt, Ensures, lookup]
      | none =>
        refine ⟨rfl, fun path => ?_⟩
        cases path <;> simp [lookup]
    | cons b p =>
      rw [insertAt]
      cases hres : (child b).insertAt value p with
      | error message => exact (ih b p).of_error hres
      | ok t' =>
        have ht := (ih b p).of_ok hres
        exact ⟨ht.1, fun path => lookup_update child ht.2⟩

lemma findLoop_node (address : BitVec 128) (child : Bool → TrieNode T) (data ptr : Option T)
    (i : ℕ) : (node child data).findLoop address (bitAt i) (wordAt address i) ptr =
      (child (digit address i)).findLoop address (bitAt (i + 1)) (wordAt address (i + 1))
        (data.or ptr) := by
  have hnext : (if bitAt i >>> 1 = 0 then (highBit, uint128Low64 address)
      else (bitAt i >>> 1, wordAt address i)) = (bitAt (i + 1), wordAt address (i + 1)) := by
    rw [bitAt_shift]
    by_cases hlast : i % 64 = 63
    · have hbit : bitAt (i + 1) = highBit := by rw [bitAt, show (i + 1) % 64 = 0 by omega]; rfl
      have hlow : ¬i + 1 < 64 := by omega
      simp [hlast, hbit, wordAt, hlow]
    · rw [if_neg hlast, if_neg (bitAt_ne_zero _)]
      simp only [wordAt, show i + 1 < 64 ↔ i < 64 by omega]
  simp only [findLoop, hnext, BitVec.and_comm (wordAt address i), ne_eq, bitAt_and_eq_zero_iff]
  simp

/-- The data of the deepest node on the address's path below position `i`, or `ptr` where no node
of the path has any. -/
def Deepest (address : BitVec 128) (i : ℕ) (t : TrieNode T) (ptr result : Option T) : Prop :=
  (∃ k v, t.lookup (digits address i k) = some v ∧
    (∀ j > k, t.lookup (digits address i j) = none) ∧ result = some v) ∨
  ((∀ k, t.lookup (digits address i k) = none) ∧ result = ptr)

lemma findLoop_deepest (address : BitVec 128) (t : TrieNode T) : ∀ i ptr,
    Deepest address i t ptr (t.findLoop address (bitAt i) (wordAt address i) ptr) := by
  induction t with
  | null => exact fun i ptr => .inr ⟨fun _ => rfl, rfl⟩
  | node child data ih =>
    intro i ptr
    rw [findLoop_node]
    obtain ⟨k, v, hk, hdeep, hresult⟩ | ⟨hnone, hresult⟩ :=
      ih (digit address i) (i + 1) (data.or ptr)
    · refine .inl ⟨k + 1, v, hk, fun j hj => ?_, hresult⟩
      obtain ⟨j, rfl⟩ : ∃ m, j = m + 1 := ⟨j - 1, by omega⟩
      exact hdeep j (by omega)
    · have hbelow : ∀ j > 0, (node child data).lookup (digits address i j) = none := by
        intro j hj
        obtain ⟨j, rfl⟩ : ∃ m, j = m + 1 := ⟨j - 1, by omega⟩
        exact hnone j
      cases data with
      | some v => exact .inl ⟨0, v, rfl, hbelow, hresult⟩
      | none =>
        refine .inr ⟨fun k => ?_, hresult⟩
        obtain rfl | hk := Nat.eq_zero_or_pos k
        · rfl
        · exact hbelow k hk

end TrieNode

/-! ### Sequences of inserts -/

namespace IPTable

variable {table : IPTable T} {present : List (Insertion T)}

def add (table : IPTable T) (e : Insertion T) : IPTable T × Except String Unit :=
  table.insert e.range e.value e.overwrite

/-- The table after a sequence of inserts, with the accepted ones. -/
def insertAll (inserts : List (Insertion T)) : IPTable T × List (Insertion T) :=
  inserts.foldl (fun s e =>
    match s.1.add e with
    | (table, .ok _) => (table, s.2 ++ [e])
    | (table, .error _) => (table, s.2)) ({}, [])

/-- The trie maps the prefixes of `present` to their values and holds nothing else. -/
def Holds (table : IPTable T) (present : List (Insertion T)) : Prop :=
  ∀ path v, table.head.lookup path = some v ↔ ∃ e ∈ present, e.path = path ∧ e.value = v

namespace Holds

lemma lookup_eq_none_iff (h : table.Holds present) {path : List Bool} :
    table.head.lookup path = none ↔ ∀ e ∈ present, e.path ≠ path := by
  rw [Option.eq_none_iff_forall_ne_some]
  simp only [ne_eq, h path]
  exact ⟨fun hnone e he hpath => hnone _ ⟨e, he, hpath, rfl⟩,
    fun hnone v ⟨e, he, hpath, _⟩ => hnone e he hpath⟩

lemma add (h : table.Holds present) (e : Insertion T) :
    ((∃ x ∈ present, x.SamePrefix e) ∧
      table.add e = (table, .error "Can not overwrite the data in Trie.")) ∨
    ((∀ x ∈ present, ¬x.SamePrefix e) ∧
      ∃ table', table.add e = (table', .ok ()) ∧ table'.Holds (present ++ [e])) := by
  have hspec := TrieNode.insertAt_spec e.value table.head e.path
  have hwalk : e.range.walk 128 (some e.range.start) = e.path :=
    e.walk_cursorAt 128 0 rfl (Nat.zero_le _)
  rw [ne_eq, h.lookup_eq_none_iff] at hspec
  simp only [Insertion.samePrefix_iff, IPTable.add, IPTable.insert, hwalk]
  cases hres : table.head.insertAt e.value e.path with
  | error message =>
    obtain ⟨rfl, hfound⟩ := hspec.of_error hres
    exact .inl ⟨by simpa using hfound, rfl⟩
  | ok head =>
    obtain ⟨hnone, hlookup⟩ := hspec.of_ok hres
    refine .inr ⟨hnone, _, rfl, fun path v => ?_⟩
    rw [hlookup]
    by_cases hp : path = e.path
    · have hnone' : ¬∃ x ∈ present, x.path = e.path ∧ x.value = v :=
        fun ⟨x, hx, hpath, _⟩ => hnone x hx hpath
      simp [hp, or_and_right, exists_or, hnone']
    · rw [if_neg hp, h path v]
      simp [or_and_right, exists_or, Ne.symm hp]

lemma findLongest (h : table.Holds present) (address : BitVec 128) :
    Ensures (fun _ => ∀ x ∈ present, ¬x.Contains address)
      (fun v => ∃ x : Insertion T, x.IsLongest present address ∧ x.value = v)
      (table.findLongest address) := by
  have habsent : ∀ k, table.head.lookup (digits address 0 k) = none → ∀ x ∈ present,
      x.length.val = k → ¬x.Contains address := by
    intro k hk x hx hlen hc
    exact h.lookup_eq_none_iff.mp hk x hx (hlen ▸ (Insertion.contains_iff.mp hc).symm)
  rw [IPTable.findLongest]
  have hdeepest : TrieNode.Deepest address 0 table.head none (table.head.findLoop address highBit
      (uint128High64 address) none) := TrieNode.findLoop_deepest address table.head 0 none
  generalize table.head.findLoop address _ _ none = result at hdeepest ⊢
  obtain ⟨k, v, hk, hdeep, rfl⟩ | ⟨hnone, rfl⟩ := hdeepest
  · obtain ⟨x, hx, hpath, hv⟩ := (h _ _).mp hk
    have hlen : x.length.val = k := by
      simpa [Insertion.path] using congrArg List.length hpath
    refine ⟨x, ⟨hx, Insertion.contains_iff.mpr (by rw [hlen, hpath]), ?_⟩, hv⟩
    intro y hy hc
    by_contra hlt
    exact habsent y.length (hdeep _ (by omega)) y hy rfl hc
  · exact fun x hx => habsent _ (hnone _) x hx rfl

lemma insertAll (inserts : List (Insertion T)) :
    (insertAll inserts).1.Holds (IPTable.insertAll inserts).2 := by
  refine List.foldlRecOn inserts _ (motive := fun s : IPTable T × _ => s.1.Holds s.2) ?_ ?_
  · intro path v
    cases path <;> simp [TrieNode.lookup]
  · rintro ⟨table, present⟩ h e -
    obtain ⟨-, hadd⟩ | ⟨-, table', hadd, h'⟩ := h.add e
    · simpa only [hadd] using h
    · simpa only [hadd] using h'

end Holds

theorem longest_prefix_match (inserts : List (Insertion T)) :
    let table := (insertAll inserts).1
    let present := (insertAll inserts).2
    (∀ e, ((∃ x ∈ present, x.SamePrefix e) →
        table.add e = (table, .error "Can not overwrite the data in Trie.")) ∧
      ((∀ x ∈ present, ¬x.SamePrefix e) → (table.add e).2 = .ok ())) ∧
    ∀ address, Ensures (fun _ => ∀ x ∈ present, ¬x.Contains address)
      (fun v => ∃ x : Insertion T, x.IsLongest present address ∧ x.value = v)
      (table.findLongest address) := by
  have h := Holds.insertAll inserts
  refine ⟨fun e => ?_, h.findLongest⟩
  obtain ⟨⟨x, hx, hsame⟩, hadd⟩ | ⟨hnew, _, hadd, -⟩ := h.add e
  · exact ⟨fun _ => hadd, fun hnew => absurd hsame (hnew x hx)⟩
  · exact ⟨fun ⟨x, hx, hsame⟩ => absurd hsame (hnew x hx), fun _ => by rw [hadd]⟩

end IPTable

end Isekai.Fabric

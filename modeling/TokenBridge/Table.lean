/-
Finite tables: the bridge's memory.

A table lists its entries in strictly ascending order of their keys, and
the order is a field of the type. So a table has one form only: two tables
that answer every look-up alike are equal (`ext_get?`), which is what lets
a law about the bridge end in "the same state" instead of "a state that
looks the same". `insert` writes over an entry with the same key, `erase`
of an absent key changes nothing.
-/
import TokenBridge.Bytes

namespace TokenBridge

/-- Things that can stand as keys: they have an order, and no two of them compare as equal. -/
class Key (K : Type) extends Ord K where
  transOrd : Std.TransOrd K
  lawfulEqOrd : Std.LawfulEqOrd K

attribute [instance] Key.transOrd Key.lawfulEqOrd

/-- Texts compare character by character, which is also the order of their UTF-8 bytes. -/
instance keyString : Key String := ⟨inferInstance, inferInstance⟩

/-- Words of sixty-four bits compare as numbers. -/
instance keyUInt64 : Key UInt64 := ⟨inferInstance, inferInstance⟩

/-- Byte strings compare byte by byte. -/
instance keyBytes {n : Nat} : Key (Bytes n) := ⟨inferInstance, inferInstance⟩

/-- Pairs compare by their first component, then by their second. -/
instance keyPair {α β : Type} [Key α] [Key β] : Key (α × β) :=
  letI : Ord (α × β) := lexOrd
  ⟨inferInstance, inferInstance⟩

variable {K V : Type} [Key K]

-- ========================================================= lists of entries

/-- Entries in strictly ascending order of keys. -/
def Ascending (entries : List (K × V)) : Prop :=
  entries.Pairwise fun a b => compare a.1 b.1 = .lt

/-- The value under a key. -/
def lookUp (k : K) : List (K × V) → Option V
  | [] => none
  | (k', v') :: rest => if compare k k' = .eq then some v' else lookUp k rest

/-- An entry put in its place, over an entry with the same key. -/
def place (k : K) (v : V) : List (K × V) → List (K × V)
  | [] => [(k, v)]
  | (k', v') :: rest =>
    match compare k k' with
    | .lt => (k, v) :: (k', v') :: rest
    | .eq => (k, v) :: rest
    | .gt => (k', v') :: place k v rest

/-- The entries without the one under a key. -/
def strike (k : K) (entries : List (K × V)) : List (K × V) :=
  entries.filter fun e => compare k e.1 != .eq

/-- Placing an entry brings in no other. -/
theorem mem_place {k : K} {v : V} {entries : List (K × V)} {e : K × V}
    (h : e ∈ place k v entries) : e = (k, v) ∨ e ∈ entries := by
  induction entries with
  | nil => exact Or.inl (List.mem_singleton.mp h)
  | cons head rest ih =>
    obtain ⟨k', v'⟩ := head
    simp only [place] at h
    split at h
    · rcases List.mem_cons.mp h with h | h
      · exact Or.inl h
      · exact Or.inr h
    · rcases List.mem_cons.mp h with h | h
      · exact Or.inl h
      · exact Or.inr (List.mem_cons_of_mem _ h)
    · rcases List.mem_cons.mp h with h | h
      · exact Or.inr (h ▸ List.mem_cons_self)
      · rcases ih h with h | h
        · exact Or.inl h
        · exact Or.inr (List.mem_cons_of_mem _ h)

/-- Placing an entry keeps the order. What comes in stands before everything
that is greater, and over what is equal. -/
theorem Ascending.place {entries : List (K × V)} (h : Ascending entries) (k : K) (v : V) :
    Ascending (place k v entries) := by
  induction entries with
  | nil => exact List.pairwise_singleton _ _
  | cons head rest ih =>
    obtain ⟨k', v'⟩ := head
    obtain ⟨hhead, hrest⟩ := List.pairwise_cons.mp h
    simp only [TokenBridge.place]
    split
    · rename_i hlt
      refine List.pairwise_cons.mpr ⟨fun e he => ?_, h⟩
      rcases List.mem_cons.mp he with rfl | he
      · exact hlt
      · exact Std.TransCmp.lt_trans hlt (hhead e he)
    · rename_i heq
      have hk : k = k' := Std.LawfulEqCmp.eq_of_compare heq
      exact List.pairwise_cons.mpr ⟨fun e he => hk ▸ hhead e he, hrest⟩
    · rename_i hgt
      refine List.pairwise_cons.mpr ⟨fun e he => ?_, ih hrest⟩
      rcases mem_place he with rfl | he
      · exact Std.OrientedCmp.gt_iff_lt.mp hgt
      · exact hhead e he

/-- Striking an entry out keeps the order of the others. -/
theorem Ascending.strike {entries : List (K × V)} (h : Ascending entries) (k : K) :
    Ascending (strike k entries) :=
  List.Pairwise.filter _ h

/-- What was placed is what its key finds. -/
theorem lookUp_place_self (k : K) (v : V) (entries : List (K × V)) :
    lookUp k (place k v entries) = some v := by
  induction entries with
  | nil => simp [place, lookUp, Std.ReflCmp.compare_self]
  | cons head rest ih =>
    obtain ⟨k', v'⟩ := head
    simp only [place]
    split
    · simp [lookUp, Std.ReflCmp.compare_self]
    · simp [lookUp, Std.ReflCmp.compare_self]
    · rename_i hgt
      rw [lookUp, if_neg (by rw [hgt]; decide)]
      exact ih

/-- Placing an entry hides none under another key. -/
theorem lookUp_place_ne {k k' : K} (hne : k ≠ k') (v : V) (entries : List (K × V)) :
    lookUp k' (place k v entries) = lookUp k' entries := by
  have hk : compare k' k ≠ .eq := fun h => hne (Std.LawfulEqCmp.eq_of_compare h).symm
  induction entries with
  | nil => simp [place, lookUp, hk]
  | cons head rest ih =>
    obtain ⟨k'', v''⟩ := head
    simp only [place]
    split
    · rw [lookUp, if_neg hk]
    · rename_i heq
      have : k = k'' := Std.LawfulEqCmp.eq_of_compare heq
      subst this
      simp [lookUp, hk]
    · rw [lookUp, lookUp]
      split
      · rfl
      · exact ih

/-- A key that was struck out finds nothing. -/
theorem lookUp_strike_self (k : K) (entries : List (K × V)) :
    lookUp k (strike k entries) = none := by
  induction entries with
  | nil => rfl
  | cons head rest ih =>
    obtain ⟨k', v'⟩ := head
    by_cases h : compare k k' = .eq
    · have : strike k ((k', v') :: rest) = strike k rest := by simp [strike, h]
      rw [this]
      exact ih
    · have : strike k ((k', v') :: rest) = (k', v') :: strike k rest := by simp [strike, h]
      rw [this, lookUp, if_neg h]
      exact ih

/-- Striking a key out hides no other. -/
theorem lookUp_strike_ne {k k' : K} (hne : k ≠ k') (entries : List (K × V)) :
    lookUp k' (strike k entries) = lookUp k' entries := by
  induction entries with
  | nil => rfl
  | cons head rest ih =>
    obtain ⟨k'', v''⟩ := head
    by_cases h : compare k k'' = .eq
    · have hk : k = k'' := Std.LawfulEqCmp.eq_of_compare h
      have hs : strike k ((k'', v'') :: rest) = strike k rest := by simp [strike, h]
      have hk' : compare k' k'' ≠ .eq := fun h' =>
        hne (hk.trans (Std.LawfulEqCmp.eq_of_compare h').symm)
      rw [hs, lookUp, if_neg hk']
      exact ih
    · have hs : strike k ((k'', v'') :: rest) = (k'', v'') :: strike k rest := by simp [strike, h]
      rw [hs, lookUp, lookUp]
      split
      · rfl
      · exact ih

/-- In ascending order a key stands at most once, so looking it up and finding
it in the list are the same. -/
theorem lookUp_eq_some_iff {k : K} {v : V} {entries : List (K × V)} (h : Ascending entries) :
    lookUp k entries = some v ↔ (k, v) ∈ entries := by
  induction entries with
  | nil => simp [lookUp]
  | cons head rest ih =>
    obtain ⟨k', v'⟩ := head
    obtain ⟨hhead, hrest⟩ := List.pairwise_cons.mp h
    rw [lookUp, List.mem_cons]
    by_cases hk : compare k k' = .eq
    · have : k = k' := Std.LawfulEqCmp.eq_of_compare hk
      subst this
      rw [if_pos hk]
      constructor
      · intro heq
        exact Or.inl (by rw [Option.some.inj heq])
      · rintro (heq | hmem)
        · rw [(Prod.mk.inj heq).2]
        · have := hhead _ hmem
          simp [Std.ReflCmp.compare_self] at this
    · rw [if_neg hk, ih hrest]
      constructor
      · exact Or.inr
      · rintro (heq | hmem)
        · exact absurd (by rw [(Prod.mk.inj heq).1]; exact Std.ReflCmp.compare_self) hk
        · exact hmem

/-- Ascending lists with the same look-ups are the same list. -/
theorem eq_of_lookUp_eq {a b : List (K × V)} (ha : Ascending a) (hb : Ascending b)
    (h : ∀ k, lookUp k a = lookUp k b) : a = b := by
  -- as sets of entries the two lists are the same
  have hmem : ∀ e, e ∈ a ↔ e ∈ b := fun e => by
    rw [← lookUp_eq_some_iff (k := e.1) (v := e.2) ha, h, lookUp_eq_some_iff hb]
  clear h
  induction a generalizing b with
  | nil =>
    cases b with
    | nil => rfl
    | cons e _ => exact absurd ((hmem e).mpr List.mem_cons_self) List.not_mem_nil
  | cons x xs ih =>
    obtain ⟨hx, hxs⟩ := List.pairwise_cons.mp ha
    cases b with
    | nil => exact absurd ((hmem x).mp List.mem_cons_self) List.not_mem_nil
    | cons y ys =>
      obtain ⟨hy, hys⟩ := List.pairwise_cons.mp hb
      -- the first entries agree, since neither can come later in the other
      -- list
      have hxy : x = y := by
        rcases List.mem_cons.mp ((hmem x).mp List.mem_cons_self) with hxy | hxy
        · exact hxy
        rcases List.mem_cons.mp ((hmem y).mpr List.mem_cons_self) with hyx | hyx
        · exact hyx.symm
        have h1 := hy x hxy
        have h2 := hx y hyx
        rw [Std.OrientedCmp.gt_of_lt h1] at h2
        cases h2
      subst hxy
      congr 1
      refine ih hxs hys fun e => ?_
      -- the first entry does not come a second time
      have hne : ∀ {l : List (K × V)},
          (∀ e' ∈ l, compare x.1 e'.1 = .lt) → e ∈ l → e ≠ x := by
        rintro l hl he rfl
        have := hl e he
        simp [Std.ReflCmp.compare_self] at this
      constructor
      · intro he
        exact ((List.mem_cons.mp ((hmem e).mp (List.mem_cons_of_mem _ he))).resolve_left
          (hne hx he))
      · intro he
        exact ((List.mem_cons.mp ((hmem e).mpr (List.mem_cons_of_mem _ he))).resolve_left
          (hne hy he))

-- =================================================================== tables

/-- Entries under keys, in ascending order of the keys. -/
structure Table (K V : Type) [Key K] where
  toList : List (K × V)
  ascending : Ascending toList
deriving DecidableEq

namespace Table

/-- A table is its list; that the list ascends adds nothing to compare. -/
theorem ext {s t : Table K V} (h : s.toList = t.toList) : s = t := by
  cases s; cases t; cases h; rfl

/-- The table without entries. -/
def empty : Table K V := ⟨[], List.Pairwise.nil⟩

/-- The value under a key, if there is one. -/
def get? (t : Table K V) (k : K) : Option V := lookUp k t.toList

/-- There is an entry under the key. -/
def contains (t : Table K V) (k : K) : Bool := (t.get? k).isSome

/-- The table with an entry written, over an earlier one with the same key. -/
def insert (t : Table K V) (k : K) (v : V) : Table K V :=
  ⟨place k v t.toList, t.ascending.place k v⟩

/-- The table without the entry under a key. -/
def erase (t : Table K V) (k : K) : Table K V :=
  ⟨strike k t.toList, t.ascending.strike k⟩

/-- The keys, ascending. -/
def keys (t : Table K V) : List K := t.toList.map Prod.fst

/-- The values, in the order of their keys. -/
def values (t : Table K V) : List V := t.toList.map Prod.snd

/-- An empty table has nothing under any key. -/
@[simp] theorem get?_empty (k : K) : (empty : Table K V).get? k = none := rfl

/-- What was written last is what is found. -/
@[simp] theorem get?_insert_self (t : Table K V) (k : K) (v : V) :
    (t.insert k v).get? k = some v :=
  lookUp_place_self k v t.toList

/-- A write is seen under its own key only. -/
theorem get?_insert_ne (t : Table K V) {k k' : K} (h : k ≠ k') (v : V) :
    (t.insert k v).get? k' = t.get? k' :=
  lookUp_place_ne h v t.toList

/-- What was erased is gone. -/
@[simp] theorem get?_erase_self (t : Table K V) (k : K) : (t.erase k).get? k = none :=
  lookUp_strike_self k t.toList

/-- An erasure is seen under its own key only. -/
theorem get?_erase_ne (t : Table K V) {k k' : K} (h : k ≠ k') :
    (t.erase k).get? k' = t.get? k' :=
  lookUp_strike_ne h t.toList

/-- A look-up finds the entries of the list and no others. -/
theorem get?_eq_some_iff {t : Table K V} {k : K} {v : V} :
    t.get? k = some v ↔ (k, v) ∈ t.toList :=
  lookUp_eq_some_iff t.ascending

/-- A table is determined by its look-ups. -/
theorem ext_get? {s t : Table K V} (h : ∀ k, s.get? k = t.get? k) : s = t :=
  ext (eq_of_lookUp_eq s.ascending t.ascending h)

end Table

end TokenBridge

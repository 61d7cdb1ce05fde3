/-
Tables after a write, and sums over their entries.

A write changes the look-up of its own key and of no other. Sums are built
on one fact: an entry's share can be taken out of the sum by erasing its
key (`total_erase`). Writing over a key is erasing it and putting a new
share in, so what a write does to a sum follows for a fresh key and for a
used one alike, and so does the comparison of two tables key by key
(`total_le_total`).
-/
import Mathlib.Algebra.GroupWithZero.Nat
import Mathlib.Data.List.Nodup
import TokenBridge.Table

namespace TokenBridge.Table

variable {K V W : Type} [Key K]

-- ================================================================= look-ups

/-- A look-up after a write finds what was written under its own key and what
was there before under every other. -/
theorem get?_insert [DecidableEq K] (t : Table K V) (k k' : K) (v : V) :
    (t.insert k v).get? k' = if k = k' then some v else t.get? k' := by
  by_cases hk : k = k'
  · subst hk
    rw [if_pos rfl, get?_insert_self]
  · rw [if_neg hk, get?_insert_ne t hk]

/-- A look-up after an erasure finds nothing under that key, and under every
other what was there. -/
theorem get?_erase [DecidableEq K] (t : Table K V) (k k' : K) :
    (t.erase k).get? k' = if k = k' then none else t.get? k' := by
  by_cases hk : k = k'
  · subst hk
    rw [if_pos rfl, get?_erase_self]
  · rw [if_neg hk, get?_erase_ne t hk]

/-- A key is absent when a look-up under it finds nothing. -/
theorem contains_eq_false_iff {t : Table K V} {k : K} :
    t.contains k = false ↔ t.get? k = none := by
  unfold contains
  rw [Option.isSome_eq_false_iff, Option.isNone_iff_eq_none]

/-- Writing makes one key present and leaves the others as they were. -/
theorem contains_insert [DecidableEq K] (t : Table K V) (k k' : K) (v : V) :
    (t.insert k v).contains k' = (decide (k = k') || t.contains k') := by
  unfold contains
  rw [get?_insert]
  by_cases hk : k = k'
  · rw [if_pos hk]
    simp [hk]
  · rw [if_neg hk]
    simp [hk]

/-- Erasing makes one key absent and leaves the others as they were. -/
theorem contains_erase [DecidableEq K] (t : Table K V) (k k' : K) :
    (t.erase k).contains k' = (!decide (k = k') && t.contains k') := by
  unfold contains
  rw [get?_erase]
  by_cases hk : k = k'
  · rw [if_pos hk]
    simp [hk]
  · rw [if_neg hk]
    simp [hk]

/-- Erasing a key that was just written undoes what it held before. -/
theorem erase_insert [DecidableEq K] (t : Table K V) (k : K) (v : V) :
    (t.insert k v).erase k = t.erase k := by
  apply ext_get?
  intro k'
  rw [get?_erase, get?_erase, get?_insert]
  by_cases hk : k = k'
  · rw [if_pos hk, if_pos hk]
  · rw [if_neg hk, if_neg hk, if_neg hk]

/-- An entry is written, or erased. -/
def put (t : Table K V) (k : K) : Option V → Table K V
  | some v => t.insert k v
  | none => t.erase k

/-- Writing or erasing, a look-up finds what is given under that key. -/
theorem get?_put [DecidableEq K] (t : Table K V) (k k' : K) (v : Option V) :
    (t.put k v).get? k' = if k = k' then v else t.get? k' := by
  cases v with
  | some v => exact get?_insert t k k' v
  | none => exact get?_erase t k k'

/-- What is done under different keys can be done in either order. -/
theorem put_comm [DecidableEq K] (t : Table K V) {k k' : K} (hne : k ≠ k')
    (v v' : Option V) : (t.put k v).put k' v' = (t.put k' v').put k v := by
  apply ext_get?
  intro k''
  rw [get?_put, get?_put, get?_put, get?_put]
  by_cases hk : k = k''
  · have hk' : k' ≠ k'' := fun hk' => hne (hk.trans hk'.symm)
    rw [if_neg hk', if_pos hk, if_pos hk]
  · rw [if_neg hk, if_neg hk]

/-- What stands under a key is one of the values. -/
theorem mem_values_of_get? {t : Table K V} {k : K} {v : V}
    (h : t.get? k = some v) : v ∈ t.values :=
  List.mem_map.mpr ⟨(k, v), get?_eq_some_iff.mp h, rfl⟩

/-- Values are what stands under some key: the list has no others. -/
theorem mem_values_iff {t : Table K V} {v : V} :
    v ∈ t.values ↔ ∃ k, t.get? k = some v := by
  constructor
  · intro hv
    obtain ⟨⟨k, v'⟩, hmem, rfl⟩ := List.mem_map.mp hv
    exact ⟨k, get?_eq_some_iff.mpr hmem⟩
  · rintro ⟨k, hk⟩
    exact mem_values_of_get? hk

/-- Where each entry names the key it stands under, the values are in
strictly ascending order of these names. -/
theorem pairwise_values {t : Table K V} {f : V → K}
    (named : ∀ {k v}, t.get? k = some v → f v = k) :
    t.values.Pairwise fun v w => compare (f v) (f w) = .lt := by
  have hkey : ∀ e ∈ t.toList, f e.2 = e.1 := fun e he =>
    named (get?_eq_some_iff.mpr he)
  refine List.pairwise_map.mpr (t.ascending.imp_of_mem ?_)
  intro e e' he he' hlt
  rw [hkey e he, hkey e' he']
  exact hlt

-- ================================================================ the values

/-- An entry whose key comes after all others is put at the end. -/
private theorem place_last {k : K} (v : V) {entries : List (K × V)}
    (later : ∀ e ∈ entries, compare e.1 k = .lt) :
    place k v entries = entries ++ [(k, v)] := by
  induction entries with
  | nil => rfl
  | cons head rest ih =>
      obtain ⟨k', v'⟩ := head
      have hhead : compare k k' = .gt :=
        Std.OrientedCmp.gt_of_lt (later _ List.mem_cons_self)
      have hrest := ih fun e he => later e (List.mem_cons_of_mem _ he)
      simp only [place, hhead, hrest, List.cons_append]

/-- So its value is the last one. -/
theorem values_insert_last {t : Table K V} {k : K} (v : V)
    (later : ∀ k' v', t.get? k' = some v' → compare k' k = .lt) :
    (t.insert k v).values = t.values ++ [v] := by
  have hplace : place k v t.toList = t.toList ++ [(k, v)] :=
    place_last v fun e he => later e.1 e.2 (get?_eq_some_iff.mpr he)
  show (place k v t.toList).map Prod.snd = _
  rw [hplace, List.map_append]
  rfl

/-- Where no two keys hold one value, erasing a key takes its value out and
leaves the others in their order. -/
theorem values_erase [DecidableEq V] {t : Table K V} {k : K} {v : V}
    (hv : t.get? k = some v) (distinct : t.values.Nodup) :
    (t.erase k).values = t.values.erase v := by
  rw [distinct.erase_eq_filter]
  show (t.toList.filter _).map Prod.snd = (t.toList.map Prod.snd).filter _
  rw [List.filter_map]
  refine congrArg _ (List.filter_congr fun e he => ?_)
  show (compare k e.1 != .eq) = (e.2 != v)
  by_cases hk : compare k e.1 = .eq
  · have hkey : k = e.1 := Std.LawfulEqCmp.eq_of_compare hk
    have hvalue : e.2 = v := by
      rw [hkey, get?_eq_some_iff.mpr he] at hv
      exact Option.some.inj hv
    simp [hk, hvalue]
  · have hvalue : e.2 ≠ v := by
      intro heq
      have hsame : e = (k, v) :=
        List.inj_on_of_nodup_map distinct he (get?_eq_some_iff.mp hv) heq
      rw [hsame] at hk
      exact hk Std.ReflCmp.compare_self
    rw [bne_iff_ne.mpr hk, bne_iff_ne.mpr hvalue]

-- ============================================================== every entry

/-- All entries of a table have a property. -/
def Every (t : Table K V) (p : V → Prop) : Prop :=
  ∀ k v, t.get? k = some v → p v

theorem every_empty (p : V → Prop) : (empty : Table K V).Every p := by
  intro k v hv
  rw [get?_empty] at hv
  cases hv

/-- Only the written entry has to be looked at. -/
theorem Every.insert [DecidableEq K] {t : Table K V} {p : V → Prop}
    (h : t.Every p) (k : K) {v : V} (hv : p v) : (t.insert k v).Every p := by
  intro k' v' hv'
  rw [get?_insert] at hv'
  by_cases hk : k = k'
  · rw [if_pos hk] at hv'
    cases hv'
    exact hv
  · rw [if_neg hk] at hv'
    exact h k' v' hv'

-- =================================================================== totals

/-- The sum over all entries of what each counts. -/
def total (t : Table K V) (f : V → Nat) : Nat := (t.values.map f).sum

/-- What the entry under a key counts, nothing where there is none. -/
def share (t : Table K V) (f : V → Nat) (k : K) : Nat :=
  ((t.get? k).map f).getD 0

/-- A key that is present has the share of its value. -/
theorem share_of_get? {t : Table K V} {k : K} {v : V} (f : V → Nat)
    (h : t.get? k = some v) : t.share f k = f v := by
  unfold share
  rw [h]
  rfl

theorem share_of_absent {t : Table K V} {k : K} (f : V → Nat)
    (h : t.get? k = none) : t.share f k = 0 := by
  unfold share
  rw [h]
  rfl

/-- The total may be read off the entries, which is the form that inductions
over the list want. -/
theorem total_eq_sum (t : Table K V) (f : V → Nat) :
    t.total f = (t.toList.map fun e => f e.2).sum := by
  unfold total values
  rw [List.map_map]
  rfl

theorem total_empty (f : V → Nat) : (empty : Table K V).total f = 0 := rfl

/-- No entry after the first has the first one's key. -/
private theorem lookUp_tail {k : K} {v : V} {rest : List (K × V)}
    (h : Ascending ((k, v) :: rest)) : lookUp k rest = none := by
  obtain ⟨hhead, hrest⟩ := List.pairwise_cons.mp h
  cases hl : lookUp k rest with
  | none => rfl
  | some v' =>
      have hlt := hhead _ ((lookUp_eq_some_iff hrest).mp hl)
      simp [Std.ReflCmp.compare_self] at hlt

/-- A key's share and the sum of what is left without it are the sum of all.
The induction is on the entries in their order, since only that says that the
key does not come a second time. -/
private theorem sum_strike (f : V → Nat) (k : K) :
    ∀ {entries : List (K × V)}, Ascending entries →
      ((strike k entries).map fun e => f e.2).sum
          + ((lookUp k entries).map f).getD 0
        = (entries.map fun e => f e.2).sum := by
  intro entries
  induction entries with
  | nil => intro _; rfl
  | cons head rest ih =>
      intro h
      obtain ⟨k', v'⟩ := head
      have hrest := ih (List.pairwise_cons.mp h).2
      by_cases hk : compare k k' = .eq
      · have he : k = k' := Std.LawfulEqCmp.eq_of_compare hk
        subst he
        rw [lookUp_tail h] at hrest
        have hs : strike k ((k, v') :: rest) = strike k rest := by
          simp [strike]
        rw [hs, lookUp, if_pos hk, List.map_cons, List.sum_cons, ← hrest]
        show _ + f v' = f v' + (_ + 0)
        omega
      · have hs : strike k ((k', v') :: rest)
            = (k', v') :: strike k rest := by
          simp [strike, hk]
        rw [hs, lookUp, if_neg hk, List.map_cons, List.map_cons,
          List.sum_cons, List.sum_cons, ← hrest]
        omega

/-- Erasing a key takes its share out of the total, and nothing else. -/
theorem total_erase (t : Table K V) (f : V → Nat) (k : K) :
    (t.erase k).total f + t.share f k = t.total f := by
  rw [total_eq_sum, total_eq_sum]
  exact sum_strike f k t.ascending

/-- A write puts the new share in the place of the old one. -/
theorem total_insert [DecidableEq K] (t : Table K V) (f : V → Nat) (k : K)
    (v : V) : (t.insert k v).total f + t.share f k = t.total f + f v := by
  have hnew := total_erase (t.insert k v) f k
  rw [erase_insert, share_of_get? f (get?_insert_self t k v)] at hnew
  have hold := total_erase t f k
  omega

/-- A new key adds its share to the total. -/
theorem total_insert_absent [DecidableEq K] {t : Table K V} {k : K}
    (f : V → Nat) (v : V) (h : t.get? k = none) :
    (t.insert k v).total f = t.total f + f v := by
  have := total_insert t f k v
  rw [share_of_absent f h] at this
  exact this

/-- A key written over gives up its old share for the new one. -/
theorem total_insert_over [DecidableEq K] {t : Table K V} {k : K} {u : V}
    (f : V → Nat) (v : V) (h : t.get? k = some u) :
    (t.insert k v).total f + f u = t.total f + f v := by
  have := total_insert t f k v
  rw [share_of_get? f h] at this
  exact this

/-- Entries that are each paid for by the share of their key are paid for
together, as no share is counted twice. -/
private theorem sum_le_total (f : V → Nat) (g : W → Nat) :
    ∀ {entries : List (K × V)} (t : Table K W), Ascending entries →
      (∀ e ∈ entries, f e.2 ≤ t.share g e.1) →
      (entries.map fun e => f e.2).sum ≤ t.total g := by
  intro entries
  induction entries with
  | nil => intro t _ _; exact Nat.zero_le _
  | cons head rest ih =>
      intro t hasc hle
      obtain ⟨hhead, hrest⟩ := List.pairwise_cons.mp hasc
      -- the first entry pays for itself, the rest out of the other keys
      have hlater : ∀ e ∈ rest, f e.2 ≤ (t.erase head.1).share g e.1 := by
        intro e he
        have hne : head.1 ≠ e.1 := by
          intro heq
          have hlt := hhead e he
          simp [heq, Std.ReflCmp.compare_self] at hlt
        unfold share
        rw [get?_erase_ne t hne]
        exact hle e (List.mem_cons_of_mem _ he)
      have hsum := ih (t.erase head.1) hrest hlater
      have hfirst := hle head List.mem_cons_self
      have htotal := total_erase t g head.1
      rw [List.map_cons, List.sum_cons]
      omega

/-- A table whose entries count no more, key by key, than those of another
has no larger total. -/
theorem total_le_total {s : Table K V} {t : Table K W} {f : V → Nat}
    {g : W → Nat}
    (h : ∀ k v, s.get? k = some v → f v ≤ t.share g k) :
    s.total f ≤ t.total g := by
  rw [total_eq_sum]
  exact sum_le_total f g t s.ascending fun e he =>
    h e.1 e.2 (get?_eq_some_iff.mpr he)

/-- A total depends only on what the entries count. -/
theorem total_congr {t : Table K V} {f g : V → Nat}
    (h : ∀ k v, t.get? k = some v → f v = g v) : t.total f = t.total g := by
  apply Nat.le_antisymm
  · apply total_le_total
    intro k v hv
    rw [share_of_get? g hv]
    exact Nat.le_of_eq (h k v hv)
  · apply total_le_total
    intro k v hv
    rw [share_of_get? f hv]
    exact Nat.le_of_eq (h k v hv).symm

/-- Where every entry counts nothing, so does the table. -/
theorem total_eq_zero {t : Table K V} {f : V → Nat}
    (h : ∀ k v, t.get? k = some v → f v = 0) : t.total f = 0 := by
  have hle : t.total f ≤ (empty : Table K V).total f :=
    total_le_total fun k v hv => by rw [h k v hv]; exact Nat.zero_le _
  rw [total_empty] at hle
  omega

-- =================================================================== counts

/-- How many entries have a property. -/
def count (t : Table K V) (p : V → Bool) : Nat := t.values.countP p

/-- Counting is summing ones. -/
theorem countP_eq_sum {α : Type} (l : List α) (p : α → Bool) :
    l.countP p = (l.map fun v => if p v then 1 else 0).sum := by
  induction l with
  | nil => rfl
  | cons v rest ih =>
      rw [List.countP_cons, List.map_cons, List.sum_cons, ih]
      omega

/-- How many entries have a property is a total, of one for each that has
it. -/
theorem count_eq_total (t : Table K V) (p : V → Bool) :
    t.count p = t.total fun v => if p v then 1 else 0 :=
  countP_eq_sum t.values p

/-- An empty table has no entry with the property. -/
theorem count_empty (p : V → Bool) : (empty : Table K V).count p = 0 := rfl

theorem count_insert_absent [DecidableEq K] {t : Table K V} {k : K}
    (p : V → Bool) (v : V) (h : t.get? k = none) :
    (t.insert k v).count p = t.count p + if p v then 1 else 0 := by
  rw [count_eq_total, count_eq_total]
  exact total_insert_absent _ v h

/-- A key written over counts for its new value in place of the old. -/
theorem count_insert_over [DecidableEq K] {t : Table K V} {k : K} {u : V}
    (p : V → Bool) (v : V) (h : t.get? k = some u) :
    (t.insert k v).count p + (if p u then 1 else 0)
      = t.count p + if p v then 1 else 0 := by
  rw [count_eq_total, count_eq_total]
  exact total_insert_over _ v h

/-- If no two keys hold an entry with the property, at most one does. -/
theorem count_le_one {t : Table K V} {p : V → Bool}
    (h : ∀ k₁ v₁ k₂ v₂, t.get? k₁ = some v₁ → p v₁ = true →
      t.get? k₂ = some v₂ → p v₂ = true → k₁ = k₂) :
    t.count p ≤ 1 := by
  classical
  rw [count_eq_total]
  by_cases hex : ∃ k v, t.get? k = some v ∧ p v = true
  · obtain ⟨k, v, hv, hp⟩ := hex
    -- at most one entry counts, so nothing is left without its key
    have hrest : (t.erase k).total (fun v => if p v then 1 else 0) = 0 := by
      apply total_eq_zero
      intro k' v' hv'
      rw [get?_erase] at hv'
      by_cases hk : k = k'
      · rw [if_pos hk] at hv'
        cases hv'
      · rw [if_neg hk] at hv'
        rw [if_neg fun hp' => hk (h k v k' v' hv hp hv' hp')]
    have hshare := share_of_get? (fun v => if p v then 1 else 0) hv
    have := total_erase t (fun v => if p v then 1 else 0) k
    rw [hrest, hshare, if_pos hp] at this
    omega
  -- no entry counts at all
  · have : t.total (fun v => if p v then 1 else 0) = 0 := by
      apply total_eq_zero
      intro k v hv
      rw [if_neg fun hp => hex ⟨k, v, hv, hp⟩]
    omega

end TokenBridge.Table

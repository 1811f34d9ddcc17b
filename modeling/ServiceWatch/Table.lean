/-!
# Sorted tables

A `Table κ ν` keeps at most one value per key and lists its entries by ascending key. The order is
part of the type, so a table is determined by what it holds: two tables with the same look-ups are
equal (`Table.ext_get?`). Look-up is described through membership (`Table.get?_eq_some_iff`), and
`get?_insert` and `get?_erase` say what the two writing operations change.
-/

namespace ServiceWatch

/-- A finite table whose entries stand in strictly ascending order of their keys. -/
structure Table (κ ν : Type) [Ord κ] where
  entries : List (κ × ν)
  ascending : entries.Pairwise fun a b => compare a.1 b.1 = .lt

namespace Table

variable {κ ν : Type} [Ord κ]

/-- The table without entries. -/
def empty : Table κ ν := ⟨[], .nil⟩

instance : EmptyCollection (Table κ ν) := ⟨empty⟩

/-- The number of entries. -/
def size (t : Table κ ν) : Nat := t.entries.length

/-- Whether the table holds nothing. -/
def isEmpty (t : Table κ ν) : Bool := t.entries.isEmpty

/-- The keys, ascending. -/
def keys (t : Table κ ν) : List κ := t.entries.map Prod.fst

/-- The values, by ascending key. -/
def values (t : Table κ ν) : List ν := t.entries.map Prod.snd

/-- The value under a key. -/
def get? (t : Table κ ν) (k : κ) : Option ν :=
  t.entries.findSome? fun e => if compare k e.1 = .eq then some e.2 else none

/-- Whether a key has a value. -/
def contains (t : Table κ ν) (k : κ) : Bool := (t.get? k).isSome

/-- Puts an entry at its place among ascending entries, over one with the same key. -/
def place (k : κ) (v : ν) : List (κ × ν) → List (κ × ν)
  | [] => [(k, v)]
  | e :: rest =>
    match compare k e.1 with
    | .lt => (k, v) :: e :: rest
    | .eq => (k, v) :: rest
    | .gt => e :: place k v rest

/-- Removes the entry under a key, if there is one. -/
def erase (t : Table κ ν) (k : κ) : Table κ ν :=
  ⟨t.entries.filter fun e => compare k e.1 ≠ .eq, t.ascending.filter _⟩

/-- Tables are equal if their entries are. -/
theorem ext_entries {t u : Table κ ν} (h : t.entries = u.entries) : t = u := by
  cases t
  cases u
  simp_all

/-- The empty table has no entries. -/
@[simp]
theorem entries_empty : (∅ : Table κ ν).entries = [] := rfl

/-- Nothing is found in the empty table. -/
@[simp]
theorem get?_empty (k : κ) : (∅ : Table κ ν).get? k = none := rfl

/-- The empty table has no size. -/
@[simp]
theorem size_empty : (∅ : Table κ ν).size = 0 := rfl

section Lawful

variable [Std.TransOrd κ] [Std.LawfulEqOrd κ]

/-- The entries of a list with one placed in it are that one and those under other keys. -/
theorem mem_place {k : κ} {v : ν} {l : List (κ × ν)}
    (asc : l.Pairwise fun a b => compare a.1 b.1 = .lt) (e : κ × ν) :
    e ∈ place k v l ↔ e = (k, v) ∨ (e ∈ l ∧ compare k e.1 ≠ .eq) := by
  induction l with
  | nil => simp [place]
  | cons d rest ih =>
    have above := (List.pairwise_cons.1 asc).1
    have asc' := (List.pairwise_cons.1 asc).2
    unfold place
    split
    · rename_i h
      have far : ∀ x ∈ rest, compare k x.1 ≠ .eq := fun x hx hk => by
        have := Std.TransCmp.lt_trans h (above x hx)
        simp [hk] at this
      grind
    · rename_i h
      have far : ∀ x ∈ rest, compare k x.1 ≠ .eq := fun x hx hk => by
        have := above x hx
        rw [Std.LawfulEqCmp.eq_of_compare h] at hk
        simp [hk] at this
      grind
    · rename_i h
      grind

/-- Placing an entry keeps the keys in ascending order. -/
theorem place_ascending {k : κ} {v : ν} {l : List (κ × ν)}
    (asc : l.Pairwise fun a b => compare a.1 b.1 = .lt) :
    (place k v l).Pairwise fun a b => compare a.1 b.1 = .lt := by
  induction l with
  | nil => simp [place]
  | cons d rest ih =>
    have above := (List.pairwise_cons.1 asc).1
    have asc' := (List.pairwise_cons.1 asc).2
    unfold place
    split
    · rename_i h
      refine List.pairwise_cons.2 ⟨fun e he => ?_, asc⟩
      rcases List.mem_cons.1 he with rfl | he
      · exact h
      · exact Std.TransCmp.lt_trans h (above e he)
    · rename_i h
      refine List.pairwise_cons.2 ⟨fun e he => ?_, asc'⟩
      rw [Std.LawfulEqCmp.eq_of_compare h]
      exact above e he
    · rename_i h
      refine List.pairwise_cons.2 ⟨fun e he => ?_, ih asc'⟩
      rcases (mem_place asc' e).1 he with rfl | ⟨he, -⟩
      · exact Std.OrientedCmp.gt_iff_lt.1 h
      · exact above e he

/-- Puts a value under a key, over what was there. -/
def insert (t : Table κ ν) (k : κ) (v : ν) : Table κ ν :=
  ⟨place k v t.entries, place_ascending t.ascending⟩

omit [Std.TransOrd κ] in
/-- Looking a key up and finding its entry in the list are the same thing. -/
theorem get?_eq_some_iff {t : Table κ ν} {k : κ} {v : ν} :
    t.get? k = some v ↔ (k, v) ∈ t.entries := by
  obtain ⟨l, asc⟩ := t
  simp only [get?]
  induction l with
  | nil => simp
  | cons d rest ih =>
    have above := (List.pairwise_cons.1 asc).1
    have asc' := (List.pairwise_cons.1 asc).2
    by_cases h : compare k d.1 = .eq
    · have hk := Std.LawfulEqCmp.eq_of_compare h
      have far : ∀ x, (k, x) ∉ rest := fun x hx => by
        have := above _ hx
        simp [hk] at this
      obtain ⟨dk, dv⟩ := d
      simp only at hk
      subst hk
      simp [far, eq_comm]
    · have hk : k ≠ d.1 := fun e => h (by simp [e])
      obtain ⟨dk, dv⟩ := d
      simp only at hk h
      simp [h, hk, ih asc']

omit [Std.TransOrd κ] in
/-- Nothing is found under what is no key. -/
theorem get?_eq_none_iff {t : Table κ ν} {k : κ} : t.get? k = none ↔ k ∉ t.keys := by
  constructor
  · intro h hk
    obtain ⟨⟨k', v⟩, he, rfl⟩ := List.mem_map.1 hk
    simp [get?_eq_some_iff.2 he] at h
  · intro h
    cases hv : t.get? k with
    | none => rfl
    | some v => exact absurd (List.mem_map.2 ⟨(k, v), get?_eq_some_iff.1 hv, rfl⟩) h

omit [Std.TransOrd κ] in
/-- The keys are those that the table contains. -/
theorem mem_keys_iff {t : Table κ ν} {k : κ} : k ∈ t.keys ↔ t.contains k = true := by
  rw [contains]
  cases h : t.get? k with
  | none => simp [get?_eq_none_iff.1 h]
  | some v =>
    have : k ∈ t.keys := List.mem_map.2 ⟨(k, v), get?_eq_some_iff.1 h, rfl⟩
    simp [this]

omit [Std.TransOrd κ] in
/-- A table is empty if nothing is found in it. -/
theorem isEmpty_iff {t : Table κ ν} : t.isEmpty = true ↔ ∀ k, t.get? k = none := by
  rw [isEmpty, List.isEmpty_iff]
  constructor
  · intro none k
    simp [get?, none]
  · intro none
    refine List.eq_nil_iff_forall_not_mem.2 fun e mem => ?_
    have found : t.get? e.1 = some e.2 := get?_eq_some_iff.2 mem
    rw [none] at found
    cases found

omit [Std.TransOrd κ] in
/-- The keys of a table are distinct. -/
theorem nodup_keys (t : Table κ ν) : t.keys.Nodup := by
  refine List.pairwise_map.2 (t.ascending.imp fun {a b} lt eq => ?_)
  rw [eq] at lt
  simp at lt

/-- A new key adds one entry. -/
theorem size_insert_of_get?_eq_none {t : Table κ ν} {k : κ} (v : ν) (h : t.get? k = none) :
    (t.insert k v).size = t.size + 1 := by
  have far : ∀ e ∈ t.entries, compare k e.1 ≠ .eq := fun e he hk =>
    get?_eq_none_iff.1 h (List.mem_map.2 ⟨e, he, (Std.LawfulEqCmp.eq_of_compare hk).symm⟩)
  simp only [size, insert]
  clear h
  generalize t.entries = l at far
  induction l with
  | nil => rfl
  | cons d rest ih => grind [place]

/-- A known key keeps the number of entries. -/
theorem size_insert_of_get?_eq_some {t : Table κ ν} {k : κ} {w : ν} (v : ν)
    (h : t.get? k = some w) : (t.insert k v).size = t.size := by
  obtain ⟨l, asc⟩ := t
  simp only [get?_eq_some_iff] at h
  simp only [size, insert]
  induction l with
  | nil => simp at h
  | cons d rest ih =>
    have above := (List.pairwise_cons.1 asc).1
    rcases List.mem_cons.1 h with rfl | h
    · simp [place]
    · have : compare k d.1 = .gt := Std.OrientedCmp.gt_iff_lt.2 (above _ h)
      simp [place, this, ih (List.pairwise_cons.1 asc).2 h]

variable [DecidableEq κ]

/-- An inserted value is found under its key, and elsewhere what was there before. -/
theorem get?_insert (t : Table κ ν) (k : κ) (v : ν) (k' : κ) :
    (t.insert k v).get? k' = if k' = k then some v else t.get? k' := by
  apply Option.ext
  intro w
  rw [get?_eq_some_iff, insert, mem_place t.ascending]
  by_cases h : k' = k
  · subst h
    simp [eq_comm]
  · have : compare k k' ≠ .eq := fun e => h (Std.LawfulEqCmp.eq_of_compare e).symm
    simp [h, this, get?_eq_some_iff]

omit [Std.TransOrd κ] in
/-- Nothing is found under an erased key, and elsewhere what was there before. -/
theorem get?_erase (t : Table κ ν) (k k' : κ) :
    (t.erase k).get? k' = if k' = k then none else t.get? k' := by
  apply Option.ext
  intro w
  rw [get?_eq_some_iff, erase]
  by_cases h : k' = k
  · subst h
    simp
  · have : compare k k' ≠ .eq := fun e => h (Std.LawfulEqCmp.eq_of_compare e).symm
    simp only [h, if_false, List.mem_filter, decide_eq_true this, and_true, get?_eq_some_iff]

omit [DecidableEq κ] in
/-- A table is determined by its look-ups. -/
theorem ext_get? {t u : Table κ ν} (h : ∀ k, t.get? k = u.get? k) : t = u := by
  apply ext_entries
  have key : ∀ e, e ∈ t.entries ↔ e ∈ u.entries := fun e => by
    rw [← get?_eq_some_iff (t := t) (k := e.1), h, get?_eq_some_iff]
  obtain ⟨l, hl⟩ := t
  obtain ⟨m, hm⟩ := u
  simp only at key ⊢
  clear h
  induction l generalizing m with
  | nil =>
    cases m with
    | nil => rfl
    | cons e _ => simpa using (key e).2 (by simp)
  | cons d rest ih =>
    cases m with
    | nil => simpa using (key d).1 (by simp)
    | cons e more =>
      have hl' := List.pairwise_cons.1 hl
      have hm' := List.pairwise_cons.1 hm
      have same : d = e := by
        rcases List.mem_cons.1 ((key d).1 (by simp)) with hd | hd
        · exact hd
        · rcases List.mem_cons.1 ((key e).2 (by simp)) with he | he
          · exact he.symm
          · have h₁ := hm'.1 d hd
            have h₂ := hl'.1 e he
            have := Std.TransCmp.lt_trans h₁ h₂
            simp at this
      subst same
      have only : ∀ x, x ∈ rest ↔ x ∈ more := fun x => by
        constructor
        · intro hx
          rcases List.mem_cons.1 ((key x).1 (List.mem_cons_of_mem _ hx)) with rfl | h
          · simpa using hl'.1 x hx
          · exact h
        · intro hx
          rcases List.mem_cons.1 ((key x).2 (List.mem_cons_of_mem _ hx)) with rfl | h
          · simpa using hm'.1 x hx
          · exact h
      rw [ih hl'.2 more hm'.2 only]

/-- Erasing an absent key changes nothing. -/
theorem erase_of_get?_eq_none {t : Table κ ν} {k : κ} (h : t.get? k = none) : t.erase k = t := by
  apply ext_get?
  intro k'
  rw [get?_erase]
  split
  · simp_all
  · rfl

/-- Erasing a known key removes one entry. -/
theorem size_erase_of_get?_eq_some {t : Table κ ν} {k : κ} {v : ν} (h : t.get? k = some v) :
    (t.erase k).size + 1 = t.size := by
  have absent : (t.erase k).get? k = none := by simp [get?_erase]
  have back : (t.erase k).insert k v = t := by
    apply ext_get?
    intro k'
    rw [get?_insert, get?_erase]
    by_cases e : k' = k <;> simp [e, h]
  rw [← size_insert_of_get?_eq_none v absent, back]

end Lawful

end Table

end ServiceWatch

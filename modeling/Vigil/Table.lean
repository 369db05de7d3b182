/-!
# Table

Finite maps with text keys, kept in the order of the keys.  `get?` is the view: `get?_insert`,
`get?_erase`, `get?_filter` and `get?_map` say what each operation does to it, and `ext` that a
table is determined by it.
-/

namespace Vigil

/-- A finite map from text, its entries in strictly increasing order of their keys. -/
structure Table (α : Type) where
  entries : List (String × α)
  sorted : entries.Pairwise (·.1 < ·.1)

namespace Table
variable {α β : Type}

/-- The table with no entries. -/
def empty : Table α := ⟨[], .nil⟩

instance : Inhabited (Table α) := ⟨empty⟩

/-- The number of entries. -/
def size (t : Table α) : Nat := t.entries.length

/-- The keys in order. -/
def keys (t : Table α) : List String := t.entries.map (·.1)

/-- The values in the order of their keys. -/
def values (t : Table α) : List α := t.entries.map (·.2)

/-- The value stored under `key`. -/
def get? (t : Table α) (key : String) : Option α := t.entries.lookup key

/-- Puts an entry in its place, over one with the same key. -/
def insertEntry (key : String) (value : α) : List (String × α) → List (String × α)
  | [] => [(key, value)]
  | (k, v) :: rest =>
    if key < k then (key, value) :: (k, v) :: rest
    else if key = k then (key, value) :: rest
    else (k, v) :: insertEntry key value rest

theorem mem_insertEntry {key : String} {value : α} {es : List (String × α)} {e : String × α}
    (h : e ∈ insertEntry key value es) : e = (key, value) ∨ e ∈ es := by
  induction es with
  | nil => simpa [insertEntry] using h
  | cons d rest ih =>
    obtain ⟨k, v⟩ := d
    simp only [insertEntry] at h
    split at h
    · simpa using h
    · split at h
      · rcases List.mem_cons.1 h with h | h <;> simp [h]
      · rcases List.mem_cons.1 h with h | h
        · simp [h]
        · rcases ih h with h | h <;> simp [h]

theorem sorted_insertEntry (key : String) (value : α) {es : List (String × α)}
    (h : es.Pairwise (·.1 < ·.1)) : (insertEntry key value es).Pairwise (·.1 < ·.1) := by
  induction es with
  | nil => simp [insertEntry]
  | cons d rest ih =>
    obtain ⟨k, v⟩ := d
    have hk := List.pairwise_cons.1 h
    simp only [insertEntry]
    split
    next hlt =>
      refine List.pairwise_cons.2 ⟨fun e he => ?_, h⟩
      rcases List.mem_cons.1 he with he | he
      · simpa [he] using hlt
      · exact String.lt_trans hlt (hk.1 e he)
    next hlt =>
      split
      next heq => exact List.pairwise_cons.2 ⟨fun e he => heq ▸ hk.1 e he, hk.2⟩
      next hne =>
        refine List.pairwise_cons.2 ⟨fun e he => ?_, ih hk.2⟩
        rcases mem_insertEntry he with he | he
        · have hle : k ≤ key := String.not_lt.1 hlt
          simp only [he]
          rcases Classical.em (k < key) with hk' | hk'
          · exact hk'
          · exact absurd (String.le_antisymm (String.not_lt.1 hk') hle) hne
        · exact hk.1 e he

/-- Stores `value` under `key`. -/
def insert (t : Table α) (key : String) (value : α) : Table α :=
  ⟨insertEntry key value t.entries, sorted_insertEntry key value t.sorted⟩

/-- Keeps the entries that pass a test. -/
def filter (t : Table α) (keep : String → α → Bool) : Table α :=
  ⟨t.entries.filter fun e => keep e.1 e.2, t.sorted.filter _⟩

/-- Drops the entry under `key`, if there is one. -/
def erase (t : Table α) (key : String) : Table α := t.filter fun k _ => k != key

/-- Changes every value. -/
def map (t : Table α) (f : α → β) : Table β :=
  ⟨t.entries.map fun e => (e.1, f e.2), List.pairwise_map.2 t.sorted⟩

/-- Whether something is stored under `key`. -/
def contains (t : Table α) (key : String) : Bool := (t.get? key).isSome

theorem lookup_eq_none {es : List (String × α)} {key : String} (h : ∀ e ∈ es, key < e.1) :
    es.lookup key = none := by
  induction es with
  | nil => rfl
  | cons d rest ih =>
    obtain ⟨k, v⟩ := d
    have hne : (key == k) = false := by
      simp only [beq_eq_false_iff_ne]
      rintro rfl
      exact String.lt_irrefl _ (h _ List.mem_cons_self)
    rw [List.lookup_cons, hne]
    exact ih fun e he => h e (List.mem_cons_of_mem _ he)

theorem lookup_insertEntry (key key' : String) (value : α) (es : List (String × α)) :
    (insertEntry key value es).lookup key' =
      if key' = key then some value else es.lookup key' := by
  induction es with
  | nil => simp only [insertEntry, List.lookup_cons, List.lookup_nil]; split <;> simp_all
  | cons d rest ih =>
    obtain ⟨k, v⟩ := d
    simp only [insertEntry]
    split
    next => simp only [List.lookup_cons]; split <;> simp_all
    next =>
      split
      next heq => subst heq; simp only [List.lookup_cons]; split <;> simp_all
      next hne => simp only [List.lookup_cons, ih]; split <;> simp_all [Ne.symm]

@[simp] theorem get?_empty (key : String) : (empty : Table α).get? key = none := rfl

theorem get?_insert (t : Table α) (key key' : String) (value : α) :
    (t.insert key value).get? key' = if key' = key then some value else t.get? key' :=
  lookup_insertEntry key key' value t.entries

theorem lookup_filter {es : List (String × α)} (h : es.Pairwise (·.1 < ·.1))
    (keep : String → α → Bool) (key : String) :
    (es.filter fun e => keep e.1 e.2).lookup key = (es.lookup key).filter (keep key) := by
  induction es with
  | nil => rfl
  | cons d rest ih =>
    obtain ⟨k, v⟩ := d
    have hk := List.pairwise_cons.1 h
    by_cases heq : key = k
    · subst heq
      have hrest : (rest.filter fun e => keep e.1 e.2).lookup key = none :=
        lookup_eq_none fun e he => hk.1 e (List.mem_filter.1 he).1
      by_cases hkeep : keep key v = true
      · simp [hkeep, Option.filter]
      · simp [hkeep, hrest, Option.filter]
    · have hne : (key == k) = false := by simpa using heq
      rw [List.filter_cons]
      split
      · rw [List.lookup_cons, List.lookup_cons, hne]; exact ih hk.2
      · rw [List.lookup_cons, hne]; exact ih hk.2

theorem get?_filter (t : Table α) (keep : String → α → Bool) (key : String) :
    (t.filter keep).get? key = (t.get? key).filter (keep key) :=
  lookup_filter t.sorted keep key

theorem get?_erase (t : Table α) (key key' : String) :
    (t.erase key).get? key' = if key' = key then none else t.get? key' := by
  rw [erase, get?_filter]
  by_cases h : key' = key
  · simp [h]
  · cases t.get? key' <;> simp [h]

theorem lookup_map (f : α → β) (key : String) (es : List (String × α)) :
    (es.map fun e => (e.1, f e.2)).lookup key = (es.lookup key).map f := by
  induction es with
  | nil => rfl
  | cons d rest ih =>
    obtain ⟨k, v⟩ := d
    rw [List.map_cons, List.lookup_cons, List.lookup_cons]
    cases key == k with
    | true => rfl
    | false => exact ih

theorem get?_map (t : Table α) (f : α → β) (key : String) :
    (t.map f).get? key = (t.get? key).map f :=
  lookup_map f key t.entries

theorem mem_entries_iff {t : Table α} {key : String} {value : α} :
    (key, value) ∈ t.entries ↔ t.get? key = some value := by
  obtain ⟨es, hs⟩ := t
  simp only [get?]
  induction es with
  | nil => simp
  | cons d rest ih =>
    obtain ⟨k, v⟩ := d
    have hk := List.pairwise_cons.1 hs
    by_cases heq : key = k
    · subst heq
      have : (key, value) ∉ rest := fun hm => String.lt_irrefl key (hk.1 (key, value) hm)
      simp [this, eq_comm]
    · have hne : (key == k) = false := by simpa using heq
      rw [List.lookup_cons, hne, List.mem_cons]
      simp [heq, ih hk.2]

/-- There is at most one entry with a key. -/
theorem filter_entries (t : Table α) (key : String) :
    (t.entries.filter fun e => e.1 == key) = ((t.get? key).map (key, ·)).toList := by
  obtain ⟨es, hs⟩ := t
  simp only [get?]
  induction es with
  | nil => rfl
  | cons d rest ih =>
    obtain ⟨k, v⟩ := d
    have hk := List.pairwise_cons.1 hs
    rw [List.filter_cons, List.lookup_cons]
    by_cases heq : k = key
    · subst heq
      have hrest : (rest.filter fun e => e.1 == k) = [] :=
        List.filter_eq_nil_iff.2 fun e he hek => by
          have hlt := hk.1 e he
          rw [beq_iff_eq.1 hek] at hlt
          exact String.lt_irrefl _ hlt
      simp [hrest]
    · rw [if_neg (by simpa using heq), beq_eq_false_iff_ne.2 (Ne.symm heq)]
      exact ih hk.2

/-- What is stored under a key, and the other values. -/
theorem values_perm {t : Table α} {key : String} {value : α} (h : t.get? key = some value) :
    t.values.Perm (value :: (t.erase key).values) := by
  have hperm := List.filter_append_perm (fun e => e.1 == key) t.entries
  rw [filter_entries, h] at hperm
  exact (hperm.symm.map (·.2) : _)

/-- A table is determined by what is stored under each key. -/
theorem ext {t u : Table α} (h : ∀ key, t.get? key = u.get? key) : t = u := by
  have hmem : ∀ e, e ∈ t.entries ↔ e ∈ u.entries := fun ⟨k, v⟩ => by
    rw [mem_entries_iff, mem_entries_iff, h]
  obtain ⟨es, hs⟩ := t
  obtain ⟨fs, hf⟩ := u
  congr
  simp only at hmem
  clear h
  induction es generalizing fs with
  | nil => exact (List.eq_nil_iff_forall_not_mem.2 fun e he => by simpa using (hmem e).2 he).symm
  | cons d rest ih =>
    cases fs with
    | nil => exact absurd ((hmem d).1 List.mem_cons_self) (by simp)
    | cons c gs =>
      have hd := List.pairwise_cons.1 hs
      have hc := List.pairwise_cons.1 hf
      have heq : d = c := by
        rcases List.mem_cons.1 ((hmem d).1 List.mem_cons_self) with h | h
        · exact h
        · rcases List.mem_cons.1 ((hmem c).2 List.mem_cons_self) with h' | h'
          · exact h'.symm
          · exact absurd (hd.1 c h') (String.lt_asymm (hc.1 d h))
      subst heq
      congr
      refine ih hd.2 gs hc.2 fun e => ⟨fun he => ?_, fun he => ?_⟩
      · rcases List.mem_cons.1 ((hmem e).1 (List.mem_cons_of_mem _ he)) with h | h
        · exact absurd (hd.1 e he) (h ▸ String.lt_irrefl _)
        · exact h
      · rcases List.mem_cons.1 ((hmem e).2 (List.mem_cons_of_mem _ he)) with h | h
        · exact absurd (hc.1 e he) (h ▸ String.lt_irrefl _)
        · exact h

end Table
end Vigil

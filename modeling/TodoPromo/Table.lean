/-! # Tables

Finite maps that remember in which order their keys came first. A table is the list of its entries,
with distinct keys; its view is `get?`. Main statements: what `get?` answers after `insert` and
`erase`, and that undoing an insertion restores the very same table. -/

namespace TodoPromo

/-- Entries with pairwise distinct keys, in the order in which the keys were first inserted. -/
structure Table (κ α : Type) where
  entries : List (κ × α)
  keys_nodup : (entries.map Prod.fst).Nodup

namespace Table

variable {κ α : Type}

theorem ext {s t : Table κ α} (h : s.entries = t.entries) : s = t := by
  cases s
  cases t
  simp_all

instance [DecidableEq κ] [DecidableEq α] : DecidableEq (Table κ α) := fun s t =>
  if h : s.entries = t.entries then isTrue (ext h) else isFalse fun e => h (e ▸ rfl)

def empty : Table κ α := ⟨[], by simp⟩

instance : EmptyCollection (Table κ α) := ⟨empty⟩
instance : Inhabited (Table κ α) := ⟨empty⟩

def keys (t : Table κ α) : List κ := t.entries.map Prod.fst

def size (t : Table κ α) : Nat := t.entries.length

variable [DecidableEq κ]

/-- Replaces the value of a key at its place, or adds the key at the end. -/
def put (k : κ) (v : α) : List (κ × α) → List (κ × α)
  | [] => [(k, v)]
  | e :: rest => if e.1 = k then (k, v) :: rest else e :: put k v rest

/-- The value of a key. -/
def find? (k : κ) : List (κ × α) → Option α
  | [] => none
  | e :: rest => if e.1 = k then some e.2 else find? k rest

theorem keys_put (k : κ) (v : α) (l : List (κ × α)) :
    (put k v l).map Prod.fst =
      if k ∈ l.map Prod.fst then l.map Prod.fst else l.map Prod.fst ++ [k] := by
  induction l with
  | nil => simp [put]
  | cons e rest ih =>
    by_cases h : e.1 = k
    · simp [put, h]
    · by_cases hk : k ∈ rest.map Prod.fst <;> simp_all [put, Ne.symm h]

theorem nodup_put {k : κ} {v : α} {l : List (κ × α)} (h : (l.map Prod.fst).Nodup) :
    ((put k v l).map Prod.fst).Nodup := by
  rw [keys_put]
  split
  · exact h
  · rw [List.nodup_append]
    refine ⟨h, by simp, ?_⟩
    rintro a ha b hb rfl
    simp_all

def get? (t : Table κ α) (k : κ) : Option α := find? k t.entries

def contains (t : Table κ α) (k : κ) : Bool := (t.get? k).isSome

def insert (t : Table κ α) (k : κ) (v : α) : Table κ α :=
  ⟨put k v t.entries, nodup_put t.keys_nodup⟩

def erase (t : Table κ α) (k : κ) : Table κ α :=
  ⟨t.entries.filter (·.1 ≠ k), (List.filter_sublist.map Prod.fst).nodup t.keys_nodup⟩

/-- The table of a list of entries; the last value of a key counts. -/
def ofList (l : List (κ × α)) : Table κ α := l.foldl (fun t e => t.insert e.1 e.2) empty

theorem find?_put (k k' : κ) (v : α) (l : List (κ × α)) :
    find? k' (put k v l) = if k = k' then some v else find? k' l := by
  induction l with
  | nil => simp [put, find?]
  | cons e rest ih => by_cases h : e.1 = k <;> by_cases h' : e.1 = k' <;> grind [put, find?]

theorem find?_filter (k k' : κ) (l : List (κ × α)) :
    find? k' (l.filter (·.1 ≠ k)) = if k = k' then none else find? k' l := by
  induction l with
  | nil => simp [find?]
  | cons e rest ih => by_cases h : e.1 = k <;> by_cases h' : e.1 = k' <;> grind [find?]

@[simp] theorem get?_empty (k : κ) : (empty : Table κ α).get? k = none := rfl

theorem get?_insert (t : Table κ α) (k k' : κ) (v : α) :
    (t.insert k v).get? k' = if k = k' then some v else t.get? k' :=
  find?_put k k' v t.entries

theorem get?_erase (t : Table κ α) (k k' : κ) :
    (t.erase k).get? k' = if k = k' then none else t.get? k' :=
  find?_filter k k' t.entries

/-- Where the keys are distinct, the order of the entries does not matter. -/
theorem find?_of_perm {l l' : List (κ × α)} (h : l.Perm l') (hnodup : (l.map Prod.fst).Nodup) (k : κ) :
    find? k l = find? k l' := by
  induction h with
  | nil => rfl
  | cons e _ ih =>
    rw [List.map_cons, List.nodup_cons] at hnodup
    simp only [find?, ih hnodup.2]
  | swap e e' l =>
    rw [List.map_cons, List.map_cons, List.nodup_cons, List.mem_cons, not_or] at hnodup
    have hne : e'.1 ≠ e.1 := hnodup.1.1
    by_cases he : e.1 = k <;> by_cases he' : e'.1 = k <;> simp_all [find?]
  | trans h _ ih ih' =>
    exact (ih hnodup).trans (ih' ((h.map Prod.fst).nodup hnodup))

/-- Tables with the same entries in different order have the same view. -/
theorem get?_of_perm {s t : Table κ α} (h : s.entries.Perm t.entries) (k : κ) : s.get? k = t.get? k :=
  find?_of_perm h s.keys_nodup k

theorem put_put_of_find? {k : κ} {v w : α} {l : List (κ × α)} (h : find? k l = some w) :
    put k w (put k v l) = l := by
  induction l with
  | nil => simp [find?] at h
  | cons e rest ih => by_cases he : e.1 = k <;> grind [put, find?]

/-- Writing back the value that a key had undoes an insertion. -/
theorem insert_insert_of_get? {t : Table κ α} {k : κ} {v w : α} (h : t.get? k = some w) :
    (t.insert k v).insert k w = t :=
  ext (put_put_of_find? h)

theorem put_of_find? {k : κ} {v : α} {l : List (κ × α)} (h : find? k l = some v) :
    put k v l = l := by
  induction l with
  | nil => simp [find?] at h
  | cons e rest ih => by_cases he : e.1 = k <;> grind [put, find?]

/-- Writing the value that a key has changes nothing. -/
theorem insert_of_get? {t : Table κ α} {k : κ} {v : α} (h : t.get? k = some v) :
    t.insert k v = t :=
  ext (put_of_find? h)

theorem filter_put_of_find? {k : κ} {v : α} {l : List (κ × α)} (h : find? k l = none) :
    (put k v l).filter (·.1 ≠ k) = l := by
  induction l with
  | nil => simp [put]
  | cons e rest ih => by_cases he : e.1 = k <;> grind [put, find?]

/-- Removing a key that was new undoes its insertion. -/
theorem erase_insert_of_get? {t : Table κ α} {k : κ} {v : α} (h : t.get? k = none) :
    (t.insert k v).erase k = t :=
  ext (filter_put_of_find? h)

theorem put_of_not_mem {k : κ} {v : α} {l : List (κ × α)} (h : k ∉ l.map Prod.fst) :
    put k v l = l ++ [(k, v)] := by
  induction l with
  | nil => rfl
  | cons e rest ih =>
    simp only [List.map_cons, List.mem_cons, not_or] at h
    simp [put, Ne.symm h.1, ih h.2]

theorem entries_foldl_insert (l : List (κ × α)) (t : Table κ α)
    (h : ((t.entries ++ l).map Prod.fst).Nodup) :
    (l.foldl (fun t e => t.insert e.1 e.2) t).entries = t.entries ++ l := by
  induction l generalizing t with
  | nil => simp
  | cons e rest ih =>
    have hk : e.1 ∉ t.entries.map Prod.fst := by
      intro hm
      rw [List.map_append, List.nodup_append] at h
      exact h.2.2 _ hm _ (by simp) rfl
    have hput : (t.insert e.1 e.2).entries = t.entries ++ [e] := put_of_not_mem hk
    rw [List.foldl_cons, ih _ (by simpa [hput] using h), hput]
    simp

/-- A table is the table of its entries. -/
theorem ofList_entries (t : Table κ α) : ofList t.entries = t :=
  ext (entries_foldl_insert t.entries empty t.keys_nodup)

end Table
end TodoPromo

import Relabel.Text.Ranges

/-!
# Insertion-ordered tables

A table maps names to values and remembers the order in which its keys came in. Inserting under a
key that is present keeps the key's place and replaces the value; a new key goes to the end. The
keys of a table are distinct by construction.
-/

namespace Relabel

/-- Replaces the value of the first entry with key `k`, or appends an entry. -/
def putEntry {α : Type} (k : Name) (v : α) : List (Name × α) → List (Name × α)
  | [] => [(k, v)]
  | (k₁, v₁) :: rest => if k₁ = k then (k, v) :: rest else (k₁, v₁) :: putEntry k v rest

/-- The value of the first entry with key `k`. -/
def valueAt? {α : Type} (k : Name) : List (Name × α) → Option α
  | [] => none
  | (k₁, v₁) :: rest => if k₁ = k then some v₁ else valueAt? k rest

theorem map_fst_putEntry {α : Type} (k : Name) (v : α) (l : List (Name × α)) :
    (putEntry k v l).map Prod.fst =
      if k ∈ l.map Prod.fst then l.map Prod.fst else l.map Prod.fst ++ [k] := by
  induction l with
  | nil => simp [putEntry]
  | cons e rest ih =>
    rcases e with ⟨k₁, v₁⟩
    by_cases h : k₁ = k
    · simp [putEntry, h]
    · have h₁ : ¬ k = k₁ := fun e => h e.symm
      simp only [putEntry, if_neg h, List.map_cons, ih, List.mem_cons, h₁, false_or]
      split <;> simp

theorem valueAt?_putEntry {α : Type} (k q : Name) (v : α) (l : List (Name × α)) :
    valueAt? q (putEntry k v l) = if q = k then some v else valueAt? q l := by
  induction l with
  | nil => simp [putEntry, valueAt?, eq_comm]
  | cons e rest ih =>
    rcases e with ⟨k₁, v₁⟩
    by_cases h : k₁ = k
    · subst h
      by_cases hq : q = k₁
      · simp [putEntry, valueAt?, hq]
      · have hq₁ : ¬ k₁ = q := fun e => hq e.symm
        simp [putEntry, valueAt?, hq, hq₁]
    · by_cases hq : k₁ = q
      · subst hq
        simp [putEntry, valueAt?, h]
      · simp [putEntry, valueAt?, h, hq, ih]

/-- A map from names to values that keeps its keys in the order of insertion. -/
structure Table (α : Type) where
  entries : List (Name × α)
  nodup : (entries.map Prod.fst).Nodup
deriving DecidableEq, Repr

namespace Table

variable {α β : Type}

theorem ext {t u : Table α} (h : t.entries = u.entries) : t = u := by
  cases t; cases u; cases h; rfl

def empty : Table α :=
  ⟨[], List.nodup_nil⟩

instance : EmptyCollection (Table α) := ⟨empty⟩
instance : Inhabited (Table α) := ⟨empty⟩

def keys (t : Table α) : List Name :=
  t.entries.map Prod.fst

def values (t : Table α) : List α :=
  t.entries.map Prod.snd

def size (t : Table α) : Nat :=
  t.entries.length

def isEmpty (t : Table α) : Bool :=
  t.entries.isEmpty

def get? (t : Table α) (k : Name) : Option α :=
  valueAt? k t.entries

def contains (t : Table α) (k : Name) : Bool :=
  (t.get? k).isSome

def insert (t : Table α) (k : Name) (v : α) : Table α where
  entries := putEntry k v t.entries
  nodup := by
    rw [map_fst_putEntry]
    split
    · exact t.nodup
    · rename_i h
      rw [List.nodup_append]
      refine ⟨t.nodup, by simp, ?_⟩
      intro a ha b hb
      have hk : b = k := by simpa using hb
      rintro rfl
      exact h (hk ▸ ha)

/-- Inserts entries from left to right. -/
def insertAll (t : Table α) (entries : List (Name × α)) : Table α :=
  entries.foldl (fun t e => t.insert e.1 e.2) t

/-- The table with the given entries; of entries with one key the first gives the place and the last
the value. -/
def ofList (entries : List (Name × α)) : Table α :=
  insertAll empty entries

/-- Drops the entries whose key is refused. -/
def filterKeys (p : Name → Bool) (t : Table α) : Table α where
  entries := t.entries.filter fun e => p e.1
  nodup := (List.filter_sublist.map Prod.fst).nodup t.nodup

def mapValues (f : α → β) (t : Table α) : Table β where
  entries := t.entries.map fun e => (e.1, f e.2)
  nodup := by
    have h : (t.entries.map fun e => (e.1, f e.2)).map Prod.fst = t.entries.map Prod.fst := by
      simp [Function.comp_def]
    rw [h]
    exact t.nodup

theorem keys_nodup (t : Table α) : t.keys.Nodup :=
  t.nodup

theorem keys_insert (t : Table α) (k : Name) (v : α) :
    (t.insert k v).keys = if k ∈ t.keys then t.keys else t.keys ++ [k] :=
  map_fst_putEntry k v t.entries

theorem get?_insert (t : Table α) (k q : Name) (v : α) :
    (t.insert k v).get? q = if q = k then some v else t.get? q :=
  valueAt?_putEntry k q v t.entries

end Table

/-- New names by old name. -/
abbrev RenameTable := Table Name

/-- Rename tables by scope: a component, or the fallback scope. -/
abbrev Scopes := Table RenameTable

end Relabel

import Relabel.Database
import Relabel.Proofs.Words

/-!
# What a database answers

A look-up answers with a new name of some table, or with the name it was asked for. Conditions on a
database are put on the tables of its scopes, so that they can be checked one entry at a time.
-/

namespace Relabel

open Text

theorem mem_of_valueAt? {α : Type} {k : Name} {v : α} {l : List (Name × α)}
    (h : valueAt? k l = some v) : (k, v) ∈ l := by
  induction l with
  | nil => contradiction
  | cons e rest ih =>
    rcases e with ⟨k₁, v₁⟩
    rw [valueAt?] at h
    split at h
    · rename_i hk
      rw [← hk, ← Option.some.inj h]
      exact List.mem_cons_self
    · exact List.mem_cons_of_mem _ (ih h)

theorem Table.mem_entries_of_get? {α : Type} {t : Table α} {k : Name} {v : α}
    (h : t.get? k = some v) : (k, v) ∈ t.entries :=
  mem_of_valueAt? h

theorem Table.mem_keys_of_get? {α : Type} {t : Table α} {k : Name} {v : α} (h : t.get? k = some v) :
    k ∈ t.keys :=
  List.mem_map_of_mem (Table.mem_entries_of_get? h)

theorem Table.mem_values_of_get? {α : Type} {t : Table α} {k : Name} {v : α}
    (h : t.get? k = some v) : v ∈ t.values :=
  List.mem_map_of_mem (Table.mem_entries_of_get? h)

namespace Database

/-- The new names of all tables. -/
def newNames (db : Database) : List Name :=
  db.scopes.values.flatMap Table.values

/-- Whether the table of a scope has a new name. -/
def IsNewNameOf (db : Database) (scope v : Name) : Prop :=
  ∃ table, db.scopes.get? scope = some table ∧ v ∈ table.values

/-- Whether every table has `v` under a key, if it has anything there. -/
def Fixes (db : Database) (v : Name) : Prop :=
  ∀ table ∈ db.scopes.values, ∀ key ∈ [v, lower v],
    table.get? key = none ∨ table.get? key = some v

instance (db : Database) (v : Name) : Decidable (db.Fixes v) :=
  inferInstanceAs (Decidable (∀ table ∈ db.scopes.values, ∀ key ∈ [v, lower v],
    table.get? key = none ∨ table.get? key = some v))

/-- Whether every table has each of its new names under the lowered key, too. -/
def LoweredClosed (db : Database) : Prop :=
  ∀ table ∈ db.scopes.values, ∀ entry ∈ table.entries, table.get? (lower entry.1) = some entry.2

instance (db : Database) : Decidable db.LoweredClosed :=
  inferInstanceAs (Decidable (∀ table ∈ db.scopes.values, ∀ entry ∈ table.entries,
    table.get? (lower entry.1) = some entry.2))

variable {db : Database}

/-! ## 1. Entries -/

theorem newName?_eq_some {scope key v : Name} :
    db.newName? scope key = some v ↔
      ∃ table, db.scopes.get? scope = some table ∧ table.get? key = some v :=
  Option.bind_eq_some_iff

theorem isNewNameOf_of_newName? {scope key v : Name} (h : db.newName? scope key = some v) :
    db.IsNewNameOf scope v := by
  rcases newName?_eq_some.mp h with ⟨table, hscope, hkey⟩
  exact ⟨table, hscope, Table.mem_values_of_get? hkey⟩

theorem IsNewNameOf.mem_newNames {scope v : Name} (h : db.IsNewNameOf scope v) :
    v ∈ db.newNames := by
  rcases h with ⟨table, hscope, hv⟩
  exact List.mem_flatMap.mpr ⟨table, Table.mem_values_of_get? hscope, hv⟩

theorem mem_newNames_of_newName? {scope key v : Name} (h : db.newName? scope key = some v) :
    v ∈ db.newNames :=
  (isNewNameOf_of_newName? h).mem_newNames

theorem Fixes.newName?_eq {v : Name} (hv : db.Fixes v) (scope : Name) {key : Name}
    (hkey : key ∈ [v, lower v]) : (db.newName? scope key).getD v = v := by
  cases h : db.newName? scope key with
  | none => rfl
  | some u =>
    -- the entry found is in one of the tables that fix the name
    rcases newName?_eq_some.mp h with ⟨table, hscope, hu⟩
    rcases hv table (Table.mem_values_of_get? hscope) key hkey with hnone | hsome
    · rw [hnone] at hu
      contradiction
    · rw [hsome] at hu
      exact (Option.some.inj hu).symm

theorem LoweredClosed.newName? {scope key v : Name} (hclosed : db.LoweredClosed)
    (h : db.newName? scope key = some v) : db.newName? scope (lower key) = some v := by
  rcases newName?_eq_some.mp h with ⟨table, hscope, hkey⟩
  exact newName?_eq_some.mpr ⟨table, hscope,
    hclosed table (Table.mem_values_of_get? hscope) (key, v) (Table.mem_entries_of_get? hkey)⟩

theorem isEmpty_eq_false {scope : Name} {table : RenameTable}
    (h : db.scopes.get? scope = some table) : db.isEmpty = false := by
  have hmem := Table.mem_entries_of_get? h
  rw [isEmpty, Table.isEmpty, List.isEmpty_eq_false_iff]
  exact List.ne_nil_of_mem hmem

/-! ## 2. Look-ups -/

theorem lookup_exact (scope name : Name) :
    db.lookup .exact scope name = (db.newName? scope name).getD name := by
  cases h : db.newName? scope name <;>
    simp [lookup, resolve, Query.exact, h, Resolution.new?]

theorem lookup_folded (scope name : Name) :
    db.lookup .folded scope name =
      ((db.newName? scope (lower name)).or (db.newName? fallbackScope (lower name))).getD name := by
  cases h : db.newName? scope (lower name) <;>
    cases hall : db.newName? fallbackScope (lower name) <;>
    simp [lookup, resolve, Query.folded, h, hall, Resolution.new?]

theorem lookup_of_newName? {query : Query} {scope name v : Name}
    (h : db.newName? scope (if query.caseFold then lower name else name) = some v) :
    db.lookup query scope name = v := by
  simp [lookup, resolve, h, Resolution.new?]

/-- A look-up answers with the name itself or with what a table that it may ask has for its key. -/
theorem lookup_eq_self_or_newName? (db : Database) (query : Query) (scope name : Name) :
    db.lookup query scope name = name ∨
      ∃ asked, (asked = scope ∨ query.useFallback = true ∧ asked = fallbackScope) ∧
        db.newName? asked (if query.caseFold then lower name else name) =
          some (db.lookup query scope name) := by
  unfold lookup resolve
  dsimp only
  generalize (if query.caseFold then lower name else name) = key
  cases hscope : db.newName? scope key with
  | some new => exact .inr ⟨scope, .inl rfl, hscope⟩
  | none =>
    cases hall : (if query.useFallback then db.newName? fallbackScope key else none) with
    | none => exact .inl rfl
    | some new =>
      split at hall
      · rename_i hfallback
        exact .inr ⟨fallbackScope, .inr ⟨hfallback, rfl⟩, hall⟩
      · contradiction

/-- A look-up answers with the name itself or with a new name. -/
theorem lookup_eq_self_or_mem (db : Database) (query : Query) (scope name : Name) :
    db.lookup query scope name = name ∨ db.lookup query scope name ∈ db.newNames := by
  rcases db.lookup_eq_self_or_newName? query scope name with heq | ⟨asked, -, h⟩
  · exact .inl heq
  · exact .inr (mem_newNames_of_newName? h)

theorem Fixes.lookup_exact {v : Name} (hv : db.Fixes v) (scope : Name) :
    db.lookup .exact scope v = v := by
  rw [Database.lookup_exact]
  exact hv.newName?_eq scope (by simp)

theorem Fixes.lookup_folded {v : Name} (hv : db.Fixes v) (scope : Name) :
    db.lookup .folded scope v = v := by
  have hscope := hv.newName?_eq scope (show lower v ∈ [v, lower v] by simp)
  have hall := hv.newName?_eq fallbackScope (show lower v ∈ [v, lower v] by simp)
  rw [Database.lookup_folded]
  cases h : db.newName? scope (lower v) with
  | none => rwa [Option.none_or]
  | some u => rwa [h] at hscope

/-- An exact look-up in front of a folded one of the same scope makes no difference. -/
theorem LoweredClosed.lookup_folded_exact (hclosed : db.LoweredClosed)
    (hfixed : ∀ v ∈ db.newNames, db.Fixes v) (scope name : Name) :
    db.lookup .folded scope (db.lookup .exact scope name) = db.lookup .folded scope name := by
  rw [Database.lookup_exact]
  cases h : db.newName? scope name with
  | none => rfl
  | some v =>
    rw [Option.getD_some, (hfixed v (mem_newNames_of_newName? h)).lookup_folded,
      Database.lookup_folded, hclosed.newName? h]
    rfl

/-- A database whose new names are words answers a word with a word. -/
def KeepsWords (db : Database) (query : Query) (component : Name) : Prop :=
  ∀ w, IsIdentifier w → IsIdentifier (db.lookup query component w)

theorem keepsWords (hnames : ∀ v ∈ db.newNames, IsIdentifier v) (query : Query) (component : Name) :
    db.KeepsWords query component := by
  intro w hw
  rcases db.lookup_eq_self_or_mem query component w with heq | hmem
  · rwa [heq]
  · exact hnames _ hmem

end Database

end Relabel

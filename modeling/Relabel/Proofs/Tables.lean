import Mathlib.Data.List.Induction
import Mathlib.Data.List.Nodup
import Relabel.Proofs.Lookups

/-!
# Tables and their entries

What a table answers after entries have been put into it, and tables in which every name stands for
itself. The keys of such a table are the first occurrences of the names it was made from.
-/

namespace Relabel

/-! ## 1. First occurrences -/

section FirstOccurrences

variable {α β : Type} [BEq α] [LawfulBEq α] [BEq β] [LawfulBEq β]

theorem eraseDups_concat (l : List α) (a : α) :
    (l ++ [a]).eraseDups = if a ∈ l then l.eraseDups else l.eraseDups ++ [a] := by
  rw [List.eraseDups_append, List.removeAll, List.filter_singleton]
  by_cases ha : a ∈ l
  · rw [if_pos ha]
    simp [ha]
  · rw [if_neg ha]
    simp [ha, List.eraseDups_cons]

theorem nodup_eraseDups (l : List α) : l.eraseDups.Nodup := by
  induction l using List.reverseRecOn with
  | nil => exact List.nodup_nil
  | append_singleton l a ih =>
    rw [eraseDups_concat]
    split
    · exact ih
    · rename_i ha
      rw [← List.concat_eq_append]
      exact ih.concat fun hmem => ha (List.mem_eraseDups.mp hmem)

theorem eraseDups_of_nodup {l : List α} (hl : l.Nodup) : l.eraseDups = l := by
  induction l using List.reverseRecOn with
  | nil => rfl
  | append_singleton l a ih =>
    rcases List.nodup_append.mp hl with ⟨hnodup, -, hdisjoint⟩
    have ha : a ∉ l := fun hmem => hdisjoint a hmem a List.mem_cons_self rfl
    rw [eraseDups_concat, if_neg ha, ih hnodup]

theorem eraseDups_eraseDups_append (l m : List α) :
    (l.eraseDups ++ m).eraseDups = (l ++ m).eraseDups := by
  induction m using List.reverseRecOn with
  | nil => rw [List.append_nil, List.append_nil, eraseDups_of_nodup (nodup_eraseDups l)]
  | append_singleton m a ih =>
    rw [← List.append_assoc, ← List.append_assoc, eraseDups_concat, eraseDups_concat, ih]
    simp only [List.mem_append, List.mem_eraseDups]

theorem eraseDups_map_eraseDups (f : α → β) (l : List α) :
    (l.eraseDups.map f).eraseDups = (l.map f).eraseDups := by
  induction l using List.reverseRecOn with
  | nil => rfl
  | append_singleton l a ih =>
    rw [eraseDups_concat, List.map_append, List.map_singleton, eraseDups_concat]
    by_cases ha : a ∈ l
    · rw [if_pos ha, if_pos (List.mem_map_of_mem ha), ih]
    · rw [if_neg ha, List.map_append, List.map_singleton, eraseDups_concat, ih]
      -- the image of `a` is new behind the first occurrences exactly when it is new
      have hmem : f a ∈ l.eraseDups.map f ↔ f a ∈ l.map f := by
        simp only [List.mem_map, List.mem_eraseDups]
      simp only [hmem]

end FirstOccurrences

/-! ## 2. Association lists -/

section Entries

variable {α : Type}

theorem valueAt?_eq_none {k : Name} {l : List (Name × α)} :
    valueAt? k l = none ↔ k ∉ l.map Prod.fst := by
  induction l with
  | nil => simp [valueAt?]
  | cons e rest ih =>
    rw [valueAt?, List.map_cons, List.mem_cons, not_or]
    split
    · rename_i hk
      simp [hk]
    · rename_i hk
      rw [ih]
      exact ⟨fun hno => ⟨fun heq => hk heq.symm, hno⟩, And.right⟩

theorem valueAt?_of_mem {k : Name} {v : α} {l : List (Name × α)} (hl : (l.map Prod.fst).Nodup)
    (h : (k, v) ∈ l) : valueAt? k l = some v := by
  induction l with
  | nil => contradiction
  | cons e rest ih =>
    rw [List.map_cons, List.nodup_cons] at hl
    rw [valueAt?]
    rcases List.mem_cons.mp h with rfl | hmem
    · rw [if_pos rfl]
    · rw [if_neg, ih hl.2 hmem]
      intro hk
      exact hl.1 (hk ▸ List.mem_map_of_mem hmem)

theorem valueAt?_eq_some {k : Name} {v : α} {l : List (Name × α)} (hl : (l.map Prod.fst).Nodup) :
    valueAt? k l = some v ↔ (k, v) ∈ l :=
  ⟨mem_of_valueAt?, valueAt?_of_mem hl⟩

/-- Entries with different keys answer alike in any order. -/
theorem valueAt?_perm {l m : List (Name × α)} (h : l.Perm m) (hl : (l.map Prod.fst).Nodup)
    (k : Name) :
    valueAt? k l = valueAt? k m := by
  have hm : (m.map Prod.fst).Nodup := (h.map Prod.fst).nodup_iff.mp hl
  apply Option.ext
  intro v
  rw [valueAt?_eq_some hl, valueAt?_eq_some hm, h.mem_iff]

theorem valueAt?_append (k : Name) (l m : List (Name × α)) :
    valueAt? k (l ++ m) = (valueAt? k l).or (valueAt? k m) := by
  induction l with
  | nil => rfl
  | cons e l ih =>
    rw [List.cons_append, valueAt?, valueAt?, ih]
    split <;> rfl

/-- Read backward, entries answer with the last one that has the key. -/
theorem valueAt?_reverse_eq_some {k : Name} {v : α} {l : List (Name × α)} :
    valueAt? k l.reverse = some v ↔
      ∃ before after, l = before ++ (k, v) :: after ∧ k ∉ after.map Prod.fst := by
  constructor
  · intro h
    induction l with
    | nil => contradiction
    | cons e l ih =>
      rw [List.reverse_cons, valueAt?_append, Option.or_eq_some_iff] at h
      rcases h with hlater | ⟨hnone, hfirst⟩
      · rcases ih hlater with ⟨before, after, rfl, hafter⟩
        exact ⟨e :: before, after, rfl, hafter⟩
      · rcases List.mem_singleton.mp (mem_of_valueAt? hfirst) with rfl
        exact ⟨[], l, rfl, by simpa using valueAt?_eq_none.mp hnone⟩
  · rintro ⟨before, after, rfl, hafter⟩
    have hnone : valueAt? k after.reverse = none := valueAt?_eq_none.mpr (by simpa using hafter)
    rw [List.reverse_append, List.reverse_cons, valueAt?_append, valueAt?_append, hnone,
      Option.none_or, valueAt?, if_pos rfl, Option.some_or]

theorem putEntry_of_valueAt? {k : Name} {v : α} {l : List (Name × α)} (h : valueAt? k l = some v) :
    putEntry k v l = l := by
  induction l with
  | nil => contradiction
  | cons e l ih =>
    rw [valueAt?] at h
    rw [putEntry]
    split at h
    · rename_i hk
      rw [if_pos hk, ← hk, ← Option.some.inj h]
    · rename_i hk
      rw [if_neg hk, ih h]

theorem putEntry_putEntry (k : Name) (v w : α) (l : List (Name × α)) :
    putEntry k v (putEntry k w l) = putEntry k v l := by
  induction l with
  | nil => simp [putEntry]
  | cons e l ih =>
    by_cases hk : e.1 = k
    · simp [putEntry, hk]
    · simp [putEntry, hk, ih]

theorem putEntry_of_notMem {k : Name} (v : α) {l : List (Name × α)} (hk : k ∉ l.map Prod.fst) :
    putEntry k v l = l ++ [(k, v)] := by
  induction l with
  | nil => rfl
  | cons e rest ih =>
    rw [List.map_cons, List.mem_cons, not_or] at hk
    rw [putEntry, if_neg fun heq => hk.1 heq.symm, ih hk.2, List.cons_append]

end Entries

namespace Table

variable {α β : Type}

/-! ## 3. What a table answers -/

theorem get?_eq_none {t : Table α} {k : Name} : t.get? k = none ↔ k ∉ t.keys :=
  valueAt?_eq_none

theorem get?_of_mem {t : Table α} {k : Name} {v : α} (h : (k, v) ∈ t.entries) : t.get? k = some v :=
  valueAt?_of_mem t.nodup h

theorem keys_perm {t u : Table α} (h : t.entries.Perm u.entries) : t.keys.Perm u.keys :=
  h.map Prod.fst

theorem get?_perm {t u : Table α} (h : t.entries.Perm u.entries) (k : Name) : t.get? k = u.get? k :=
  valueAt?_perm h t.nodup k

theorem entries_eq_filterMap (t : Table α) :
    t.entries = t.keys.filterMap fun k => (t.get? k).map (k, ·) := by
  have hentry : ∀ e ∈ t.entries, (t.get? e.1).map (e.1, ·) = some e := fun e he => by
    rw [get?_of_mem he, Option.map_some]
  rw [keys, List.filterMap_map]
  exact ((List.filterMap_congr hentry).trans List.filterMap_some).symm

/-- A table is its keys, in order, and what it answers. -/
theorem ext_get? {t u : Table α} (hkeys : t.keys = u.keys) (hget : ∀ k, t.get? k = u.get? k) :
    t = u := by
  apply ext
  rw [entries_eq_filterMap t, entries_eq_filterMap u, hkeys]
  simp only [hget]

theorem contains_iff {t : Table α} {k : Name} : t.contains k = true ↔ k ∈ t.keys := by
  rw [contains, Option.isSome_iff_ne_none, Ne, get?_eq_none, not_not]

theorem entries_insert_of_notMem {t : Table α} {k : Name} (v : α) (hk : k ∉ t.keys) :
    (t.insert k v).entries = t.entries ++ [(k, v)] :=
  putEntry_of_notMem v hk

theorem get?_mapValues (f : α → β) (t : Table α) (k : Name) :
    (t.mapValues f).get? k = (t.get? k).map f := by
  rcases t with ⟨entries, hnodup⟩
  show valueAt? k (entries.map fun e => (e.1, f e.2)) = (valueAt? k entries).map f
  clear hnodup
  induction entries with
  | nil => rfl
  | cons e rest ih =>
    rw [List.map_cons, valueAt?, valueAt?]
    split
    · rfl
    · exact ih

/-- Of entries that are put into a table, the last one with a key is answered, before what
stood in the table. -/
theorem get?_insertAll_reverse (t : Table α) (es : List (Name × α)) (k : Name) :
    (t.insertAll es).get? k = (valueAt? k es.reverse).or (t.get? k) := by
  induction es generalizing t with
  | nil => rfl
  | cons e es ih =>
    show ((t.insert e.1 e.2).insertAll es).get? k = _
    rw [ih, get?_insert, List.reverse_cons, valueAt?_append, Option.or_assoc, valueAt?, valueAt?]
    by_cases hk : e.1 = k
    · rw [if_pos hk, if_pos hk.symm, Option.some_or]
    · rw [if_neg hk, if_neg fun heq => hk heq.symm, Option.none_or]

theorem get?_insertAll {es : List (Name × α)} (hes : (es.map Prod.fst).Nodup) (t : Table α)
    (k : Name) : (t.insertAll es).get? k = (valueAt? k es).or (t.get? k) := by
  rw [get?_insertAll_reverse, valueAt?_perm es.reverse_perm.symm hes]

theorem get?_insertAll_of_forall {t : Table α} {k : Name} {v : α} (ht : t.get? k = some v)
    {es : List (Name × α)} (hes : ∀ e ∈ es, e.1 = k → e.2 = v) :
    (t.insertAll es).get? k = some v := by
  rw [get?_insertAll_reverse]
  cases hlast : valueAt? k es.reverse with
  | none => rw [Option.none_or, ht]
  | some w =>
    have hmem : (k, w) ∈ es := List.mem_reverse.mp (mem_of_valueAt? hlast)
    exact congrArg some (hes (k, w) hmem rfl)

theorem mem_of_get?_insertAll {t : Table α} {es : List (Name × α)} {k : Name} {v : α}
    (h : (t.insertAll es).get? k = some v) : (k, v) ∈ es ∨ t.get? k = some v := by
  rw [get?_insertAll_reverse, Option.or_eq_some_iff] at h
  exact h.imp (fun hlast => List.mem_reverse.mp (mem_of_valueAt? hlast)) And.right

theorem entries_insertAll {es : List (Name × α)} {t : Table α}
    (hes : (t.keys ++ es.map Prod.fst).Nodup) : (t.insertAll es).entries = t.entries ++ es := by
  induction es generalizing t with
  | nil => exact (List.append_nil _).symm
  | cons e es ih =>
    have hk : e.1 ∉ t.keys := by
      intro hmem
      exact (List.nodup_append.mp hes).2.2 e.1 hmem e.1 List.mem_cons_self rfl
    have hentries := entries_insert_of_notMem e.2 hk
    show ((t.insert e.1 e.2).insertAll es).entries = _
    rw [ih, hentries, List.append_assoc, List.singleton_append]
    rw [keys, hentries, List.map_append, List.append_assoc]
    exact hes

theorem entries_ofList {es : List (Name × α)} (hes : (es.map Prod.fst).Nodup) :
    (ofList es).entries = es :=
  entries_insertAll hes

/-! ## 4. Identity tables -/

/-- The table in which each of the given names stands for itself, in the order of first
occurrence. -/
def identity (names : List Name) : RenameTable where
  entries := names.eraseDups.map fun name => (name, name)
  nodup := by
    rw [List.map_map]
    exact (List.map_id _).symm ▸ nodup_eraseDups names

theorem entries_identity (names : List Name) :
    (identity names).entries = names.eraseDups.map fun name => (name, name) := rfl

theorem keys_identity (names : List Name) : (identity names).keys = names.eraseDups := by
  rw [keys, entries_identity, List.map_map]
  exact List.map_id _

theorem values_identity (names : List Name) : (identity names).values = (identity names).keys := by
  rw [keys_identity, values, entries_identity, List.map_map]
  exact List.map_id _

theorem contains_identity {names : List Name} {name : Name} :
    (identity names).contains name = true ↔ name ∈ names := by
  rw [contains_iff, keys_identity, List.mem_eraseDups]

theorem identity_concat (names : List Name) (name : Name) :
    identity (names ++ [name]) =
      if (identity names).contains name then identity names
      else (identity names).insert name name := by
  apply ext
  by_cases hmem : name ∈ names
  · rw [if_pos (contains_identity.mpr hmem), entries_identity, entries_identity, eraseDups_concat,
      if_pos hmem]
  · have hkeys : name ∉ (identity names).keys := by
      rwa [keys_identity, List.mem_eraseDups]
    rw [if_neg (mt contains_identity.mp hmem), entries_insert_of_notMem name hkeys,
      entries_identity, entries_identity, eraseDups_concat, if_neg hmem, List.map_append,
      List.map_singleton]

/-- Only the names that an identity table keeps matter for what a function makes of them. -/
theorem identity_map_keys (f : Name → Name) (names : List Name) :
    identity ((identity names).keys.map f) = identity (names.map f) := by
  apply ext
  rw [entries_identity, entries_identity, keys_identity, eraseDups_map_eraseDups]

theorem entries_identity_of_nodup {names : List Name} (h : names.Nodup) :
    (identity names).entries = names.map fun name => (name, name) := by
  rw [entries_identity, eraseDups_of_nodup h]

end Table

end Relabel

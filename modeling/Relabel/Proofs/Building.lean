import Relabel.Proofs.Tables

/-!
# The scopes of a built database

Building goes forward: each alias looks at the scopes that are there when its turn comes, and may
replace one of them. Asked backward, a name leads to the last alias that bound it, from there to
that alias's target as it was before, and in the end to a scope that came in or is the copy of one.
-/

namespace Relabel

/-! ## 1. Keys after insertions -/

namespace Table

variable {α β : Type}

theorem eraseDups_keys (t : Table α) : t.keys.eraseDups = t.keys :=
  eraseDups_of_nodup t.keys_nodup

theorem keys_insert_eq_eraseDups (t : Table α) (k : Name) (v : α) :
    (t.insert k v).keys = (t.keys ++ [k]).eraseDups := by
  rw [keys_insert, eraseDups_concat, eraseDups_keys]

theorem keys_insertAll (t : Table α) (es : List (Name × α)) :
    (t.insertAll es).keys = (t.keys ++ es.map Prod.fst).eraseDups := by
  induction es generalizing t with
  | nil =>
    rw [List.map_nil, List.append_nil, eraseDups_keys]
    rfl
  | cons e es ih =>
    show ((t.insert e.1 e.2).insertAll es).keys = _
    rw [ih, keys_insert_eq_eraseDups, eraseDups_eraseDups_append, List.append_assoc, List.map_cons,
      List.singleton_append]

theorem keys_mapValues (f : α → β) (t : Table α) : (t.mapValues f).keys = t.keys := by
  rw [keys, keys, mapValues, List.map_map]
  rfl

end Table

namespace Database

/-! ## 2. In front of the aliases -/

/-- The authored scopes after the lower-case keys have been added, where that is asked for. -/
def cased (settings : DatabaseSettings) (authored : Scopes) : Scopes :=
  if settings.fixCase then lowered authored else authored

/-- The scope that a name stands for: a component when the name is that of its test bench, else
the name itself. -/
def ownScope (settings : DatabaseSettings) (scopes : Scopes) (name : Name) : Name :=
  if settings.addTestbenches then
    (scopes.keys.find? fun scope => scope ++ settings.testbenchSuffix = name).getD name
  else name

/-- The names that the test benches of scopes take. -/
def testbenchNames (settings : DatabaseSettings) (scopes : Scopes) : List Name :=
  if settings.addTestbenches then scopes.keys.map (· ++ settings.testbenchSuffix) else []

theorem keys_cased (settings : DatabaseSettings) (authored : Scopes) :
    (cased settings authored).keys = authored.keys := by
  rw [cased]
  split
  · exact Table.keys_mapValues addLowered authored
  · rfl

theorem valueAt?_map_append {α : Type} (suffix key : Name) (entries : List (Name × α)) :
    valueAt? (key ++ suffix) (entries.map fun e => (e.1 ++ suffix, e.2)) =
      valueAt? key entries := by
  induction entries with
  | nil => rfl
  | cons e entries ih =>
    rw [List.map_cons, valueAt?, valueAt?, ih]
    simp only [List.append_cancel_right_eq]

theorem get?_withTestbenches (suffix : Name) (scopes : Scopes) (name : Name) :
    (withTestbenches suffix scopes).get? name =
      scopes.get? ((scopes.keys.find? fun scope => scope ++ suffix = name).getD name) := by
  have hkeys : (scopes.entries.map fun e => (e.1 ++ suffix, e.2)).map Prod.fst =
      scopes.keys.map (· ++ suffix) := by
    rw [Table.keys, List.map_map, List.map_map]
    rfl
  -- different components have different test benches
  have hnodup : (scopes.keys.map (· ++ suffix)).Nodup :=
    scopes.keys_nodup.map fun _ _ h => List.append_cancel_right h
  show (scopes.insertAll (scopes.entries.map fun e => (e.1 ++ suffix, e.2))).get? name = _
  rw [Table.get?_insertAll (by rw [hkeys]; exact hnodup)]
  cases hfind : scopes.keys.find? fun scope => scope ++ suffix = name with
  | none =>
    have hnone : valueAt? name (scopes.entries.map fun e => (e.1 ++ suffix, e.2)) = none := by
      rw [valueAt?_eq_none, hkeys]
      intro hmem
      rcases List.mem_map.mp hmem with ⟨scope, hscope, heq⟩
      exact absurd (decide_eq_true heq) (List.find?_eq_none.mp hfind scope hscope)
    rw [hnone, Option.none_or, Option.getD_none]
  | some scope =>
    have hname : scope ++ suffix = name := by simpa using List.find?_some hfind
    -- the copy is that of a scope, so it is there and hides what `name` was before
    have hsome : scopes.get? scope ≠ none := fun hnone =>
      Table.get?_eq_none.mp hnone (List.mem_of_find?_eq_some hfind)
    rw [Option.getD_some, ← hname, valueAt?_map_append]
    show (scopes.get? scope).or _ = _
    rcases Option.ne_none_iff_exists'.mp hsome with ⟨table, htable⟩
    rw [htable, Option.some_or]

theorem get?_expanded (settings : DatabaseSettings) (authored : Scopes) (name : Name) :
    (expanded settings authored).get? name =
      (cased settings authored).get? (ownScope settings (cased settings authored) name) := by
  show (if settings.addTestbenches then
    withTestbenches settings.testbenchSuffix (cased settings authored)
    else cased settings authored).get? name = _
  rw [ownScope]
  split
  · exact get?_withTestbenches _ _ _
  · rfl

theorem keys_expanded (settings : DatabaseSettings) (authored : Scopes) :
    (expanded settings authored).keys =
      (authored.keys ++ testbenchNames settings authored).eraseDups := by
  show (if settings.addTestbenches then
    withTestbenches settings.testbenchSuffix (cased settings authored)
    else cased settings authored).keys = _
  rw [testbenchNames]
  split
  · rw [withTestbenches, Table.keys_insertAll, keys_cased, List.map_map, ← keys_cased settings,
      Table.keys, List.map_map]
    rfl
  · rw [keys_cased, List.append_nil, Table.eraseDups_keys]

/-! ## 3. The aliases, from the last to the first -/

/-- The table that a name leads to behind the first `count` aliases: that of the last of them that
has this name and whose target leads to a table behind the aliases before it. Without such an alias,
the table is the name's own. -/
def aliased? (own : Name → Option RenameTable) (aliases : List Alias) (count : Nat) (name : Name) :
    Option RenameTable :=
  ((List.finRange count).reverse.findSome? fun i =>
    aliases[i.val]?.bind fun a =>
      if a.name = name then aliased? own aliases i.val a.target else none).or (own name)
termination_by count
decreasing_by exact i.isLt

/-- The names of the aliases whose targets lead to a table when their turn comes. -/
def boundNames (own : Name → Option RenameTable) (aliases : List Alias) : List Name :=
  (List.range aliases.length).filterMap fun i =>
    aliases[i]?.bind fun a => (aliased? own aliases i a.target).map fun _ => a.name

section Aliases

variable {own : Name → Option RenameTable}

theorem aliased?_zero (aliases : List Alias) (name : Name) :
    aliased? own aliases 0 name = own name := by
  rw [aliased?]
  rfl

theorem aliased?_succ (aliases : List Alias) (count : Nat) (name : Name) :
    aliased? own aliases (count + 1) name =
      (aliases[count]?.bind fun a =>
        if a.name = name then aliased? own aliases count a.target else none).or
          (aliased? own aliases count name) := by
  rw [aliased?, List.finRange_succ_last, List.reverse_append, List.reverse_singleton,
    List.singleton_append, List.findSome?_cons, ← List.map_reverse, List.findSome?_map]
  have hbefore : aliased? own aliases count name =
      ((List.finRange count).reverse.findSome? ((fun i : Fin (count + 1) =>
        aliases[i.val]?.bind fun a =>
          if a.name = name then aliased? own aliases i.val a.target else none) ∘ Fin.castSucc)).or
        (own name) := by
    rw [aliased?]
    rfl
  rw [hbefore, Fin.val_last]
  cases aliases[count]?.bind fun a =>
    if a.name = name then aliased? own aliases count a.target else none with
  | none => rw [Option.none_or]
  | some table => rfl

/-- Later aliases do not matter for what the earlier ones do. -/
theorem aliased?_append (aliases more : List Alias) {count : Nat} (hcount : count ≤ aliases.length)
    (name : Name) :
    aliased? own (aliases ++ more) count name = aliased? own aliases count name := by
  induction count generalizing name with
  | zero => rw [aliased?_zero, aliased?_zero]
  | succ count ih =>
    have hlt : count ≤ aliases.length := by omega
    rw [aliased?_succ, aliased?_succ, List.getElem?_append_left (by omega), ih hlt]
    simp only [ih hlt]

theorem boundNames_concat (aliases : List Alias) (a : Alias) :
    boundNames own (aliases ++ [a]) =
      boundNames own aliases ++
        ((aliased? own aliases aliases.length a.target).map fun _ => a.name).toList := by
  have hbefore :
      (List.range aliases.length).filterMap (fun i => (aliases ++ [a])[i]?.bind fun b =>
        (aliased? own (aliases ++ [a]) i b.target).map fun _ => b.name) =
      boundNames own aliases := by
    apply List.filterMap_congr
    intro i hi
    have hlt : i < aliases.length := List.mem_range.mp hi
    rw [List.getElem?_append_left hlt]
    simp only [aliased?_append aliases [a] (Nat.le_of_lt hlt)]
  rw [boundNames, List.length_append, List.length_singleton, List.range_succ, List.filterMap_append,
    hbefore, List.filterMap_cons, List.getElem?_concat_length, Option.bind_some,
    aliased?_append _ _ (Nat.le_refl _)]
  cases aliased? own aliases aliases.length a.target <;> rfl

end Aliases

theorem get?_foldl_bindAlias (scopes : Scopes) (aliases : List Alias) (name : Name) :
    (aliases.foldl bindAlias scopes).get? name =
      aliased? scopes.get? aliases aliases.length name := by
  induction aliases using List.reverseRecOn generalizing name with
  | nil => rw [List.length_nil, aliased?_zero, List.foldl_nil]
  | append_singleton aliases a ih =>
    rw [List.foldl_append, List.foldl_cons, List.foldl_nil, List.length_append,
      List.length_singleton, aliased?_succ, List.getElem?_concat_length, Option.bind_some,
      aliased?_append _ _ (Nat.le_refl _), aliased?_append _ _ (Nat.le_refl _), ← ih, ← ih,
      bindAlias]
    cases htarget : (aliases.foldl bindAlias scopes).get? a.target with
    | none => rw [ite_self, Option.none_or]
    | some table =>
      dsimp only
      rw [Table.get?_insert]
      by_cases hname : name = a.name
      · rw [if_pos hname, if_pos hname.symm, Option.some_or]
      · rw [if_neg hname, if_neg fun h => hname h.symm, Option.none_or]

theorem keys_foldl_bindAlias (scopes : Scopes) (aliases : List Alias) :
    (aliases.foldl bindAlias scopes).keys =
      (scopes.keys ++ boundNames scopes.get? aliases).eraseDups := by
  induction aliases using List.reverseRecOn with
  | nil =>
    show scopes.keys = (scopes.keys ++ []).eraseDups
    rw [List.append_nil, Table.eraseDups_keys]
  | append_singleton aliases a ih =>
    rw [List.foldl_append, List.foldl_cons, List.foldl_nil, boundNames_concat, ← List.append_assoc,
      ← get?_foldl_bindAlias, bindAlias]
    cases htarget : (aliases.foldl bindAlias scopes).get? a.target with
    | none =>
      rw [Option.map_none, Option.toList_none, List.append_nil]
      exact ih
    | some table =>
      show (Table.insert _ a.name table).keys = _
      rw [Table.keys_insert_eq_eraseDups, ih, eraseDups_eraseDups_append]
      rfl

/-- The table of an alias is that of a scope that was there before. -/
theorem exists_of_get?_foldl_bindAlias {scopes : Scopes} {aliases : List Alias} {name : Name}
    {table : RenameTable} (h : (aliases.foldl bindAlias scopes).get? name = some table) :
    ∃ own, scopes.get? own = some table := by
  induction aliases generalizing scopes with
  | nil => exact ⟨name, h⟩
  | cons a aliases ih =>
    rcases ih h with ⟨own, hown⟩
    cases htarget : scopes.get? a.target with
    | none =>
      rw [bindAlias, htarget] at hown
      exact ⟨own, hown⟩
    | some bound =>
      rw [bindAlias, htarget, Table.get?_insert] at hown
      split at hown
      · exact ⟨a.target, htarget.trans hown⟩
      · exact ⟨own, hown⟩

/-! ## 4. Building -/

theorem exists_of_get?_build {settings : DatabaseSettings} {authored : Scopes} {name : Name}
    {table : RenameTable} (h : (build settings authored).scopes.get? name = some table) :
    ∃ own, (cased settings authored).get? own = some table := by
  rcases exists_of_get?_foldl_bindAlias h with ⟨scope, hscope⟩
  rw [get?_expanded] at hscope
  exact ⟨_, hscope⟩

theorem mem_keys_build (settings : DatabaseSettings) {authored : Scopes} {name : Name}
    (h : name ∈ authored.keys) : name ∈ (build settings authored).scopes.keys := by
  rw [build, keys_foldl_bindAlias, keys_expanded, List.mem_eraseDups, List.mem_append,
    List.mem_eraseDups, List.mem_append]
  exact .inl (.inl h)

theorem nodup_testbenchNames (settings : DatabaseSettings) (scopes : Scopes) :
    (testbenchNames settings scopes).Nodup := by
  rw [testbenchNames]
  split
  · exact scopes.keys_nodup.map fun _ _ h => List.append_cancel_right h
  · exact List.nodup_nil

/-- A built database has for each name the table that the name leads to backward through the
aliases. Its scopes are the authored ones, then the new test benches in the order of their
components, then the new aliases in the order in which they were first bound. -/
theorem build_eq_backward (settings : DatabaseSettings) (authored : Scopes) :
    let scopes := cased settings authored
    let own := fun name => scopes.get? (ownScope settings scopes name)
    let testbenches := testbenchNames settings authored
    let built := (build settings authored).scopes
    (∀ name, built.get? name = aliased? own settings.aliases settings.aliases.length name) ∧
      built.keys = authored.keys ++ testbenches.removeAll authored.keys ++
        ((boundNames own settings.aliases).removeAll (authored.keys ++ testbenches)).eraseDups := by
  intro scopes own testbenches built
  have hown : (expanded settings authored).get? = own := funext (get?_expanded settings authored)
  have hnew : (testbenches.removeAll authored.keys).eraseDups =
      testbenches.removeAll authored.keys :=
    eraseDups_of_nodup ((nodup_testbenchNames settings authored).filter _)
  refine ⟨fun name => ?_, ?_⟩
  · rw [← hown]
    exact get?_foldl_bindAlias (expanded settings authored) settings.aliases name
  · show (settings.aliases.foldl bindAlias (expanded settings authored)).keys = _
    rw [keys_foldl_bindAlias, hown, keys_expanded, eraseDups_eraseDups_append,
      List.eraseDups_append, List.eraseDups_append, Table.eraseDups_keys, hnew]

end Database

end Relabel

import Relabel.Proofs.Building
import Relabel.Proofs.Merging

/-!
# The scopes of a merge

The new version only replaces tables: the scopes of a merge are those of the seed and the components
of the old version. A component of the old version has the table that the two versions give it. A
scope of the seed that is none is taken for an old component all the same: where the new version
declares it, its renames are paired anew.
-/

namespace Relabel.Merge

/-! ## 1. The names of the scopes -/

theorem keys_addComponent (strategy : Strategy) (database : Scopes) (component : Name)
    (new : RenameTable) :
    (addComponent strategy database component new).keys = database.keys := by
  unfold addComponent
  split
  · rename_i old hold
    -- a scope that is there keeps its place
    rw [Table.keys_insert, if_pos (Table.mem_keys_of_get? hold)]
  · rfl

theorem keys_foldl_addComponent (strategy : Strategy) (es : List (Name × RenameTable))
    (database : Scopes) :
    (es.foldl (fun database e => addComponent strategy database e.1 e.2) database).keys =
      database.keys := by
  induction es generalizing database with
  | nil => rfl
  | cons e es ih => rw [List.foldl_cons, ih, keys_addComponent]

theorem keys_start (seed : Scopes) (old : Declarations) :
    (start seed old).keys = seed.keys ++ old.keys.filter (· ∉ seed.keys) := by
  have hnew : old.keys.removeAll seed.keys = old.keys.filter (· ∉ seed.keys) := by
    rw [List.removeAll]
    exact List.filter_congr fun c _ => by simp
  rw [start, Table.keys_insertAll, ← Table.keys, List.eraseDups_append, Table.eraseDups_keys, hnew,
    eraseDups_of_nodup (old.keys_nodup.filter _)]

theorem keys_merge (strategy : Strategy) (seed : Scopes) (old new : Declarations) :
    (merge strategy seed old new).keys = seed.keys ++ old.keys.filter (· ∉ seed.keys) :=
  (keys_foldl_addComponent strategy new.entries (start seed old)).trans (keys_start seed old)

/-! ## 2. The tables of old components -/

theorem merge_perm (strategy : Strategy) (seed : Scopes) (old : Declarations)
    {new new₁ : Declarations} (hperm : new₁.entries.Perm new.entries) :
    merge strategy seed old new₁ = merge strategy seed old new := by
  apply Table.ext_get? (by rw [keys_merge, keys_merge])
  intro c
  -- of the new version a merge only asks what each component declares
  rw [get?_merge, get?_merge, Table.get?_perm hperm]

/-- A merge has the scopes of the seed, then the other components of the old version. A component of
both versions has its names paired by the strategy, one of the old version alone keeps its names,
and neither the seed nor the order of the new version's components has a say in it. -/
theorem merge_pairs_old_components (seed : Scopes) (old new : Declarations) :
    (∀ strategy, (merge strategy seed old new).keys =
      seed.keys ++ old.keys.filter (· ∉ seed.keys)) ∧
      (∀ c was, old.get? c = some was →
        (∀ names, new.get? c = some names →
          (merge .positional seed old new).get? c = some (positional was names) ∧
            (merge .nameAware seed old new).get? c = some (nameAware was names)) ∧
        (new.get? c = none → ∀ strategy, (merge strategy seed old new).get? c = some was)) ∧
      ∀ strategy (new₁ : Declarations), new₁.entries.Perm new.entries →
        merge strategy seed old new₁ = merge strategy seed old new := by
  refine ⟨fun strategy => keys_merge strategy seed old new, ?_,
    fun strategy new₁ => merge_perm strategy seed old⟩
  intro c was hc
  refine ⟨fun names hnew => ⟨get?_merge_of_old hc hnew, get?_merge_of_old hc hnew⟩, ?_⟩
  intro hnew strategy
  rw [get?_merge_of_none hnew, get?_start_of_old hc]

/-- What the seed says of a component of both versions is lost; a component of the old version alone
stays, and one of the new version alone is left out. -/
theorem merge_pairs_old_components_over_seed :
    let seed : Scopes :=
      .ofList [("foo".toList, .identity ["x".toList]), (fallbackScope, .identity [])]
    let old : Declarations :=
      .ofList [("gone".toList, .identity ["y".toList]),
        ("foo".toList, .identity ["Clk".toList, "Rst".toList])]
    let foo : RenameTable := .identity ["rst".toList, "clk".toList]
    let new : Declarations :=
      .ofList [("added".toList, .identity ["z".toList]), ("foo".toList, foo)]
    let new₁ : Declarations :=
      .ofList [("foo".toList, foo), ("added".toList, .identity ["z".toList])]
    (merge .positional seed old new).keys = ["foo".toList, fallbackScope, "gone".toList] ∧
      (merge .positional seed old new).get? "foo".toList =
        some (.ofList [("Clk".toList, "rst".toList), ("Rst".toList, "clk".toList)]) ∧
      (merge .nameAware seed old new).get? "foo".toList =
        some (.ofList [("Clk".toList, "clk".toList), ("Rst".toList, "rst".toList)]) ∧
      (merge .nameAware seed old new).get? "gone".toList = some (.identity ["y".toList]) ∧
      new₁ ≠ new ∧ merge .nameAware seed old new₁ = merge .nameAware seed old new := by
  intro seed old foo new new₁
  rcases merge_pairs_old_components seed old new with ⟨hkeys, htables, horder⟩
  rcases (htables "foo".toList (.identity ["Clk".toList, "Rst".toList]) (by decide +kernel)).1 foo
    (by decide +kernel) with ⟨hpositional, hnameAware⟩
  have hgone := (htables "gone".toList (.identity ["y".toList]) (by decide +kernel)).2
    (by decide +kernel)
  exact ⟨(hkeys .positional).trans (by decide +kernel), hpositional.trans (by decide +kernel),
    hnameAware.trans (by decide +kernel), hgone .nameAware, by decide +kernel,
    horder .nameAware new₁ (by decide +kernel)⟩

/-! ## 3. Scopes that only the seed has -/

theorem zip_eq_self_iff {entries : List (Name × Name)} {names : List Name} :
    (entries.map Prod.fst).zip names = entries ↔ entries.map Prod.snd <+: names := by
  induction entries generalizing names with
  | nil => simp
  | cons e entries ih =>
    cases names with
    | nil => simp
    | cons name names =>
      rw [List.map_cons, List.map_cons, List.zip_cons_cons, List.cons_prefix_cons, List.cons.injEq,
        ih, Prod.ext_iff]
      simp only [true_and, eq_comm]

theorem positional_eq_self_iff {table names : RenameTable} :
    positional table names = table ↔ table.values <+: names.keys := by
  rw [Table.values, ← zip_eq_self_iff, ← Table.keys, ← entries_positional]
  exact ⟨congrArg Table.entries, Table.ext⟩

theorem mem_keys_merge_of_not_old (strategy : Strategy) (seed : Scopes) (old new : Declarations)
    {c : Name} (hc : c ∉ old.keys) : c ∈ (merge strategy seed old new).keys ↔ c ∈ seed.keys := by
  rw [keys_merge, List.mem_append, List.mem_filter]
  exact or_iff_left fun hold => hc hold.1

/-- The table of a scope that is no component of the old version stays the same exactly if pairing
the seed's table with what the new version declares gives it back. -/
theorem get?_merge_eq_seed_iff (strategy : Strategy) (seed : Scopes) (old new : Declarations)
    {c : Name} (hc : c ∉ old.keys) :
    (merge strategy seed old new).get? c = seed.get? c ↔
      ∀ table names, seed.get? c = some table → new.get? c = some names →
        byStrategy strategy table names = table := by
  cases hnew : new.get? c with
  | none =>
    rw [get?_merge_of_none hnew, get?_start_of_not_old hc]
    simp
  | some names =>
    rw [get?_merge_of_some hnew, get?_start_of_not_old hc]
    cases seed.get? c with
    | none => simp
    | some table => simp

/-- A scope that is no component of the old version is there if the seed has it. Its table is that
of the seed where the new version does not declare it. Where it does, the old names of the seed's
table are paired with the declared names. By position, the table stays the same only if its new
names are the first of the declared ones, in order. -/
theorem merge_pairs_seed_scopes_anew (strategy : Strategy) (seed : Scopes) (old new : Declarations)
    {c : Name} (hc : c ∉ old.keys) :
    let merged := merge strategy seed old new
    (c ∈ merged.keys ↔ c ∈ seed.keys) ∧
      (new.get? c = none → merged.get? c = seed.get? c) ∧
      (∀ names, new.get? c = some names →
        merged.get? c = (seed.get? c).map (byStrategy strategy · names)) ∧
      (merged.get? c = seed.get? c ↔
        ∀ table names, seed.get? c = some table → new.get? c = some names →
          byStrategy strategy table names = table) ∧
      (strategy = .positional → (merged.get? c = seed.get? c ↔
        ∀ table names, seed.get? c = some table → new.get? c = some names →
          table.values <+: names.keys)) := by
  intro merged
  have hkept := get?_merge_eq_seed_iff strategy seed old new hc
  refine ⟨mem_keys_merge_of_not_old strategy seed old new hc, ?_, ?_, hkept, ?_⟩
  · intro hnew
    rw [get?_merge_of_none hnew, get?_start_of_not_old hc]
  · intro names hnew
    rw [get?_merge_of_some hnew, get?_start_of_not_old hc]
  · rintro rfl
    refine hkept.trans ?_
    simp only [byStrategy, positional_eq_self_iff]

/-- Declared in the order of the seed's renames, the names are paired as they were; a component that
the seed does not have is left out. -/
theorem merge_pairs_seed_scopes_anew_in_order :
    let foo : RenameTable :=
      .ofList [("Clk".toList, "clk_i".toList), ("Rst".toList, "rst_i".toList)]
    let seed : Scopes := .ofList [("foo".toList, foo)]
    let new : Declarations :=
      .ofList [("added".toList, .identity ["y".toList]),
        ("foo".toList, .identity ["clk_i".toList, "rst_i".toList])]
    (merge .positional seed ∅ new).get? "foo".toList = some foo ∧
      "added".toList ∉ (merge .positional seed ∅ new).keys := by
  intro foo seed new
  have hfoo : "foo".toList ∉ (∅ : Declarations).keys := by decide +kernel
  have hadded : "added".toList ∉ (∅ : Declarations).keys := by decide +kernel
  rcases merge_pairs_seed_scopes_anew .positional seed ∅ new hfoo with ⟨-, -, hpaired, -, -⟩
  rcases merge_pairs_seed_scopes_anew .positional seed ∅ new hadded with ⟨hmem, -⟩
  refine ⟨(hpaired (.identity ["clk_i".toList, "rst_i".toList]) (by decide +kernel)).trans
    (by decide +kernel), ?_⟩
  rw [hmem]
  decide +kernel

/-- Declared in another order, the names are paired with the wrong renames by either strategy,
though the component is none of the old version. -/
theorem merge_swaps_seed_renames :
    let foo := "psi_common_foo".toList
    let table : RenameTable :=
      .ofList [("Clk".toList, "clk_i".toList), ("Rst".toList, "rst_i".toList)]
    let swapped :
    RenameTable := .ofList [("Clk".toList, "rst_i".toList), ("Rst".toList, "clk_i".toList)]
    let seed : Scopes := .ofList [(foo, table)]
    let new : Declarations := .ofList [(foo, .identity ["rst_i".toList, "clk_i".toList])]
    foo ∉ (∅ : Declarations).keys ∧
      ∀ strategy, (merge strategy seed ∅ new).get? foo = some swapped ∧
        (merge strategy seed ∅ new).get? foo ≠ seed.get? foo := by
  refine ⟨by decide +kernel, ?_⟩
  intro strategy
  cases strategy <;> decide +kernel

end Relabel.Merge

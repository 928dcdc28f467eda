import Relabel.Proofs.Building
import Relabel.Proofs.MergedScopes
import Relabel.Proofs.Migration
import Relabel.Proofs.Recasing
import Relabel.Proofs.Reordering

/-!
# Migrating a library to itself

Merged with itself, a set of declarations stays as it is, by either strategy. The database built
from it has every name under itself and, where lower-case keys are added, under its lower-case form,
for test benches and aliases, too. Two names of one lower-case form share that key, so the symbols
of a text may change in letter case, and in nothing else.
-/

namespace Relabel

open Text

/-! ## 1. Merging -/

namespace Merge

theorem byStrategy_identity (strategy : Strategy) (names : List Name) :
    byStrategy strategy (.identity names) (.identity names) = .identity names := by
  have hzip : (Table.identity names).keys.zip (Table.identity names).keys =
      (Table.identity names).entries := by
    rw [Table.keys_identity, List.zip, List.zipWith_self, Table.entries_identity]
  apply Table.ext
  cases strategy with
  | positional => exact (entries_positional _ _).trans hzip
  | nameAware =>
    -- each name stands at its own place, with its own form
    exact (entries_nameAware_of_forms rfl).trans hzip

theorem merge_self {d : Declarations} (hd : ∀ table ∈ d.values, ∃ names, table = .identity names)
    (strategy : Strategy) : merge strategy ∅ d d = d := by
  apply Table.ext_get?
  · rw [keys_merge]
    exact List.filter_true d.keys
  · intro c
    cases hc : d.get? c with
    | none =>
      rw [get?_merge_of_none hc, get?_start_of_not_old (Table.get?_eq_none.mp hc)]
      rfl
    | some table =>
      rcases hd table (Table.mem_values_of_get? hc) with ⟨names, rfl⟩
      rw [get?_merge_of_old hc hc, byStrategy_identity]

end Merge

/-! ## 2. The database -/

namespace Database

variable {d : Declarations}
  (hd : ∀ table ∈ d.values, ∃ names, table = .identity names ∧ ∀ name ∈ names, IsSingleByte name)

include hd

theorem onlyRecases_build (settings : DatabaseSettings) : (build settings d).OnlyRecases := by
  intro scope key v h
  rcases newName?_eq_some.mp h with ⟨table, htable, hkey⟩
  rcases exists_of_get?_build htable with ⟨own, hown⟩
  -- back through the lower-case keys to the declarations
  have hentry : ∃ declared other, d.get? own = some declared ∧ declared.get? other = some v ∧
      (key = other ∨ key = lower other) := by
    rw [cased] at hown
    split at hown
    · rw [lowered, Table.get?_mapValues] at hown
      rcases Option.map_eq_some_iff.mp hown with ⟨declared, hdeclared, rfl⟩
      rcases exists_of_get?_addLowered hkey with ⟨other, hother, hlower⟩
      exact ⟨declared, other, hdeclared, hother, hlower⟩
    · exact ⟨table, key, hown, hkey, .inl rfl⟩
  rcases hentry with ⟨declared, other, hdeclared, hother, hlower⟩
  rcases hd declared (Table.mem_values_of_get? hdeclared) with ⟨names, rfl, hnames⟩
  have hmem := Table.mem_entries_of_get? hother
  rw [Table.entries_identity] at hmem
  rcases List.mem_map.mp hmem with ⟨name, hname, heq⟩
  rcases Prod.mk.inj heq with ⟨rfl, rfl⟩
  exact ⟨hnames name (List.mem_eraseDups.mp hname), hlower⟩

omit hd in
theorem isEmpty_build (settings : DatabaseSettings) (hfilled : d.isEmpty = false) :
    (build settings d).isEmpty = false := by
  rcases List.exists_mem_of_ne_nil _ (List.isEmpty_eq_false_iff.mp hfilled) with ⟨e, he⟩
  have hkey : e.1 ∈ (build settings d).scopes.keys :=
    mem_keys_build settings (List.mem_map_of_mem he)
  cases hget : (build settings d).scopes.get? e.1 with
  | none => exact absurd hkey (Table.get?_eq_none.mp hget)
  | some table => exact isEmpty_eq_false hget

end Database

/-! ## 3. The passes over a source -/

namespace Passes

/-- A library that is migrated to itself keeps its names, and a source that uses it keeps every
character except for the letter case of letters. -/
theorem self_migration_recases {d : Declarations} (hfilled : d.isEmpty = false)
    (hd : ∀ table ∈ d.values, ∃ names, table = .identity names ∧ ∀ name ∈ names, IsSingleByte name)
    (strategy : Strategy) :
    Merge.merge strategy ∅ d d = d ∧
      ∀ (settings : DatabaseSettings) (lead : Name) (t : Text), IsSingleByte t →
        ∃ u, run Pass.source lead (Database.build settings (Merge.merge strategy ∅ d d)) t = .ok u ∧
          IsSingleByte u ∧ lower u = lower t ∧ u.length = t.length ∧
          ∀ (i : Nat) (c : Char), t[i]? = some c → Text.cased.mem c.toNat = false →
            u[i]? = some c := by
  have hmerge : Merge.merge strategy ∅ d d = d :=
    Merge.merge_self (fun table htable => (hd table htable).imp fun _ h => h.1) strategy
  refine ⟨hmerge, ?_⟩
  intro settings lead t ht
  rw [hmerge]
  have hrun := run_eq_ok (Database.isEmpty_build settings hfilled) Pass.source lead t
  have hrecased := recased_apply (Database.onlyRecases_build hd settings) Pass.source lead ht
  exact ⟨_, hrun, hrecased.isSingleByte_right, hrecased.lower_eq, hrecased.length_eq,
    fun i c hi hc => hrecased.getElem?_of_not_cased hi hc⟩

/-- Two names that differ in letter case only: the later one takes over the key of
the earlier one. -/
theorem self_migration_recases_shared_key :
    let names := ["clk".toList, "Clk".toList, "ÉTAT_µ".toList]
    let d : Declarations := .ofList [("c".toList, .identity names)]
    let settings : DatabaseSettings := { aliases := [⟨"d".toList, "c_tb".toList⟩] }
    let t := "entity d is\n  clk : in; -- clk\n  état_µ : bit × CLK\n".toList
    let u := "entity d is\n  Clk : in; -- clk\n  ÉTAT_µ : bit × Clk\n".toList
    d.isEmpty = false ∧ (∀ name ∈ names, IsSingleByte name) ∧ IsSingleByte t ∧
      run Pass.source [] (Database.build settings (Merge.merge .nameAware ∅ d d)) t = .ok u ∧
      Merge.merge .nameAware ∅ d d = d ∧ lower u = lower t ∧ u.length = t.length := by
  repeat rw [String.toList_ofList]
  intro names d settings t u
  have hfilled : d.isEmpty = false := by decide +kernel
  have hnames : ∀ name ∈ names, IsSingleByte name := by decide +kernel
  have ht : IsSingleByte t := by decide +kernel
  have hd : ∀ table ∈ d.values, ∃ names, table = .identity names ∧
      ∀ name ∈ names, IsSingleByte name := by
    intro table htable
    exact ⟨names, List.mem_singleton.mp htable, hnames⟩
  have hrun : run Pass.source [] (Database.build settings (Merge.merge .nameAware ∅ d d)) t =
      .ok u := by
    decide +kernel
  rcases self_migration_recases hfilled hd .nameAware with ⟨hmerge, hpasses⟩
  rcases hpasses settings [] t ht with ⟨v, hv, -, hlower, hlength, -⟩
  have hsame : v = u := Except.ok.inj (hv.symm.trans hrun)
  subst hsame
  exact ⟨hfilled, hnames, ht, hrun, hmerge, hlower, hlength⟩

end Passes

end Relabel

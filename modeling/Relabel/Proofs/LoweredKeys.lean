import Relabel.Proofs.Building

/-!
# Keys in lower case

Where lower-case keys are asked for, a table gets every key of its own in lower case, too. These
keys go into the table that holds the authored ones and may take one of them over, so which new name
a key leads to depends on the order of the entries. Keys that share a lower-case form cannot get in
each other's way as long as they have the same new name.
-/

namespace Relabel

open Text

namespace Database

/-! ## 1. One table -/

/-- Whether `v` is the new name of the last entry whose key is `key` in lower case. -/
def IsLastLowered (table : RenameTable) (key v : Name) : Prop :=
  ∃ before old after, table.entries = before ++ (old, v) :: after ∧ lower old = key ∧
    ∀ e ∈ after, lower e.1 ≠ key

theorem valueAt?_lowered_eq_some {table : RenameTable} {key v : Name} :
    valueAt? key (table.entries.map fun e => (lower e.1, e.2)).reverse = some v ↔
      IsLastLowered table key v := by
  rw [valueAt?_reverse_eq_some]
  constructor
  · rintro ⟨front, back, heq, hback⟩
    -- the entry that is found is the image of an authored one
    rcases List.map_eq_append_iff.mp heq with ⟨before, others, hentries, -, hothers⟩
    rcases List.map_eq_cons_iff.mp hothers with ⟨⟨old, new⟩, after, rfl, hentry, rfl⟩
    rcases Prod.mk.inj hentry with ⟨hlower, rfl⟩
    refine ⟨before, old, after, hentries, hlower, ?_⟩
    intro e he heq
    exact hback (List.mem_map.mpr ⟨_, List.mem_map_of_mem he, heq⟩)
  · rintro ⟨before, old, after, hentries, rfl, hafter⟩
    refine ⟨_, _, by rw [hentries, List.map_append, List.map_cons], ?_⟩
    rw [List.map_map]
    intro hmem
    rcases List.mem_map.mp hmem with ⟨e, he, heq⟩
    exact hafter e he heq

theorem get?_addLowered_eq (table : RenameTable) (key : Name) :
    (addLowered table).get? key =
      (valueAt? key (table.entries.map fun e => (lower e.1, e.2)).reverse).or (table.get? key) :=
  table.get?_insertAll_reverse _ key

theorem get?_addLowered_of_isLastLowered {table : RenameTable} {key v : Name}
    (h : IsLastLowered table key v) :
    (addLowered table).get? key = some v := by
  rw [get?_addLowered_eq, valueAt?_lowered_eq_some.mpr h, Option.some_or]

theorem get?_addLowered_of_forall_ne {table : RenameTable} {key : Name}
    (h : ∀ old ∈ table.keys, lower old ≠ key) :
    (addLowered table).get? key = table.get? key := by
  have hnone : valueAt? key (table.entries.map fun e => (lower e.1, e.2)).reverse = none := by
    rw [valueAt?_eq_none, List.map_reverse, List.mem_reverse, List.map_map]
    intro hmem
    rcases List.mem_map.mp hmem with ⟨e, he, heq⟩
    exact h e.1 (List.mem_map_of_mem he) heq
  rw [get?_addLowered_eq, hnone, Option.none_or]

theorem get?_addLowered_of_agree {table : RenameTable} {key v : Name} (h : table.get? key = some v)
    (hagree : ∀ e ∈ table.entries, lower e.1 = key → e.2 = v) :
    (addLowered table).get? key = some v := by
  apply Table.get?_insertAll_of_forall h
  intro e he hkey
  rcases List.mem_map.mp he with ⟨d, hd, rfl⟩
  exact hagree d hd hkey

theorem get?_addLowered {table : RenameTable} {key v : Name} (h : table.get? key = some v)
    (hlower : ∀ other ∈ table.keys, key = lower other → key = other) :
    (addLowered table).get? key = some v := by
  apply get?_addLowered_of_agree h
  intro e he hkey
  -- only the key itself has this lower-case form
  have hother : key = e.1 := hlower e.1 (List.mem_map_of_mem he) hkey.symm
  have hnew : table.get? e.1 = some e.2 := Table.get?_of_mem he
  rw [← hother, h] at hnew
  exact (Option.some.inj hnew).symm

theorem exists_of_get?_addLowered {table : RenameTable} {key v : Name}
    (h : (addLowered table).get? key = some v) :
    ∃ other, table.get? other = some v ∧ (key = other ∨ key = lower other) := by
  rcases Table.mem_of_get?_insertAll h with hmem | hget
  · rcases List.mem_map.mp hmem with ⟨⟨other, new⟩, hother, heq⟩
    rcases Prod.mk.inj heq with ⟨rfl, rfl⟩
    exact ⟨other, Table.get?_of_mem hother, .inr rfl⟩
  · exact ⟨key, hget, .inl rfl⟩

/-- The authored keys come first, in their order, and behind them the lower-case forms that are
no authored keys. -/
theorem keys_addLowered (table : RenameTable) :
    (addLowered table).keys = table.keys ++
      ((table.keys.map lower).removeAll table.keys).eraseDups := by
  have hmap : (table.entries.map fun e => (lower e.1, e.2)).map Prod.fst =
      table.keys.map lower := by
    rw [Table.keys, List.map_map, List.map_map]
    rfl
  show (table.insertAll (table.entries.map fun e => (lower e.1, e.2))).keys = _
  rw [Table.keys_insertAll, hmap, List.eraseDups_append, Table.eraseDups_keys]

/-! ## 2. Keys that agree -/

/-- Whether entries of a table whose keys can meet in lower case have the same new name. -/
def LoweredAgree (table : RenameTable) : Prop :=
  ∀ e ∈ table.entries, ∀ d ∈ table.entries, lower d.1 = lower e.1 ∨ lower d.1 = e.1 → d.2 = e.2

instance (table : RenameTable) : Decidable (LoweredAgree table) :=
  inferInstanceAs (Decidable (∀ e ∈ table.entries, ∀ d ∈ table.entries,
    lower d.1 = lower e.1 ∨ lower d.1 = e.1 → d.2 = e.2))

namespace LoweredAgree

variable {table : RenameTable} {old new : Name}

theorem get?_old (h : LoweredAgree table) (hmem : (old, new) ∈ table.entries) :
    (addLowered table).get? old = some new :=
  get?_addLowered_of_agree (Table.get?_of_mem hmem) fun d hd hold =>
    h (old, new) hmem d hd (.inr hold)

theorem get?_lower (h : LoweredAgree table) (hmem : (old, new) ∈ table.entries) :
    (addLowered table).get? (lower old) = some new := by
  rw [get?_addLowered_eq]
  cases hlast : valueAt? (lower old) (table.entries.map fun e => (lower e.1, e.2)).reverse with
  | none =>
    -- the entry itself has this lower-case form
    rw [valueAt?_eq_none, List.map_reverse, List.mem_reverse, List.map_map] at hlast
    exact absurd (List.mem_map.mpr ⟨(old, new), hmem, rfl⟩) hlast
  | some v =>
    rcases valueAt?_lowered_eq_some.mp hlast with ⟨before, other, after, hentries, hother, -⟩
    have hd : (other, v) ∈ table.entries := by simp [hentries]
    exact congrArg some (h (old, new) hmem (other, v) hd (.inl hother))

end LoweredAgree

/-! ## 3. A built database -/

section Build

variable {settings : DatabaseSettings} (htestbenches : settings.addTestbenches = false)
  (haliases : settings.aliases = [])

include htestbenches haliases

/-- Without test benches and aliases, building does no more than to add lower-case keys. -/
theorem get?_build (authored : Scopes) (scope : Name) :
    (build settings authored).scopes.get? scope =
      (authored.get? scope).map (if settings.fixCase then addLowered else id) := by
  rw [build, haliases, List.foldl_nil, expanded, htestbenches, if_neg Bool.false_ne_true]
  cases settings.fixCase with
  | true => exact Table.get?_mapValues addLowered authored scope
  | false => exact Option.map_id'.symm

theorem keys_build (authored : Scopes) : (build settings authored).scopes.keys = authored.keys := by
  rw [build, haliases, List.foldl_nil, expanded, htestbenches, if_neg Bool.false_ne_true]
  exact keys_cased settings authored

end Build

/-- With lower-case keys, a table leads a key to the new name of the last authored entry that has
it in lower case, and else to its authored new name. The authored keys stay in front. Where keys
that can meet in lower case have the same new name, every authored key is found as it is and in
any letter case. -/
theorem build_looks_up_lowered_keys {settings : DatabaseSettings} (hcase : settings.fixCase = true)
    (htestbenches : settings.addTestbenches = false) (haliases : settings.aliases = [])
    (authored : Scopes) (scope : Name) :
    let built := build settings authored
    built.scopes.keys = authored.keys ∧
      (authored.get? scope = none → built.scopes.get? scope = none) ∧
      ∀ table, authored.get? scope = some table →
        ∃ lowered, built.scopes.get? scope = some lowered ∧
          (∀ key, (∀ v, IsLastLowered table key v → lowered.get? key = some v) ∧
            ((∀ old ∈ table.keys, lower old ≠ key) → lowered.get? key = table.get? key)) ∧
          lowered.keys = table.keys ++ ((table.keys.map lower).removeAll table.keys).eraseDups ∧
          (LoweredAgree table → ∀ old new, (old, new) ∈ table.entries → ∀ useFallback,
            built.lookup ⟨false, useFallback⟩ scope old = new ∧
              ∀ w, lower w = lower old → built.lookup ⟨true, useFallback⟩ scope w = new) := by
  intro built
  have hget := get?_build htestbenches haliases authored scope
  rw [if_pos hcase] at hget
  refine ⟨keys_build htestbenches haliases authored, fun hnone => by rw [hget, hnone]; rfl, ?_⟩
  intro table htable
  rw [htable, Option.map_some] at hget
  refine ⟨addLowered table, hget, ?_, keys_addLowered table, ?_⟩
  · intro key
    exact ⟨fun v => get?_addLowered_of_isLastLowered, get?_addLowered_of_forall_ne⟩
  · intro hagree old new hmem useFallback
    constructor
    · apply lookup_of_newName?
      exact newName?_eq_some.mpr ⟨_, hget, hagree.get?_old hmem⟩
    · intro w hw
      apply lookup_of_newName?
      show built.newName? scope (lower w) = some new
      rw [hw]
      exact newName?_eq_some.mpr ⟨_, hget, hagree.get?_lower hmem⟩

/-- In `c` an authored key in lower case is taken over by a later key; in `d` the keys agree. -/
theorem build_looks_up_lowered_keys_taken_over :
    let c : RenameTable :=
      .ofList [("Clk".toList, "a".toList), ("clk".toList, "b".toList), ("CLK".toList, "k".toList),
        ("rst".toList, "r".toList)]
    let d : RenameTable :=
      .ofList [("CLK".toList, "k".toList), ("Clk".toList, "k".toList), ("ΟΔΟΣ".toList, "o".toList)]
    let authored : Scopes := .ofList [("c".toList, c), ("d".toList, d)]
    let settings : DatabaseSettings := { addTestbenches := false, aliases := [] }
    let built := build settings authored
    (∃ lowered, built.scopes.get? "c".toList = some lowered ∧
      lowered.get? "clk".toList = some "k".toList ∧
      lowered.get? "Clk".toList = some "a".toList ∧ lowered.keys = c.keys) ∧
      ¬ LoweredAgree c ∧ LoweredAgree d ∧ built.lookup .exact "d".toList "Clk".toList = "k".toList ∧
      built.lookup .folded "d".toList "cLK".toList = "k".toList ∧
      built.lookup .folded "d".toList "Οδος".toList = "o".toList := by
  intro c d authored settings built
  have hcase : settings.fixCase = true := rfl
  rcases build_looks_up_lowered_keys hcase rfl rfl authored "c".toList with ⟨-, -, hc⟩
  rcases build_looks_up_lowered_keys hcase rfl rfl authored "d".toList with ⟨-, -, hd⟩
  rcases hc c (by decide +kernel) with ⟨lowered, hlowered, hlast, hkeys, -⟩
  rcases hd d (by decide +kernel) with ⟨-, -, -, -, hlookup⟩
  have hclk : IsLastLowered c "clk".toList "k".toList :=
    ⟨[("Clk".toList, "a".toList), ("clk".toList, "b".toList)], "CLK".toList,
      [("rst".toList, "r".toList)], by decide +kernel, by decide +kernel, by decide +kernel⟩
  have hagree : LoweredAgree d := by decide +kernel
  refine ⟨⟨lowered, hlowered, (hlast _).1 _ hclk, ?_, hkeys.trans (by decide +kernel)⟩,
    by decide +kernel, hagree, ?_, ?_, ?_⟩
  · exact ((hlast _).2 (by decide +kernel)).trans (by decide +kernel)
  · exact (hlookup hagree "Clk".toList "k".toList (by decide +kernel) false).1
  · exact (hlookup hagree "Clk".toList "k".toList (by decide +kernel) true).2 _ (by decide +kernel)
  · exact (hlookup hagree "ΟΔΟΣ".toList "o".toList (by decide +kernel) true).2 _ (by decide +kernel)

end Database

end Relabel

import Mathlib.Data.List.Perm.Basic
import Relabel.Merge
import Relabel.Proofs.Tables

/-!
# What a merge pairs

Between two versions of a component, both strategies pair as many names as the smaller side has, and
none of them twice; with equally many names, all are paired. What other components a merge holds,
and what the seed says of this one, has no influence on its table.
-/

namespace Relabel.Merge

/-! ## 1. Pairs by form -/

theorem soleNames_concat (names : List Name) (name : Name) :
    soleNames (names ++ [name]) =
      (soleNames names).insert (form name)
        (if (soleNames names).contains (form name) then none else some name) := by
  rw [soleNames, List.foldl_append, List.foldl_cons, List.foldl_nil, soleNames]

/-- The names of a form, in order. -/
def ofForm (f : Name) (names : List Name) : List Name :=
  names.filter fun name => form name == f

theorem mem_ofForm {f name : Name} {names : List Name} :
    name ∈ ofForm f names ↔ name ∈ names ∧ form name = f := by
  rw [ofForm, List.mem_filter, beq_iff_eq]

/-- What is kept for the form of some names. -/
def soleOf? : List Name → Option (Option Name)
  | [] => none
  | [name] => some (some name)
  | _ :: _ :: _ => some none

theorem get?_soleNames (names : List Name) (f : Name) :
    (soleNames names).get? f = soleOf? (ofForm f names) := by
  induction names using List.reverseRecOn with
  | nil => rfl
  | append_singleton names name ih =>
    rw [soleNames_concat, Table.get?_insert, ofForm, List.filter_append, List.filter_singleton,
      ← ofForm]
    by_cases hf : form name = f
    · rw [if_pos hf.symm, hf, beq_self_eq_true, cond_true, Table.contains, ih]
      -- a second name takes the form from the first, and no later one gives it back
      rcases ofForm f names with _ | ⟨first, _ | ⟨second, more⟩⟩ <;> rfl
    · rw [if_neg (Ne.symm hf), ih, beq_eq_false_iff_ne.mpr hf, cond_false, List.append_nil]

theorem get?_soleNames_eq_some {names : List Name} {f name : Name} :
    (soleNames names).get? f = some (some name) ↔ ofForm f names = [name] := by
  rw [get?_soleNames]
  rcases ofForm f names with _ | ⟨first, _ | ⟨second, more⟩⟩ <;> simp [soleOf?]

/-- The sole name of a form is one of the names and has the form. -/
theorem of_get?_soleNames {names : List Name} {f name : Name}
    (h : (soleNames names).get? f = some (some name)) : name ∈ names ∧ form name = f := by
  apply mem_ofForm.mp
  rw [get?_soleNames_eq_some.mp h]
  exact List.mem_singleton_self name

/-- Pairs of old and new names in which no name occurs twice. -/
structure Partners (pairs : List (Name × Name)) (old new : List Name) : Prop where
  nodup_fst : (pairs.map Prod.fst).Nodup
  nodup_snd : (pairs.map Prod.snd).Nodup
  mem : ∀ p ∈ pairs, p.1 ∈ old ∧ p.2 ∈ new

theorem Partners.nil (old new : List Name) : Partners [] old new :=
  ⟨List.nodup_nil, List.nodup_nil, List.forall_mem_nil _⟩

theorem nodup_map_pairsByForm (oldForms newForms : Table (Option Name)) (side : Name × Name → Name)
    (hside : ∀ f old new, oldForms.get? f = some (some old) → newForms.get? f = some (some new) →
      form (side (old, new)) = f) :
    ((pairsByForm oldForms.entries newForms).map side).Nodup := by
  -- the forms of the pairs are among the keys of the table, in order
  apply List.Nodup.of_map form
  refine List.Nodup.sublist ?_ oldForms.nodup
  have hget : ∀ e ∈ oldForms.entries, oldForms.get? e.1 = some e.2 :=
    fun e he => Table.get?_of_mem he
  generalize oldForms.entries = es at hget
  induction es with
  | nil => exact List.Sublist.refl []
  | cons e es ih =>
    have hrest := ih fun d hd => hget d (List.mem_cons_of_mem e hd)
    have hhead := hget e List.mem_cons_self
    rw [pairsByForm, List.filterMap_cons]
    split
    · exact hrest.cons e.1
    · rename_i p hp
      simp only [bind, pure, Option.bind_eq_some_iff] at hp
      rcases hp with ⟨old, hold, new, hnew, hpair⟩
      have hform : form (side p) = e.1 := by
        rw [← Option.some.inj hpair]
        exact hside e.1 old new (by rw [hhead, hold]) (Option.join_eq_some_iff.mp hnew)
      rw [List.map_cons, List.map_cons, List.map_cons, hform]
      exact hrest.cons_cons e.1

theorem mem_pairsByForm {oldForms newForms : Table (Option Name)} {p : Name × Name} :
    p ∈ pairsByForm oldForms.entries newForms ↔
      ∃ f, oldForms.get? f = some (some p.1) ∧ newForms.get? f = some (some p.2) := by
  simp only [pairsByForm, List.mem_filterMap, Prod.exists, bind, pure, Option.bind_eq_some_iff]
  constructor
  · rintro ⟨f, old?, hmem, old, rfl, new, hnew, hpair⟩
    rw [← Option.some.inj hpair]
    exact ⟨f, Table.get?_of_mem hmem, Option.join_eq_some_iff.mp hnew⟩
  · rintro ⟨f, hold, hnew⟩
    exact ⟨f, some p.1, Table.mem_entries_of_get? hold, p.1, rfl, p.2,
      Option.join_eq_some_iff.mpr hnew, rfl⟩

theorem partners_pairsByForm (old new : List Name) :
    Partners (pairsByForm (soleNames old).entries (soleNames new)) old new where
  nodup_fst := nodup_map_pairsByForm _ _ Prod.fst fun _ _ _ hold _ => (of_get?_soleNames hold).2
  nodup_snd := nodup_map_pairsByForm _ _ Prod.snd fun _ _ _ _ hnew => (of_get?_soleNames hnew).2
  mem p hp := by
    rcases mem_pairsByForm.mp hp with ⟨f, hold, hnew⟩
    exact ⟨(of_get?_soleNames hold).1, (of_get?_soleNames hnew).1⟩

/-! ## 2. Filling up by position -/

section Fill

variable {pairs : List (Name × Name)} {old new leftover : List Name}

/-- The names for which no partner has been found. -/
def unpaired (pairs : List (Name × Name)) (old : List Name) : List Name :=
  old.filter fun name => (valueAt? name pairs).isNone

/-- The new names that are nobody's partner. -/
def unclaimed (pairs : List (Name × Name)) (new : List Name) : List Name :=
  new.filter fun name => !(pairs.map Prod.snd).contains name

theorem unclaimed_nil (new : List Name) : unclaimed [] new = new :=
  List.filter_true new

theorem unpaired_cons_some {name partner : Name} (h : valueAt? name pairs = some partner) :
    unpaired pairs (name :: old) = unpaired pairs old := by
  rw [unpaired, List.filter_cons_of_neg (by simp [h]), unpaired]

theorem unpaired_cons_none {name : Name} (h : valueAt? name pairs = none) :
    unpaired pairs (name :: old) = name :: unpaired pairs old := by
  rw [unpaired, List.filter_cons_of_pos (by simp [h]), unpaired]

theorem unclaimed_cons_of_mem {name : Name} (h : name ∈ pairs.map Prod.snd) :
    unclaimed pairs (name :: new) = unclaimed pairs new := by
  rw [unclaimed, List.filter_cons_of_neg (by simpa using h), unclaimed]

theorem unclaimed_cons_of_notMem {name : Name} (h : name ∉ pairs.map Prod.snd) :
    unclaimed pairs (name :: new) = name :: unclaimed pairs new := by
  rw [unclaimed, List.filter_cons_of_pos (by simpa using h), unclaimed]

theorem fill_cons_some {name partner : Name} (h : valueAt? name pairs = some partner) :
    fill pairs (name :: old) leftover = (name, partner) :: fill pairs old leftover := by
  rw [fill.eq_def]
  simp only [h]

theorem fill_cons_none {name first : Name} (h : valueAt? name pairs = none) :
    fill pairs (name :: old) (first :: leftover) = (name, first) :: fill pairs old leftover := by
  rw [fill.eq_def]
  simp only [h]

theorem map_fst_fill_sublist (pairs : List (Name × Name)) (old leftover : List Name) :
    ((fill pairs old leftover).map Prod.fst).Sublist old := by
  fun_induction fill pairs old leftover with
  | case1 => exact .refl []
  | case2 name old new leftover _ ih => exact ih.cons_cons name
  | case3 name old new leftover _ ih => exact ih.cons_cons name
  | case4 name old _ ih => exact ih.cons name

/-- The new names that are given out: all partners, and of the leftover names as many
as are asked for. -/
theorem map_snd_fill_perm (pairs : List (Name × Name)) (old leftover : List Name) :
    ((fill pairs old leftover).map Prod.snd).Perm
      (old.filterMap (valueAt? · pairs) ++ leftover.take (unpaired pairs old).length) := by
  fun_induction fill pairs old leftover with
  | case1 => exact .refl []
  | case2 name old new leftover hname ih =>
    rw [unpaired_cons_some hname, List.filterMap_cons, hname]
    exact ih.cons new
  | case3 name old new leftover hname ih =>
    -- the first leftover name is taken out of the middle
    rw [unpaired_cons_none hname, List.filterMap_cons, hname]
    exact (ih.cons new).trans List.perm_middle.symm
  | case4 name old hname ih =>
    rw [List.take_nil] at ih ⊢
    rwa [List.filterMap_cons, hname]

/-- Without the names that have a partner, both sides go by position. -/
theorem filter_fill (pairs : List (Name × Name)) (old leftover : List Name) :
    (fill pairs old leftover).filter (fun e => (valueAt? e.1 pairs).isNone) =
      (unpaired pairs old).zip leftover := by
  fun_induction fill pairs old leftover with
  | case1 => rfl
  | case2 name old new leftover hname ih =>
    rw [List.filter_cons_of_neg (by simp [hname]), ih, unpaired_cons_some hname]
  | case3 name old new leftover hname ih =>
    rw [List.filter_cons_of_pos (by simp [hname]), ih, unpaired_cons_none hname, List.zip_cons_cons]
  | case4 name old hname ih => rw [ih, List.zip_nil_right, List.zip_nil_right]

/-- Without any partners, all names go by position. -/
theorem fill_nil (old leftover : List Name) : fill [] old leftover = old.zip leftover := by
  have hfilter := filter_fill [] old leftover
  have hall : unpaired [] old = old := List.filter_true old
  rw [hall] at hfilter
  rw [← hfilter]
  exact (List.filter_true _).symm

theorem mem_fill_of_valueAt? {name partner : Name} (hname : valueAt? name pairs = some partner)
    (hmem : name ∈ old) (leftover : List Name) : (name, partner) ∈ fill pairs old leftover := by
  fun_induction fill pairs old leftover with
  | case1 => contradiction
  | case2 other old new leftover hother ih =>
    rcases List.mem_cons.mp hmem with rfl | hmem
    · rw [Option.some.inj (hname.symm.trans hother)]
      exact List.mem_cons_self
    · exact List.mem_cons_of_mem _ (ih hmem)
  | case3 other old new leftover hother ih =>
    rcases List.mem_cons.mp hmem with rfl | hmem
    · rw [hother] at hname
      contradiction
    · exact List.mem_cons_of_mem _ (ih hmem)
  | case4 other old hother ih =>
    rcases List.mem_cons.mp hmem with rfl | hmem
    · rw [hother] at hname
      contradiction
    · exact ih hmem

/-- The partners of the old names are the new names of the pairs. -/
theorem Partners.filterMap_perm (h : Partners pairs old new) (hold : old.Nodup) :
    (old.filterMap (valueAt? · pairs)).Perm (pairs.map Prod.snd) := by
  -- the old names that have a partner, in another order
  have hpaired : (old.filter (· ∈ pairs.map Prod.fst)).Perm (pairs.map Prod.fst) := by
    rw [List.perm_ext_iff_of_nodup (hold.filter _) h.nodup_fst]
    intro name
    rw [List.mem_filter, decide_eq_true_eq]
    refine ⟨And.right, fun hmem => ⟨?_, hmem⟩⟩
    rcases List.mem_map.mp hmem with ⟨p, hp, rfl⟩
    exact (h.mem p hp).1
  have hperm := hpaired.filterMap (valueAt? · pairs)
  have hleft : (old.filter (· ∈ pairs.map Prod.fst)).filterMap (valueAt? · pairs) =
      old.filterMap (valueAt? · pairs) := by
    rw [List.filterMap_filter]
    apply List.filterMap_congr
    intro name _
    split
    · rfl
    · rename_i hmem
      exact (valueAt?_eq_none.mpr (by simpa using hmem)).symm
  have hright : (pairs.map Prod.fst).filterMap (valueAt? · pairs) = pairs.map Prod.snd := by
    rw [List.filterMap_map, ← List.filterMap_eq_map]
    apply List.filterMap_congr
    intro p hp
    exact valueAt?_of_mem h.nodup_fst hp
  rwa [hleft, hright] at hperm

theorem Partners.append_unclaimed_perm (h : Partners pairs old new) (hnew : new.Nodup) :
    (pairs.map Prod.snd ++ unclaimed pairs new).Perm new := by
  have hpaired : (pairs.map Prod.snd).Perm (new.filter ((pairs.map Prod.snd).contains ·)) := by
    rw [List.perm_ext_iff_of_nodup h.nodup_snd (hnew.filter _)]
    intro name
    rw [List.mem_filter, List.contains_iff_mem]
    refine ⟨fun hmem => ⟨?_, hmem⟩, And.right⟩
    rcases List.mem_map.mp hmem with ⟨p, hp, rfl⟩
    exact (h.mem p hp).2
  exact (hpaired.append_right _).trans (List.filter_append_perm _ new)

theorem length_unpaired_add (pairs : List (Name × Name)) (old : List Name) :
    (unpaired pairs old).length + (old.filterMap (valueAt? · pairs)).length = old.length := by
  induction old with
  | nil => rfl
  | cons name old ih =>
    cases hname : valueAt? name pairs with
    | some partner =>
      rw [unpaired_cons_some hname]
      simp only [List.filterMap_cons, hname, List.length_cons]
      omega
    | none =>
      rw [unpaired_cons_none hname]
      simp only [List.filterMap_cons, hname, List.length_cons]
      omega

theorem Partners.map_snd_fill_subperm (h : Partners pairs old new) (hold : old.Nodup)
    (hnew : new.Nodup) :
    ((fill pairs old (unclaimed pairs new)).map Prod.snd).Subperm new := by
  have hgiven := map_snd_fill_perm pairs old (unclaimed pairs new)
  have htaken : (old.filterMap (valueAt? · pairs) ++
      (unclaimed pairs new).take (unpaired pairs old).length).Subperm
        (old.filterMap (valueAt? · pairs) ++ unclaimed pairs new) :=
    ((List.take_sublist _ _).append_left _).subperm
  have hall := ((h.filterMap_perm hold).append_right _).trans (h.append_unclaimed_perm hnew)
  exact hgiven.subperm.trans (htaken.trans hall.subperm)

/-- The side with fewer names is used up. -/
theorem Partners.length_fill (h : Partners pairs old new) (hold : old.Nodup) (hnew : new.Nodup) :
    (fill pairs old (unclaimed pairs new)).length = min old.length new.length := by
  have hgiven := (map_snd_fill_perm pairs old (unclaimed pairs new)).length_eq
  rw [List.length_map, List.length_append, List.length_take] at hgiven
  have hasked := length_unpaired_add pairs old
  have hpartners := (h.filterMap_perm hold).length_eq
  have hall := (h.append_unclaimed_perm hnew).length_eq
  rw [List.length_append] at hall
  omega

end Fill

/-! ## 3. One component -/

/-- Entries that pair every old name, in order, with a new name of its own. -/
structure IsPairing (old new : List Name) (es : List (Name × Name)) : Prop where
  map_fst : es.map Prod.fst = old
  map_snd_perm : (es.map Prod.snd).Perm new

theorem isPairing_fill {pairs : List (Name × Name)} {old new : List Name}
    (h : Partners pairs old new) (hold : old.Nodup) (hnew : new.Nodup)
    (hlen : old.length = new.length) :
    IsPairing old new (fill pairs old (unclaimed pairs new)) := by
  have hlength := h.length_fill hold hnew
  rw [hlen, Nat.min_self] at hlength
  constructor
  · apply (map_fst_fill_sublist pairs old _).eq_of_length
    rw [List.length_map, hlength, hlen]
  · apply (h.map_snd_fill_subperm hold hnew).perm_of_length_le
    rw [List.length_map, hlength]

section Component

variable {old new : RenameTable}

theorem length_keys_eq (hsize : old.size = new.size) : old.keys.length = new.keys.length := by
  rw [Table.keys, Table.keys, List.length_map, List.length_map]
  exact hsize

theorem entries_withPairs (pairs : List (Name × Name)) (old new : RenameTable) :
    (withPairs pairs old new).entries = fill pairs old.keys (unclaimed pairs new.keys) :=
  Table.entries_ofList ((map_fst_fill_sublist pairs old.keys _).nodup old.keys_nodup)

/-- What a strategy pairs before it goes by position. -/
def pairsFor : Strategy → (old new : List Name) → List (Name × Name)
  | .positional, _, _ => []
  | .nameAware, old, new => pairsByForm (soleNames old).entries (soleNames new)

theorem partners_pairsFor (strategy : Strategy) (old new : List Name) :
    Partners (pairsFor strategy old new) old new := by
  cases strategy with
  | positional => exact .nil old new
  | nameAware => exact partners_pairsByForm old new

theorem byStrategy_eq (strategy : Strategy) (old new : RenameTable) :
    byStrategy strategy old new = withPairs (pairsFor strategy old.keys new.keys) old new := by
  cases strategy with
  | positional =>
    rw [byStrategy, positional, withPairs, pairsFor, ← unclaimed, unclaimed_nil, fill_nil]
  | nameAware => rfl

theorem entries_byStrategy (strategy : Strategy) (old new : RenameTable) :
    (byStrategy strategy old new).entries =
      fill (pairsFor strategy old.keys new.keys) old.keys
        (unclaimed (pairsFor strategy old.keys new.keys) new.keys) := by
  rw [byStrategy_eq, entries_withPairs]

theorem entries_positional (old new : RenameTable) :
    (positional old new).entries = old.keys.zip new.keys := by
  have hentries := entries_byStrategy .positional old new
  rwa [pairsFor, unclaimed_nil, fill_nil] at hentries

theorem values_positional (hsize : old.size = new.size) :
    (positional old new).values = new.keys := by
  rw [Table.values, entries_positional, List.map_snd_zip (length_keys_eq hsize).ge]

/-- With equally many names on both sides, each strategy pairs them all. -/
theorem isPairing_byStrategy (strategy : Strategy) (hsize : old.size = new.size) :
    IsPairing old.keys new.keys (byStrategy strategy old new).entries := by
  rw [entries_byStrategy]
  exact isPairing_fill (partners_pairsFor strategy old.keys new.keys) old.keys_nodup new.keys_nodup
    (length_keys_eq hsize)

theorem keys_byStrategy_sublist (strategy : Strategy) (old new : RenameTable) :
    (byStrategy strategy old new).keys.Sublist old.keys := by
  rw [Table.keys, entries_byStrategy]
  exact map_fst_fill_sublist _ old.keys _

theorem values_byStrategy_subperm (strategy : Strategy) (old new : RenameTable) :
    (byStrategy strategy old new).values.Subperm new.keys := by
  rw [Table.values, entries_byStrategy]
  exact (partners_pairsFor strategy old.keys new.keys).map_snd_fill_subperm old.keys_nodup
    new.keys_nodup

theorem size_byStrategy (strategy : Strategy) (old new : RenameTable) :
    (byStrategy strategy old new).size = min old.size new.size := by
  have hlength := (partners_pairsFor strategy old.keys new.keys).length_fill old.keys_nodup
    new.keys_nodup
  rw [← entries_byStrategy, Table.keys, Table.keys, List.length_map, List.length_map] at hlength
  exact hlength

theorem mem_keys_of_get?_byStrategy {strategy : Strategy} {key v : Name}
    (h : (byStrategy strategy old new).get? key = some v) : v ∈ new.keys :=
  (values_byStrategy_subperm strategy old new).subset (Table.mem_values_of_get? h)

end Component

/-! ## 4. All components -/

theorem get?_addComponent (strategy : Strategy) (database : Scopes) (component : Name)
    (new : RenameTable) (c : Name) :
    (addComponent strategy database component new).get? c =
      if c = component then (database.get? c).map (byStrategy strategy · new)
      else database.get? c := by
  unfold addComponent
  split
  · rename_i old hold
    rw [Table.get?_insert]
    split
    · rename_i hc
      rw [hc, hold, Option.map_some]
    · rfl
  · rename_i hnone
    split
    · rename_i hc
      rw [hc, hnone, Option.map_none]
    · rfl

theorem get?_start (seed : Scopes) (old : Declarations) (c : Name) :
    (start seed old).get? c = (old.get? c).or (seed.get? c) :=
  Table.get?_insertAll old.nodup seed c

theorem get?_foldl_addComponent (strategy : Strategy) {es : List (Name × RenameTable)}
    (hes : (es.map Prod.fst).Nodup) (database : Scopes) (c : Name) :
    (es.foldl (fun database e => addComponent strategy database e.1 e.2) database).get? c =
      match valueAt? c es with
      | some names => (database.get? c).map (byStrategy strategy · names)
      | none => database.get? c := by
  induction es generalizing database with
  | nil => rfl
  | cons e es ih =>
    rw [List.map_cons, List.nodup_cons] at hes
    rw [List.foldl_cons, ih hes.2, get?_addComponent, valueAt?]
    by_cases hc : e.1 = c
    · -- each component comes once, so its turn decides
      rw [if_pos hc, if_pos hc.symm, valueAt?_eq_none.mpr (hc ▸ hes.1)]
    · rw [if_neg hc, if_neg fun heq => hc heq.symm]

/-- The table of a component after a merge. -/
theorem get?_merge (strategy : Strategy) (seed : Scopes) (old new : Declarations) (c : Name) :
    (merge strategy seed old new).get? c =
      match new.get? c with
      | some names => ((start seed old).get? c).map (byStrategy strategy · names)
      | none => (start seed old).get? c :=
  get?_foldl_addComponent strategy new.nodup (start seed old) c

section Tables

variable {strategy : Strategy} {seed : Scopes} {old new : Declarations} {c : Name}

theorem get?_start_of_old {was : RenameTable} (hc : old.get? c = some was) :
    (start seed old).get? c = some was := by
  rw [get?_start, hc, Option.some_or]

theorem get?_start_of_not_old (hc : c ∉ old.keys) : (start seed old).get? c = seed.get? c := by
  rw [get?_start, Table.get?_eq_none.mpr hc, Option.none_or]

theorem get?_merge_of_some {names : RenameTable} (hnew : new.get? c = some names) :
    (merge strategy seed old new).get? c =
      ((start seed old).get? c).map (byStrategy strategy · names) := by
  rw [get?_merge, hnew]

theorem get?_merge_of_none (hnew : new.get? c = none) :
    (merge strategy seed old new).get? c = (start seed old).get? c := by
  rw [get?_merge, hnew]

theorem get?_merge_of_old {was names : RenameTable} (hc : old.get? c = some was)
    (hnew : new.get? c = some names) :
    (merge strategy seed old new).get? c = some (byStrategy strategy was names) := by
  rw [get?_merge_of_some hnew, get?_start_of_old hc, Option.map_some]

end Tables

end Relabel.Merge

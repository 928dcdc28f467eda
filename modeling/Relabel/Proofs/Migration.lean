import Relabel.Proofs.LoweredKeys
import Relabel.Proofs.Merging
import Relabel.Proofs.Readings

/-!
# Migrating a library

The declarations of an old and a new version of a library are harvested, merged and built into a
database; a pass over the declarations of the old version then gives it the names of the new one.
What the seed holds, and what happens to other components, does not matter.
-/

namespace Relabel

open Text Harvest

/-! ## 1. The database of a merge -/

section Merged

variable {settings : DatabaseSettings} (htestbenches : settings.addTestbenches = false)
  (haliases : settings.aliases = []) (strategy : Strategy) (seed : Scopes) (o n : Text)

include htestbenches haliases

/-- The renames of a component that the old version has are words. -/
theorem keepsWords_build_merge {c : Name} (hc : c ∈ (ofText o).keys) :
    (Database.build settings (Merge.merge strategy seed (ofText o) (ofText n))).KeepsWords .exact
      c := by
  intro w hw
  rw [Database.lookup_exact]
  cases hentry : Database.newName? _ c w with
  | none => exact hw
  | some v =>
    show IsIdentifier v
    -- trace the answer back through the lower-case keys to the merged table
    rcases Database.newName?_eq_some.mp hentry with ⟨table, htable, hv⟩
    rw [Database.get?_build htestbenches haliases] at htable
    rcases Option.map_eq_some_iff.mp htable with ⟨merged, hmerged, rfl⟩
    have hvalue : ∃ key, merged.get? key = some v := by
      split at hv
      · exact (Database.exists_of_get?_addLowered hv).imp fun _ h => h.1
      · exact ⟨w, hv⟩
    rcases hvalue with ⟨key, hkey⟩
    cases hold : (ofText o).get? c with
    | none => exact absurd hc (Table.get?_eq_none.mp hold)
    | some old =>
      cases hnew : (ofText n).get? c with
      | some new =>
        rw [Merge.get?_merge_of_old hold hnew] at hmerged
        rw [← Option.some.inj hmerged] at hkey
        exact isIdentifier_of_mem_keys hnew (Merge.mem_keys_of_get?_byStrategy hkey)
      | none =>
        -- a component that is gone keeps its old names
        rw [Merge.get?_merge_of_none hnew, Merge.get?_start_of_old hold] at hmerged
        rw [← Option.some.inj hmerged] at hkey
        rcases exists_eq_identity hold with ⟨names, rfl⟩
        apply isIdentifier_of_mem_keys hold
        rw [← Table.values_identity]
        exact Table.mem_values_of_get? hkey

theorem get?_build_merge {c : Name} {old new : RenameTable} (hold : (ofText o).get? c = some old)
    (hnew : (ofText n).get? c = some new) :
    (Database.build settings (Merge.merge strategy seed (ofText o) (ofText n))).scopes.get? c =
      some ((if settings.fixCase then Database.addLowered else id)
        (Merge.byStrategy strategy old new)) := by
  rw [Database.get?_build htestbenches haliases, Merge.get?_merge_of_old hold hnew, Option.map_some]

/-- Looked up in turn, the old names of a component give the new names of its merged table. -/
theorem map_lookup_build_merge {c : Name} {old new : RenameTable}
    (hold : (ofText o).get? c = some old) (hnew : (ofText n).get? c = some new)
    (hsize : old.size = new.size) (hlower : ∀ a ∈ old.keys, ∀ b ∈ old.keys, a = lower b → a = b) :
    old.keys.map ((Database.build settings
        (Merge.merge strategy seed (ofText o) (ofText n))).lookup .exact c) =
      (Merge.byStrategy strategy old new).values := by
  have hpairing := Merge.isPairing_byStrategy strategy hsize
  have hkeys : (Merge.byStrategy strategy old new).keys = old.keys := hpairing.map_fst
  rw [← hkeys, Table.keys, Table.values, List.map_map]
  apply List.map_congr_left
  intro e he
  have hget : (Merge.byStrategy strategy old new).get? e.1 = some e.2 := Table.get?_of_mem he
  have hmem : e.1 ∈ old.keys := hkeys ▸ List.mem_map_of_mem he
  have hentry : (Database.build settings
      (Merge.merge strategy seed (ofText o) (ofText n))).newName? c e.1 = some e.2 := by
    rw [Database.newName?, get?_build_merge htestbenches haliases strategy seed o n hold hnew,
      Option.bind_some]
    split
    · apply Database.get?_addLowered hget
      rw [hkeys]
      exact hlower e.1 hmem
    · exact hget
  rw [Function.comp_apply, Database.lookup_exact, hentry, Option.getD_some]

end Merged

/-! ## 2. A pass over the declarations -/

namespace Harvest

/-- Whether a code part is, behind blanks, `name`, blanks and a colon. -/
def StartsDeclaration (name code : Text) : Prop :=
  name <+: skipBlanks code ∧ Declaration.followsName ((skipBlanks code).drop name.length)

instance (name code : Text) : Decidable (StartsDeclaration name code) :=
  inferInstanceAs (Decidable (_ ∧ _))

/-- The names that are read off a text, each with the code part of its line. -/
def harvested (t : Text) : List (Name × Text) :=
  ((Pass.declarations.cursors [] {} (lines t)).zip (lines t)).filterMap fun x =>
    if x.1.inside then (declared? (code x.2)).map (·, code x.2) else none

theorem isSome_split? {code : Text} {name : Name} (hname : declared? code = some name)
    (h : StartsDeclaration name code) : (Declaration.split? code).isSome := by
  rcases h with ⟨⟨rest, hrest⟩, hfollows⟩
  rw [← hrest, List.drop_left] at hfollows
  rcases exists_allBlank_append code with ⟨b, hb, hcode⟩
  have hstart : startsWord rest = false := by
    rw [← Bool.not_eq_true]
    exact fun hstart => Declaration.not_followsName_of_startsWord hstart hfollows
  rw [Declaration.split?_eq_some.mpr ⟨by rw [hrest]; exact hcode, hb,
    isIdentifier_of_declared? hname, hstart, hfollows⟩, Option.isSome_some]

section Pass

variable {db : Database}

theorem read_declarations_rename {cursor : Cursor} {code : Text}
    (hwords : cursor.inside = true → db.KeepsWords .exact cursor.component)
    (hfront : cursor.inside = true → ∀ name, declared? code = some name →
      StartsDeclaration name code) :
    read cursor (Pass.declarations.rename db cursor code) =
      ⟨cursor.component, starts code,
        (read cursor code).name?.map (db.lookup .exact cursor.component)⟩ := by
  have hstarts : starts (Pass.declarations.rename db cursor code) = starts code := by
    rw [starts_eq, starts_eq, (Pass.keepsMoves_declarations hwords code).entityName]
  rw [read, hstarts, read]
  cases hinside : cursor.inside with
  | false => rfl
  | true =>
    rw [Pass.rename, if_pos hinside, if_pos rfl,
      declared?_declaration_rename (hwords hinside) fun name hname =>
        isSome_split? hname (hfront hinside name hname)]
    rfl

/-- A pass over declarations that stand at the front of their lines renames what is harvested. -/
theorem get?_ofText_declarations (lead : Name) {t : Text}
    (hwords : ∀ c ∈ (ofText t).keys, db.KeepsWords .exact c)
    (hfront : ∀ x ∈ harvested t, StartsDeclaration x.1 x.2) (c : Name) :
    (ofText (Pass.declarations.apply lead db t)).get? c =
      ((ofText t).get? c).map fun table =>
        Table.identity (table.keys.map (db.lookup .exact c)) := by
  -- every component that the pass is inside of has been entered, and so is in the harvest
  have hinside : ∀ cursor ∈ Pass.declarations.cursors lead {} (lines t), cursor.inside = true →
      db.KeepsWords .exact cursor.component := by
    intro cursor hcursor h
    apply hwords
    rw [keys_ofText lead, List.mem_eraseDups]
    exact List.mem_map_of_mem (List.mem_filter.mpr ⟨hcursor, h⟩)
  have hrespells : ∀ cursor ∈ Pass.declarations.cursors lead {} (lines t),
      Pass.declarations.Respells db cursor :=
    fun cursor hcursor => Pass.respells_declarations (hinside cursor hcursor)
  have hcursors : Pass.declarations.cursors lead {} (lines (Pass.declarations.apply lead db t)) =
      Pass.declarations.cursors lead {} (lines t) :=
    Pass.cursors_apply (by decide) (by decide) fun cursor hcursor =>
      ⟨hrespells cursor hcursor, Pass.keepsMoves_declarations (hinside cursor hcursor)⟩
  -- line by line, only the harvested name changes
  have hread : ∀ x ∈ (Pass.declarations.cursors lead {} (lines t)).zip (lines t),
      read x.1 (code (Pass.declarations.renameLine db x.1 x.2)) =
        ⟨x.1.component, starts (code x.2),
          (read x.1 (code x.2)).name?.map (db.lookup .exact x.1.component)⟩ := by
    intro x hx
    have hcursor : x.1 ∈ Pass.declarations.cursors lead {} (lines t) := (List.of_mem_zip hx).1
    have hcode : code (Pass.declarations.renameLine db x.1 x.2) =
        Pass.declarations.rename db x.1 (code x.2) :=
      Pass.codePart_renameLine (hrespells x.1 hcursor)
    rw [hcode]
    apply read_declarations_rename (hinside x.1 hcursor)
    intro h name hname
    apply hfront (name, code x.2)
    rw [harvested, ← cursors_declarations lead]
    exact List.mem_filterMap.mpr ⟨x, hx, by rw [if_pos h, hname, Option.map_some]⟩
  have hold : readings (Pass.declarations.cursors lead {} (lines t)) (lines t) =
      ((Pass.declarations.cursors lead {} (lines t)).zip (lines t)).map fun x =>
        read x.1 (code x.2) := rfl
  have hnew : readings
      (Pass.declarations.cursors lead {} (lines (Pass.declarations.apply lead db t)))
      (lines (Pass.declarations.apply lead db t)) =
      ((Pass.declarations.cursors lead {} (lines t)).zip (lines t)).map fun x =>
        read x.1 (code (Pass.declarations.renameLine db x.1 x.2)) := by
    have hzip := readings_zipWith id (Pass.declarations.renameLine db)
      (Pass.declarations.cursors lead {} (lines t)) (lines t)
    rw [List.map_id] at hzip
    rw [hcursors, Pass.lines_apply hrespells, hzip]
    rfl
  have hstart : linesSinceStart? c (Pass.declarations.apply lead db t) = linesSinceStart? c t := by
    rw [linesSinceStart?, linesSinceStart?, ← cursors_declarations lead,
      ← cursors_declarations lead, hold, hnew, sinceStart?, sinceStart?, List.map_map, List.map_map]
    apply congrArg (fun flags => (List.reverse flags).findIdx? id)
    apply List.map_congr_left
    intro x hx
    rw [Function.comp_apply, Function.comp_apply, hread x hx]
    rfl
  apply get?_ofText_of_readings hold hnew _ _ hstart
  · intro x hx
    rw [hread x hx]
    rfl
  · intro x hx hc
    rw [hread x hx, ← hc]
    rfl

end Pass

end Harvest

/-! ## 3. From the old version to the new one -/

namespace Passes

/-- A pass over the declarations of the old version gives a component the names of the new
one: in their order when names are paired by position, and in some order when they are
paired by form first. -/
theorem declarations_migrate {settings : DatabaseSettings}
    (htestbenches : settings.addTestbenches = false) (haliases : settings.aliases = [])
    (strategy : Strategy) (seed : Scopes) (lead : Name) {o n : Text} {c : Name}
    {old new : RenameTable} (hold : (ofText o).get? c = some old)
    (hnew : (ofText n).get? c = some new) (hsize : old.size = new.size)
    (hlower : ∀ a ∈ old.keys, ∀ b ∈ old.keys, a = lower b → a = b)
    (hfront : ∀ x ∈ harvested o, StartsDeclaration x.1 x.2) :
    ∃ u, run [.declarations] lead
        (Database.build settings (Merge.merge strategy seed (ofText o) (ofText n))) o = .ok u ∧
      ∃ table, (ofText u).get? c = some table ∧ table.entries.Perm new.entries ∧
        (strategy = .positional → table = new) := by
  have hpairing := Merge.isPairing_byStrategy strategy hsize
  have hlookup := map_lookup_build_merge htestbenches haliases strategy seed o n hold hnew
    hsize hlower
  have hharvest := get?_ofText_declarations lead
    (fun c hc => keepsWords_build_merge htestbenches haliases strategy seed o n hc) hfront c
  have hfilled : (Database.build settings
      (Merge.merge strategy seed (ofText o) (ofText n))).isEmpty = false :=
    Database.isEmpty_eq_false (get?_build_merge htestbenches haliases strategy seed o n hold hnew)
  -- the names of the merged table are all different, so none of them is dropped
  have hnodup : (Merge.byStrategy strategy old new).values.Nodup :=
    hpairing.map_snd_perm.nodup_iff.mpr new.keys_nodup
  rw [hold, Option.map_some, hlookup] at hharvest
  rcases exists_eq_identity hnew with ⟨names, rfl⟩
  have hentries := Table.entries_identity_of_nodup hnodup
  refine ⟨_, run_eq_ok hfilled [.declarations] lead o, _, hharvest, ?_, ?_⟩
  · rw [hentries, Table.entries_identity, ← Table.keys_identity]
    exact hpairing.map_snd_perm.map _
  · rintro rfl
    apply Table.ext
    have hvalues : (Merge.byStrategy .positional old (.identity names)).values =
        (Table.identity names).keys := Merge.values_positional hsize
    rw [hentries, Table.entries_identity, ← Table.keys_identity, hvalues]

theorem declarations_migrate_reordered :
    let o := ("entity c is\n  Clk : in;\nend entity;\nentity c is\n  D_in : in; -- Clk : in\n" ++
      "  Rst : in;\n  Clk : in;\n  D_in : in;\nend entity;\n").toList
    let n := "entity c is\n  clk : in;\n  reset : in;\n  DIn : in;\nend entity;\n".toList
    ∃ u, run [.declarations] [] (Database.build { addTestbenches := false, aliases := [] }
        (Merge.merge .nameAware (.ofList [("c".toList, .ofList [("Clk".toList, "old".toList)])])
          (ofText o) (ofText n))) o = .ok u ∧
      ∃ table, (ofText u).get? "c".toList = some table ∧
        table.entries.Perm (Table.identity ["clk".toList, "reset".toList, "DIn".toList]).entries ∧
        (Strategy.nameAware = .positional →
          table = .identity ["clk".toList, "reset".toList, "DIn".toList]) := by
  repeat rw [String.toList_append]
  repeat rw [String.toList_ofList]
  intro o n
  have hold : (ofText o).get? "c".toList =
      some (.identity ["D_in".toList, "Rst".toList, "Clk".toList]) := by decide +kernel
  have hnew : (ofText n).get? "c".toList =
      some (.identity ["clk".toList, "reset".toList, "DIn".toList]) := by decide +kernel
  exact declarations_migrate rfl rfl .nameAware _ [] hold hnew (by decide +kernel)
    (by decide +kernel) (by decide +kernel)

end Passes

end Relabel

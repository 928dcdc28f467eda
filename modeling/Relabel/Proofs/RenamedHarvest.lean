import Relabel.Proofs.Readings

/-!
# What is harvested from a refactored source

The passes over a source rename every declared name that harvesting finds, also those that do not
stand at the front of their line. The harvest of the result has the components of the old one, and
each component whose last start has not moved has the renamed names.
-/

namespace Relabel.Passes

open Text Harvest

section Line

variable {db : Database} (hnames : ∀ v ∈ db.newNames, IsIdentifier v) (hclosed : db.LoweredClosed)
  (hfixed : ∀ v ∈ db.newNames, db.Fixes v)

include hnames hclosed hfixed

theorem declared?_sourceCode {cursors : Pass → Cursor}
    (hinside : (cursors .declarations).inside = true)
    (hscope : (cursors .symbols).component = (cursors .declarations).component) (code : Text) :
    declared? (sourceCode db cursors code) =
      (declared? code).map (db.lookup .folded (cursors .declarations).component) := by
  have hkeep := db.keepsWords hnames
  -- the last pass renames every word, so it is enough to follow the name through the first two
  have hlast : declared? (sourceCode db cursors code) =
      (declared? (Pass.instantiations.rename db (cursors .instantiations)
        (Pass.declarations.rename db (cursors .declarations) code))).map
          (db.lookup .folded (cursors .symbols).component) :=
    declared?_mapWords (hkeep _ _) _
  have hformal : ∀ code, declared? (Pass.instantiations.rename db (cursors .instantiations) code) =
      declared? code := by
    intro code
    rw [Pass.rename]
    split
    · exact declared?_association_rename (hkeep _ _)
    · rfl
  rw [hlast, hformal, hscope, Pass.rename, if_pos hinside]
  cases hsplit : Declaration.split? code with
  | none => rw [Declaration.rename_eq_self hsplit]
  | some cut =>
    -- a name at the front is looked up exactly first, which the folded look-up does not notice
    rcases cut with ⟨indent, name, rest⟩
    rw [declared?_declaration_rename (hkeep _ _) fun _ _ => by rw [hsplit]; rfl,
      declared?_of_split? hsplit, Option.map_some, Option.map_some, Option.map_some,
      hclosed.lookup_folded_exact hfixed]

theorem name?_read_sourceLine {cursors : Pass → Cursor}
    (hscope : (cursors .declarations).inside = true →
      (cursors .symbols).component = (cursors .declarations).component) (line : Text) :
    (read (cursors .declarations) (code (sourceLine db cursors line))).name? =
      (read (cursors .declarations) (code line)).name?.map
        (db.lookup .folded (cursors .declarations).component) := by
  have hcode : code (sourceLine db cursors line) = sourceCode db cursors (code line) :=
    sourcePart_sourceLine hnames cursors line
  rw [hcode, Harvest.read, Harvest.read]
  cases hinside : (cursors .declarations).inside with
  | false => rfl
  | true => exact declared?_sourceCode hnames hclosed hfixed hinside (hscope hinside) (code line)

end Line

/-- The passes over a source keep the components of a harvest, and a component whose last start they
do not move has every name that was harvested for it renamed. -/
theorem source_renames_harvest {db : Database} (hfilled : db.isEmpty = false)
    (hnames : ∀ v ∈ db.newNames, IsIdentifier v) (hclosed : db.LoweredClosed)
    (hfixed : ∀ v ∈ db.newNames, db.Fixes v) (lead : Name) (t : Text)
    (hcursors : Pass.declarations.cursors lead {} (lines (apply Pass.source lead db t)) =
      Pass.declarations.cursors lead {} (lines t))
    (hscopes : ∀ x ∈ (Pass.declarations.cursors lead {} (lines t)).zip
        (Pass.symbols.cursors lead {} (lines t)),
      x.1.inside = true → x.2.component = x.1.component) :
    ∃ u, run Pass.source lead db t = .ok u ∧ (ofText u).keys = (ofText t).keys ∧
      ∀ c, linesSinceStart? c u = linesSinceStart? c t →
        (ofText u).get? c = ((ofText t).get? c).map fun table =>
          Table.identity (table.keys.map (db.lookup .folded c)) := by
  refine ⟨apply Pass.source lead db t, run_eq_ok hfilled _ lead t, ?_, ?_⟩
  · rw [keys_ofText lead, hcursors, ← keys_ofText lead]
  intro c hstart
  have hdecl : Pass.declarations.cursors lead {} (lines t) =
      (sourceCursors lead t).map (· .declarations) :=
    (map_sourceCursors (by decide) lead t).symm
  have hsym : Pass.symbols.cursors lead {} (lines t) =
      (sourceCursors lead t).map (· .symbols) :=
    (map_sourceCursors (by decide) lead t).symm
  have hscope : ∀ cursors ∈ sourceCursors lead t,
      (cursors .declarations).inside = true →
        (cursors .symbols).component = (cursors .declarations).component := by
    intro cursors hmem
    apply hscopes (cursors .declarations, cursors .symbols)
    rw [hdecl, hsym, List.zip_map']
    exact List.mem_map_of_mem hmem
  -- the readings of both texts, line by line
  have hold : readings (Pass.declarations.cursors lead {} (lines t)) (lines t) =
      ((sourceCursors lead t).zip (lines t)).map fun x =>
        read (x.1 .declarations) (code x.2) := by
    rw [hdecl, readings, List.zip_map_left, List.map_map]
    rfl
  have hnew : readings (Pass.declarations.cursors lead {} (lines (apply Pass.source lead db t)))
      (lines (apply Pass.source lead db t)) =
      ((sourceCursors lead t).zip (lines t)).map fun x =>
        read (x.1 .declarations) (code (sourceLine db x.1 x.2)) := by
    rw [hcursors, hdecl, lines_apply_source hnames, readings_zipWith]
  refine get?_ofText_of_readings hold hnew (fun _ _ => rfl) ?_ hstart
  intro x hx hc
  rw [name?_read_sourceLine hnames hclosed hfixed (hscope x.1 (List.of_mem_zip hx).1), ← hc]
  rfl

theorem source_renames_harvest_port_clause :
    let db : Database := ⟨.ofList [("c".toList, .ofList [("Din".toList, "data_i".toList),
      ("din".toList, "data_i".toList), ("d".toList, "data_i".toList)])]⟩
    let t := "entity c is\n  port (Din : in;\n    q, d : in;\n    Clk : in);\nend entity;\n".toList
    linesSinceStart? "c".toList (apply Pass.source [] db t) = linesSinceStart? "c".toList t ∧
      ∃ u, run Pass.source [] db t = .ok u ∧ (ofText u).keys = (ofText t).keys ∧
        ∀ c, linesSinceStart? c u = linesSinceStart? c t →
          (ofText u).get? c = ((ofText t).get? c).map fun table =>
            Table.identity (table.keys.map (db.lookup .folded c)) := by
  repeat rw [String.toList_ofList]
  intro db t
  exact ⟨by decide +kernel, source_renames_harvest (by decide +kernel) (by decide +kernel)
    (by decide +kernel) (by decide +kernel) [] t (by decide +kernel) (by decide +kernel)⟩

/-- A rename can make a line start the component it is in once more. No cursor shows it, but the
names declared before that line are lost. -/
theorem source_loses_harvest_on_restart :
    let db : Database := ⟨.ofList [("c".toList, .ofList [("foo".toList, "is".toList)])]⟩
    let t := "entity c is\na : in\nentity c foo\nb : in\n".toList
    let u := apply Pass.source [] db t
    run Pass.source [] db t = .ok u ∧ db.isEmpty = false ∧ (∀ v ∈ db.newNames, IsIdentifier v) ∧
      db.LoweredClosed ∧ (∀ v ∈ db.newNames, db.Fixes v) ∧
      Pass.declarations.cursors [] {} (lines u) = Pass.declarations.cursors [] {} (lines t) ∧
      (∀ x ∈ (Pass.declarations.cursors [] {} (lines t)).zip (Pass.symbols.cursors [] {} (lines t)),
        x.1.inside = true → x.2.component = x.1.component) ∧
      (ofText t).get? "c".toList = some (.identity ["a".toList, "b".toList]) ∧
      (ofText u).get? "c".toList = some (.identity ["b".toList]) ∧
      (ofText u).get? "c".toList ≠ ((ofText t).get? "c".toList).map fun table =>
        Table.identity (table.keys.map (db.lookup .folded "c".toList)) := by
  repeat rw [String.toList_ofList]
  intro db t u
  exact ⟨rfl, by decide +kernel⟩

end Relabel.Passes

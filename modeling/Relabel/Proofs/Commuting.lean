import Relabel.Proofs.Source

/-!
# The first two passes over a source commute

A line inside an entity is renamed as a declaration when a colon follows its first word, a line
inside an association list when its formal is followed by an arrow. No line is both, and neither
renaming makes a line into the other or moves a cursor. So it does not matter which of the two
passes runs first, even where the entities and the lists of a text overlap.
-/

namespace Relabel

open Text

/-! ## 1. One line -/

theorem Association.split?_eq_none_of_declaration {code : Text} {cut : Text × Name × Text}
    (h : Declaration.split? code = some cut) : Association.split? code = none := by
  cases hsplit : Association.split? code with
  | none => rfl
  | some found =>
    rcases found with ⟨lead, formal, rest⟩
    rcases Association.split?_eq_some.mp hsplit with ⟨hcode, hlead, hformal, hrest, hfollows⟩
    rcases hlead.front hformal hrest hfollows with ⟨b, w, behind, heq, hb, hw, hbehind, hno⟩
    -- the word in front of the colon would be `w`, and no colon follows that
    have hnone : Declaration.split? code = none := by
      rw [hcode, heq, Declaration.split?_eq_none hb hw hbehind hno]
    rw [h] at hnone
    contradiction

theorem Association.rename_declaration_rename {db : Database} {component component' : Name}
    (hdb : db.KeepsWords .exact component) (hdb' : db.KeepsWords .exact component') (code : Text) :
    Association.rename db component' (Declaration.rename db component code) =
      Declaration.rename db component (Association.rename db component' code) := by
  cases h : Declaration.split? code with
  | none =>
    have hnone : Declaration.split? (Association.rename db component' code) = none := by
      rw [Association.split?_declaration_rename hdb', h]
    rw [Declaration.rename_eq_self h, Declaration.rename_eq_self hnone]
  | some cut =>
    -- a declaration is no association, neither with its old name nor with its new one
    have hold : Association.split? code = none := Association.split?_eq_none_of_declaration h
    have hnew : Association.split? (Declaration.rename db component code) = none := by
      have hsplit : Declaration.split? (Declaration.rename db component code) =
          some (cut.1, db.lookup .exact component cut.2.1, cut.2.2) := by
        rw [Declaration.split?_rename hdb, h, Option.map_some]
      exact Association.split?_eq_none_of_declaration hsplit
    rw [Association.rename_eq_self hold, Association.rename_eq_self hnew]

namespace Pass

variable {db : Database} (hnames : ∀ v ∈ db.newNames, IsIdentifier v)

include hnames

theorem rename_comm (cursor cursor' : Cursor) (code : Text) :
    instantiations.rename db cursor' (declarations.rename db cursor code) =
      declarations.rename db cursor (instantiations.rename db cursor' code) := by
  have hkeep := db.keepsWords hnames .exact
  cases hentity : cursor.inside with
  | false => simp only [rename, hentity, Bool.false_eq_true, if_false]
  | true =>
    cases hlist : cursor'.inside with
    | false => simp only [rename, hlist, Bool.false_eq_true, if_false]
    | true =>
      simp only [rename, hentity, hlist, if_true]
      exact Association.rename_declaration_rename (hkeep _) (hkeep _) code

theorem renameLine_renameLine {pass other : Pass} (hpass : pass ∈ source) (hother : other ∈ source)
    (cursor cursor' : Cursor) (line : Text) :
    other.renameLine db cursor' (pass.renameLine db cursor line) =
      other.rename db cursor' (pass.rename db cursor (Passes.sourcePart line)) ++
        Passes.sourceComment line := by
  have hrespells := respells hnames pass cursor
  rw [Passes.renameLine_eq hother, Passes.sourcePart_renameLine hpass hrespells,
    Passes.sourceComment_renameLine hpass hrespells]

/-! ## 2. A whole text -/

/-- Behind a pass that moves no cursor, another one works under the cursors of the
text that came in. -/
theorem lines_apply_apply {pass other : Pass} (hpass : pass ∈ source) (hother : other ∈ source)
    (hmoves : ∀ cursor, pass.KeepsMoves db cursor) (lead : Name) (t : Text) :
    lines (other.apply lead db (pass.apply lead db t)) =
      List.zipWith
        (fun cursors line =>
          other.renameLine db (cursors other) (pass.renameLine db (cursors pass) line))
        (Passes.sourceCursors lead t) (lines t) := by
  have hrespells := respells hnames
  have hcursors : other.cursors lead {} (lines (pass.apply lead db t)) =
      other.cursors lead {} (lines t) :=
    cursors_apply hpass hother fun cursor _ => ⟨hrespells pass cursor, hmoves cursor⟩
  have hfirst : lines (pass.apply lead db t) =
      List.zipWith (fun cursors => pass.renameLine db (cursors pass)) (Passes.sourceCursors lead t)
        (lines t) := by
    rw [lines_apply fun cursor _ => hrespells pass cursor, ← Passes.map_sourceCursors hpass,
      List.zipWith_map_left]
  rw [lines_apply fun cursor _ => hrespells other cursor, hcursors,
    ← Passes.map_sourceCursors hother, hfirst, zipWith_map_zipWith]

end Pass

namespace Passes

/-- The declarations and the formals of a text are renamed with the same result in either order. -/
theorem declarations_instantiations_comm {db : Database} (hfilled : db.isEmpty = false)
    (hnames : ∀ v ∈ db.newNames, IsIdentifier v) (lead : Name) (t : Text) :
    ∃ u, run [.declarations, .instantiations] lead db t = .ok u ∧
      run [.instantiations, .declarations] lead db t = .ok u := by
  have hdecl : ∀ cursor, Pass.declarations.KeepsMoves db cursor := fun cursor =>
    Pass.keepsMoves_declarations fun _ => db.keepsWords hnames _ _
  have hinst : ∀ cursor, Pass.instantiations.KeepsMoves db cursor := fun cursor =>
    Pass.keepsMoves_instantiations fun _ => db.keepsWords hnames _ _
  have hlines : lines (apply [.declarations, .instantiations] lead db t) =
      lines (apply [.instantiations, .declarations] lead db t) := by
    change lines (Pass.instantiations.apply lead db (Pass.declarations.apply lead db t)) =
      lines (Pass.declarations.apply lead db (Pass.instantiations.apply lead db t))
    rw [Pass.lines_apply_apply hnames (by decide) (by decide) hdecl,
      Pass.lines_apply_apply hnames (by decide) (by decide) hinst]
    have hfirst : Pass.declarations ∈ Pass.source := by decide
    have hsecond : Pass.instantiations ∈ Pass.source := by decide
    simp only [Pass.renameLine_renameLine hnames hfirst hsecond,
      Pass.renameLine_renameLine hnames hsecond hfirst, Pass.rename_comm hnames]
  refine ⟨apply [.declarations, .instantiations] lead db t, run_eq_ok hfilled _ lead t, ?_⟩
  rw [run_eq_ok hfilled, ← flatten_lines (apply [.instantiations, .declarations] lead db t),
    ← hlines, flatten_lines]

/-- An instantiation inside an entity that is not closed: its label is renamed as a declaration of
`c`, the formals behind it as those of `d`. -/
theorem declarations_instantiations_comm_unclosed :
    let db : Database :=
      ⟨.ofList [("c".toList, .ofList [("u".toList, "port".toList), ("a".toList, "b".toList)]),
        ("d".toList, .ofList [("a".toList, "map".toList), ("b".toList, "entity".toList)])]⟩
    let t := ("entity c is\n  a : in; -- a => a\n  u : entity work.d\n  port map (a => a,\n" ++
      "  b(0) => b,\n  a : in\n  );\n  a => a\n").toList
    (∃ u, run [.declarations, .instantiations] [] db t = .ok u ∧
        run [.instantiations, .declarations] [] db t = .ok u) ∧
      apply [.declarations, .instantiations] [] db t =
        ("entity c is\n  b : in; -- a => a\n  port : entity work.d\n  port map (map => a,\n" ++
          "  entity(0) => b,\n  b : in\n  );\n  a => a\n").toList := by
  repeat rw [String.toList_append]
  repeat rw [String.toList_ofList]
  intro db t
  exact ⟨declarations_instantiations_comm (by decide +kernel) (by decide +kernel) [] t,
    by decide +kernel⟩

end Passes

end Relabel

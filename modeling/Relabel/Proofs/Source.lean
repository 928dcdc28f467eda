import Mathlib.Data.List.Zip
import Relabel.Proofs.Layout

/-!
# The passes over a source, taken together

The first two passes over a source keep the cursors of all three, so each pass can be said to run
under the cursors of the text that came in. A line of the result then depends on that line and on
its three cursors only.
-/

namespace Relabel

open Text

/-! ## 1. What the first two passes leave alone -/

namespace Pass

variable {db : Database}

theorem keepsMoves_declarations {cursor : Cursor}
    (hdb : cursor.inside = true → db.KeepsWords .exact cursor.component) :
    declarations.KeepsMoves db cursor := by
  intro code
  rw [rename]
  split
  · rename_i hinside
    exact sameMoves_declaration_rename (hdb hinside) code
  · exact .refl code

theorem keepsMoves_instantiations {cursor : Cursor}
    (hdb : cursor.inside = true → db.KeepsWords .exact cursor.component) :
    instantiations.KeepsMoves db cursor := by
  intro code
  rw [rename]
  split
  · rename_i hinside
    exact sameMoves_association_rename (hdb hinside) code
  · exact .refl code

/-- Neither of the two passes moves a cursor of its own by what it renames. -/
theorem move_rename (hnames : ∀ v ∈ db.newNames, IsIdentifier v) {pass : Pass}
    (hpass : pass ∈ [declarations, instantiations]) (lead : Name) (cursor : Cursor) (code : Text)
    (start : Cursor) :
    pass.move lead (pass.rename db cursor code) start = pass.move lead code start := by
  have hkeep := db.keepsWords hnames .exact
  simp only [List.mem_cons, List.not_mem_nil, or_false] at hpass
  rcases hpass with rfl | rfl
  · exact (keepsMoves_declarations (fun _ => hkeep cursor.component) code).move_eq (by decide)
      lead start
  · exact (keepsMoves_instantiations (fun _ => hkeep cursor.component) code).move_eq (by decide)
      lead start

theorem cursors_apply {pass other : Pass} (hpass : pass ∈ source) (hother : other ∈ source)
    {lead : Name} {t : Text}
    (h : ∀ cursor ∈ pass.cursors lead {} (lines t),
      pass.Respells db cursor ∧ pass.KeepsMoves db cursor) :
    other.cursors lead {} (lines (pass.apply lead db t)) = other.cursors lead {} (lines t) := by
  apply cursors_apply_of_move (commentMarker_of_mem_source hpass hother)
  intro cursor hcursor
  rcases h cursor hcursor with ⟨hrespells, hmoves⟩
  exact ⟨hrespells, fun code start => (hmoves code).move_eq hother lead start⟩

end Pass

theorem zipWith_map_zipWith {α β : Type} (f : β → Text → Text) (cursor : α → β)
    (g : α → Text → Text) (xs : List α) (ls : List Text) :
    List.zipWith f (xs.map cursor) (List.zipWith g xs ls) =
      List.zipWith (fun x line => f (cursor x) (g x line)) xs ls := by
  rw [List.zipWith_map_left, List.zipWith_zipWith_right, List.zipWith3_same_left]

namespace Passes

/-! ## 2. One line under the cursors of all passes -/

/-- The code part of a source line. -/
def sourcePart (line : Text) : Text :=
  codePart Pass.symbols.commentMarker line

/-- The comment of a source line. -/
def sourceComment (line : Text) : Text :=
  commentPart Pass.symbols.commentMarker line

section RenameLine

variable {pass : Pass} (hpass : pass ∈ Pass.source) {db : Database} {cursor : Cursor}

include hpass

theorem commentMarker_eq : pass.commentMarker = Pass.symbols.commentMarker :=
  Pass.commentMarker_of_mem_source hpass (by decide)

theorem renameLine_eq (line : Text) :
    pass.renameLine db cursor line =
      pass.rename db cursor (sourcePart line) ++ sourceComment line := by
  rw [Pass.renameLine, commentMarker_eq hpass, sourcePart, sourceComment]

theorem sourcePart_renameLine (h : pass.Respells db cursor) (line : Text) :
    sourcePart (pass.renameLine db cursor line) = pass.rename db cursor (sourcePart line) := by
  rw [sourcePart, sourcePart, ← commentMarker_eq hpass, Pass.codePart_renameLine h]

theorem sourceComment_renameLine (h : pass.Respells db cursor) (line : Text) :
    sourceComment (pass.renameLine db cursor line) = sourceComment line := by
  rw [sourceComment, sourceComment, ← commentMarker_eq hpass, Pass.commentPart_renameLine h]

end RenameLine

/-- The cursors of all passes after each of the given lines. -/
def allCursors (lead : Name) : (Pass → Cursor) → List Text → List (Pass → Cursor)
  | _, [] => []
  | cursors, line :: rest =>
      let cursors := fun pass => pass.move lead (sourcePart line) (cursors pass)
      cursors :: allCursors lead cursors rest

/-- What the passes over a source make of a code part. -/
def sourceCode (db : Database) (cursors : Pass → Cursor) (code : Text) : Text :=
  Pass.source.foldl (fun code pass => pass.rename db (cursors pass) code) code

/-- What the passes over a source make of a line. -/
def sourceLine (db : Database) (cursors : Pass → Cursor) (line : Text) : Text :=
  sourceCode db cursors (sourcePart line) ++ sourceComment line

theorem map_allCursors {pass : Pass} (hpass : pass ∈ Pass.source) (lead : Name)
    (cursors : Pass → Cursor) (ls : List Text) :
    (allCursors lead cursors ls).map (· pass) = pass.cursors lead (cursors pass) ls := by
  induction ls generalizing cursors with
  | nil => rfl
  | cons line rest ih =>
    rw [allCursors, List.map_cons, ih, Pass.cursors, sourcePart, commentMarker_eq hpass]

/-- The cursors of all passes after each line of a text. -/
def sourceCursors (lead : Name) (t : Text) : List (Pass → Cursor) :=
  allCursors lead (fun _ => {}) (lines t)

theorem map_sourceCursors {pass : Pass} (hpass : pass ∈ Pass.source) (lead : Name) (t : Text) :
    (sourceCursors lead t).map (· pass) = pass.cursors lead {} (lines t) :=
  map_allCursors hpass lead (fun _ => {}) (lines t)

variable {db : Database} (hnames : ∀ v ∈ db.newNames, IsIdentifier v)

include hnames

theorem sourceLine_eq (cursors : Pass → Cursor) (line : Text) :
    sourceLine db cursors line =
      Pass.symbols.renameLine db (cursors .symbols)
        (Pass.instantiations.renameLine db (cursors .instantiations)
          (Pass.declarations.renameLine db (cursors .declarations) line)) := by
  have hrespells := Pass.respells hnames
  rw [renameLine_eq (by decide), sourcePart_renameLine (by decide) (hrespells _ _),
    sourcePart_renameLine (by decide) (hrespells _ _),
    sourceComment_renameLine (by decide) (hrespells _ _),
    sourceComment_renameLine (by decide) (hrespells _ _)]
  rfl

theorem sourcePart_sourceLine (cursors : Pass → Cursor) (line : Text) :
    sourcePart (sourceLine db cursors line) = sourceCode db cursors (sourcePart line) := by
  have hrespells := Pass.respells hnames
  rw [sourceLine_eq hnames, sourcePart_renameLine (by decide) (hrespells _ _),
    sourcePart_renameLine (by decide) (hrespells _ _),
    sourcePart_renameLine (by decide) (hrespells _ _)]
  rfl

/-- The lines of a result: each is what the passes make of it under the cursors of the
text that came in. -/
theorem lines_apply_source (lead : Name) (t : Text) :
    lines (apply Pass.source lead db t) =
      List.zipWith (sourceLine db) (sourceCursors lead t) (lines t) := by
  have hrespells := Pass.respells hnames
  have hdecl : ∀ cursor ∈ Pass.declarations.cursors lead {} (lines t),
      Pass.declarations.Respells db cursor ∧ Pass.declarations.KeepsMoves db cursor :=
    fun cursor _ => ⟨hrespells _ cursor,
      Pass.keepsMoves_declarations fun _ => db.keepsWords hnames _ _⟩
  have hinst : ∀ cursor ∈
      Pass.instantiations.cursors lead {} (lines (Pass.declarations.apply lead db t)),
      Pass.instantiations.Respells db cursor ∧ Pass.instantiations.KeepsMoves db cursor :=
    fun cursor _ => ⟨hrespells _ cursor,
      Pass.keepsMoves_instantiations fun _ => db.keepsWords hnames _ _⟩
  show lines (Pass.symbols.apply lead db
    (Pass.instantiations.apply lead db (Pass.declarations.apply lead db t))) = _
  -- the cursors of every pass are those of `t`, whatever ran before it
  rw [Pass.lines_apply fun cursor _ => hrespells _ cursor,
    Pass.cursors_apply (by decide) (by decide) hinst,
    Pass.cursors_apply (by decide) (by decide) hdecl,
    Pass.lines_apply fun cursor _ => hrespells _ cursor,
    Pass.cursors_apply (by decide) (by decide) hdecl,
    Pass.lines_apply fun cursor _ => hrespells _ cursor,
    ← map_sourceCursors (by decide), ← map_sourceCursors (by decide),
    ← map_sourceCursors (by decide)]
  have hfirst : List.zipWith (Pass.declarations.renameLine db)
      ((sourceCursors lead t).map (· .declarations)) (lines t) =
      List.zipWith (fun cursors => Pass.declarations.renameLine db (cursors .declarations))
        (sourceCursors lead t) (lines t) := List.zipWith_map_left
  rw [hfirst, zipWith_map_zipWith, zipWith_map_zipWith]
  simp only [← sourceLine_eq hnames]

end Passes

end Relabel

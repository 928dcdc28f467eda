import Mathlib.Data.List.Zip
import Relabel.Proofs.Cursors

/-!
# Passes line by line

A pass renames each line under the cursor that the line leads to. As long as it only respells the
code parts, the lines of its result are the renamed lines, each with its old comment, and the next
pass starts from there.
-/

namespace Relabel.Pass

open Text

/-- What a pass makes of a line, under the cursor after it. -/
def renameLine (pass : Pass) (db : Database) (cursor : Cursor) (line : Text) : Text :=
  pass.rename db cursor (codePart pass.commentMarker line) ++ commentPart pass.commentMarker line

/-- Whether a pass does no more to a line than to respell it. -/
def Respells (pass : Pass) (db : Database) (cursor : Cursor) : Prop :=
  ∀ code, Respelled code (pass.rename db cursor code)

theorem isMarker_commentMarker (pass : Pass) : IsMarker pass.commentMarker := by
  cases pass <;> decide

theorem length_cursors (pass : Pass) (lead : Name) (cursor : Cursor) (ls : List Text) :
    (pass.cursors lead cursor ls).length = ls.length := by
  induction ls generalizing cursor with
  | nil => rfl
  | cons line rest ih => rw [cursors, List.length_cons, List.length_cons, ih]

theorem applyLines_eq (pass : Pass) (lead : Name) (db : Database) (cursor : Cursor)
    (ls : List Text) :
    pass.applyLines lead db cursor ls =
      List.zipWith (pass.renameLine db) (pass.cursors lead cursor ls) ls := by
  induction ls generalizing cursor with
  | nil => rfl
  | cons line rest ih =>
    rw [cursors, List.zipWith_cons_cons, ← ih]
    rfl

theorem exists_of_getElem?_applyLines {pass : Pass} {lead : Name} {db : Database} {cursor : Cursor}
    {ls : List Text} {i : Nat} {line' : Text}
    (h : (pass.applyLines lead db cursor ls)[i]? = some line') :
    ∃ here line, (pass.cursors lead cursor ls)[i]? = some here ∧ ls[i]? = some line ∧
      pass.renameLine db here line = line' := by
  rwa [applyLines_eq, List.getElem?_zipWith_eq_some] at h

section RenameLine

variable {pass : Pass} {db : Database} {cursor : Cursor} {line : Text}

theorem splitComment_renameLine (h : pass.Respells db cursor) :
    splitComment pass.commentMarker (pass.renameLine db cursor line) =
      (pass.rename db cursor (codePart pass.commentMarker line),
        commentPart pass.commentMarker line) :=
  (h _).splitComment_codePart pass.isMarker_commentMarker

theorem codePart_renameLine (h : pass.Respells db cursor) :
    codePart pass.commentMarker (pass.renameLine db cursor line) =
      pass.rename db cursor (codePart pass.commentMarker line) := by
  rw [codePart, splitComment_renameLine h]

theorem commentPart_renameLine (h : pass.Respells db cursor) :
    commentPart pass.commentMarker (pass.renameLine db cursor line) =
      commentPart pass.commentMarker line := by
  rw [commentPart, splitComment_renameLine h]

theorem respelled_renameLine (h : pass.Respells db cursor) :
    Respelled line (pass.renameLine db cursor line) :=
  (h _).of_codePart pass.isMarker_commentMarker

theorem renameLine_renameLine_of_respells (h : pass.Respells db cursor) (db' : Database) :
    pass.renameLine db' cursor (pass.renameLine db cursor line) =
      pass.rename db' cursor (pass.rename db cursor (codePart pass.commentMarker line)) ++
        commentPart pass.commentMarker line := by
  rw [renameLine, codePart_renameLine h, commentPart_renameLine h]

end RenameLine

/-! ## 1. The lines of a result -/

section Lines

variable {pass : Pass} {db : Database}

theorem forall₂_renameLine {cs : List Cursor} {ls : List Text} (hlen : cs.length = ls.length)
    (h : ∀ cursor ∈ cs, pass.Respells db cursor) :
    List.Forall₂ Respelled ls (List.zipWith (pass.renameLine db) cs ls) := by
  induction cs generalizing ls with
  | nil =>
    rw [List.length_nil, eq_comm, List.length_eq_zero_iff] at hlen
    subst hlen
    exact .nil
  | cons cursor cs ih =>
    cases ls with
    | nil => contradiction
    | cons line ls =>
      exact .cons (respelled_renameLine (h cursor List.mem_cons_self))
        (ih (Nat.succ.inj hlen) fun c hc => h c (List.mem_cons_of_mem cursor hc))

variable {lead : Name} {t : Text}

theorem lines_apply (h : ∀ cursor ∈ pass.cursors lead {} (lines t), pass.Respells db cursor) :
    lines (pass.apply lead db t) =
      List.zipWith (pass.renameLine db) (pass.cursors lead {} (lines t)) (lines t) := by
  -- a respelled line still has its line break at its end and nowhere else
  rw [apply, applyLines_eq]
  exact lines_flatten
    (Respelled.isLines (forall₂_renameLine (length_cursors pass lead {} _) h) (isLines_lines t))

theorem respelled_apply (h : ∀ cursor ∈ pass.cursors lead {} (lines t), pass.Respells db cursor) :
    Respelled t (pass.apply lead db t) := by
  have hflat := Respelled.flatten (forall₂_renameLine (length_cursors pass lead {} (lines t)) h)
    (isLines_lines t)
  rwa [flatten_lines, ← applyLines_eq] at hflat

end Lines

/-! ## 2. The cursors of the passes that follow -/

/-- Whether renaming a line under a cursor moves the cursors of all passes over a
source as before. -/
def KeepsMoves (pass : Pass) (db : Database) (cursor : Cursor) : Prop :=
  ∀ code, SameMoves (pass.rename db cursor code) code

theorem commentMarker_of_mem_source {pass other : Pass} (hpass : pass ∈ source)
    (hother : other ∈ source) : pass.commentMarker = other.commentMarker := by
  simp only [source, List.mem_cons, List.not_mem_nil, or_false] at hpass hother
  rcases hpass with rfl | rfl | rfl <;> rcases hother with rfl | rfl | rfl <;> rfl

theorem cursors_zipWith_renameLine {pass other : Pass}
    (hmarker : pass.commentMarker = other.commentMarker) {db : Database} {lead : Name}
    {cs : List Cursor} {ls : List Text} (hlen : cs.length = ls.length)
    (h : ∀ cursor ∈ cs, pass.Respells db cursor ∧
      ∀ code start, other.move lead (pass.rename db cursor code) start = other.move lead code start)
    (start : Cursor) :
    other.cursors lead start (List.zipWith (pass.renameLine db) cs ls) =
      other.cursors lead start ls := by
  induction cs generalizing ls start with
  | nil =>
    rw [List.length_nil, eq_comm, List.length_eq_zero_iff] at hlen
    subst hlen
    rfl
  | cons cursor cs ih =>
    cases ls with
    | nil => contradiction
    | cons line ls =>
      rcases h cursor List.mem_cons_self with ⟨hrespells, hmoves⟩
      -- both passes see the same code part, since they share a comment marker
      have hmove : other.move lead (codePart other.commentMarker (pass.renameLine db cursor line))
          start = other.move lead (codePart other.commentMarker line) start := by
        rw [← hmarker, codePart_renameLine hrespells]
        exact hmoves _ start
      rw [List.zipWith_cons_cons, cursors, cursors, hmove,
        ih (Nat.succ.inj hlen) fun c hc => h c (List.mem_cons_of_mem cursor hc)]

theorem cursors_apply_of_move {pass other : Pass}
    (hmarker : pass.commentMarker = other.commentMarker) {db : Database} {lead : Name} {t : Text}
    (h : ∀ cursor ∈ pass.cursors lead {} (lines t), pass.Respells db cursor ∧
      ∀ code start, other.move lead (pass.rename db cursor code) start =
        other.move lead code start) :
    other.cursors lead {} (lines (pass.apply lead db t)) = other.cursors lead {} (lines t) := by
  rw [lines_apply fun cursor hcursor => (h cursor hcursor).1]
  exact cursors_zipWith_renameLine hmarker (length_cursors pass lead {} _) h {}

/-- A pass that moves none of its own cursors, run again with any database: each line is renamed
twice under one cursor. -/
theorem apply_apply_of_move {pass : Pass} {db db' : Database} {lead : Name} {t : Text}
    (h : ∀ cursor ∈ pass.cursors lead {} (lines t), pass.Respells db cursor ∧
      ∀ code start, pass.move lead (pass.rename db cursor code) start = pass.move lead code start) :
    pass.apply lead db' (pass.apply lead db t) =
      (List.zipWith (fun cursor line => pass.renameLine db' cursor (pass.renameLine db cursor line))
        (pass.cursors lead {} (lines t)) (lines t)).flatten := by
  rw [apply, applyLines_eq, cursors_apply_of_move rfl h, lines_apply fun cursor hcursor =>
    (h cursor hcursor).1, List.zipWith_zipWith_right, List.zipWith3_same_left]

end Relabel.Pass

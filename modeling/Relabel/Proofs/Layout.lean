import Relabel.Proofs.LineByLine

/-!
# Passes keep the layout

Whatever a database renames, as long as its new names are words, a run of passes leaves the number
of lines, every comment and everything between the words as it was.
-/

namespace Relabel

open Text

/-! ## 1. Every pass respells -/

namespace GenericFlag

theorem isIdentifier_renameRun {f : Name → Name} (hf : ∀ w, IsIdentifier w → IsIdentifier (f w))
    {w : Name} (hw : IsIdentifier w) : IsIdentifier (renameRun f w) := by
  match w, hw with
  | [], hw => exact hw
  | [g], hw => exact hw
  | g :: c :: name, hw =>
    rw [renameRun]
    split
    · -- the flag letter stays, and the name behind it is a word of its own
      have hname : IsIdentifier (c :: name) :=
        ⟨List.cons_ne_nil c name, fun d hd => hw.2 d (List.mem_cons_of_mem g hd)⟩
      refine ⟨List.cons_ne_nil g _, fun d hd => ?_⟩
      rcases List.mem_cons.mp hd with rfl | hmem
      · exact hw.2 _ List.mem_cons_self
      · exact (hf _ hname).2 d hmem
    · exact hw

theorem renameRun_of_not_startsWord (f : Name → Name) {gap : Text} (hgap : startsWord gap = false) :
    renameRun f gap = gap := by
  match gap, hgap with
  | [], _ => rfl
  | [c], _ => rfl
  | g :: c :: rest, hgap =>
    rw [renameRun]
    -- the flag letter is a word character
    apply if_neg
    rintro ⟨rfl | rfl, -⟩ <;> exact absurd (show isWord _ = false from hgap) (by decide)

theorem renameRuns_cons (f : Name → Name) {c : Char} (hc : isWord c = false) (last : Option Char)
    (t : Text) : renameRuns f last (runs (c :: t)) = c :: renameRuns f (some c) (runs t) := by
  have hgap : ∀ gap last more, startsWord gap = false →
      renameRuns f last (gap :: more) = gap ++ renameRuns f gap.getLast? more := by
    intro gap last more hstart
    rw [renameRuns, renameRun_of_not_startsWord f hstart, ite_self]
  rcases runs_cons_gap hc t with ⟨gap, more, hstart, hruns, hcons⟩ | hcons
  · -- the gap goes on, and what is in front of the next word stays
    have hne : gap ≠ [] := ne_nil_of_mem_runs (hruns ▸ List.mem_cons_self)
    rw [hcons, hruns, hgap (c :: gap) last more hc, hgap gap _ more hstart,
      List.getLast?_cons_of_ne_nil hne, List.cons_append]
  · rw [hcons, hgap [c] last _ hc]
    rfl

theorem renameRuns_append (f : Name → Name) {w t : Text} (hw : IsIdentifier w)
    (ht : startsWord t = false) (last : Option Char) :
    renameRuns f last (runs (w ++ t)) =
      (if last = some '-' then renameRun f w else w) ++ renameRuns f w.getLast? (runs t) := by
  rw [runs_append hw ht, renameRuns]

theorem getLast?_ne_dash {w : Name} (hw : IsIdentifier w) : w.getLast? ≠ some '-' := by
  intro hdash
  exact absurd (hw.2 '-' (List.mem_of_getLast? hdash)) (by decide)

theorem respelled_renameRuns {f : Name → Name} (hf : ∀ w, IsIdentifier w → IsIdentifier (f w))
    (t : Text) (last : Option Char) : Respelled t (renameRuns f last (runs t)) := by
  induction t using word_induction generalizing last with
  | nil => exact .nil
  | gap c t hc ih =>
    rw [renameRuns_cons f hc]
    exact .gap hc (ih (some c))
  | word w t hw ht ih =>
    have hrun : IsIdentifier (if last = some '-' then renameRun f w else w) := by
      split
      · exact isIdentifier_renameRun hf hw
      · exact hw
    rw [renameRuns_append f hw ht]
    exact .word hw hrun ht (ih _)

end GenericFlag

namespace Pass

variable {db : Database}

theorem respells_declarations {cursor : Cursor}
    (hdb : cursor.inside = true → db.KeepsWords .exact cursor.component) :
    declarations.Respells db cursor := by
  intro code
  rw [rename]
  split
  · rename_i hinside
    exact Declaration.respelled_rename (hdb hinside)
  · exact .refl code

theorem respells_instantiations {cursor : Cursor}
    (hdb : cursor.inside = true → db.KeepsWords .exact cursor.component) :
    instantiations.Respells db cursor := by
  intro code
  rw [rename]
  split
  · rename_i hinside
    exact Association.respelled_rename (hdb hinside)
  · exact .refl code

theorem respells (hnames : ∀ v ∈ db.newNames, IsIdentifier v) (pass : Pass) (cursor : Cursor) :
    pass.Respells db cursor := by
  cases pass with
  | declarations => exact respells_declarations fun _ => db.keepsWords hnames _ _
  | instantiations => exact respells_instantiations fun _ => db.keepsWords hnames _ _
  | symbols => exact fun code => .of_mapWords (db.keepsWords hnames .folded cursor.component) code
  | simConfig =>
    exact fun code => GenericFlag.respelled_renameRuns
      (db.keepsWords hnames .folded cursor.component) code none

end Pass

/-! ## 2. The layout of a result -/

/-- Whether two texts differ in words of their code parts only. -/
structure SameLayout (marker t u : Text) : Prop where
  lines : (Text.lines u).length = (Text.lines t).length
  comments : (Text.lines u).map (commentPart marker) = (Text.lines t).map (commentPart marker)
  words : (Text.words u).length = (Text.words t).length
  separators : Text.separators u = Text.separators t

namespace SameLayout

variable {marker t u v : Text}

theorem refl (marker t : Text) : SameLayout marker t t :=
  ⟨rfl, rfl, rfl, rfl⟩

theorem trans (h : SameLayout marker t u) (h' : SameLayout marker u v) : SameLayout marker t v :=
  ⟨h'.lines.trans h.lines, h'.comments.trans h.comments, h'.words.trans h.words,
    h'.separators.trans h.separators⟩

end SameLayout

theorem Pass.map_commentPart_renameLine {pass : Pass} {db : Database} {cs : List Cursor}
    {ls : List Text} (hlen : cs.length = ls.length) (h : ∀ cursor ∈ cs, pass.Respells db cursor) :
    (List.zipWith (pass.renameLine db) cs ls).map (commentPart pass.commentMarker) =
      ls.map (commentPart pass.commentMarker) := by
  induction cs generalizing ls with
  | nil =>
    rw [List.length_nil, eq_comm, List.length_eq_zero_iff] at hlen
    subst hlen
    rfl
  | cons cursor cs ih =>
    cases ls with
    | nil => contradiction
    | cons line ls =>
      rw [List.zipWith_cons_cons, List.map_cons, List.map_cons,
        commentPart_renameLine (h cursor List.mem_cons_self),
        ih (Nat.succ.inj hlen) fun c hc => h c (List.mem_cons_of_mem cursor hc)]

theorem Pass.sameLayout_apply {db : Database} (hnames : ∀ v ∈ db.newNames, IsIdentifier v)
    (pass : Pass) (lead : Name) (t : Text) :
    SameLayout pass.commentMarker t (pass.apply lead db t) := by
  have hrespells : ∀ cursor ∈ pass.cursors lead {} (Text.lines t), pass.Respells db cursor :=
    fun cursor _ => respells hnames pass cursor
  have hlen := length_cursors pass lead {} (Text.lines t)
  have hlines := lines_apply hrespells
  have hspelling := respelled_apply hrespells
  refine ⟨?_, ?_, hspelling.length_words_eq.symm, hspelling.separators_eq.symm⟩
  · rw [hlines, List.length_zipWith, hlen, Nat.min_self]
  · rw [hlines, map_commentPart_renameLine hlen hrespells]

theorem Passes.sameLayout_apply {db : Database} (hnames : ∀ v ∈ db.newNames, IsIdentifier v)
    {passes : List Pass} {marker : Text} (hmarker : ∀ pass ∈ passes, pass.commentMarker = marker)
    (lead : Name) (t : Text) : SameLayout marker t (apply passes lead db t) := by
  induction passes generalizing t with
  | nil => exact .refl marker t
  | cons pass passes ih =>
    have hfirst := pass.sameLayout_apply hnames lead t
    rw [hmarker pass List.mem_cons_self] at hfirst
    exact hfirst.trans (ih (fun p hp => hmarker p (List.mem_cons_of_mem pass hp)) _)

theorem Passes.run_eq_ok {db : Database} (hfilled : db.isEmpty = false) (passes : List Pass)
    (lead : Name) (t : Text) : run passes lead db t = .ok (apply passes lead db t) := by
  cases passes with
  | nil => rfl
  | cons pass passes =>
    rw [run, List.isEmpty_cons, if_neg Bool.false_ne_true, Database.ensureFilled, hfilled,
      if_neg Bool.false_ne_true]
    rfl

/-- A run of passes that share a comment marker keeps the lines, each line's comment, the number of
words and everything between the words. -/
theorem Passes.run_keeps_layout {db : Database} (hfilled : db.isEmpty = false)
    (hnames : ∀ v ∈ db.newNames, IsIdentifier v) {passes : List Pass} {marker : Text}
    (hmarker : ∀ pass ∈ passes, pass.commentMarker = marker) (lead : Name) (t : Text) :
    ∃ u, run passes lead db t = .ok u ∧ (lines u).length = (lines t).length ∧
      (lines u).map (commentPart marker) = (lines t).map (commentPart marker) ∧
      (words u).length = (words t).length ∧ separators u = separators t := by
  have hlayout := sameLayout_apply hnames hmarker lead t
  exact ⟨apply passes lead db t, run_eq_ok hfilled passes lead t, hlayout.lines, hlayout.comments,
    hlayout.words, hlayout.separators⟩

theorem Passes.run_keeps_layout_of_comments :
    let db : Database := ⟨.ofList [("c".toList, .ofList [("Clk".toList, "clk_i".toList)]),
      (fallbackScope, .ofList [("clk".toList, "c".toList)])]⟩
    let t :=
      "entity c is -- Clk\n\tClk : in; -- Clk -- Clk\nend entity;\nCLK <= '-' - Clk --".toList
    ∃ u, run [.symbols, .declarations, .symbols] [] db t = .ok u ∧
      (lines u).length = (lines t).length ∧
      (lines u).map (commentPart ['-', '-']) = (lines t).map (commentPart ['-', '-']) ∧
      (words u).length = (words t).length ∧ separators u = separators t := by
  -- a string is slow to take apart by evaluation, so it is rewritten to its characters first
  repeat rw [String.toList_ofList]
  intro db t
  exact run_keeps_layout (by decide +kernel) (by decide +kernel) (by decide +kernel) [] t

end Relabel

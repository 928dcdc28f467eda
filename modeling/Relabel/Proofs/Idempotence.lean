import Relabel.Proofs.Source

/-!
# Running the source passes twice

A database is settled when none of its tables renames a new name again. Over a text whose cursors it
does not move, a second run of the source passes then finds nothing to do: every word of the first
result is either a new name, which no pass touches, or a word that none of its look-ups knew.
-/

namespace Relabel

open Text

namespace Database

variable {db : Database}

theorem lookup_folded_lookup_folded
    (hfixed : ∀ scope v, db.IsNewNameOf scope v ∨ db.IsNewNameOf fallbackScope v →
      db.lookup .folded scope v = v)
    (scope w : Name) :
    db.lookup .folded scope (db.lookup .folded scope w) = db.lookup .folded scope w := by
  rcases db.lookup_eq_self_or_newName? .folded scope w with hsame | ⟨asked, hasked, h⟩
  · rw [hsame, hsame]
  · apply hfixed
    rcases hasked with rfl | ⟨-, rfl⟩
    · exact .inl (isNewNameOf_of_newName? h)
    · exact .inr (isNewNameOf_of_newName? h)

variable (hfixed : ∀ v ∈ db.newNames, db.Fixes v)

include hfixed

theorem lookup_folded_folded (scope w : Name) :
    db.lookup .folded scope (db.lookup .folded scope w) = db.lookup .folded scope w := by
  apply lookup_folded_lookup_folded
  intro scope v hv
  have hmem : v ∈ db.newNames := hv.elim (·.mem_newNames) (·.mem_newNames)
  exact (hfixed v hmem).lookup_folded scope

/-- What an exact and then a folded look-up leave, the exact one does not change. -/
theorem lookup_exact_folded_exact (component scope w : Name) :
    db.lookup .exact component (db.lookup .folded scope (db.lookup .exact component w)) =
      db.lookup .folded scope (db.lookup .exact component w) := by
  rcases db.lookup_eq_self_or_mem .folded scope (db.lookup .exact component w) with hsame | hnew
  · rcases db.lookup_eq_self_or_mem .exact component w with hold | hnew
    · rw [hsame, hold, hold]
    · rw [hsame, (hfixed _ hnew).lookup_exact]
  · exact (hfixed _ hnew).lookup_exact component

end Database

theorem Text.mapWords_mapWords {f : Name → Name} (hf : ∀ w, IsIdentifier w → IsIdentifier (f w))
    (hidem : ∀ w, f (f w) = f w) (t : Text) : mapWords f (mapWords f t) = mapWords f t := by
  induction t using word_induction with
  | nil => rfl
  | gap c t hc ih => rw [mapWords_cons f hc, mapWords_cons f hc, ih]
  | word w t hw ht ih =>
    have hstart : startsWord (mapWords f t) = false := (startsWord_mapWords hf t).trans ht
    rw [mapWords_append f hw ht, mapWords_append f (hf w hw) hstart, hidem, ih]

theorem Declaration.rename_eq_self_of_lookup {db : Database} {component : Name} {code : Text}
    (h : ∀ indent name rest, split? code = some (indent, name, rest) →
      db.lookup .exact component name = name) : rename db component code = code := by
  cases hsplit : split? code with
  | none => exact rename_eq_self hsplit
  | some cut =>
    rcases cut with ⟨indent, name, rest⟩
    rw [rename_eq hsplit, h indent name rest hsplit, ← (split?_eq_some.mp hsplit).1]

theorem Association.rename_eq_self_of_lookup {db : Database} {component : Name} {code : Text}
    (h : ∀ lead formal rest, split? code = some (lead, formal, rest) →
      db.lookup .exact component formal = formal) : rename db component code = code := by
  cases hsplit : split? code with
  | none => exact rename_eq_self hsplit
  | some cut =>
    rcases cut with ⟨lead, formal, rest⟩
    rw [rename_eq hsplit, h lead formal rest hsplit, ← (split?_eq_some.mp hsplit).1]

namespace Passes

/-! ## 1. One line -/

section Code

variable {db : Database} (hnames : ∀ v ∈ db.newNames, IsIdentifier v)
  (hfixed : ∀ v ∈ db.newNames, db.Fixes v) (cursors : Pass → Cursor) (code : Text)

include hnames hfixed

theorem declarations_rename_sourceCode :
    Pass.declarations.rename db (cursors .declarations) (sourceCode db cursors code) =
      sourceCode db cursors code := by
  cases hinside : (cursors .declarations).inside with
  | false => simp only [Pass.rename, hinside, Bool.false_eq_true, if_false]
  | true =>
    have hkeep := db.keepsWords hnames
    simp only [Pass.rename, hinside, if_true]
    apply Declaration.rename_eq_self_of_lookup
    intro indent name rest hsplit
    -- back through the passes, from the last to the first
    rcases Declaration.exists_of_mapWords (hkeep _ _) hsplit with ⟨_, old, _, hold, rfl⟩
    have hsame : Declaration.split? (Pass.instantiations.rename db (cursors .instantiations)
        (Declaration.rename db (cursors .declarations).component code)) =
        Declaration.split? (Declaration.rename db (cursors .declarations).component code) := by
      rw [Pass.rename]
      split
      · exact Association.split?_declaration_rename (hkeep _ _)
      · rfl
    simp only [Pass.rename, hinside, if_true] at hold hsame
    rw [hsame, Declaration.split?_rename (hkeep _ _)] at hold
    rcases Option.map_eq_some_iff.mp hold with ⟨⟨_, first, _⟩, -, heq⟩
    simp only [Prod.mk.injEq] at heq
    rw [← heq.2.1]
    exact db.lookup_exact_folded_exact hfixed _ _ first

theorem instantiations_rename_sourceCode
    (hreserved : ∀ v ∈ db.newNames, ∀ keyword ∈ ["port".toList, "generic".toList, "map".toList],
      ¬ Spells keyword v) :
    Pass.instantiations.rename db (cursors .instantiations) (sourceCode db cursors code) =
      sourceCode db cursors code := by
  cases hinside : (cursors .instantiations).inside with
  | false => simp only [Pass.rename, hinside, Bool.false_eq_true, if_false]
  | true =>
    have hkeep := db.keepsWords hnames
    -- a keyword in the result is no new name, so it stood in the text already
    have hkeywords : ∀ keyword ∈ ["port".toList, "generic".toList, "map".toList], ∀ w,
        IsIdentifier w → Spells keyword (db.lookup .folded (cursors .symbols).component w) →
          db.lookup .folded (cursors .symbols).component w = w := by
      intro keyword hkeyword w _ hspells
      rcases db.lookup_eq_self_or_mem .folded (cursors .symbols).component w with heq | hmem
      · exact heq
      · exact absurd hspells (hreserved _ hmem keyword hkeyword)
    simp only [Pass.rename, hinside, if_true]
    apply Association.rename_eq_self_of_lookup
    intro lead formal rest hsplit
    -- so the formal of the result is the image of one that this very pass had renamed
    rcases Association.exists_of_mapWords (hkeep _ _) hkeywords hsplit with ⟨_, old, _, hold, rfl⟩
    simp only [Pass.rename, hinside, if_true] at hold
    rw [Association.split?_rename (hkeep _ _)] at hold
    rcases Option.map_eq_some_iff.mp hold with ⟨⟨_, first, _⟩, -, heq⟩
    simp only [Prod.mk.injEq] at heq
    rw [← heq.2.1]
    exact db.lookup_exact_folded_exact hfixed _ _ first

theorem symbols_rename_sourceCode :
    Pass.symbols.rename db (cursors .symbols) (sourceCode db cursors code) =
      sourceCode db cursors code :=
  mapWords_mapWords (db.keepsWords hnames .folded _) (db.lookup_folded_folded hfixed _) _

end Code

/-! ## 2. A whole text -/

/-- `pass` changes nothing of what the passes over a source make of a code part. -/
def Settled (db : Database) (pass : Pass) : Prop :=
  ∀ cursors code, pass.rename db (cursors pass) (sourceCode db cursors code) =
    sourceCode db cursors code

section Settled

variable {db : Database} (hnames : ∀ v ∈ db.newNames, IsIdentifier v) {pass : Pass}
  (hpass : pass ∈ Pass.source) (hsettled : Settled db pass)

include hnames hpass hsettled

theorem renameLine_sourceLine (cursors : Pass → Cursor) (line : Text) :
    pass.renameLine db (cursors pass) (sourceLine db cursors line) =
      sourceLine db cursors line := by
  rw [renameLine_eq hpass, sourcePart_sourceLine hnames, hsettled, ← sourcePart_sourceLine hnames]
  exact codePart_append_commentPart _ _

theorem apply_apply_source {lead : Name} {t : Text}
    (hcursors : pass.cursors lead {} (lines (apply Pass.source lead db t)) =
      pass.cursors lead {} (lines t)) :
    pass.apply lead db (apply Pass.source lead db t) = apply Pass.source lead db t := by
  rw [Pass.apply, Pass.applyLines_eq, hcursors, ← map_sourceCursors hpass,
    lines_apply_source hnames, zipWith_map_zipWith]
  simp only [renameLine_sourceLine hnames hpass hsettled]
  show (List.zipWith (sourceLine db) (sourceCursors lead t) (lines t)).flatten = _
  rw [← lines_apply_source hnames, flatten_lines]

end Settled

/-- Running the source passes a second time changes nothing. -/
theorem source_idempotent {db : Database} (hfilled : db.isEmpty = false)
    (hnames : ∀ v ∈ db.newNames, IsIdentifier v)
    (hreserved : ∀ v ∈ db.newNames, ∀ keyword ∈ ["port".toList, "generic".toList, "map".toList],
      ¬ Spells keyword v)
    (hfixed : ∀ v ∈ db.newNames, db.Fixes v) (lead : Name) (t : Text)
    (hcursors : ∀ pass ∈ Pass.source,
      pass.cursors lead {} (lines (apply Pass.source lead db t)) = pass.cursors lead {} (lines t)) :
    ∃ u, run Pass.source lead db t = .ok u ∧ run Pass.source lead db u = .ok u := by
  refine ⟨apply Pass.source lead db t, run_eq_ok hfilled _ lead t, ?_⟩
  have hsettled : ∀ pass ∈ Pass.source, Settled db pass := by
    intro pass hpass cursors code
    simp only [Pass.source, List.mem_cons, List.not_mem_nil, or_false] at hpass
    rcases hpass with rfl | rfl | rfl
    · exact declarations_rename_sourceCode hnames hfixed cursors code
    · exact instantiations_rename_sourceCode hnames hfixed cursors code hreserved
    · exact symbols_rename_sourceCode hnames hfixed cursors code
  have hfix : ∀ pass ∈ Pass.source,
      pass.apply lead db (apply Pass.source lead db t) = apply Pass.source lead db t :=
    fun pass hpass =>
      apply_apply_source hnames hpass (hsettled pass hpass) (hcursors pass hpass)
  rw [run_eq_ok hfilled]
  generalize apply Pass.source lead db t = u at hfix
  show Except.ok (Pass.symbols.apply lead db
    (Pass.instantiations.apply lead db (Pass.declarations.apply lead db u))) = _
  rw [hfix _ (by decide), hfix _ (by decide), hfix _ (by decide)]

theorem source_idempotent_port_map :
    let db : Database := ⟨.ofList [("c".toList, .ofList [("Clk".toList, "clk_i".toList),
      ("clk".toList, "clk_i".toList)]), (fallbackScope, .ofList [("q".toList, "Clk_q".toList)])]⟩
    let t := ("entity c is\n  Clk : in; -- Clk\nend entity;\narchitecture a of c is\n" ++
      "  u : entity work.c port map (\n  port map (Clk => CLK, Q => Q\n  );\n").toList
    ∃ u, run Pass.source [] db t = .ok u ∧ run Pass.source [] db u = .ok u := by
  repeat rw [String.toList_append]
  repeat rw [String.toList_ofList]
  intro db t
  exact source_idempotent (by decide +kernel) (by decide +kernel) (by decide +kernel)
    (by decide +kernel) [] t (by decide +kernel)

end Passes

end Relabel

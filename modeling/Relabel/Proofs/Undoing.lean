import Relabel.Proofs.SecondRuns

/-!
# Undoing renames

Tables whose new names are distinct can be read backward. A run of a pass over declarations or over
instantiations is undone by a run with the backward tables: it finds the cursors of the first run on
all lines, and each name that was looked up is looked up once more. Names may trade places, or go
round in a circle.
-/

namespace Relabel

open Text

/-! ## 1. Tables read backward -/

namespace Table

/-- The old names by new name. -/
def inverse (table : RenameTable) : RenameTable :=
  ofList (table.entries.map Prod.swap)

variable {table : RenameTable} (hnodup : table.values.Nodup)

include hnodup

theorem entries_inverse : table.inverse.entries = table.entries.map Prod.swap := by
  apply entries_ofList
  rw [List.map_map]
  exact hnodup

theorem get?_inverse {old new : Name} :
    table.inverse.get? new = some old ↔ table.get? old = some new := by
  have hswap : (new, old) ∈ table.inverse.entries ↔ (old, new) ∈ table.entries := by
    rw [entries_inverse hnodup, List.mem_map]
    constructor
    · rintro ⟨entry, hentry, heq⟩
      rwa [← Prod.swap_swap entry, heq] at hentry
    · intro hentry
      exact ⟨_, hentry, rfl⟩
  constructor
  · intro h
    exact get?_of_mem (hswap.mp (mem_entries_of_get? h))
  · intro h
    exact get?_of_mem (hswap.mpr (mem_entries_of_get? h))

end Table

namespace Database

/-- Every table read backward. -/
def inverse (db : Database) : Database :=
  ⟨db.scopes.mapValues Table.inverse⟩

variable {db : Database}

theorem isEmpty_inverse (db : Database) : db.inverse.isEmpty = db.isEmpty := by
  simp [inverse, isEmpty, Table.isEmpty, Table.mapValues]

section Inverse

variable (hnodup : ∀ table ∈ db.scopes.values, table.values.Nodup)

include hnodup

theorem newName?_inverse {scope old new : Name} :
    db.inverse.newName? scope new = some old ↔ db.newName? scope old = some new := by
  rw [newName?, newName?, inverse, Table.get?_mapValues]
  cases hscope : db.scopes.get? scope with
  | none => simp
  | some table => exact Table.get?_inverse (hnodup table (Table.mem_values_of_get? hscope))

/-- A look-up is undone, unless it has left alone what the backward table takes for a new name. -/
theorem lookup_inverse_lookup {scope w : Name}
    (hw : ∀ table ∈ db.scopes.values, w ∈ table.values → w ∈ table.keys) :
    db.inverse.lookup .exact scope (db.lookup .exact scope w) = w := by
  rw [lookup_exact scope w, lookup_exact]
  cases hnew : db.newName? scope w with
  | some v => rw [Option.getD_some, (newName?_inverse hnodup).mpr hnew, Option.getD_some]
  | none =>
    cases hold : db.inverse.newName? scope w with
    | none => simp only [Option.getD_none, hold]
    | some old =>
      -- `w` would be the new name of `old`, hence an old name itself, and would have been found
      rcases newName?_eq_some.mp ((newName?_inverse hnodup).mp hold) with ⟨table, hscope, hkey⟩
      have hmem : w ∈ table.keys :=
        hw table (Table.mem_values_of_get? hscope) (Table.mem_values_of_get? hkey)
      rw [newName?, hscope, Option.bind_some, Table.get?_eq_none] at hnew
      contradiction

end Inverse

end Database

/-! ## 2. Words of a line -/

theorem Text.mem_words_of_line {ls : List Text} (hls : IsLines ls) {line : Text} (hline : line ∈ ls)
    {w : Name} (hw : w ∈ words line) : w ∈ words ls.flatten := by
  induction ls with
  | nil => contradiction
  | cons first more ih =>
    rw [List.flatten_cons]
    cases more with
    | nil =>
      rcases List.mem_singleton.mp hline with rfl
      rwa [List.flatten_nil, List.append_nil]
    | cons next more =>
      -- a line with another one behind it ends with a line feed
      rw [words_append_of_seam (.inl (endsWord_of_isTerminated hls.1)), List.mem_append]
      rcases List.mem_cons.mp hline with rfl | hmem
      · exact .inl hw
      · exact .inr (ih hls.2 hmem)

theorem Text.mem_words_of_codePart {marker : Text} (hmarker : IsMarker marker) {t line : Text}
    (hline : line ∈ lines t) {w : Name} (hw : w ∈ words (codePart marker line)) : w ∈ words t := by
  rw [← flatten_lines t]
  apply mem_words_of_line (isLines_lines t) hline
  rw [← codePart_append_commentPart marker line,
    words_append_of_seam (.inr (startsWord_commentPart hmarker line))]
  exact List.mem_append_left _ hw

theorem Text.mem_words_between {front name rest : Text} (hfront : endsWord front = false)
    (hname : IsIdentifier name) (hrest : startsWord rest = false) :
    name ∈ words (front ++ (name ++ rest)) := by
  rw [words_append_of_seam (.inl hfront), words_append hname hrest]
  exact List.mem_append_right _ List.mem_cons_self

theorem zipWith_eq_right {α β : Type} {f : α → β → β} {xs : List α} {ys : List β}
    (hlen : xs.length = ys.length) (h : ∀ x, ∀ y ∈ ys, f x y = y) : List.zipWith f xs ys = ys := by
  induction ys generalizing xs with
  | nil => exact List.zipWith_nil_right
  | cons y ys ih =>
    cases xs with
    | nil => contradiction
    | cons x xs =>
      rw [List.zipWith_cons_cons, h x y List.mem_cons_self,
        ih (Nat.succ.inj hlen) fun x y hy => h x y (List.mem_cons_of_mem _ hy)]

/-! ## 3. Code parts -/

/-- Whether a renaming replaces the name at one place of a code part, if there is such a place,
and nothing else. -/
def RenamesAt (split? : Text → Option (Text × Name × Text)) (f : Name → Name)
    (rename : Text → Text) : Prop :=
  ∀ code, rename code = ((split? code).map fun cut => cut.1 ++ (f cut.2.1 ++ cut.2.2)).getD code

theorem Declaration.renamesAt (db : Database) (component : Name) :
    RenamesAt split? (db.lookup .exact component) (rename db component) := by
  intro code
  cases h : split? code with
  | none => exact rename_eq_self h
  | some cut => exact rename_eq h

theorem Association.renamesAt (db : Database) (component : Name) :
    RenamesAt split? (db.lookup .exact component) (rename db component) := by
  intro code
  cases h : split? code with
  | none => exact rename_eq_self h
  | some cut => exact rename_eq h

/-- A renaming is undone by one that finds its new name at the same place and has the
old name for it. -/
theorem RenamesAt.undo {split? : Text → Option (Text × Name × Text)} {f g : Name → Name}
    {rename rename' : Text → Text} (h : RenamesAt split? f rename) (h' : RenamesAt split? g rename')
    {code : Text} (hsplit : split? (rename code) = (split? code).map fun cut =>
      (cut.1, f cut.2.1, cut.2.2))
    (hcut : ∀ front name rest, split? code = some (front, name, rest) →
      code = front ++ (name ++ rest) ∧ g (f name) = name) : rename' (rename code) = code := by
  rw [h', hsplit]
  cases hcode : split? code with
  | none => rw [h, hcode]; rfl
  | some cut =>
    rcases cut with ⟨front, name, rest⟩
    rcases hcut front name rest hcode with ⟨heq, hback⟩
    rw [Option.map_some, Option.map_some, Option.getD_some, hback, ← heq]

namespace Pass

section Undo

variable {db : Database} (hnodup : ∀ table ∈ db.scopes.values, table.values.Nodup)
  (hnames : ∀ v ∈ db.newNames, IsIdentifier v)

include hnodup hnames

theorem rename_inverse_rename {pass : Pass} (hpass : pass ∈ [declarations, instantiations])
    (cursor : Cursor) {code : Text} (hcode : ∀ table ∈ db.scopes.values, ∀ w ∈ words code,
      w ∈ table.values → w ∈ table.keys) :
    pass.rename db.inverse cursor (pass.rename db cursor code) = code := by
  have hkeep := db.keepsWords hnames .exact cursor.component
  have hback : ∀ w ∈ words code,
      db.inverse.lookup .exact cursor.component (db.lookup .exact cursor.component w) = w := by
    intro w hw
    exact Database.lookup_inverse_lookup hnodup fun table htable => hcode table htable w hw
  simp only [List.mem_cons, List.not_mem_nil, or_false] at hpass
  by_cases hinside : cursor.inside = true
  · rcases hpass with rfl | rfl
    · simp only [rename, if_pos hinside]
      apply (Declaration.renamesAt _ _).undo (Declaration.renamesAt _ _)
        (Declaration.split?_rename hkeep)
      intro indent name rest hsplit
      rcases Declaration.split?_eq_some.mp hsplit with ⟨rfl, hindent, hname, hrest, -⟩
      exact ⟨rfl, hback name (mem_words_between (endsWord_of_allBlank hindent) hname hrest)⟩
    · simp only [rename, if_pos hinside]
      apply (Association.renamesAt _ _).undo (Association.renamesAt _ _)
        (Association.split?_rename hkeep)
      intro front formal rest hsplit
      rcases Association.split?_eq_some.mp hsplit with ⟨rfl, hfront, hformal, hrest, -⟩
      exact ⟨rfl, hback formal (mem_words_between (Association.endsWord_of_isLead hfront)
        hformal hrest)⟩
  · -- outside of an entity or a list, neither of the runs does anything
    rcases hpass with rfl | rfl <;> simp only [rename, if_neg hinside]

/-! ## 4. A whole text -/

theorem apply_inverse_apply {pass : Pass} (hpass : pass ∈ [declarations, instantiations])
    (lead : Name) {t : Text} (ht : ∀ table ∈ db.scopes.values, ∀ w ∈ words t, w ∈ table.values →
      w ∈ table.keys) :
    pass.apply lead db.inverse (pass.apply lead db t) = t := by
  have hrespells := respells hnames pass
  have hline : ∀ cursor, ∀ line ∈ lines t,
      pass.renameLine db.inverse cursor (pass.renameLine db cursor line) = line := by
    intro cursor line hline
    have hcode : ∀ table ∈ db.scopes.values, ∀ w ∈ words (codePart pass.commentMarker line),
        w ∈ table.values → w ∈ table.keys := by
      intro table htable w hw
      exact ht table htable w (mem_words_of_codePart pass.isMarker_commentMarker hline hw)
    rw [renameLine_renameLine_of_respells (hrespells cursor),
      rename_inverse_rename hnodup hnames hpass cursor hcode, codePart_append_commentPart]
  -- the second run goes over the renamed lines under the cursors of the first
  rw [apply_apply_of_move fun cursor _ => ⟨hrespells cursor, move_rename hnames hpass lead cursor⟩,
    zipWith_eq_right (length_cursors pass lead {} (lines t)) hline, flatten_lines]

end Undo

end Pass

/-- Over a text in which no word is a new name of a table unless it is an old name of that
table, too, a run over the declarations or over the instantiations is undone by a run with every
table read backward. -/
theorem Passes.inverse_undoes_renames {db : Database} (hfilled : db.isEmpty = false)
    (hnames : ∀ table ∈ db.scopes.values, table.values.Nodup ∧ ∀ v ∈ table.values, IsIdentifier v)
    {t : Text} (ht : ∀ table ∈ db.scopes.values, ∀ w ∈ words t, w ∈ table.values → w ∈ table.keys)
    {pass : Pass} (hpass : pass ∈ [.declarations, .instantiations]) (lead : Name) :
    ∃ u, run [pass] lead db t = .ok u ∧ run [pass] lead db.inverse u = .ok t := by
  have hidentifiers : ∀ v ∈ db.newNames, IsIdentifier v := by
    intro v hv
    rcases List.mem_flatMap.mp hv with ⟨table, htable, hmem⟩
    exact (hnames table htable).2 v hmem
  have hback : pass.apply lead db.inverse (pass.apply lead db t) = t :=
    Pass.apply_inverse_apply (fun table htable => (hnames table htable).1) hidentifiers
      hpass lead ht
  refine ⟨pass.apply lead db t, run_eq_ok hfilled [pass] lead t, ?_⟩
  rw [run_eq_ok (db.isEmpty_inverse.trans hfilled)]
  exact congrArg Except.ok hback

/-- Three names that go round, two that trade places, and a keyword for a new name; the entity and
the list are never closed. -/
theorem Passes.inverse_undoes_renames_in_circle :
    let db : Database := ⟨.ofList [
      ("c".toList, .ofList [("a".toList, "b".toList), ("b".toList, "d".toList),
        ("d".toList, "a".toList), ("x".toList, "generic".toList)]),
      ("d".toList, .ofList [("p".toList, "q".toList), ("q".toList, "p".toList),
        ("r".toList, "is".toList)])]⟩
    let t := ("entity c Is -- a : b\n  a : in;\nb\t:d\n\td : a -- x\n x : entity work.d\n" ++
      "  port map (p => q,\n  q (0) => p,\nr => x :=\nb : a => d").toList
    (db.isEmpty = false ∧
      (∀ table ∈ db.scopes.values, table.values.Nodup ∧ ∀ v ∈ table.values, IsIdentifier v) ∧
      (∀ table ∈ db.scopes.values, ∀ w ∈ words t, w ∈ table.values → w ∈ table.keys)) ∧
    (∃ u, run [.declarations] [] db t = .ok u ∧ run [.declarations] [] db.inverse u = .ok t) ∧
    (∃ u, run [.instantiations] [] db t = .ok u ∧ run [.instantiations] [] db.inverse u = .ok t) ∧
    apply [.declarations] [] db t =
      ("entity c Is -- a : b\n  b : in;\nd\t:d\n\ta : a -- x\n generic : entity work.d\n" ++
        "  port map (p => q,\n  q (0) => p,\nr => x :=\nd : a => d").toList ∧
    apply [.instantiations] [] db t =
      ("entity c Is -- a : b\n  a : in;\nb\t:d\n\td : a -- x\n x : entity work.d\n" ++
        "  port map (q => q,\n  p (0) => p,\nis => x :=\nb : a => d").toList := by
  repeat rw [String.toList_append]
  repeat rw [String.toList_ofList]
  intro db t
  have hfilled : db.isEmpty = false := by decide +kernel
  have hnames : ∀ table ∈ db.scopes.values, table.values.Nodup ∧
      ∀ v ∈ table.values, IsIdentifier v := by
    decide +kernel
  have ht : ∀ table ∈ db.scopes.values, ∀ w ∈ words t, w ∈ table.values → w ∈ table.keys := by
    decide +kernel
  exact ⟨⟨hfilled, hnames, ht⟩, inverse_undoes_renames hfilled hnames ht (by decide) [],
    inverse_undoes_renames hfilled hnames ht (by decide) [], by decide +kernel, by decide +kernel⟩

end Relabel

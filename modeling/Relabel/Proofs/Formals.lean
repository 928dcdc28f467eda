import Relabel.Proofs.Cursors

/-!
# The formal of an association line

An association line has one formal: there is no more than one way to cut it into what may stand in
front of a formal, a word, and what may stand behind. Inside a list, that word alone is looked up,
and a line that cannot be cut stays as it is.
-/

namespace Relabel

open Text

namespace Association

/-! ## 1. Behind a formal -/

/-- Blanks and an arrow, or an index, blanks and an arrow. The index goes to any closing parenthesis
that has an arrow behind it, so it may hold others. -/
def IsTail (t : Text) : Prop :=
  (∃ b rest, t = b ++ '=' :: '>' :: rest ∧ AllBlank b) ∨
    ∃ b index b₁ rest, t = b ++ '(' :: (index ++ ')' :: (b₁ ++ '=' :: '>' :: rest)) ∧ AllBlank b ∧
      AllBlank b₁

theorem startsArrow_iff {t : Text} :
    startsArrow t = true ↔ ∃ b rest, t = b ++ '=' :: '>' :: rest ∧ AllBlank b := by
  constructor
  · intro h
    rcases exists_allBlank_append t with ⟨b, hb, ht⟩
    rcases List.isPrefixOf_iff_prefix.mp h with ⟨rest, hrest⟩
    exact ⟨b, rest, by rw [ht, ← hrest]; rfl, hb⟩
  · rintro ⟨b, rest, rfl, hb⟩
    rw [startsArrow, skipBlanks_append hb, skipBlanks_cons (by decide)]
    exact List.isPrefixOf_iff_prefix.mpr ⟨rest, rfl⟩

theorem closesBeforeArrow_iff {t : Text} :
    closesBeforeArrow t = true ↔
      ∃ index behind, t = index ++ ')' :: behind ∧ startsArrow behind = true := by
  induction t with
  | nil => simp [closesBeforeArrow]
  | cons c t ih =>
    rw [closesBeforeArrow, Bool.or_eq_true, Bool.and_eq_true, beq_iff_eq, ih]
    constructor
    · rintro (⟨rfl, harrow⟩ | ⟨index, behind, rfl, harrow⟩)
      · exact ⟨[], t, rfl, harrow⟩
      · exact ⟨c :: index, behind, rfl, harrow⟩
    · rintro ⟨index, behind, heq, harrow⟩
      -- either the first character closes the index or it belongs to it
      cases index with
      | nil =>
        rcases List.cons.inj heq with ⟨rfl, rfl⟩
        exact .inl ⟨rfl, harrow⟩
      | cons d index =>
        rcases List.cons.inj heq with ⟨rfl, rfl⟩
        exact .inr ⟨index, behind, rfl, harrow⟩

theorem followsFormal_iff {t : Text} : followsFormal t = true ↔ IsTail t := by
  rw [followsFormal, Bool.or_eq_true, startsArrow_iff]
  apply or_congr_right
  constructor
  · intro hindex
    rcases exists_allBlank_append t with ⟨b, hb, ht⟩
    split at hindex
    · rename_i rest hskip
      rcases closesBeforeArrow_iff.mp hindex with ⟨index, behind, rfl, harrow⟩
      rcases startsArrow_iff.mp harrow with ⟨b₁, rest, rfl, hb₁⟩
      exact ⟨b, index, b₁, rest, by rw [← hskip]; exact ht, hb, hb₁⟩
    · contradiction
  · rintro ⟨b, index, b₁, rest, rfl, hb, hb₁⟩
    rw [skipBlanks_append hb, skipBlanks_cons (by decide)]
    exact closesBeforeArrow_iff.mpr ⟨index, _, rfl, startsArrow_iff.mpr ⟨b₁, rest, rfl, hb₁⟩⟩

/-! ## 2. The cut of a line -/

/-- A line cut around its formal. -/
structure IsCut (code lead : Text) (formal : Name) (rest : Text) : Prop where
  append : code = lead ++ (formal ++ rest)
  isLead : IsLead lead
  isIdentifier : IsIdentifier formal
  /-- The formal is no part of a longer word. -/
  maximal : endsWord lead = false ∧ startsWord rest = false
  isTail : IsTail rest

theorem split?_eq_some_iff_isCut {code lead rest : Text} {formal : Name} :
    split? code = some (lead, formal, rest) ↔ IsCut code lead formal rest := by
  rw [split?_eq_some, followsFormal_iff]
  constructor
  · rintro ⟨happend, hlead, hformal, hrest, htail⟩
    exact ⟨happend, hlead, hformal, ⟨endsWord_of_isLead hlead, hrest⟩, htail⟩
  · intro h
    exact ⟨h.append, h.isLead, h.isIdentifier, h.maximal.2, h.isTail⟩

theorem IsCut.unique {code lead lead' rest rest' : Text} {formal formal' : Name}
    (h : IsCut code lead formal rest) (h' : IsCut code lead' formal' rest') :
    lead' = lead ∧ formal' = formal ∧ rest' = rest := by
  -- both are what `split?` finds
  have heq := split?_eq_some_iff_isCut.mpr h'
  rw [split?_eq_some_iff_isCut.mpr h] at heq
  simpa [eq_comm] using heq

theorem split?_eq_none_of_forall {code : Text}
    (h : ∀ lead formal rest, ¬ IsCut code lead formal rest) :
    split? code = none := by
  cases hsplit : split? code with
  | none => rfl
  | some cut => exact absurd (split?_eq_some_iff_isCut.mp hsplit) (h cut.1 cut.2.1 cut.2.2)

end Association

/-! ## 3. The pass over formals -/

namespace Pass

open Association

/-- A line of an association list can be cut around a formal in one way at most. Inside the list the
formal gives way to what its component has for it, and all else stays; a line without a formal, or
outside, stays altogether. -/
theorem instantiations_rename_formal (lead : Name) (db : Database) (code : Text) (cursor : Cursor) :
    let moved := listMarkers.move code ((headerMarkers lead).move code cursor)
    let renamed := (instantiations.applyCode lead db code cursor).1
    (moved.inside = true → ∀ front formal rest, IsCut code front formal rest →
      (∀ front' formal' rest', IsCut code front' formal' rest' →
        front' = front ∧ formal' = formal ∧ rest' = rest) ∧
      renamed = front ++ db.lookup .exact moved.component formal ++ rest) ∧
    ((∀ front formal rest, ¬ IsCut code front formal rest) ∨ moved.inside = false →
      renamed = code) := by
  intro moved renamed
  have hrenamed : renamed =
      if moved.inside then Association.rename db moved.component code else code := rfl
  constructor
  · intro hinside front formal rest hcut
    refine ⟨fun front' formal' rest' hcut' => hcut.unique hcut', ?_⟩
    rw [hrenamed, if_pos hinside, rename_eq (split?_eq_some_iff_isCut.mpr hcut), List.append_assoc]
  · rintro (hnone | houtside)
    · rw [hrenamed, rename_eq_self (split?_eq_none_of_forall hnone), ite_self]
    · rw [hrenamed, houtside, if_neg Bool.false_ne_true]

/-- The line that opens the list names a formal with an index, and the actual has parentheses and an
arrow of its own. -/
theorem instantiations_rename_formal_indexed :
    let db : Database := ⟨.ofList [("c".toList, .ofList [("Data".toList, "dat_i".toList)])]⟩
    let front := " PORT\tmap( ".toList
    let rest := " (f(3)) => Data(7), Data => b(1) => c\n".toList
    let code := front ++ ("Data".toList ++ rest)
    IsCut code front "Data".toList rest ∧
      (instantiations.applyCode [] db code ⟨"c".toList, false⟩).1 =
        front ++ "dat_i".toList ++ rest := by
  repeat rw [String.toList_ofList]
  intro db front rest code
  have hlead : IsListStart "port".toList front :=
    ⟨[' '], "PORT".toList, ['\t'], "map".toList, [], [' '],
      rfl, by decide, by decide, by decide, by decide, by decide, by decide, by decide⟩
  have htail : IsTail rest :=
    .inr ⟨[' '], "f(3)".toList, [' '], " Data(7), Data => b(1) => c\n".toList,
      rfl, by decide, by decide⟩
  have hcut : IsCut code front "Data".toList rest :=
    ⟨rfl, .inr (.inl hlead), by decide, by decide, htail⟩
  have hrename := instantiations_rename_formal [] db code ⟨"c".toList, false⟩
  exact ⟨hcut, (hrename.1 (by decide +kernel) _ _ _ hcut).2⟩

end Pass

end Relabel

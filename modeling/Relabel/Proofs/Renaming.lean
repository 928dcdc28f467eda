import Relabel.Pass.Association
import Relabel.Pass.Declaration
import Relabel.Proofs.Lookups
import Relabel.Proofs.Respelling
import Relabel.Proofs.Shapes

/-!
# Where a line is renamed

A declaration line and an association line are cut in three: the text in front of the name, the
name, and the text behind. Each cut is described by the texts it gives, so that it can be taken
again after the name, or any other word of the line, has been replaced.
-/

namespace Relabel

open Text

theorem Text.Respelled.skipBlanks {t u : Text} (h : Respelled t u) :
    Respelled (skipBlanks t) (skipBlanks u) := by
  induction h with
  | nil => exact .nil
  | @gap c t u hc h ih =>
    -- a gap may be a blank, which is skipped in both texts, or something else, which stops the step
    by_cases hblank : isBlank c = true
    · have hskip : ∀ s, Text.skipBlanks (c :: s) = Text.skipBlanks s := fun s => by
        rw [Text.skipBlanks, List.dropWhile_cons, if_pos hblank, Text.skipBlanks]
      rw [hskip, hskip]
      exact ih
    · have hno : isBlank c = false := by simpa using hblank
      rw [skipBlanks_cons hno, skipBlanks_cons hno]
      exact .gap hc h
  | word hw hv ht h ih =>
    rw [skipBlanks_of_startsWord (startsWord_append hw _),
      skipBlanks_of_startsWord (startsWord_append hv _)]
    exact .word hw hv ht h

theorem endsWord_of_allBlank {b : Text} (hb : AllBlank b) : endsWord b = false := by
  cases b with
  | nil => rfl
  | cons c b =>
    exact endsWord_append_gap (List.cons_ne_nil c b) (fun d hd => isWord_of_isBlank (hb d hd)) []

/-! ## 1. Declarations -/

namespace Declaration

/-- Whether blanks and a colon come next. -/
def followsName (t : Text) : Prop :=
  (skipBlanks t).head? = some ':'

instance (t : Text) : Decidable (followsName t) :=
  inferInstanceAs (Decidable ((skipBlanks t).head? = some ':'))

theorem followsName_iff {t : Text} : followsName t ↔ ∃ rest, skipBlanks t = ':' :: rest :=
  List.head?_eq_some_iff

theorem not_followsName_of_startsWord {t : Text} (ht : startsWord t = true) : ¬ followsName t := by
  intro hname
  rcases followsName_iff.mp hname with ⟨rest, hskip⟩
  rw [skipBlanks_of_startsWord ht] at hskip
  rw [hskip] at ht
  exact absurd (show isWord ':' = true from ht) (by decide)

/-- A colon ends the words at the front of a text. -/
theorem startsWord_skipBlanks_of_followsName {t : Text} (h : followsName t) :
    startsWord (skipBlanks t) = false := by
  rcases followsName_iff.mp h with ⟨rest, hskip⟩
  rw [hskip]
  exact (by decide : isWord ':' = false)

theorem followsName_append_of_allBlank {b : Text} (hb : AllBlank b) (t : Text) :
    followsName (b ++ t) ↔ followsName t := by
  rw [followsName, followsName, skipBlanks_append hb]

theorem followsName_respelled {t u : Text} (h : Respelled t u) : followsName t ↔ followsName u := by
  induction h with
  | nil => rfl
  | @gap c t u hc h ih =>
    by_cases hblank : isBlank c = true
    · have hb : AllBlank [c] := fun d hd => List.mem_singleton.mp hd ▸ hblank
      exact (followsName_append_of_allBlank hb t).trans
        (ih.trans (followsName_append_of_allBlank hb u).symm)
    · have hno : isBlank c = false := by simpa using hblank
      rw [followsName, followsName, skipBlanks_cons hno, skipBlanks_cons hno, List.head?_cons,
        List.head?_cons]
  | word hw hv ht h ih =>
    exact iff_of_false (not_followsName_of_startsWord (startsWord_append hw _))
      (not_followsName_of_startsWord (startsWord_append hv _))

theorem split?_eq_some {code indent rest : Text} {name : Name} :
    split? code = some (indent, name, rest) ↔
      code = indent ++ (name ++ rest) ∧ AllBlank indent ∧ IsIdentifier name ∧
        startsWord rest = false ∧ followsName rest := by
  constructor
  · intro h
    simp only [split?, bind, pure, Option.bind_eq_some_iff, Prod.exists] at h
    rcases h with ⟨name', rest', hword, tail, hcolon, heq⟩
    have hparts : upTo (skipBlanks code) code = indent ∧ name' = name ∧ rest' = rest := by
      simpa using heq
    rcases hparts with ⟨rfl, rfl, rfl⟩
    rcases word?_eq_some.mp hword with ⟨hskip, hname, hrest⟩
    rcases exists_allBlank_append code with ⟨b, hb, hcode⟩
    have hindent : upTo (skipBlanks code) code = b := by
      have h := upTo_append b (skipBlanks code)
      rwa [← hcode] at h
    rw [hindent, ← hskip]
    exact ⟨hcode, hb, hname, hrest, followsName_iff.mpr ⟨tail, skipChar?_eq_some.mp hcolon⟩⟩
  · rintro ⟨rfl, hindent, hname, hrest, hfollows⟩
    rcases followsName_iff.mp hfollows with ⟨tail, htail⟩
    have hskip : skipBlanks (indent ++ (name ++ rest)) = name ++ rest := by
      rw [skipBlanks_append hindent, skipBlanks_of_startsWord (startsWord_append hname rest)]
    simp only [split?, hskip, word?_append hname hrest, htail, upTo_append, skipChar?, bind, pure,
      Option.bind_some, if_true]

/-- Without a colon behind its first word, a line declares nothing at its front. -/
theorem split?_eq_none {b w t : Text} (hb : AllBlank b) (hw : IsIdentifier w)
    (ht : startsWord t = false) (hno : ¬ followsName t) : split? (b ++ (w ++ t)) = none := by
  cases h : split? (b ++ (w ++ t)) with
  | none => rfl
  | some cut =>
    rcases cut with ⟨indent, name, rest⟩
    rcases split?_eq_some.mp h with ⟨heq, hindent, hname, hrest, hfollows⟩
    -- the two cuts would be behind the same first word
    have hfirst := word?_skipBlanks_append hb hw ht
    rw [heq, word?_skipBlanks_append hindent hname hrest] at hfirst
    rcases Prod.mk.inj (Option.some.inj hfirst) with ⟨-, rfl⟩
    exact absurd hfollows hno

section Rename

variable {db : Database} {component : Name} {code : Text}

theorem rename_eq {indent rest : Text} {name : Name} (h : split? code = some (indent, name, rest)) :
    rename db component code = indent ++ (db.lookup .exact component name ++ rest) := by
  rw [rename, h]
  exact List.append_assoc _ _ _

theorem rename_eq_self (h : split? code = none) : rename db component code = code := by
  rw [rename, h]

theorem split?_rename (hdb : db.KeepsWords .exact component) :
    split? (rename db component code) =
      (split? code).map fun cut => (cut.1, db.lookup .exact component cut.2.1, cut.2.2) := by
  cases h : split? code with
  | none => rw [rename_eq_self h, h, Option.map_none]
  | some cut =>
    rcases cut with ⟨indent, name, rest⟩
    rcases split?_eq_some.mp h with ⟨-, hindent, hname, hrest, hfollows⟩
    rw [rename_eq h, Option.map_some]
    exact split?_eq_some.mpr ⟨rfl, hindent, hdb name hname, hrest, hfollows⟩

theorem respelled_rename (hdb : db.KeepsWords .exact component) :
    Respelled code (rename db component code) := by
  cases h : split? code with
  | none => rw [rename_eq_self h]; exact .refl code
  | some cut =>
    rcases cut with ⟨indent, name, rest⟩
    rcases split?_eq_some.mp h with ⟨hcode, hindent, hname, hrest, -⟩
    rw [rename_eq h, hcode]
    exact (Respelled.refl indent).append (.word hname (hdb name hname) hrest (.refl rest))
      (.inl (endsWord_of_allBlank hindent))

/-- The name that a line declares after every word has been replaced is a replaced one. -/
theorem exists_of_mapWords {f : Name → Name} (hf : ∀ w, IsIdentifier w → IsIdentifier (f w))
    {indent rest : Text} {name : Name} (h : split? (mapWords f code) = some (indent, name, rest)) :
    ∃ indent' name' rest', split? code = some (indent', name', rest') ∧ name = f name' := by
  rcases split?_eq_some.mp h with ⟨hcode, hindent, hname, hrest, hfollows⟩
  rcases exists_of_mapWords_eq_blanks hf hindent hcode with ⟨start, rfl, hstart⟩
  rcases exists_of_mapWords_eq_append hf hname hrest hstart.symm with
    ⟨w, behind, rfl, hw, hbehind, rfl, rfl⟩
  have hcolon : followsName behind := (followsName_respelled (.of_mapWords hf behind)).mpr hfollows
  exact ⟨indent, w, behind, split?_eq_some.mpr ⟨rfl, hindent, hw, hbehind, hcolon⟩, rfl⟩

end Rename

end Declaration

/-! ## 2. Associations -/

namespace Association

/-- `port map (` or `generic map (`, with blanks around its parts. -/
def IsListStart (keyword lead : Text) : Prop :=
  ∃ b p b₁ m b₂ b₃, lead = b ++ (p ++ (b₁ ++ (m ++ (b₂ ++ '(' :: b₃)))) ∧ AllBlank b ∧
    Spells keyword p ∧ AllBlank b₁ ∧ b₁ ≠ [] ∧ Spells "map".toList m ∧ AllBlank b₂ ∧ AllBlank b₃

/-- What may stand in front of a formal. -/
def IsLead (lead : Text) : Prop :=
  AllBlank lead ∨ IsListStart "port".toList lead ∨ IsListStart "generic".toList lead

theorem skipListStart?_append {keyword lead t : Text} (hkeyword : IsKeyword keyword)
    (hlead : IsListStart keyword lead) (ht : skipBlanks t = t) :
    skipListStart? keyword (lead ++ t) = some t := by
  rcases hlead with ⟨b, p, b₁, m, b₂, b₃, rfl, hb, hp, hb₁, hne, hm, hb₂, hb₃⟩
  have hpWord := hkeyword.isIdentifier hp
  have hmWord := isKeyword_map.isIdentifier hm
  have hmap : LineShape.skipMap? keyword (b ++ (p ++ (b₁ ++ (m ++ (b₂ ++ '(' :: (b₃ ++ t)))))) =
      some (b₂ ++ '(' :: (b₃ ++ t)) := by
    simp only [LineShape.skipMap?, bind, skipBlanks_append hb,
      skipBlanks_of_startsWord (startsWord_append hpWord _),
      skipKeyword?_eq_some.mpr ⟨p, hp, rfl⟩, Option.bind_some, skipSomeBlanks?_append hb₁ hne,
      skipBlanks_of_startsWord (startsWord_append hmWord _)]
    exact skipKeyword?_eq_some.mpr ⟨m, hm, rfl⟩
  simp only [List.append_assoc, List.cons_append, skipListStart?, bind, pure, hmap,
    Option.bind_some, skipBlanks_append hb₂, skipBlanks_cons (show isBlank '(' = false by decide),
    skipChar?, if_true, skipBlanks_append hb₃, ht]

theorem skipListStart?_eq_some {keyword code start : Text}
    (h : skipListStart? keyword code = some start) :
    ∃ lead, IsListStart keyword lead ∧ code = lead ++ start ∧ skipBlanks start = start := by
  simp only [skipListStart?, LineShape.skipMap?, bind, pure, Option.bind_eq_some_iff] at h
  rcases h with ⟨rest, ⟨r₀, hkey, r₁, hblanks, hmap⟩, r₂, hparen, heq⟩
  rcases exists_allBlank_append code with ⟨b, hb, hcode⟩
  rcases skipKeyword?_eq_some.mp hkey with ⟨p, hp, hskip⟩
  rcases exists_of_skipSomeBlanks? hblanks with ⟨b₁, hb₁, hne, rfl⟩
  rcases skipKeyword?_eq_some.mp hmap with ⟨m, hm, rfl⟩
  rcases exists_allBlank_append rest with ⟨b₂, hb₂, hrest⟩
  rcases exists_allBlank_append r₂ with ⟨b₃, hb₃, hr₂⟩
  have hstart : start = skipBlanks r₂ := (Option.some.inj heq).symm
  refine ⟨b ++ (p ++ (b₁ ++ (m ++ (b₂ ++ '(' :: b₃)))),
    ⟨b, p, b₁, m, b₂, b₃, rfl, hb, hp, hb₁, hne, hm, hb₂, hb₃⟩, ?_, ?_⟩
  · rw [skipChar?_eq_some.mp hparen] at hrest
    rw [hskip, hrest, hr₂, ← hstart] at hcode
    simpa only [List.append_assoc, List.cons_append] using hcode
  · rw [hstart, skipBlanks_skipBlanks]

theorem splitAt?_eq_some {lead start l rest : Text} {formal : Name} :
    splitAt? (lead ++ start) start = some (l, formal, rest) ↔
      l = lead ∧ start = formal ++ rest ∧ IsIdentifier formal ∧ startsWord rest = false ∧
        followsFormal rest = true := by
  simp only [splitAt?, upTo_append, bind, pure, Option.bind_eq_some_iff, Prod.exists]
  constructor
  · rintro ⟨formal', rest', hword, h⟩
    rcases word?_eq_some.mp hword with ⟨hstart, hformal, hrest⟩
    split at h
    · rename_i hfollows
      have hparts : lead = l ∧ formal' = formal ∧ rest' = rest := by simpa using h
      rcases hparts with ⟨rfl, rfl, rfl⟩
      exact ⟨rfl, hstart, hformal, hrest, hfollows⟩
    · contradiction
  · rintro ⟨rfl, rfl, hformal, hrest, hfollows⟩
    exact ⟨formal, rest, word?_append hformal hrest, by rw [if_pos hfollows]⟩

theorem startsWord_skipBlanks_of_followsFormal {t : Text} (h : followsFormal t = true) :
    startsWord (skipBlanks t) = false := by
  cases hskip : skipBlanks t with
  | nil => rfl
  | cons c rest =>
    simp only [followsFormal, startsArrow, hskip, Bool.or_eq_true] at h
    rcases h with harrow | hindex
    · have hc : '=' = c := eq_of_beq (Bool.and_eq_true_iff.mp harrow).1
      exact hc ▸ (by decide : isWord '=' = false)
    · split at hindex
      · rename_i heq
        rw [(List.cons.inj heq).1]
        exact (by decide : isWord '(' = false)
      · contradiction

/-- Nothing can be cut at the first word of a line that opens a list. -/
theorem splitAt?_eq_none_of_isListStart {keyword lead : Text} (hkeyword : IsKeyword keyword)
    (hlead : IsListStart keyword lead) (t : Text) :
    splitAt? (lead ++ t) (skipBlanks (lead ++ t)) = none := by
  rcases hlead with ⟨b, p, b₁, m, b₂, b₃, rfl, hb, hp, hb₁, hne, hm, -, -⟩
  have hpWord := hkeyword.isIdentifier hp
  have hmWord := isKeyword_map.isIdentifier hm
  have hskip : skipBlanks (b ++ (p ++ (b₁ ++ (m ++ (b₂ ++ '(' :: b₃)))) ++ t) =
      p ++ (b₁ ++ (m ++ (b₂ ++ '(' :: b₃ ++ t))) := by
    simp only [List.append_assoc]
    rw [skipBlanks_append hb, skipBlanks_of_startsWord (startsWord_append hpWord _)]
  -- behind the first word comes another one
  have hnot : followsFormal (b₁ ++ (m ++ (b₂ ++ '(' :: b₃ ++ t))) = false := by
    rw [Bool.eq_false_iff]
    intro hfollows
    have hstart := startsWord_skipBlanks_of_followsFormal hfollows
    rw [skipBlanks_append hb₁, skipBlanks_of_startsWord (startsWord_append hmWord _),
      startsWord_append hmWord] at hstart
    contradiction
  rw [hskip]
  simp only [splitAt?, bind, word?_append hpWord (startsWord_append_of_allBlank hb₁ hne _),
    Option.bind_some, hnot, Bool.false_eq_true, if_false]

theorem split?_eq_some {code lead rest : Text} {formal : Name} :
    split? code = some (lead, formal, rest) ↔
      code = lead ++ (formal ++ rest) ∧ IsLead lead ∧ IsIdentifier formal ∧
        startsWord rest = false ∧ followsFormal rest = true := by
  constructor
  · intro h
    simp only [split?, bind, Option.orElse_eq_orElse, Option.orElse_eq_or, Option.or_eq_some_iff,
      Option.bind_eq_some_iff] at h
    -- whichever alternative it is, it cuts `code` behind a lead
    have hcut : ∃ l start, IsLead l ∧ code = l ++ start ∧
        splitAt? code start = some (lead, formal, rest) := by
      rcases h with h | ⟨-, ⟨start, hstart, h⟩ | ⟨-, start, hstart, h⟩⟩
      · rcases exists_allBlank_append code with ⟨b, hb, hcode⟩
        exact ⟨b, skipBlanks code, .inl hb, hcode, h⟩
      · rcases skipListStart?_eq_some hstart with ⟨l, hl, hcode, -⟩
        exact ⟨l, start, .inr (.inl hl), hcode, h⟩
      · rcases skipListStart?_eq_some hstart with ⟨l, hl, hcode, -⟩
        exact ⟨l, start, .inr (.inr hl), hcode, h⟩
    rcases hcut with ⟨l, start, hl, rfl, hsplit⟩
    rcases splitAt?_eq_some.mp hsplit with ⟨rfl, rfl, hformal, hrest, hfollows⟩
    exact ⟨rfl, hl, hformal, hrest, hfollows⟩
  · rintro ⟨rfl, hlead, hformal, hrest, hfollows⟩
    have hskip : skipBlanks (formal ++ rest) = formal ++ rest :=
      skipBlanks_of_startsWord (startsWord_append hformal rest)
    have hcut : splitAt? (lead ++ (formal ++ rest)) (formal ++ rest) = some (lead, formal, rest) :=
      splitAt?_eq_some.mpr ⟨rfl, rfl, hformal, hrest, hfollows⟩
    -- the alternatives in front of the one that holds have to fail
    rcases hlead with hblank | hport | hgeneric
    · rw [split?, skipBlanks_append hblank, hskip, hcut]
      rfl
    · rw [split?, splitAt?_eq_none_of_isListStart isKeyword_port hport,
        skipListStart?_append isKeyword_port hport hskip]
      simp only [bind, Option.bind_some, hcut]
      rfl
    · have hnone : skipListStart? "port".toList (lead ++ (formal ++ rest)) = none := by
        rcases hgeneric with ⟨b, p, b₁, m, b₂, b₃, rfl, hb, hp, -⟩
        have hpWord := isKeyword_generic.isIdentifier hp
        have hport : ∀ t, skipKeyword? "port".toList (p ++ t) = none := fun t =>
          skipKeyword?_eq_none_of_head (by decide) (by decide)
            (skipKeyword?_eq_some.mpr ⟨p, hp, rfl⟩)
        simp only [skipListStart?, LineShape.skipMap?, bind, List.append_assoc,
          skipBlanks_append hb, skipBlanks_of_startsWord (startsWord_append hpWord _), hport,
          Option.bind_none]
      rw [split?, splitAt?_eq_none_of_isListStart isKeyword_generic hgeneric, hnone,
        skipListStart?_append isKeyword_generic hgeneric hskip]
      simp only [bind, Option.bind_some, hcut]
      rfl

/-! What stands behind a formal is told from the separators alone. -/

theorem startsArrow_respelled {t u : Text} (h : Respelled t u) : startsArrow t = startsArrow u := by
  have hmarker : IsMarker "=>".toList := by decide
  have hmatch := h.skipBlanks.isPrefixOf_eq hmarker.2 []
  rwa [List.append_nil, List.append_nil] at hmatch

theorem closesBeforeArrow_append {w : Text} (hw : ∀ c ∈ w, isWord c = true) (t : Text) :
    closesBeforeArrow (w ++ t) = closesBeforeArrow t := by
  induction w with
  | nil => rfl
  | cons c w ih =>
    have hc : (c == ')') = false := by
      apply beq_false_of_ne
      rintro rfl
      exact absurd (hw ')' List.mem_cons_self) (by decide)
    rw [List.cons_append, closesBeforeArrow, hc, Bool.false_and, Bool.false_or,
      ih fun d hd => hw d (List.mem_cons_of_mem c hd)]

theorem closesBeforeArrow_respelled {t u : Text} (h : Respelled t u) :
    closesBeforeArrow t = closesBeforeArrow u := by
  induction h with
  | nil => rfl
  | gap hc h ih => rw [closesBeforeArrow, closesBeforeArrow, startsArrow_respelled h, ih]
  | word hw hv ht h ih => rw [closesBeforeArrow_append hw.2, closesBeforeArrow_append hv.2, ih]

theorem followsFormal_respelled {t u : Text} (h : Respelled t u) :
    followsFormal t = followsFormal u := by
  have hskip := h.skipBlanks
  rw [followsFormal, followsFormal, startsArrow_respelled h]
  generalize skipBlanks t = t' at hskip ⊢
  generalize skipBlanks u = u' at hskip ⊢
  congr 1
  cases hskip with
  | nil => rfl
  | @gap c t u hc h =>
    -- only a parenthesis can open an index
    by_cases hparen : c = '('
    · subst hparen
      exact closesBeforeArrow_respelled h
    · split
      · rename_i heq; exact absurd (List.cons.inj heq).1 hparen
      · split
        · rename_i heq; exact absurd (List.cons.inj heq).1 hparen
        · rfl
  | word hw hv ht h =>
    have hno : ∀ w t rest : Text, IsIdentifier w → w ++ t ≠ '(' :: rest := by
      intro w t rest hw heq
      have hstart := startsWord_append hw t
      rw [heq] at hstart
      exact absurd (show isWord '(' = true from hstart) (by decide)
    split
    · rename_i heq; exact absurd heq (hno _ _ _ hw)
    · split
      · rename_i heq; exact absurd heq (hno _ _ _ hv)
      · rfl

theorem not_followsName_of_followsFormal {t : Text} (h : followsFormal t = true) :
    ¬ Declaration.followsName t := by
  intro hname
  rcases Declaration.followsName_iff.mp hname with ⟨rest, hskip⟩
  simp only [followsFormal, startsArrow, hskip, Bool.or_eq_true] at h
  rcases h with harrow | hindex
  · exact absurd harrow Bool.false_ne_true
  · exact absurd hindex Bool.false_ne_true

/-! The front of an association line. -/

section Lead

variable {lead formal rest : Text}

theorem endsWord_of_isLead (hlead : IsLead lead) : endsWord lead = false := by
  have hlist : ∀ keyword, IsListStart keyword lead → endsWord lead = false := by
    rintro keyword ⟨b, p, b₁, m, b₂, b₃, rfl, -, -, -, -, -, -, hb₃⟩
    simp only [← List.append_assoc]
    apply endsWord_append_gap (List.cons_ne_nil _ _)
    intro c hc
    rcases List.mem_cons.mp hc with rfl | hmem
    · decide
    · exact isWord_of_isBlank (hb₃ c hmem)
  rcases hlead with hblank | hport | hgeneric
  · exact endsWord_of_allBlank hblank
  · exact hlist _ hport
  · exact hlist _ hgeneric

/-- The leading words of a line that opens a list, and what follows the first of them. -/
theorem IsListStart.front {keyword : Text} (hkeyword : IsKeyword keyword)
    (hlead : IsListStart keyword lead) :
    ∃ b p m, AllBlank b ∧ IsIdentifier p ∧ ∀ t, leadingWords (lead ++ t) = [p, m] ∧
      ∃ behind, lead ++ t = b ++ (p ++ behind) ∧ startsWord behind = false ∧
        ¬ Declaration.followsName behind := by
  rcases hlead with ⟨b, p, b₁, m, b₂, b₃, rfl, hb, hp, hb₁, hne, hm, hb₂, -⟩
  have hpWord := hkeyword.isIdentifier hp
  have hmWord := isKeyword_map.isIdentifier hm
  refine ⟨b, p, m, hb, hpWord, fun t => ?_⟩
  have hgap : startsWord (b₁ ++ (m ++ (b₂ ++ '(' :: (b₃ ++ t)))) = false :=
    startsWord_append_of_allBlank hb₁ hne _
  have hparen : startsWord (skipBlanks (b₂ ++ '(' :: (b₃ ++ t))) = false := by
    rw [skipBlanks_append hb₂, skipBlanks_cons (by decide)]
    exact (by decide : isWord '(' = false)
  have hbehind : startsWord (b₂ ++ '(' :: (b₃ ++ t)) = false :=
    startsWord_append_of_gap hb₂ (by decide : isWord '(' = false)
  simp only [List.append_assoc, List.cons_append]
  refine ⟨?_, _, rfl, hgap, ?_⟩
  · rw [leadingWords_append_of_allBlank hb, leadingWords_append hpWord hgap,
      leadingWords_append_of_allBlank hb₁, leadingWords_append hmWord hbehind,
      leadingWords_eq_nil hparen]
  · rw [Declaration.followsName_append_of_allBlank hb₁]
    exact Declaration.not_followsName_of_startsWord (startsWord_append hmWord _)

/-- In an association line, no colon comes behind the first word. -/
theorem IsLead.front (hlead : IsLead lead) (hformal : IsIdentifier formal)
    (hrest : startsWord rest = false) (hfollows : followsFormal rest = true) :
    ∃ b w behind, lead ++ (formal ++ rest) = b ++ (w ++ behind) ∧ AllBlank b ∧ IsIdentifier w ∧
      startsWord behind = false ∧ ¬ Declaration.followsName behind := by
  have hlist : ∀ keyword, IsKeyword keyword → IsListStart keyword lead →
      ∃ b w behind, lead ++ (formal ++ rest) = b ++ (w ++ behind) ∧ AllBlank b ∧ IsIdentifier w ∧
        startsWord behind = false ∧ ¬ Declaration.followsName behind := by
    intro keyword hkeyword hstart
    rcases hstart.front hkeyword with ⟨b, p, m, hb, hp, hfront⟩
    rcases (hfront (formal ++ rest)).2 with ⟨behind, heq, hbehind, hno⟩
    exact ⟨b, p, behind, heq, hb, hp, hbehind, hno⟩
  rcases hlead with hblank | hport | hgeneric
  · exact ⟨lead, formal, rest, rfl, hblank, hformal, hrest,
      not_followsName_of_followsFormal hfollows⟩
  · exact hlist _ isKeyword_port hport
  · exact hlist _ isKeyword_generic hgeneric

/-- The start of a list, when no keyword of it comes from another word, has been there before. -/
theorem IsListStart.exists_of_mapWords {keyword code t : Text} {f : Name → Name}
    (hf : ∀ w, IsIdentifier w → IsIdentifier (f w)) (hkeyword : IsKeyword keyword)
    (hkeep : ∀ w, IsIdentifier w → Spells keyword (f w) → f w = w)
    (hkeepMap : ∀ w, IsIdentifier w → Spells "map".toList (f w) → f w = w)
    (hlead : IsListStart keyword lead) (h : mapWords f code = lead ++ t) :
    ∃ start, code = lead ++ start ∧ t = mapWords f start := by
  rcases hlead with ⟨b, p, b₁, m, b₂, b₃, rfl, hb, hp, hb₁, hne, hm, hb₂, hb₃⟩
  have hgap : ∀ t, startsWord (b₂ ++ '(' :: t) = false := fun t =>
    startsWord_append_of_gap hb₂ (by decide : isWord '(' = false)
  simp only [List.append_assoc, List.cons_append] at h ⊢
  -- piece by piece: blanks and the parenthesis stay, and the two keywords are their own images
  rcases exists_of_mapWords_eq_blanks hf hb h with ⟨t₀, rfl, h₀⟩
  rcases exists_of_mapWords_eq_append hf (hkeyword.isIdentifier hp)
    (startsWord_append_of_allBlank hb₁ hne _) h₀.symm with ⟨v, t₁, rfl, hv, -, rfl, h₁⟩
  rcases exists_of_mapWords_eq_blanks hf hb₁ h₁.symm with ⟨t₂, rfl, h₂⟩
  rcases exists_of_mapWords_eq_append hf (isKeyword_map.isIdentifier hm) (hgap _) h₂.symm with
    ⟨u, t₃, rfl, hu, -, rfl, h₃⟩
  rcases exists_of_mapWords_eq_blanks hf hb₂ h₃.symm with ⟨t₄, rfl, h₄⟩
  rcases exists_of_mapWords_eq_cons hf (by decide) h₄.symm with ⟨t₅, rfl, h₅⟩
  rcases exists_of_mapWords_eq_blanks hf hb₃ h₅.symm with ⟨start, rfl, hstart⟩
  rw [hkeep v hv hp, hkeepMap u hu hm]
  exact ⟨start, rfl, hstart⟩

end Lead

section Rename

variable {db : Database} {component : Name} {code : Text}

theorem rename_eq {lead rest : Text} {formal : Name} (h : split? code = some (lead, formal, rest)) :
    rename db component code = lead ++ (db.lookup .exact component formal ++ rest) := by
  rw [rename, h]
  exact List.append_assoc _ _ _

theorem rename_eq_self (h : split? code = none) : rename db component code = code := by
  rw [rename, h]

theorem split?_rename (hdb : db.KeepsWords .exact component) :
    split? (rename db component code) =
      (split? code).map fun cut => (cut.1, db.lookup .exact component cut.2.1, cut.2.2) := by
  cases h : split? code with
  | none => rw [rename_eq_self h, h, Option.map_none]
  | some cut =>
    rcases cut with ⟨lead, formal, rest⟩
    rcases split?_eq_some.mp h with ⟨-, hlead, hformal, hrest, hfollows⟩
    rw [rename_eq h, Option.map_some]
    exact split?_eq_some.mpr ⟨rfl, hlead, hdb formal hformal, hrest, hfollows⟩

theorem respelled_rename (hdb : db.KeepsWords .exact component) :
    Respelled code (rename db component code) := by
  cases h : split? code with
  | none => rw [rename_eq_self h]; exact .refl code
  | some cut =>
    rcases cut with ⟨lead, formal, rest⟩
    rcases split?_eq_some.mp h with ⟨hcode, hlead, hformal, hrest, -⟩
    rw [rename_eq h, hcode]
    exact (Respelled.refl lead).append (.word hformal (hdb formal hformal) hrest (.refl rest))
      (.inl (endsWord_of_isLead hlead))

/-- Renaming a formal neither makes nor breaks a declaration line. -/
theorem split?_declaration_rename (hdb : db.KeepsWords .exact component) :
    Declaration.split? (rename db component code) = Declaration.split? code := by
  cases h : split? code with
  | none => rw [rename_eq_self h]
  | some cut =>
    rcases cut with ⟨lead, formal, rest⟩
    rcases split?_eq_some.mp h with ⟨hcode, hlead, hformal, hrest, hfollows⟩
    have hnone : ∀ w, IsIdentifier w → Declaration.split? (lead ++ (w ++ rest)) = none := by
      intro w hw
      rcases hlead.front hw hrest hfollows with ⟨b, v, behind, heq, hb, hv, hbehind, hno⟩
      rw [heq, Declaration.split?_eq_none hb hv hbehind hno]
    rw [rename_eq h, hcode, hnone _ (hdb formal hformal), hnone formal hformal]

/-- The formal of a line in which every word has been replaced is a replaced one, if no keyword in
front of it comes from another word. -/
theorem exists_of_mapWords {f : Name → Name} (hf : ∀ w, IsIdentifier w → IsIdentifier (f w))
    (hkeep : ∀ keyword ∈ ["port".toList, "generic".toList, "map".toList], ∀ w, IsIdentifier w →
      Spells keyword (f w) → f w = w)
    {lead rest : Text} {formal : Name} (h : split? (mapWords f code) = some (lead, formal, rest)) :
    ∃ lead' formal' rest', split? code = some (lead', formal', rest') ∧ formal = f formal' := by
  rcases split?_eq_some.mp h with ⟨hcode, hlead, hformal, hrest, hfollows⟩
  -- the old line has the same lead, in front of what becomes the formal
  have hback : ∃ start, code = lead ++ start ∧ formal ++ rest = mapWords f start := by
    rcases hlead with hblank | hport | hgeneric
    · exact exists_of_mapWords_eq_blanks hf hblank hcode
    · exact hport.exists_of_mapWords hf isKeyword_port (hkeep _ (by simp)) (hkeep _ (by simp)) hcode
    · exact hgeneric.exists_of_mapWords hf isKeyword_generic (hkeep _ (by simp)) (hkeep _ (by simp))
        hcode
  rcases hback with ⟨start, rfl, hstart⟩
  rcases exists_of_mapWords_eq_append hf hformal hrest hstart.symm with
    ⟨w, behind, rfl, hw, hbehind, rfl, rfl⟩
  rw [← followsFormal_respelled (.of_mapWords hf behind)] at hfollows
  exact ⟨lead, w, behind, split?_eq_some.mpr ⟨rfl, hlead, hw, hbehind, hfollows⟩, rfl⟩

end Rename

end Association

end Relabel

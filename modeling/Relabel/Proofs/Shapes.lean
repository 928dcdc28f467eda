import Relabel.LineShape
import Relabel.Proofs.Front

/-!
# Line shapes by their leading words

The *leading words* of a line are the words at its front that only blanks stand between. Most shapes
that move a cursor are a condition on the leading words alone: two lines with the same leading words
have the same shapes, whatever comes behind.
-/

namespace Relabel

namespace Text

/-- The words at the front of a text, up to the first character that is neither a blank nor
part of a word. -/
def leadingWords (t : Text) : List Name :=
  words (t.takeWhile fun c => isWord c || isBlank c)

theorem leadingWords_append_of_allBlank {b : Text} (hb : AllBlank b) (t : Text) :
    leadingWords (b ++ t) = leadingWords t := by
  induction b with
  | nil => rfl
  | cons c b ih =>
    have hc : isBlank c = true := hb c List.mem_cons_self
    rw [leadingWords, List.cons_append, List.takeWhile_cons, if_pos (by simp [hc]),
      words_cons (isWord_of_isBlank hc)]
    exact ih fun d hd => hb d (List.mem_cons_of_mem c hd)

theorem leadingWords_skipBlanks (t : Text) : leadingWords (skipBlanks t) = leadingWords t := by
  rcases exists_allBlank_append t with ⟨b, hb, ht⟩
  calc leadingWords (skipBlanks t)
      _ = leadingWords (b ++ skipBlanks t) := (leadingWords_append_of_allBlank hb _).symm
      _ = leadingWords t := congrArg leadingWords ht.symm

theorem leadingWords_append {w t : Text} (hw : IsIdentifier w) (ht : startsWord t = false) :
    leadingWords (w ++ t) = w :: leadingWords t := by
  have hall : ∀ c ∈ w, (isWord c || isBlank c) = true := fun c hc => by simp [hw.2 c hc]
  have hstart : startsWord (t.takeWhile fun c => isWord c || isBlank c) = false := by
    cases t with
    | nil => rfl
    | cons c t =>
      rw [List.takeWhile_cons]
      split
      · exact ht
      · rfl
  rw [leadingWords, List.takeWhile_append_of_pos hall, words_append hw hstart, leadingWords]

theorem leadingWords_eq_nil {t : Text} (ht : startsWord (skipBlanks t) = false) :
    leadingWords t = [] := by
  rw [← leadingWords_skipBlanks]
  cases h : skipBlanks t with
  | nil => rfl
  | cons c rest =>
    rw [h] at ht
    rw [leadingWords, List.takeWhile_cons, if_neg]
    · rfl
    · rw [show isWord c = false from ht, isBlank_of_skipBlanks_eq_cons h]
      exact Bool.noConfusion

/-! ## 1. Steps along the leading words -/

theorem leadingWords_of_word? {t rest : Text} {w : Name} (h : word? t = some (w, rest)) :
    leadingWords t = w :: leadingWords rest := by
  rcases word?_eq_some.mp h with ⟨rfl, hw, hrest⟩
  exact leadingWords_append hw hrest

theorem leadingWords_of_skipSomeBlanks? {t rest : Text} (h : skipSomeBlanks? t = some rest) :
    leadingWords t = leadingWords rest := by
  rw [(skipSomeBlanks?_eq_some h).1, leadingWords_skipBlanks]

theorem leadingWords_of_skipSomeBlanks?_eq_none {t : Text} (h : skipSomeBlanks? t = none)
    (ht : startsWord t = false) : leadingWords t = [] := by
  apply leadingWords_eq_nil
  rw [skipSomeBlanks?_eq_none h, ht]

/-- The text behind a keyword and blanks, at the front of a line. -/
def afterKeyword? (keyword t : Text) : Option Text :=
  (skipKeyword? keyword (skipBlanks t)).bind skipSomeBlanks?

theorem leadingWords_of_afterKeyword? {keyword t rest : Text} (hkeyword : IsKeyword keyword)
    (h : afterKeyword? keyword t = some rest) :
    ∃ w, Spells keyword w ∧ leadingWords t = w :: leadingWords rest := by
  rcases Option.bind_eq_some_iff.mp h with ⟨behind, hskip, hblanks⟩
  rcases skipKeyword?_eq_some.mp hskip with ⟨w, hw, heq⟩
  refine ⟨w, hw, ?_⟩
  rw [← leadingWords_skipBlanks t, heq,
    leadingWords_append (hkeyword.isIdentifier hw) (skipSomeBlanks?_eq_some hblanks).2,
    leadingWords_of_skipSomeBlanks? hblanks]

theorem not_spells_of_afterKeyword?_eq_none {keyword t : Text} {w v : Name} {ws : List Name}
    (h : afterKeyword? keyword t = none) (hwords : leadingWords t = w :: v :: ws) :
    ¬ Spells keyword w := by
  intro hw
  rw [← leadingWords_skipBlanks] at hwords
  -- the keyword would be the first word, and the blanks in front of the second would be skipped
  cases hfirst : word? (skipBlanks t) with
  | none =>
    rw [leadingWords_skipBlanks, leadingWords_eq_nil (word?_eq_none.mp hfirst)] at hwords
    contradiction
  | some first =>
    rcases first with ⟨u, rest⟩
    rw [leadingWords_of_word? hfirst] at hwords
    rcases List.cons.inj hwords with ⟨rfl, hrest⟩
    rcases word?_eq_some.mp hfirst with ⟨heq, -, hstart⟩
    rw [afterKeyword?, heq, skipKeyword?_eq_some.mpr ⟨u, hw, rfl⟩, Option.bind_some] at h
    rw [leadingWords_of_skipSomeBlanks?_eq_none h hstart] at hrest
    contradiction

/-- Whether a word starts with a keyword. -/
def startsKeyword (keyword w : Text) : Bool :=
  (skipKeyword? keyword w).isSome

/-- A keyword that anything may follow is at the front of the first leading word. -/
theorem skipKeyword?_isSome_eq {keyword t : Text} (hkeyword : IsKeyword keyword)
    (ht : skipBlanks t = t) :
    (skipKeyword? keyword t).isSome = (leadingWords t).head?.any (startsKeyword keyword) := by
  cases hfirst : word? t with
  | none =>
    have hstart := word?_eq_none.mp hfirst
    rw [hkeyword.skipKeyword?_eq_none hstart, leadingWords_eq_nil (by rw [ht, hstart])]
    rfl
  | some first =>
    rcases first with ⟨w, rest⟩
    rcases word?_eq_some.mp hfirst with ⟨rfl, hw, hrest⟩
    rw [hkeyword.skipKeyword?_append hrest, leadingWords_append hw hrest, Option.isSome_map,
      List.head?_cons, Option.any_some, startsKeyword]

/-- Goes on with what is behind a keyword. -/
def keywordThen {α : Type} (keyword : Text) (next : List Name → Option α) : List Name → Option α
  | [] => none
  | w :: ws => if Spells keyword w then next ws else none

/-- A step behind a keyword and blanks that can be told from the leading words there can be told
from the leading words of the line. -/
theorem map_afterKeyword?_bind {α β γ : Type} {keyword : Text} (hkeyword : IsKeyword keyword)
    (step : Text → Option α) (next : List Name → Option β) (f : α → γ) (g : β → γ)
    (hnil : next [] = none)
    (hstep : ∀ t, skipBlanks t = t → (step t).map f = (next (leadingWords t)).map g) (t : Text) :
    ((afterKeyword? keyword t).bind step).map f =
      (keywordThen keyword next (leadingWords t)).map g := by
  cases hafter : afterKeyword? keyword t with
  | none =>
    cases hwords : leadingWords t with
    | nil => rfl
    | cons w ws =>
      -- the first word may spell the keyword only when no word follows
      cases ws with
      | nil => simp [keywordThen, hnil]
      | cons v ws =>
        rw [keywordThen, if_neg (not_spells_of_afterKeyword?_eq_none hafter hwords)]
        rfl
  | some rest =>
    rcases leadingWords_of_afterKeyword? hkeyword hafter with ⟨w, hw, hwords⟩
    rcases Option.bind_eq_some_iff.mp hafter with ⟨behind, -, hblanks⟩
    have hrest : skipBlanks rest = rest := by
      rw [(skipSomeBlanks?_eq_some hblanks).1, skipBlanks_skipBlanks]
    rw [hwords, keywordThen, if_pos hw, Option.bind_some, hstep rest hrest]

end Text

namespace LineShape

open Text

/-! ## 2. The shapes -/

/-- Whether the first of some words starts with a keyword. -/
def headStarts? (keyword : Text) (ws : List Name) : Option Unit :=
  if ws.head?.any (startsKeyword keyword) then some () else none

/-- The name in `NAME is`. -/
def nameBeforeIs? : List Name → Option Name
  | [] => none
  | name :: ws => (headStarts? "is".toList ws).map fun _ => name

/-- The name that leading words `entity NAME is` start. -/
def entityName? : List Name → Option Name :=
  keywordThen "entity".toList nameBeforeIs?

/-- The name that leading words `entity NAME is` or `package NAME is` start. -/
def unitName? (ws : List Name) : Option Name :=
  entityName? ws <|> keywordThen "package".toList nameBeforeIs? ws

/-- Whether leading words are `end entity`. -/
def endsEntity (ws : List Name) : Bool :=
  (keywordThen "end".toList (headStarts? "entity".toList) ws).isSome

/-- Whether leading words are `generic map` or `port map`. -/
def startsMap (ws : List Name) : Bool :=
  (keywordThen "generic".toList (headStarts? "map".toList) ws).isSome ||
    (keywordThen "port".toList (headStarts? "map".toList) ws).isSome

theorem headStarts?_leadingWords {keyword t : Text} (hkeyword : IsKeyword keyword)
    (ht : skipBlanks t = t) :
    (skipKeyword? keyword t).map (fun _ => ()) = headStarts? keyword (leadingWords t) := by
  rw [headStarts?, ← skipKeyword?_isSome_eq hkeyword ht]
  cases skipKeyword? keyword t <;> rfl

/-- Reads `NAME is`: the name, and the text behind. -/
def nameIs? (t : Text) : Option (Name × Text) :=
  (word? t).bind fun first =>
    (skipSomeBlanks? first.2).bind fun rest =>
      (skipKeyword? "is".toList rest).bind fun rest => some (first.1, rest)

theorem map_fst_nameIs? (t : Text) (ht : skipBlanks t = t) :
    (nameIs? t).map Prod.fst = nameBeforeIs? (leadingWords t) := by
  unfold nameIs?
  cases hfirst : word? t with
  | none =>
    rw [leadingWords_eq_nil (by rw [ht]; exact word?_eq_none.mp hfirst)]
    rfl
  | some first =>
    rcases first with ⟨name, rest⟩
    rw [leadingWords_of_word? hfirst, nameBeforeIs?, Option.bind_some]
    dsimp only
    cases hblanks : skipSomeBlanks? rest with
    | none =>
      rw [leadingWords_of_skipSomeBlanks?_eq_none hblanks (word?_eq_some.mp hfirst).2.2]
      rfl
    | some behind =>
      have hbehind : skipBlanks behind = behind := by
        rw [(skipSomeBlanks?_eq_some hblanks).1, skipBlanks_skipBlanks]
      rw [leadingWords_of_skipSomeBlanks? hblanks, ← headStarts?_leadingWords isKeyword_is hbehind,
        Option.bind_some]
      cases skipKeyword? "is".toList behind <;> rfl

theorem map_group_entityStart? (code : Text) :
    (entityStart? code).map (·.group? 1) = (entityName? (leadingWords code)).map some := by
  have heq : entityStart? code = (afterKeyword? "entity".toList code).bind fun t =>
      (nameIs? t).bind fun found => some ⟨upTo found.2 code, [found.1]⟩ := by
    simp only [entityStart?, afterKeyword?, nameIs?, bind, pure, Option.bind_assoc,
      Option.bind_some]
  rw [heq, entityName?]
  apply map_afterKeyword?_bind isKeyword_entity _ _ _ _ rfl
  intro t ht
  rw [← map_fst_nameIs? t ht]
  cases nameIs? t <;> rfl

theorem isSome_entityEnd? (code : Text) :
    (entityEnd? code).isSome = endsEntity (leadingWords code) := by
  have heq : entityEnd? code = (afterKeyword? "end".toList code).bind fun t =>
      (skipKeyword? "entity".toList t).bind fun rest => some ⟨upTo rest code, []⟩ := by
    simp only [entityEnd?, afterKeyword?, bind, pure, Option.bind_assoc]
  have hmap : (entityEnd? code).map (fun _ => ()) =
      (keywordThen "end".toList (headStarts? "entity".toList) (leadingWords code)).map id := by
    rw [heq]
    apply map_afterKeyword?_bind isKeyword_end _ _ _ _ rfl
    intro t ht
    rw [← headStarts?_leadingWords isKeyword_entity ht]
    cases skipKeyword? "entity".toList t <;> rfl
  rw [Option.map_id, id_eq] at hmap
  rw [endsEntity, ← hmap, Option.isSome_map]

theorem map_skipMap? {keyword : Text} (hkeyword : IsKeyword keyword) (code : Text) :
    (skipMap? keyword code).map (fun _ => ()) =
      keywordThen keyword (headStarts? "map".toList) (leadingWords code) := by
  have heq : skipMap? keyword code =
      (afterKeyword? keyword code).bind (skipKeyword? "map".toList) := by
    simp only [skipMap?, afterKeyword?, bind, Option.bind_assoc]
  rw [heq, map_afterKeyword?_bind hkeyword _ (headStarts? "map".toList) _ id rfl, Option.map_id,
    id_eq]
  intro t ht
  rw [headStarts?_leadingWords isKeyword_map ht, Option.map_id, id_eq]

theorem isSome_mapStart? (code : Text) :
    (mapStart? code).isSome = startsMap (leadingWords code) := by
  rw [startsMap, ← map_skipMap? isKeyword_generic, ← map_skipMap? isKeyword_port,
    Option.isSome_map, Option.isSome_map, mapStart?]
  cases skipMap? "generic".toList code <;> cases skipMap? "port".toList code <;> rfl

theorem map_group_unitStart? (code : Text) :
    (unitStart? code).map (·.group? 2) = (unitName? (leadingWords code)).map some := by
  -- each keyword on its own, behind the choice between the two
  have hbehind : ∀ keyword, IsKeyword keyword →
      ((skipKeyword? keyword (skipBlanks code)).bind fun behind =>
        ((skipSomeBlanks? behind).bind nameIs?).map fun found => some found.1) =
      (keywordThen keyword nameBeforeIs? (leadingWords code)).map some := by
    intro keyword hkeyword
    rw [← map_afterKeyword?_bind hkeyword nameIs? _ (fun found => some found.1) _ rfl,
      afterKeyword?, Option.bind_assoc, Option.map_bind]
    · rfl
    · intro t ht
      rw [← map_fst_nameIs? t ht, Option.map_map]
      rfl
  have heq : (unitStart? code).map (·.group? 2) =
      (skipKeyword? "entity".toList (skipBlanks code) <|>
        skipKeyword? "package".toList (skipBlanks code)).bind fun behind =>
        ((skipSomeBlanks? behind).bind nameIs?).map fun found => some found.1 := by
    simp only [unitStart?, nameIs?, bind, pure, Option.map_bind, Function.comp_def,
      Option.map_some, Capture.group?]
    rfl
  rw [heq, unitName?, entityName?]
  have hentity := hbehind _ isKeyword_entity
  have hpackage := hbehind _ isKeyword_package
  cases hskip : skipKeyword? "entity".toList (skipBlanks code) with
  | none =>
    rw [hskip, Option.bind_none] at hentity
    rw [Option.map_eq_none_iff.mp hentity.symm]
    exact hpackage
  | some behind =>
    -- a line that starts with the one keyword does not start with the other
    rw [skipKeyword?_eq_none_of_head (by decide) (by decide) hskip, Option.bind_none] at hpackage
    rw [hskip, Option.bind_some] at hentity
    rw [Option.map_eq_none_iff.mp hpackage.symm]
    change ((skipSomeBlanks? behind).bind nameIs?).map _ = _
    rw [hentity]
    cases keywordThen "entity".toList nameBeforeIs? (leadingWords code) <;> rfl

/-! ## 3. Headers and list ends -/

/-- The component that a header names. -/
def headerComponent? (lead : Name) (start : Text) : Option Name :=
  (skipKeyword? lead start).bind fun rest =>
    (word? rest).bind fun found => some (upTo found.2 start)

theorem map_group_header? (lead : Name) (code : Text) :
    (header? lead code).map (·.group? 1) =
      ((headerName? code).bind (headerComponent? lead)).map some := by
  simp only [header?, headerComponent?, bind, pure, Option.map_bind, Function.comp_def,
    Option.map_some, Capture.group?]
  rfl

theorem headerName?_of_word {b w v t : Text} (hb : AllBlank b) (hw : IsIdentifier w)
    (hv : IsIdentifier v) (ht : startsWord t = false) :
    headerName? (b ++ (w ++ t)) = headerName? (b ++ (v ++ t)) := by
  unfold headerName?
  rw [word?_skipBlanks_append hb hw ht, word?_skipBlanks_append hb hv ht]
  rfl

theorem headerName?_eq_none {b w t : Text} (hb : AllBlank b) (hw : IsIdentifier w)
    (ht : startsWord t = false) (hcolon : (skipBlanks t).head? ≠ some ':') :
    headerName? (b ++ (w ++ t)) = none := by
  have hnone : skipChar? ':' (skipBlanks t) = none := by
    cases h : skipChar? ':' (skipBlanks t) with
    | none => rfl
    | some rest => exact absurd (by rw [skipChar?_eq_some.mp h]; rfl) hcolon
  unfold headerName?
  rw [word?_skipBlanks_append hb hw ht]
  change (skipChar? ':' (skipBlanks t)).bind _ = none
  rw [hnone, Option.bind_none]

theorem listEnd?_eq_none {b w : Text} (hb : AllBlank b) (hw : IsIdentifier w) (t : Text) :
    listEnd? (b ++ (w ++ t)) = none := by
  have hnone : skipChar? ')' (w ++ t) = none := by
    cases h : skipChar? ')' (w ++ t) with
    | none => rfl
    | some rest =>
      have hstart := startsWord_append hw t
      rw [skipChar?_eq_some.mp h] at hstart
      exact absurd (show isWord ')' = true from hstart) (by decide)
  unfold listEnd?
  rw [skipBlanks_append hb, skipBlanks_of_startsWord (startsWord_append hw t), hnone]
  rfl

end LineShape

end Relabel

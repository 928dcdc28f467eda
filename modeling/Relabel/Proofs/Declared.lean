import Relabel.Harvest
import Relabel.Proofs.Source

/-!
# The name that a line declares

Harvesting takes the first word of a line that has a colon behind it, wherever it stands; a
pass over the declarations renames only a word at the front. The three laws of section 1 say
how the name is found from the words and gaps of a line, and everything that the passes do to
it follows from them.
-/

namespace Relabel.Harvest

open Text Declaration

/-! ## 1. Words and gaps -/

theorem declaredAmong_gap {gap : Text} (hgap : startsWord gap = false) (more : List Text) :
    declaredAmong (gap :: more) = declaredAmong more := by
  cases more with
  | nil => rfl
  | cons run more =>
    rw [declaredAmong, if_neg]
    rintro ⟨hstart, -⟩
    rw [hgap] at hstart
    contradiction

/-- Whether a colon comes next is told from the first gap. -/
theorem head?_skipBlanks_gap {t gap : Text} {more : List Text} (h : runs t = gap :: more)
    (ht : startsWord t = false) : (skipBlanks gap).head? = some ':' ↔ followsName t := by
  induction t generalizing gap with
  | nil => contradiction
  | cons c t ih =>
    have hc : isWord c = false := ht
    by_cases hword : startsWord t = true
    · -- the gap ends here
      have hgap : gap = [c] := by
        rw [runs_cons_of_ne (fun _ => by rw [hc, hword]; exact Bool.noConfusion)] at h
        exact (List.cons.inj h).1.symm
      subst hgap
      cases hblank : isBlank c with
      | true =>
        have hb : AllBlank [c] := fun d hd => List.mem_singleton.mp hd ▸ hblank
        have hno : ¬ followsName (c :: t) := by
          rw [← List.singleton_append, followsName_append_of_allBlank hb]
          exact not_followsName_of_startsWord hword
        -- behind a blank that ends the gap there is a word, not a colon
        refine iff_of_false ?_ hno
        rw [← List.append_nil [c], skipBlanks_append hb]
        decide
      | false => rw [followsName, skipBlanks_cons hblank, skipBlanks_cons hblank]; rfl
    · have hstart : startsWord t = false := by simpa using hword
      cases hruns : runs t with
      | nil =>
        have hnil : t = [] := by rw [← flatten_runs t, hruns, List.flatten_nil]
        subst hnil
        rw [← (List.cons.inj h).1]
        rfl
      | cons gap' more' =>
        rw [runs_cons_of_eq hruns (by rw [hc, hstart])] at h
        rw [← (List.cons.inj h).1]
        cases hblank : isBlank c with
        | true =>
          have hb : AllBlank [c] := fun d hd => List.mem_singleton.mp hd ▸ hblank
          rw [← List.singleton_append, skipBlanks_append hb, ← List.singleton_append,
            followsName_append_of_allBlank hb]
          exact ih (by rw [hruns, (List.cons.inj h).2]) hstart
        | false => rw [followsName, skipBlanks_cons hblank, skipBlanks_cons hblank]; rfl

theorem declared?_cons {c : Char} (hc : isWord c = false) (t : Text) :
    declared? (c :: t) = declared? t := by
  have hstart : ∀ gap, startsWord (c :: gap) = false := fun _ => hc
  rcases runs_cons_gap hc t with ⟨gap, more, hgap, ht, hct⟩ | hct
  · rw [declared?, declared?, hct, ht, declaredAmong_gap (hstart gap), declaredAmong_gap hgap]
  · rw [declared?, declared?, hct, declaredAmong_gap (hstart [])]

theorem declared?_append_of_follows {w t : Text} (hw : IsIdentifier w) (hfollows : followsName t) :
    declared? (w ++ t) = some w := by
  have ht : startsWord t = false := by
    rw [← Bool.not_eq_true]
    exact fun hstart => not_followsName_of_startsWord hstart hfollows
  have hstart : startsWord w = true := by simpa using startsWord_append hw []
  cases hruns : runs t with
  | nil =>
    rw [← flatten_runs t, hruns] at hfollows
    contradiction
  | cons gap more =>
    rw [declared?, runs_append hw ht, hruns, declaredAmong,
      if_pos ⟨hstart, (head?_skipBlanks_gap hruns ht).mpr hfollows⟩]

theorem declared?_append_of_not_follows {w t : Text} (hw : IsIdentifier w)
    (ht : startsWord t = false) (hno : ¬ followsName t) : declared? (w ++ t) = declared? t := by
  cases hruns : runs t with
  | nil => rw [declared?, declared?, runs_append hw ht, hruns]; rfl
  | cons gap more =>
    rw [declared?, declared?, runs_append hw ht, hruns, declaredAmong,
      if_neg fun h => hno ((head?_skipBlanks_gap hruns ht).mp h.2)]

theorem declared?_append_of_allBlank {b : Text} (hb : AllBlank b) (t : Text) :
    declared? (b ++ t) = declared? t := by
  induction b with
  | nil => rfl
  | cons c b ih =>
    rw [List.cons_append, declared?_cons (isWord_of_isBlank (hb c List.mem_cons_self)),
      ih fun d hd => hb d (List.mem_cons_of_mem c hd)]

theorem isIdentifier_of_declared? {t : Text} {name : Name} (h : declared? t = some name) :
    IsIdentifier name := by
  induction t using word_induction with
  | nil => contradiction
  | gap c t hc ih => exact ih (declared?_cons hc t ▸ h)
  | word w t hw ht ih =>
    by_cases hfollows : followsName t
    · rw [declared?_append_of_follows hw hfollows] at h
      exact Option.some.inj h ▸ hw
    · exact ih (declared?_append_of_not_follows hw ht hfollows ▸ h)

/-! ## 2. Renamed lines -/

theorem declared?_mapWords {f : Name → Name} (hf : ∀ w, IsIdentifier w → IsIdentifier (f w))
    (t : Text) : declared? (mapWords f t) = (declared? t).map f := by
  induction t using word_induction with
  | nil => rfl
  | gap c t hc ih => rw [mapWords_cons f hc, declared?_cons hc, declared?_cons hc, ih]
  | word w t hw ht ih =>
    have hstart : startsWord (mapWords f t) = false := (startsWord_mapWords hf t).trans ht
    -- a colon is not part of a word, so it stays where it is
    have hcolon := followsName_respelled (.of_mapWords hf t)
    rw [mapWords_append f hw ht]
    by_cases hfollows : followsName t
    · rw [declared?_append_of_follows (hf w hw) (hcolon.mp hfollows),
        declared?_append_of_follows hw hfollows, Option.map_some]
    · rw [declared?_append_of_not_follows (hf w hw) hstart (mt hcolon.mpr hfollows),
        declared?_append_of_not_follows hw ht hfollows, ih]

/-- What is declared at the front of a line is what the line declares. -/
theorem declared?_of_split? {code indent rest : Text} {name : Name}
    (h : Declaration.split? code = some (indent, name, rest)) : declared? code = some name := by
  rcases split?_eq_some.mp h with ⟨rfl, hindent, hname, -, hfollows⟩
  rw [declared?_append_of_allBlank hindent, declared?_append_of_follows hname hfollows]

/-- Nothing is declared in front of a formal. -/
theorem declared?_append_of_isListStart {keyword lead : Text} (hkeyword : IsKeyword keyword)
    (hlead : Association.IsListStart keyword lead) (t : Text) :
    declared? (lead ++ t) = declared? t := by
  rcases hlead with ⟨b, p, b₁, m, b₂, b₃, rfl, hb, hp, hb₁, hne, hm, hb₂, hb₃⟩
  have hpWord := hkeyword.isIdentifier hp
  have hmWord := isKeyword_map.isIdentifier hm
  simp only [List.append_assoc, List.cons_append]
  -- neither keyword has a colon behind it
  have hfirst : ¬ followsName (b₁ ++ (m ++ (b₂ ++ '(' :: (b₃ ++ t)))) := by
    rw [followsName_append_of_allBlank hb₁]
    exact not_followsName_of_startsWord (startsWord_append hmWord _)
  have hsecond : ¬ followsName (b₂ ++ '(' :: (b₃ ++ t)) := by
    rw [followsName_append_of_allBlank hb₂, followsName, skipBlanks_cons (by decide),
      List.head?_cons]
    decide
  have hparen : startsWord (b₂ ++ '(' :: (b₃ ++ t)) = false :=
    startsWord_append_of_gap hb₂ (by decide : isWord '(' = false)
  rw [declared?_append_of_allBlank hb,
    declared?_append_of_not_follows hpWord (startsWord_append_of_allBlank hb₁ hne _) hfirst,
    declared?_append_of_allBlank hb₁, declared?_append_of_not_follows hmWord hparen hsecond,
    declared?_append_of_allBlank hb₂, declared?_cons (by decide), declared?_append_of_allBlank hb₃]

theorem declared?_append_of_isLead {lead : Text} (hlead : Association.IsLead lead) (t : Text) :
    declared? (lead ++ t) = declared? t := by
  rcases hlead with hblank | hport | hgeneric
  · exact declared?_append_of_allBlank hblank t
  · exact declared?_append_of_isListStart isKeyword_port hport t
  · exact declared?_append_of_isListStart isKeyword_generic hgeneric t

section Rename

variable {db : Database} {component : Name} {code : Text}

theorem declared?_declaration_rename (hdb : db.KeepsWords .exact component)
    (hfront : ∀ name, declared? code = some name → (Declaration.split? code).isSome) :
    declared? (Declaration.rename db component code) =
      (declared? code).map (db.lookup .exact component) := by
  cases hsplit : Declaration.split? code with
  | none =>
    have hnone : declared? code = none := by
      cases hname : declared? code with
      | none => rfl
      | some name =>
        have hsome := hfront name hname
        rw [hsplit] at hsome
        contradiction
    rw [Declaration.rename_eq_self hsplit, hnone, Option.map_none]
  | some cut =>
    rcases cut with ⟨indent, name, rest⟩
    have hrenamed : Declaration.split? (Declaration.rename db component code) = _ :=
      Declaration.split?_rename hdb
    rw [hsplit, Option.map_some] at hrenamed
    rw [declared?_of_split? hrenamed, declared?_of_split? hsplit, Option.map_some]

/-- Renaming a formal does not change what a line declares. -/
theorem declared?_association_rename (hdb : db.KeepsWords .exact component) :
    declared? (Association.rename db component code) = declared? code := by
  cases hsplit : Association.split? code with
  | none => rw [Association.rename_eq_self hsplit]
  | some cut =>
    rcases cut with ⟨lead, formal, rest⟩
    rcases Association.split?_eq_some.mp hsplit with ⟨hcode, hlead, hformal, hrest, hfollows⟩
    have hno := Association.not_followsName_of_followsFormal hfollows
    rw [Association.rename_eq hsplit, hcode, declared?_append_of_isLead hlead,
      declared?_append_of_isLead hlead,
      declared?_append_of_not_follows (hdb formal hformal) hrest hno,
      declared?_append_of_not_follows hformal hrest hno]

end Rename

end Relabel.Harvest

import Relabel.Proofs.Layout

/-!
# Renaming token by token

Every text is cut into its maximal words and the stretches around them, and in one way only. The two
passes that go over all words of a line are told by what they make of each: the stretches stay, and
which word is replaced by what depends on the word and the stretch in front of it alone.
-/

namespace Relabel

namespace Text

/-! ## 1. The cut of a text -/

/-- A text, the stretches of it that hold no word character, and its maximal words between them. -/
inductive CutsInto : Text → List Text → List Name → Prop
  | gap {g : Text} (hg : ∀ c ∈ g, isWord c = false) : CutsInto g [g] []
  | word {g w t : Text} {gaps : List Text} {ws : List Name} (hg : ∀ c ∈ g, isWord c = false)
      (hw : IsIdentifier w) (ht : startsWord t = false) (h : CutsInto t gaps ws) :
      CutsInto (g ++ (w ++ t)) (g :: gaps) (w :: ws)

section Gap

variable {g : Text} (hg : ∀ c ∈ g, isWord c = false)

include hg

theorem words_append_of_gap (t : Text) : words (g ++ t) = words t := by
  induction g with
  | nil => rfl
  | cons c g ih =>
    rw [List.cons_append, words_cons (hg c List.mem_cons_self),
      ih fun d hd => hg d (List.mem_cons_of_mem c hd)]

theorem separators_append_of_gap (t : Text) :
    separators (g ++ t) = (separators t).modifyHead (g ++ ·) := by
  induction g with
  | nil =>
    rw [List.nil_append]
    cases separators t <;> rfl
  | cons c g ih =>
    rw [List.cons_append, separators_cons (hg c List.mem_cons_self),
      ih fun d hd => hg d (List.mem_cons_of_mem c hd), List.modifyHead_modifyHead]
    rfl

theorem mapWords_append_of_gap (f : Name → Name) (t : Text) :
    mapWords f (g ++ t) = g ++ mapWords f t := by
  induction g with
  | nil => rfl
  | cons c g ih =>
    rw [List.cons_append, mapWords_cons f (hg c List.mem_cons_self),
      ih fun d hd => hg d (List.mem_cons_of_mem c hd), List.cons_append]

end Gap

theorem cutsInto_separators_words (t : Text) : CutsInto t (separators t) (words t) := by
  induction t using word_induction with
  | nil => exact .gap (List.forall_mem_nil _)
  | gap c t hc ih =>
    rw [separators_cons hc, words_cons hc]
    -- the character goes to the first stretch, whichever rule has given it
    generalize separators t = gaps at ih ⊢
    generalize words t = ws at ih ⊢
    cases ih with
    | gap hg => exact .gap (List.forall_mem_cons.mpr ⟨hc, hg⟩)
    | word hg hw ht h => exact .word (List.forall_mem_cons.mpr ⟨hc, hg⟩) hw ht h
  | word w t hw ht ih =>
    rw [separators_append hw ht, words_append hw ht]
    exact .word (List.forall_mem_nil _) hw ht ih

namespace CutsInto

variable {t : Text} {gaps : List Text} {ws : List Name}

theorem eq_separators_words (h : CutsInto t gaps ws) : gaps = separators t ∧ ws = words t := by
  induction h with
  | @gap g hg =>
    have hwords := words_append_of_gap hg []
    have hseparators := separators_append_of_gap hg []
    rw [List.append_nil] at hwords hseparators
    exact ⟨by rw [hseparators, separators]; simp, hwords.symm⟩
  | @word g w t gaps ws hg hw ht h ih =>
    rcases ih with ⟨rfl, rfl⟩
    rw [words_append_of_gap hg, separators_append_of_gap hg, words_append hw ht,
      separators_append hw ht]
    simp

theorem mapWords_eq (h : CutsInto t gaps ws) (f : Name → Name) :
    mapWords f t = weave gaps (ws.map f) := by
  induction h with
  | @gap g hg =>
    have hgap := mapWords_append_of_gap hg f []
    rw [List.append_nil] at hgap
    exact hgap.trans (List.append_nil g)
  | word hg hw ht h ih =>
    rw [mapWords_append_of_gap hg, mapWords_append f hw ht, ih, List.map_cons, weave,
      List.append_assoc]

end CutsInto

theorem cutsInto_iff {t : Text} {gaps : List Text} {ws : List Name} :
    CutsInto t gaps ws ↔ gaps = separators t ∧ ws = words t := by
  constructor
  · exact CutsInto.eq_separators_words
  · rintro ⟨rfl, rfl⟩
    exact cutsInto_separators_words t

end Text

open Text

/-! ## 2. Flags -/

namespace GenericFlag

/-- What becomes of a word behind a stretch: behind a dash, `g` or `G` stays and what follows it in
the word is renamed. -/
def renameFlag (f : Name → Name) (gap : Text) (w : Name) : Name :=
  if gap.getLast? = some '-' ∧ (w.head? = some 'g' ∨ w.head? = some 'G') ∧ 1 < w.length then
    w.take 1 ++ f (w.drop 1)
  else w

theorem renameRun_eq (f : Name → Name) {w : Name} (hw : IsIdentifier w) :
    renameRun f w =
      if (w.head? = some 'g' ∨ w.head? = some 'G') ∧ 1 < w.length then w.take 1 ++ f (w.drop 1)
      else w := by
  match w, hw with
  | [], _ => rfl
  | [g], _ => simp [renameRun]
  | g :: c :: name, hw =>
    have hc : isWord c = true := hw.2 c (by simp)
    simp [renameRun, hc]

theorem renameRuns_append_of_gap (f : Name → Name) {g : Text} (hg : ∀ c ∈ g, isWord c = false)
    (last : Option Char) (t : Text) :
    renameRuns f last (runs (g ++ t)) = g ++ renameRuns f (g.getLast?.or last) (runs t) := by
  induction g generalizing last with
  | nil => rfl
  | cons c g ih =>
    rw [List.cons_append, renameRuns_cons f (hg c List.mem_cons_self),
      ih fun d hd => hg d (List.mem_cons_of_mem c hd), List.cons_append]
    cases g with
    | nil => rfl
    | cons d g =>
      rw [List.getLast?_cons_cons, List.getLast?_eq_some_getLast (List.cons_ne_nil d g)]
      rfl

/-- Flags are found in every text that does not follow a dash, and only behind a dash of its own. -/
theorem renameRuns_eq {t : Text} {gaps : List Text} {ws : List Name} (h : CutsInto t gaps ws)
    (f : Name → Name) {last : Option Char} (hlast : last ≠ some '-') :
    renameRuns f last (runs t) = weave gaps (List.zipWith (renameFlag f) gaps ws) := by
  induction h generalizing last with
  | @gap g hg =>
    have hgap := renameRuns_append_of_gap f hg last []
    rw [List.append_nil] at hgap
    exact hgap.trans (List.append_nil g)
  | @word g w t gaps ws hg hw ht h ih =>
    -- a word ends with no dash, so the next one is a flag only by the stretch between the two
    have hword : w.getLast? ≠ some '-' := getLast?_ne_dash hw
    have hdash : g.getLast?.or last = some '-' ↔ g.getLast? = some '-' := by
      cases g.getLast? with
      | none => simpa using hlast
      | some c => simp
    have hflag : (if g.getLast?.or last = some '-' then renameRun f w else w) =
        renameFlag f g w := by
      rw [renameFlag, renameRun_eq f hw]
      by_cases hlead : g.getLast? = some '-'
      · rw [if_pos (hdash.mpr hlead)]
        simp only [hlead, true_and]
      · rw [if_neg (mt hdash.mp hlead)]
        simp only [hlead, false_and, if_false]
    rw [renameRuns_append_of_gap f hg, renameRuns_append f hw ht, hflag, ih hword,
      List.zipWith_cons_cons, weave, List.append_assoc]

end GenericFlag

namespace Pass

/-- In the code part of a script line, every maximal word behind a dash that starts with `g`
or `G` and goes on has what follows the letter looked up under the component of the line;
nothing else changes. -/
theorem simConfig_rename_flags (lead : Name) (db : Database) (code : Text) (cursor : Cursor) :
    let component := (testbenchMarkers.move code cursor).component
    ∃ gaps ws, (∀ gaps' ws', CutsInto code gaps' ws' ↔ gaps' = gaps ∧ ws' = ws) ∧
      (simConfig.applyCode lead db code cursor).1 =
        weave gaps (List.zipWith (GenericFlag.renameFlag (db.lookup .folded component))
          gaps ws) := by
  intro component
  refine ⟨separators code, words code, fun gaps' ws' => cutsInto_iff, ?_⟩
  exact GenericFlag.renameRuns_eq (cutsInto_separators_words code) (db.lookup .folded component)
    (by decide)

-- a flag behind a lone `-g`, behind two dashes and behind a word, and words that are no flags
example :
    let db : Database := ⟨.ofList [("c_tb".toList, .ofList [("clk".toList, "clk_i".toList)]),
      (fallbackScope, .ofList [("rst".toList, "r".toList)])]⟩
    (simConfig.applyCode [] db "-gClk=1 -g-GRST --gclk x-gClk -gclk_g gclk - gclk -g".toList
      ⟨"c_tb".toList, false⟩).1 =
        "-gclk_i=1 -g-Gr --gclk_i x-gclk_i -gclk_g gclk - gclk -g".toList := by
  repeat rw [String.toList_ofList]
  decide +kernel

end Pass

end Relabel

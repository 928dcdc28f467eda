import Mathlib.Data.List.TakeWhile
import Relabel.Proofs.Characters
import Relabel.Text.Word

/-!
# Words and the gaps between them

A text is built from the end by putting either a character that belongs to no word, or a whole word,
in front. Everything that the library does with words has an equation for each of the two, and the
laws below follow from these equations by induction over that structure.
-/

namespace Relabel.Text

/-! ## 1. Identifiers -/

/-- A non-empty run of word characters. -/
def IsIdentifier (w : Text) : Prop :=
  w ≠ [] ∧ ∀ c ∈ w, isWord c = true

instance (w : Text) : Decidable (IsIdentifier w) :=
  @instDecidableAnd _ _ inferInstance (List.decidableBAll _ w)

theorem startsWord_append {w : Text} (hw : IsIdentifier w) (t : Text) :
    startsWord (w ++ t) = true := by
  rcases hw with ⟨hne, hall⟩
  cases w with
  | nil => contradiction
  | cons c w => exact hall c List.mem_cons_self

/-- Induction over a text, by its words and by the single characters between them. -/
@[elab_as_elim]
theorem word_induction {motive : Text → Prop} (t : Text) (nil : motive [])
    (gap : ∀ c t, isWord c = false → motive t → motive (c :: t))
    (word : ∀ w t, IsIdentifier w → startsWord t = false → motive t → motive (w ++ t)) :
    motive t := by
  -- on the length, since a word is taken off in one step
  induction hlen : t.length using Nat.strongRecOn generalizing t with
  | _ n ih =>
    cases t with
    | nil => exact nil
    | cons c rest =>
      cases hc : isWord c with
      | false =>
        apply gap c rest hc
        exact ih rest.length (by rw [← hlen, List.length_cons]; omega) rest rfl
      | true =>
        have hsplit : (c :: rest).takeWhile isWord ++ (c :: rest).dropWhile isWord = c :: rest :=
          List.takeWhile_append_dropWhile
        have hhead : (c :: rest).takeWhile isWord = c :: rest.takeWhile isWord := by
          rw [List.takeWhile_cons, if_pos hc]
        rw [← hsplit]
        apply word
        · refine ⟨by rw [hhead]; exact List.cons_ne_nil _ _, fun d hd => ?_⟩
          exact List.mem_takeWhile_imp hd
        · -- the word is maximal, so what is left does not go on with it
          cases hdrop : (c :: rest).dropWhile isWord with
          | nil => rfl
          | cons d more =>
            have hd := List.head?_dropWhile_not isWord (c :: rest)
            rw [hdrop] at hd
            simpa [startsWord] using hd
        · refine ih _ ?_ _ rfl
          have htotal := congrArg List.length hsplit
          rw [hhead, List.length_append, List.length_cons] at htotal
          omega

/-! ## 2. Runs -/

/-- The maximal runs of word characters. -/
def words (t : Text) : List Name :=
  (runs t).filter startsWord

/-- The stretches in front of, between and behind the words; the outer ones may be empty. -/
def separators : Text → List Text
  | [] => [[]]
  | c :: rest =>
      if isWord c then
        if startsWord rest then separators rest else [] :: separators rest
      else (separators rest).modifyHead (c :: ·)

/-- The first run of a text starts as the text does. -/
theorem startsWord_of_runs_eq_cons {t run : Text} {more : List Text} (h : runs t = run :: more) :
    startsWord run = startsWord t := by
  cases t with
  | nil => simp [runs] at h
  | cons c rest =>
    rw [runs] at h
    split at h
    · rw [(List.cons.inj h).1.symm]; rfl
    · split at h <;> rw [(List.cons.inj h).1.symm] <;> rfl

theorem runs_ne_nil {t : Text} (ht : t ≠ []) : runs t ≠ [] := by
  intro hnil
  apply ht
  rw [← flatten_runs t, hnil, List.flatten_nil]

theorem ne_nil_of_mem_runs {t run : Text} (h : run ∈ runs t) : run ≠ [] := by
  induction t generalizing run with
  | nil => contradiction
  | cons c rest ih =>
    rw [runs] at h
    split at h
    · rw [List.mem_singleton.mp h]
      exact List.cons_ne_nil c []
    · rename_i first more hruns
      rw [hruns] at ih
      split at h
      · rcases List.mem_cons.mp h with rfl | hmem
        · exact List.cons_ne_nil c first
        · exact ih (List.mem_cons_of_mem first hmem)
      · rcases List.mem_cons.mp h with rfl | hmem
        · exact List.cons_ne_nil c []
        · exact ih hmem

/-- A character joins the first run of a text of its own kind. -/
theorem runs_cons_of_eq {c : Char} {t run : Text} {more : List Text} (h : runs t = run :: more)
    (hc : isWord c = startsWord t) : runs (c :: t) = (c :: run) :: more := by
  rw [runs, h]
  exact if_pos (hc.trans (startsWord_of_runs_eq_cons h).symm)

/-- A character in front of a text of the other kind is a run of its own. -/
theorem runs_cons_of_ne {c : Char} {t : Text} (hc : t ≠ [] → isWord c ≠ startsWord t) :
    runs (c :: t) = [c] :: runs t := by
  cases hruns : runs t with
  | nil => rw [runs, hruns]
  | cons run more =>
    have ht : t ≠ [] := by rintro rfl; simp [runs] at hruns
    rw [runs, hruns]
    exact if_neg fun heq => hc ht (heq.trans (startsWord_of_runs_eq_cons hruns))

theorem runs_append {w t : Text} (hw : IsIdentifier w) (ht : startsWord t = false) :
    runs (w ++ t) = w :: runs t := by
  rcases hw with ⟨hne, hall⟩
  induction w with
  | nil => contradiction
  | cons c w ih =>
    have hc : isWord c = true := hall c List.mem_cons_self
    cases w with
    | nil =>
      rw [List.singleton_append]
      apply runs_cons_of_ne
      intro _
      rw [hc, ht]
      exact Bool.noConfusion
    | cons d w =>
      have htail : ∀ x ∈ d :: w, isWord x = true := fun x hx => hall x (List.mem_cons_of_mem c hx)
      apply runs_cons_of_eq (ih (List.cons_ne_nil d w) htail)
      rw [hc, startsWord_append ⟨List.cons_ne_nil d w, htail⟩]

/-- A character between words either joins the gap behind it or starts one. -/
theorem runs_cons_gap {c : Char} (hc : isWord c = false) (t : Text) :
    (∃ gap more, startsWord gap = false ∧ runs t = gap :: more ∧
      runs (c :: t) = (c :: gap) :: more) ∨
      runs (c :: t) = [c] :: runs t := by
  by_cases heq : t ≠ [] ∧ startsWord t = false
  · rcases List.exists_cons_of_ne_nil (runs_ne_nil heq.1) with ⟨gap, more, hruns⟩
    have hgap : startsWord gap = false := (startsWord_of_runs_eq_cons hruns).trans heq.2
    exact .inl ⟨gap, more, hgap, hruns, runs_cons_of_eq hruns (by rw [hc, heq.2])⟩
  · exact .inr (runs_cons_of_ne fun ht hs => heq ⟨ht, by rw [← hs, hc]⟩)

theorem words_cons {c : Char} (hc : isWord c = false) (t : Text) : words (c :: t) = words t := by
  have hstart : ∀ gap, ¬ startsWord (c :: gap) = true := fun gap => by simp [startsWord, hc]
  unfold words
  rcases runs_cons_gap hc t with ⟨gap, more, hgap, ht, hct⟩ | hct
  · rw [hct, ht, List.filter_cons_of_neg (hstart gap), List.filter_cons_of_neg (by simp [hgap])]
  · rw [hct, List.filter_cons_of_neg (hstart [])]

theorem words_append {w t : Text} (hw : IsIdentifier w) (ht : startsWord t = false) :
    words (w ++ t) = w :: words t := by
  have hstart : startsWord w = true := by simpa using startsWord_append hw []
  rw [words, runs_append hw ht, List.filter_cons_of_pos hstart, words]

theorem separators_cons {c : Char} (hc : isWord c = false) (t : Text) :
    separators (c :: t) = (separators t).modifyHead (c :: ·) := by
  rw [separators, if_neg (by simp [hc])]

theorem separators_append {w t : Text} (hw : IsIdentifier w) (ht : startsWord t = false) :
    separators (w ++ t) = [] :: separators t := by
  rcases hw with ⟨hne, hall⟩
  induction w with
  | nil => contradiction
  | cons c w ih =>
    have hc : isWord c = true := hall c List.mem_cons_self
    rw [List.cons_append, separators, if_pos hc]
    cases w with
    | nil => rw [List.nil_append, if_neg (by simp [ht])]
    | cons d w =>
      have htail : ∀ x ∈ d :: w, isWord x = true := fun x hx => hall x (List.mem_cons_of_mem c hx)
      rw [if_pos (startsWord_append ⟨List.cons_ne_nil d w, htail⟩ t)]
      exact ih (List.cons_ne_nil d w) htail

theorem separators_ne_nil (t : Text) : separators t ≠ [] := by
  induction t using word_induction with
  | nil => exact List.cons_ne_nil _ _
  | gap c t hc ih =>
    rcases List.exists_cons_of_ne_nil ih with ⟨gap, gaps, hgaps⟩
    rw [separators_cons hc, hgaps]
    exact List.cons_ne_nil _ _
  | word w t hw ht ih =>
    rw [separators_append hw ht]
    exact List.cons_ne_nil _ _

/-- Puts words between stretches. -/
def weave : (stretches : List Text) → (words : List Name) → Text
  | [], _ => []
  | gap :: _, [] => gap
  | gap :: gaps, w :: ws => gap ++ w ++ weave gaps ws

/-- A text is its separators with its words between them. -/
theorem weave_separators_words (t : Text) : weave (separators t) (words t) = t := by
  induction t using word_induction with
  | nil => rfl
  | gap c t hc ih =>
    rw [separators_cons hc, words_cons hc]
    -- the character is put in front of the first stretch, which is always there
    have hcons : ∀ (gaps : List Text) (ws : List Name), gaps ≠ [] →
        weave (gaps.modifyHead (c :: ·)) ws = c :: weave gaps ws := by
      intro gaps ws hgaps
      cases gaps with
      | nil => contradiction
      | cons gap gaps => cases ws <;> rfl
    rw [hcons _ _ (separators_ne_nil t), ih]
  | word w t hw ht ih =>
    rw [separators_append hw ht, words_append hw ht, weave, ih, List.nil_append]

/-! ## 3. Replacing words -/

theorem mapWords_cons (f : Name → Name) {c : Char} (hc : isWord c = false) (t : Text) :
    mapWords f (c :: t) = c :: mapWords f t := by
  have hstart : ∀ gap, ¬ startsWord (c :: gap) = true := fun gap => by simp [startsWord, hc]
  unfold mapWords
  rcases runs_cons_gap hc t with ⟨gap, more, hgap, ht, hct⟩ | hct
  · rw [hct, ht, List.flatMap_cons, List.flatMap_cons, if_neg (hstart gap), if_neg (by simp [hgap]),
      List.cons_append]
  · rw [hct, List.flatMap_cons, if_neg (hstart []), List.singleton_append]

theorem mapWords_append (f : Name → Name) {w t : Text} (hw : IsIdentifier w)
    (ht : startsWord t = false) : mapWords f (w ++ t) = f w ++ mapWords f t := by
  have hstart : startsWord w = true := by simpa using startsWord_append hw []
  rw [mapWords, runs_append hw ht, List.flatMap_cons, if_pos hstart, mapWords]

end Relabel.Text

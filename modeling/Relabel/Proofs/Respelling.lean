import Mathlib.Data.List.Forall2
import Relabel.Proofs.Words
import Relabel.Text.Lines

/-!
# Respelling a text

A text is respelled when each of its words may give way to another word and all else stays. Every
pass does no more than that, so what it cannot change is shown here once: the separators and the
number of words, where the lines end, and where the comments start.
-/

namespace Relabel.Text

/-- The second text is the first with words replaced by words. -/
inductive Respelled : Text → Text → Prop
  | nil : Respelled [] []
  | gap {c : Char} {t u : Text} (hc : isWord c = false) (h : Respelled t u) :
      Respelled (c :: t) (c :: u)
  | word {w v t u : Text} (hw : IsIdentifier w) (hv : IsIdentifier v) (ht : startsWord t = false)
      (h : Respelled t u) : Respelled (w ++ t) (v ++ u)

/-- Whether a text ends with a word character. -/
def endsWord (t : Text) : Bool :=
  t.getLast?.any isWord

theorem endsWord_append_gap {g : Text} (hne : g ≠ []) (hg : ∀ c ∈ g, isWord c = false) (t : Text) :
    endsWord (t ++ g) = false := by
  rw [endsWord, List.getLast?_append_of_ne_nil t hne, List.getLast?_eq_some_getLast hne,
    Option.any_some, hg _ (List.getLast_mem hne)]

theorem endsWord_of_append {s t : Text} (h : endsWord (s ++ t) = false) : endsWord t = false := by
  by_cases ht : t = []
  · rw [ht]
    rfl
  · rwa [endsWord, List.getLast?_append_of_ne_nil s ht] at h

/-- What comes behind a word, when no word goes across the seam that follows. -/
theorem startsWord_append_of_seam {w t u : Text} (hw : IsIdentifier w) (ht : startsWord t = false)
    (hseam : endsWord (w ++ t) = false ∨ startsWord u = false) : startsWord (t ++ u) = false := by
  cases t with
  | cons c t => exact ht
  | nil =>
    -- a text that ends with the word itself leaves the seam to the second one
    refine hseam.resolve_left fun hend => ?_
    rw [List.append_nil, endsWord, List.getLast?_eq_some_getLast hw.1] at hend
    simp [hw.2 _ (List.getLast_mem hw.1)] at hend

/-- The words of two texts side by side, where no word goes across the seam. -/
theorem words_append_of_seam {t u : Text} (hseam : endsWord t = false ∨ startsWord u = false) :
    words (t ++ u) = words t ++ words u := by
  induction t using word_induction with
  | nil => rfl
  | gap c t hc ih =>
    have hrest : endsWord t = false ∨ startsWord u = false :=
      hseam.imp_left (endsWord_of_append (s := [c]))
    rw [List.cons_append, words_cons hc, words_cons hc, ih hrest]
  | word w t hw ht ih =>
    have hstart : startsWord (t ++ u) = false := startsWord_append_of_seam hw ht hseam
    rw [List.append_assoc, words_append hw hstart, words_append hw ht,
      ih (hseam.imp_left endsWord_of_append), List.cons_append]

namespace Respelled

variable {t u t₁ u₁ : Text}

theorem refl (t : Text) : Respelled t t := by
  induction t using word_induction with
  | nil => exact .nil
  | gap c t hc ih => exact .gap hc ih
  | word w t hw ht ih => exact .word hw hw ht ih

theorem startsWord_eq (h : Respelled t u) : startsWord t = startsWord u := by
  cases h with
  | nil => rfl
  | gap hc h => rfl
  | word hw hv ht h => rw [startsWord_append hw, startsWord_append hv]

/-! ## 1. Words and separators -/

theorem separators_eq (h : Respelled t u) : separators t = separators u := by
  induction h with
  | nil => rfl
  | gap hc h ih => rw [separators_cons hc, separators_cons hc, ih]
  | word hw hv ht h ih =>
    rw [separators_append hw ht, separators_append hv (h.startsWord_eq ▸ ht), ih]

theorem length_words_eq (h : Respelled t u) : (words t).length = (words u).length := by
  induction h with
  | nil => rfl
  | gap hc h ih => rw [words_cons hc, words_cons hc, ih]
  | word hw hv ht h ih =>
    rw [words_append hw ht, words_append hv (h.startsWord_eq ▸ ht), List.length_cons,
      List.length_cons, ih]

theorem of_mapWords {f : Name → Name} (hf : ∀ w, IsIdentifier w → IsIdentifier (f w)) (t : Text) :
    Respelled t (mapWords f t) := by
  induction t using word_induction with
  | nil => exact .nil
  | gap c t hc ih =>
    rw [mapWords_cons f hc]
    exact .gap hc ih
  | word w t hw ht ih =>
    rw [mapWords_append f hw ht]
    exact .word hw (hf w hw) ht ih

/-- Respellings side by side, where no word goes across the seam. -/
theorem append (h : Respelled t u) (h₁ : Respelled t₁ u₁)
    (hseam : endsWord t = false ∨ startsWord t₁ = false) : Respelled (t ++ t₁) (u ++ u₁) := by
  induction h with
  | nil => exact h₁
  | @gap c t u hc h ih => exact .gap hc (ih (hseam.imp_left (endsWord_of_append (s := [c]))))
  | @word w v t u hw hv ht h ih =>
    rw [List.append_assoc, List.append_assoc]
    exact .word hw hv (startsWord_append_of_seam hw ht hseam)
      (ih (hseam.imp_left endsWord_of_append))

end Respelled

/-! ## 2. Lines -/

/-- Whether a text is one line with its line feed. -/
def isTerminated : Text → Bool
  | [] => false
  | c :: rest => if c = '\n' then rest.isEmpty else isTerminated rest

/-- Whether texts are the lines of a text: only the last may lack its line feed,
and none is empty. -/
def IsLines : List Text → Prop
  | [] => True
  | [line] => isTerminated line = true ∨ line ≠ [] ∧ '\n' ∉ line
  | line :: next :: more => isTerminated line = true ∧ IsLines (next :: more)

theorem lines_append {line : Text} (hline : isTerminated line = true) (t : Text) :
    lines (line ++ t) = line :: lines t := by
  induction line with
  | nil => contradiction
  | cons c rest ih =>
    rw [isTerminated] at hline
    rw [List.cons_append, lines]
    split at hline
    · rename_i hc
      rw [if_pos hc, List.isEmpty_iff.mp hline, List.nil_append]
    · rename_i hc
      rw [if_neg hc, ih hline]

theorem lines_of_notMem {line : Text} (hne : line ≠ []) (hmem : '\n' ∉ line) :
    lines line = [line] := by
  induction line with
  | nil => contradiction
  | cons c rest ih =>
    rcases not_or.mp (List.mem_cons.not.mp hmem) with ⟨hc, hrest⟩
    rw [lines, if_neg (Ne.symm hc)]
    cases rest with
    | nil => rfl
    | cons d rest => rw [ih (List.cons_ne_nil d rest) hrest]

theorem isLines_lines (t : Text) : IsLines (lines t) := by
  induction t with
  | nil => trivial
  | cons c rest ih =>
    rw [lines]
    split
    · -- a line feed is a line, and the lines behind it start anew
      rename_i hc
      have hline : isTerminated [c] = true := by rw [isTerminated, if_pos hc]; rfl
      cases hlines : lines rest with
      | nil => exact .inl hline
      | cons next more => exact ⟨hline, hlines ▸ ih⟩
    · rename_i hc
      split
      · exact .inr ⟨List.cons_ne_nil c [], by simpa [eq_comm] using hc⟩
      · -- any other character joins the first line
        rename_i line more hlines
        rw [hlines] at ih
        have hcons : isTerminated line = true → isTerminated (c :: line) = true := fun hline => by
          rw [isTerminated, if_neg hc, hline]
        cases more with
        | nil =>
          exact ih.imp hcons fun hrest => ⟨List.cons_ne_nil c line, by simp [Ne.symm hc, hrest.2]⟩
        | cons next more => exact ⟨hcons ih.1, ih.2⟩

theorem IsLines.take {ls : List Text} (hls : IsLines ls) (n : Nat) : IsLines (ls.take n) := by
  induction ls generalizing n with
  | nil => rwa [List.take_nil]
  | cons line more ih =>
    cases n with
    | zero => trivial
    | succ n =>
      cases more with
      | nil => rwa [List.take_succ_cons, List.take_nil]
      | cons next more =>
        cases n with
        | zero => exact .inl hls.1
        | succ n => exact ⟨hls.1, ih hls.2 (n + 1)⟩

/-- Lines put together are found again. -/
theorem lines_flatten {ls : List Text} (hls : IsLines ls) : lines ls.flatten = ls := by
  induction ls with
  | nil => rfl
  | cons line more ih =>
    rw [List.flatten_cons]
    cases more with
    | nil =>
      rw [List.flatten_nil]
      rcases hls with hline | ⟨hne, hmem⟩
      · rw [lines_append hline]; rfl
      · rw [List.append_nil, lines_of_notMem hne hmem]
    | cons next more => rw [lines_append hls.1, ih hls.2]

theorem isWord_newline : isWord '\n' = false := by decide

theorem newline_notMem {w : Text} (hw : IsIdentifier w) : '\n' ∉ w := fun hmem => by
  have hword := hw.2 _ hmem
  rw [isWord_newline] at hword
  contradiction

theorem isTerminated_append {w : Text} (hw : '\n' ∉ w) (t : Text) :
    isTerminated (w ++ t) = isTerminated t := by
  induction w with
  | nil => rfl
  | cons c w ih =>
    rcases not_or.mp (List.mem_cons.not.mp hw) with ⟨hc, hrest⟩
    rw [List.cons_append, isTerminated, if_neg (Ne.symm hc), ih hrest]

theorem endsWord_of_isTerminated {line : Text} (hline : isTerminated line = true) :
    endsWord line = false := by
  induction line with
  | nil => rfl
  | cons c rest ih =>
    rw [isTerminated] at hline
    split at hline
    · rename_i hc
      rw [List.isEmpty_iff.mp hline, hc]
      exact isWord_newline
    · cases rest with
      | nil => contradiction
      | cons d rest => exact ih hline

namespace Respelled

variable {t u : Text}

theorem eq_nil_iff (h : Respelled t u) : t = [] ↔ u = [] := by
  cases h with
  | nil => rfl
  | gap hc h => simp
  | word hw hv ht h => simp [hw.1, hv.1]

theorem isTerminated_eq (h : Respelled t u) : isTerminated t = isTerminated u := by
  induction h with
  | nil => rfl
  | gap hc h ih =>
    have hempty :=
      Bool.eq_iff_iff.mpr (List.isEmpty_iff.trans (h.eq_nil_iff.trans List.isEmpty_iff.symm))
    rw [isTerminated, isTerminated, ih, hempty]
  | word hw hv ht h ih =>
    rw [isTerminated_append (newline_notMem hw), isTerminated_append (newline_notMem hv), ih]

theorem newline_mem_iff (h : Respelled t u) : '\n' ∈ t ↔ '\n' ∈ u := by
  induction h with
  | nil => rfl
  | gap hc h ih => rw [List.mem_cons, List.mem_cons, ih]
  | word hw hv ht h ih =>
    rw [List.mem_append, List.mem_append, ih]
    simp only [newline_notMem hw, newline_notMem hv]

/-- Lines stay lines when each is respelled. -/
theorem isLines {ls ms : List Text} (h : List.Forall₂ Respelled ls ms) (hls : IsLines ls) :
    IsLines ms := by
  induction h with
  | nil => trivial
  | @cons line line' more more' hline hmore ih =>
    cases hmore with
    | nil =>
      refine hls.imp (hline.isTerminated_eq ▸ ·) fun ⟨hne, hmem⟩ => ?_
      exact ⟨mt hline.eq_nil_iff.mpr hne, mt hline.newline_mem_iff.mpr hmem⟩
    | cons hnext hmore => exact ⟨hline.isTerminated_eq ▸ hls.1, ih hls.2⟩

/-- A text is respelled when each of its lines is. -/
theorem flatten {ls ms : List Text} (h : List.Forall₂ Respelled ls ms) (hls : IsLines ls) :
    Respelled ls.flatten ms.flatten := by
  induction h with
  | nil => exact .nil
  | @cons line line' more more' hline hmore ih =>
    rw [List.flatten_cons, List.flatten_cons]
    cases hmore with
    | nil =>
      rw [List.flatten_nil, List.append_nil, List.append_nil]
      exact hline
    | cons hnext hmore =>
      -- a line feed keeps the words of two lines apart
      exact hline.append (ih hls.2) (.inl (endsWord_of_isTerminated hls.1))

end Respelled

/-! ## 3. Comments -/

/-- A comment marker, which has no part in a word. -/
def IsMarker (marker : Text) : Prop :=
  marker ≠ [] ∧ ∀ c ∈ marker, isWord c = false

instance (marker : Text) : Decidable (IsMarker marker) :=
  @instDecidableAnd _ _ inferInstance (List.decidableBAll _ marker)

theorem IsMarker.isPrefixOf_append {marker w : Text} (hmarker : IsMarker marker)
    (hw : IsIdentifier w) (t : Text) : marker.isPrefixOf (w ++ t) = false := by
  rcases List.exists_cons_of_ne_nil hmarker.1 with ⟨c, marker, rfl⟩
  rcases List.exists_cons_of_ne_nil hw.1 with ⟨d, w, rfl⟩
  have hne : c ≠ d := by
    rintro rfl
    have hc := hmarker.2 c List.mem_cons_self
    rw [hw.2 c List.mem_cons_self] at hc
    contradiction
  rw [List.cons_append, List.isPrefixOf_cons_cons, beq_false_of_ne hne, Bool.false_and]

theorem IsMarker.splitComment_append {marker w : Text} (hmarker : IsMarker marker)
    (hw : ∀ c ∈ w, isWord c = true) (t : Text) :
    splitComment marker (w ++ t) =
      (w ++ (splitComment marker t).1, (splitComment marker t).2) := by
  induction w with
  | nil => rfl
  | cons c w ih =>
    have hc : IsIdentifier [c] :=
      ⟨List.cons_ne_nil c [], by simpa using hw c List.mem_cons_self⟩
    have hmatch := hmarker.isPrefixOf_append hc (w ++ t)
    rw [List.singleton_append] at hmatch
    rw [List.cons_append, splitComment, if_neg (by rw [hmatch]; exact Bool.false_ne_true),
      ih fun d hd => hw d (List.mem_cons_of_mem c hd)]
    rfl

namespace Respelled

variable {t u : Text}

theorem isPrefixOf_eq {marker : Text} (h : Respelled t u) (hmarker : ∀ c ∈ marker, isWord c = false)
    (s : Text) : marker.isPrefixOf (t ++ s) = marker.isPrefixOf (u ++ s) := by
  induction h generalizing marker with
  | nil => rfl
  | gap hc h ih =>
    cases marker with
    | nil => simp only [List.isPrefixOf_nil_left]
    | cons d marker =>
      rw [List.cons_append, List.cons_append, List.isPrefixOf_cons_cons, List.isPrefixOf_cons_cons,
        ih fun e he => hmarker e (List.mem_cons_of_mem d he)]
  | word hw hv ht h ih =>
    cases marker with
    | nil => simp only [List.isPrefixOf_nil_left]
    | cons d marker =>
      have hd : IsMarker (d :: marker) := ⟨List.cons_ne_nil d marker, hmarker⟩
      rw [List.append_assoc, List.append_assoc, hd.isPrefixOf_append hw, hd.isPrefixOf_append hv]

/-- A respelled code part is still cut off in front of the same comment. -/
theorem splitComment_eq {marker comment : Text} (h : Respelled t u) (hmarker : IsMarker marker)
    (hsplit : splitComment marker (t ++ comment) = (t, comment)) :
    splitComment marker (u ++ comment) = (u, comment) := by
  induction h with
  | nil => exact hsplit
  | @gap c t u hc h ih =>
    have hmatch := (Respelled.gap hc h).isPrefixOf_eq hmarker.2 comment
    rw [List.cons_append, splitComment] at hsplit
    rw [List.cons_append, List.cons_append] at hmatch
    rw [List.cons_append, splitComment, ← hmatch]
    split at hsplit
    · -- the comment would have started here before
      exact absurd (Prod.mk.inj hsplit).1.symm (List.cons_ne_nil c t)
    · rename_i hno
      rcases Prod.mk.inj hsplit with ⟨hcode, hcomment⟩
      rw [if_neg hno, ih (Prod.ext (List.cons.inj hcode).2 hcomment)]
  | @word w v t u hw hv ht h ih =>
    rw [List.append_assoc, hmarker.splitComment_append hw.2] at hsplit
    rcases Prod.mk.inj hsplit with ⟨hcode, hcomment⟩
    rw [List.append_assoc, hmarker.splitComment_append hv.2,
      ih (Prod.ext (List.append_cancel_left hcode) hcomment)]

end Respelled

/-- A comment ends no word of the code in front of it. -/
theorem startsWord_commentPart {marker : Text} (hmarker : IsMarker marker) (line : Text) :
    startsWord (commentPart marker line) = false := by
  induction line with
  | nil => rfl
  | cons c rest ih =>
    rw [commentPart, splitComment]
    split
    · rename_i hmatch
      rcases List.exists_cons_of_ne_nil hmarker.1 with ⟨d, marker, rfl⟩
      rw [List.isPrefixOf_cons_cons, Bool.and_eq_true] at hmatch
      rw [← eq_of_beq hmatch.1]
      exact hmarker.2 d List.mem_cons_self
    · exact ih

namespace Respelled

variable {marker line code : Text}

/-- A line with a respelled code part has that code part and the old comment. -/
theorem splitComment_codePart (h : Respelled (codePart marker line) code)
    (hmarker : IsMarker marker) :
    splitComment marker (code ++ commentPart marker line) = (code, commentPart marker line) := by
  apply h.splitComment_eq hmarker
  rw [codePart_append_commentPart]
  rfl

theorem of_codePart (h : Respelled (codePart marker line) code) (hmarker : IsMarker marker) :
    Respelled line (code ++ commentPart marker line) := by
  have happend :=
    h.append (refl (commentPart marker line)) (.inr (startsWord_commentPart hmarker line))
  rwa [codePart_append_commentPart] at happend

end Respelled

end Relabel.Text

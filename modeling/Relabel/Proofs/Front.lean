import Relabel.Proofs.Words

/-!
# Steps over the front of a text

Each function that steps over blanks, a word or a keyword is described by the way it cuts a text in
two. A keyword is not followed by a word boundary of its own, but it never reaches beyond the
first word of a text, and with blanks behind it it is that word.
-/

namespace Relabel.Text

/-! ## 1. Blanks -/

/-- A run of blanks, possibly empty. -/
def AllBlank (b : Text) : Prop :=
  ∀ c ∈ b, isBlank c = true

instance (b : Text) : Decidable (AllBlank b) :=
  List.decidableBAll _ b

theorem exists_allBlank_append (t : Text) : ∃ b, AllBlank b ∧ t = b ++ skipBlanks t :=
  ⟨t.takeWhile isBlank, fun _ hc => List.mem_takeWhile_imp hc,
    List.takeWhile_append_dropWhile.symm⟩

theorem skipBlanks_append {b : Text} (hb : AllBlank b) (t : Text) :
    skipBlanks (b ++ t) = skipBlanks t :=
  List.dropWhile_append_of_pos hb

theorem skipBlanks_cons {c : Char} (hc : isBlank c = false) (t : Text) :
    skipBlanks (c :: t) = c :: t := by
  rw [skipBlanks, List.dropWhile_cons, if_neg (by simp [hc])]

theorem skipBlanks_of_startsWord {t : Text} (ht : startsWord t = true) : skipBlanks t = t := by
  cases t with
  | nil => rfl
  | cons c rest => exact skipBlanks_cons (isBlank_of_isWord ht) rest

/-- A text behind its blanks starts with no blank. -/
theorem isBlank_of_skipBlanks_eq_cons {t rest : Text} {c : Char} (h : skipBlanks t = c :: rest) :
    isBlank c = false := by
  have hhead := List.head?_dropWhile_not isBlank t
  rw [show t.dropWhile isBlank = c :: rest from h] at hhead
  simpa using hhead

theorem skipBlanks_skipBlanks (t : Text) : skipBlanks (skipBlanks t) = skipBlanks t := by
  cases h : skipBlanks t with
  | nil => rfl
  | cons c rest => exact skipBlanks_cons (isBlank_of_skipBlanks_eq_cons h) rest

theorem startsWord_append_of_allBlank {b : Text} (hb : AllBlank b) (hne : b ≠ []) (t : Text) :
    startsWord (b ++ t) = false := by
  cases b with
  | nil => contradiction
  | cons c b => exact isWord_of_isBlank (hb c List.mem_cons_self)

/-- Blanks in front of a gap belong to it. -/
theorem startsWord_append_of_gap {b t : Text} (hb : AllBlank b) (ht : startsWord t = false) :
    startsWord (b ++ t) = false := by
  cases b with
  | nil => exact ht
  | cons c b => exact isWord_of_isBlank (hb c List.mem_cons_self)

theorem skipSomeBlanks?_eq_some {t rest : Text} (h : skipSomeBlanks? t = some rest) :
    rest = skipBlanks t ∧ startsWord t = false := by
  cases t with
  | nil => simp [skipSomeBlanks?] at h
  | cons c t =>
    rw [skipSomeBlanks?] at h
    split at h
    · rename_i hc
      rw [skipBlanks, List.dropWhile_cons, if_pos hc]
      exact ⟨(Option.some.inj h).symm, isWord_of_isBlank hc⟩
    · contradiction

theorem exists_of_skipSomeBlanks? {t rest : Text} (h : skipSomeBlanks? t = some rest) :
    ∃ b, AllBlank b ∧ b ≠ [] ∧ t = b ++ rest := by
  rcases exists_allBlank_append t with ⟨b, hb, ht⟩
  rw [← (skipSomeBlanks?_eq_some h).1] at ht
  refine ⟨b, hb, ?_, ht⟩
  -- without a blank in front, the step would have failed
  rintro rfl
  rw [List.nil_append] at ht
  subst ht
  cases t with
  | nil => contradiction
  | cons c t =>
    have hc := isBlank_of_skipBlanks_eq_cons (skipSomeBlanks?_eq_some h).1.symm
    rw [skipSomeBlanks?, if_neg (by simp [hc])] at h
    contradiction

theorem skipSomeBlanks?_append {b : Text} (hb : AllBlank b) (hne : b ≠ []) (t : Text) :
    skipSomeBlanks? (b ++ t) = some (skipBlanks t) := by
  rcases List.exists_cons_of_ne_nil hne with ⟨c, b, rfl⟩
  rw [List.cons_append, skipSomeBlanks?, if_pos (hb c List.mem_cons_self),
    skipBlanks_append fun d hd => hb d (List.mem_cons_of_mem c hd)]

theorem skipSomeBlanks?_eq_none {t : Text} (h : skipSomeBlanks? t = none) : skipBlanks t = t := by
  cases t with
  | nil => rfl
  | cons c t =>
    rw [skipSomeBlanks?] at h
    split at h
    · contradiction
    · rename_i hc
      exact skipBlanks_cons (by simpa using hc) t

/-! ## 2. Words and single characters -/

theorem word?_append {w t : Text} (hw : IsIdentifier w) (ht : startsWord t = false) :
    word? (w ++ t) = some (w, t) := by
  have htake : t.takeWhile isWord = [] := by
    cases t with
    | nil => rfl
    | cons c t => rw [List.takeWhile_cons, if_neg (by simpa [startsWord] using ht)]
  have hdrop : t.dropWhile isWord = t := by
    cases t with
    | nil => rfl
    | cons c t => rw [List.dropWhile_cons, if_neg (by simpa [startsWord] using ht)]
  rw [word?, if_pos (startsWord_append hw t), List.takeWhile_append_of_pos hw.2,
    List.dropWhile_append_of_pos hw.2, htake, hdrop, List.append_nil]

theorem word?_skipBlanks_append {b w t : Text} (hb : AllBlank b) (hw : IsIdentifier w)
    (ht : startsWord t = false) :
    word? (skipBlanks (b ++ (w ++ t))) = some (w, t) := by
  rw [skipBlanks_append hb, skipBlanks_of_startsWord (startsWord_append hw t), word?_append hw ht]

theorem word?_eq_none {t : Text} : word? t = none ↔ startsWord t = false := by
  rw [word?]
  split <;> simp_all

theorem word?_eq_some {t rest : Text} {w : Name} :
    word? t = some (w, rest) ↔ t = w ++ rest ∧ IsIdentifier w ∧ startsWord rest = false := by
  constructor
  · intro h
    -- the induction only serves to cut `t` behind its first word
    induction t using word_induction with
    | nil => simp [word?, startsWord] at h
    | gap c t hc ih => simp [word?, startsWord, hc] at h
    | word v t hv ht ih =>
      rw [word?_append hv ht] at h
      rcases Prod.mk.inj (Option.some.inj h) with ⟨rfl, rfl⟩
      exact ⟨rfl, hv, ht⟩
  · rintro ⟨rfl, hw, hrest⟩
    exact word?_append hw hrest

/-! A text in which every word has been replaced is cut where the old text is. -/

section Replaced

variable {f : Name → Name} (hf : ∀ w, IsIdentifier w → IsIdentifier (f w))

include hf

theorem startsWord_mapWords (t : Text) : startsWord (mapWords f t) = startsWord t := by
  induction t using word_induction with
  | nil => rfl
  | gap c t hc ih => rw [mapWords_cons f hc]; rfl
  | word w t hw ht ih =>
    rw [mapWords_append f hw ht, startsWord_append (hf w hw), startsWord_append hw]

theorem exists_of_mapWords_eq_cons {c : Char} (hc : isWord c = false) {t u : Text}
    (h : mapWords f t = c :: u) : ∃ rest, t = c :: rest ∧ u = mapWords f rest := by
  induction t using word_induction with
  | nil => contradiction
  | gap d t hd ih =>
    rw [mapWords_cons f hd] at h
    rcases List.cons.inj h with ⟨rfl, rfl⟩
    exact ⟨t, rfl, rfl⟩
  | word w t hw ht ih =>
    -- the result would start with the word that replaces `w`
    have hstart := startsWord_append (hf w hw) (mapWords f t)
    rw [← mapWords_append f hw ht, h, startsWord, hc] at hstart
    contradiction

theorem exists_of_mapWords_eq_append {v t u : Text} (hv : IsIdentifier v)
    (hu : startsWord u = false) (h : mapWords f t = v ++ u) :
    ∃ w rest, t = w ++ rest ∧ IsIdentifier w ∧ startsWord rest = false ∧ v = f w ∧
      u = mapWords f rest := by
  induction t using word_induction with
  | nil => exact absurd (List.append_eq_nil_iff.mp h.symm).1 hv.1
  | gap c t hc ih =>
    have hstart := startsWord_append hv u
    rw [← h, mapWords_cons f hc, startsWord, hc] at hstart
    contradiction
  | word w t hw ht ih =>
    -- both sides have the same first word
    have hfirst := word?_append hv hu
    rw [← h, mapWords_append f hw ht,
      word?_append (hf w hw) ((startsWord_mapWords hf t).trans ht)] at hfirst
    rcases Prod.mk.inj (Option.some.inj hfirst) with ⟨rfl, rfl⟩
    exact ⟨w, t, rfl, hw, ht, rfl, rfl⟩

theorem exists_of_mapWords_eq_blanks {b t u : Text} (hb : AllBlank b) (h : mapWords f t = b ++ u) :
    ∃ rest, t = b ++ rest ∧ u = mapWords f rest := by
  induction b generalizing t with
  | nil => exact ⟨t, rfl, h.symm⟩
  | cons c b ih =>
    rcases exists_of_mapWords_eq_cons hf (isWord_of_isBlank (hb c List.mem_cons_self)) h with
      ⟨rest, rfl, hrest⟩
    rcases ih (fun d hd => hb d (List.mem_cons_of_mem c hd)) hrest.symm with ⟨rest, rfl, hu⟩
    exact ⟨rest, rfl, hu⟩

end Replaced

theorem skipChar?_eq_some {c : Char} {t rest : Text} :
    skipChar? c t = some rest ↔ t = c :: rest := by
  cases t with
  | nil => simp [skipChar?]
  | cons d t =>
    rw [skipChar?]
    split <;> simp_all

theorem upTo_append (lead rest : Text) : upTo rest (lead ++ rest) = lead := by
  simp [upTo]

/-! ## 3. Keywords -/

/-- Whether a word is the keyword, in any letter case. -/
def Spells (keyword w : Text) : Prop :=
  w.map fold = keyword.map fold

instance (keyword w : Text) : Decidable (Spells keyword w) :=
  inferInstanceAs (Decidable (w.map fold = keyword.map fold))

theorem skipKeyword?_eq_some {keyword t rest : Text} :
    skipKeyword? keyword t = some rest ↔ ∃ w, Spells keyword w ∧ t = w ++ rest := by
  induction keyword generalizing t with
  | nil => simp [skipKeyword?, Spells, eq_comm]
  | cons k keyword ih =>
    cases t with
    | nil =>
      simp only [skipKeyword?, reduceCtorEq, false_iff]
      rintro ⟨w, hw, heq⟩
      rw [(List.append_eq_nil_iff.mp heq.symm).1] at hw
      contradiction
    | cons c t =>
      rw [skipKeyword?]
      constructor
      · intro h
        split at h
        · rename_i hc
          rcases ih.mp h with ⟨w, hw, rfl⟩
          refine ⟨c :: w, ?_, rfl⟩
          simp only [Spells, List.map_cons, hc] at hw ⊢
          rw [hw]
        · contradiction
      · rintro ⟨w, hw, heq⟩
        cases w with
        | nil => simp [Spells] at hw
        | cons d w =>
          rcases List.cons.inj heq with ⟨rfl, rfl⟩
          simp only [Spells, List.map_cons, List.cons.injEq] at hw
          rw [if_pos hw.1]
          exact ih.mpr ⟨w, hw.2, rfl⟩

/-- Keywords with different first letters do not start the same text. -/
theorem skipKeyword?_eq_none_of_head {keyword other t rest : Text} (hne : keyword ≠ [])
    (hhead : keyword.head?.all (fun k => other.head?.any (fold · ≠ fold k)) = true)
    (h : skipKeyword? keyword t = some rest) : skipKeyword? other t = none := by
  rcases List.exists_cons_of_ne_nil hne with ⟨k, keyword, rfl⟩
  have hother : other.head?.any (fold · ≠ fold k) = true := hhead
  cases other with
  | nil => contradiction
  | cons j other =>
    cases t with
    | nil => rfl
    | cons c t =>
      rw [skipKeyword?] at h ⊢
      split at h
      · -- the first letter of the text folds to `k`, so it does not fold to `j`
        rename_i hc
        apply if_neg
        intro hj
        simp [← hc, hj] at hother
      · contradiction

theorem IsKeyword.isIdentifier {keyword w : Text} (hkeyword : IsKeyword keyword)
    (hw : Spells keyword w) : IsIdentifier w := by
  constructor
  · rintro rfl
    exact hkeyword.1 (by simpa [Spells] using hw.symm)
  · intro c hc
    have hmem : fold c ∈ keyword.map fold := hw ▸ List.mem_map_of_mem hc
    rcases List.mem_map.mp hmem with ⟨k, hk, hfold⟩
    exact hkeyword.isWord_of_fold_eq hk hfold.symm

/-- A keyword at the front of a text lies within the first word. -/
theorem IsKeyword.skipKeyword?_append {keyword w t : Text} (hkeyword : IsKeyword keyword)
    (ht : startsWord t = false) :
    skipKeyword? keyword (w ++ t) = (skipKeyword? keyword w).map (· ++ t) := by
  ext rest
  rw [skipKeyword?_eq_some, Option.map_eq_some_iff]
  constructor
  · rintro ⟨k, hk, heq⟩
    rcases List.append_eq_append_iff.mp heq with ⟨x, rfl, rfl⟩ | ⟨x, rfl, rfl⟩
    · -- the keyword would end behind the word
      have hx : x = [] := by
        cases x with
        | nil => rfl
        | cons c x =>
          have hc : isWord c = true := (hkeyword.isIdentifier hk).2 c (by simp)
          simp [startsWord, hc] at ht
      subst hx
      exact ⟨[], skipKeyword?_eq_some.mpr ⟨w, by simpa using hk, by simp⟩, rfl⟩
    · exact ⟨x, skipKeyword?_eq_some.mpr ⟨k, hk, rfl⟩, rfl⟩
  · rintro ⟨x, hx, rfl⟩
    rcases skipKeyword?_eq_some.mp hx with ⟨k, hk, rfl⟩
    exact ⟨k, hk, by simp⟩

theorem IsKeyword.skipKeyword?_eq_none {keyword t : Text} (hkeyword : IsKeyword keyword)
    (ht : startsWord t = false) : skipKeyword? keyword t = none := by
  cases h : skipKeyword? keyword t with
  | none => rfl
  | some rest =>
    rcases skipKeyword?_eq_some.mp h with ⟨w, hw, rfl⟩
    rw [startsWord_append (hkeyword.isIdentifier hw)] at ht
    contradiction

end Relabel.Text

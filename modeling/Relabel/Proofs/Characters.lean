import Relabel.Text.Case
import Relabel.Text.Class

/-!
# Characters of words, blanks and keywords

What the tables of code points give the rest of the theory: no blank is a word character, a keyword
is made of word characters in whatever letter case it is written, and letter case never decides
whether a character is a word character.
-/

namespace Relabel.Text

/-! ## 1. Tables as finite sets -/

/-- The code points of a table, one by one. -/
def Ranges.points (ranges : Ranges) : List Nat :=
  ranges.flatMap fun range => List.range' range.1 (range.2 + 1 - range.1)

theorem Ranges.mem_points {ranges : Ranges} {n : Nat} (hmem : ranges.mem n = true) :
    n ∈ ranges.points := by
  induction ranges with
  | nil => simp [Ranges.mem] at hmem
  | cons range rest ih =>
    rcases range with ⟨lo, hi⟩
    simp only [Ranges.mem, Bool.and_eq_true, decide_eq_true_eq, Bool.or_eq_true] at hmem
    rcases hmem with ⟨hlo, hhi | hrest⟩
    · apply List.mem_append_left
      rw [List.mem_range'_1]
      omega
    · exact List.mem_append_right _ (ih hrest)

/-- The code points that a map of code points can send to `m`. -/
def Shift.sources (rows : List Shift) (m : Nat) : List Nat :=
  m :: rows.filterMap fun row =>
    if row.image ≤ m ∧ m ≤ row.image + (row.last - row.first) then
      some (row.first + (m - row.image))
    else none

theorem Shift.mem_sources (rows : List Shift) (n : Nat) :
    n ∈ Shift.sources rows (Shift.map rows n) := by
  induction rows with
  | nil => simp [Shift.map, Shift.sources]
  | cons row rest ih =>
    rw [Shift.map]
    split
    · exact List.mem_cons_self
    · rename_i hfirst
      split
      · -- `n` lies in the row, and the row can be undone
        rename_i hrow
        apply List.mem_cons_of_mem
        rw [List.mem_filterMap]
        refine ⟨row, List.mem_cons_self, ?_⟩
        rw [if_pos (by omega)]
        congr 1
        omega
      · rcases List.mem_cons.mp ih with heq | hmem
        · exact List.mem_cons.mpr (.inl heq)
        · apply List.mem_cons_of_mem
          rw [List.mem_filterMap] at hmem ⊢
          rcases hmem with ⟨source, hsource, hback⟩
          exact ⟨source, List.mem_cons_of_mem _ hsource, hback⟩

/-! ## 2. Blanks and word characters -/

theorem isWord_of_isBlank {c : Char} (hblank : isBlank c = true) : isWord c = false := by
  -- there are few blanks, so the table of word characters is asked for each
  have hpoints : ∀ n ∈ blanks.points, wordCharacters.mem n = false := by decide +kernel
  exact hpoints c.toNat (Ranges.mem_points hblank)

theorem isBlank_of_isWord {c : Char} (hword : isWord c = true) : isBlank c = false := by
  cases hblank : isBlank c with
  | false => rfl
  | true => rw [isWord_of_isBlank hblank] at hword; contradiction

/-! ## 3. Keywords -/

/-- A keyword, all spellings of which are words. -/
def IsKeyword (keyword : Text) : Prop :=
  keyword ≠ [] ∧ ∀ k ∈ keyword, (fold k).toNat ≠ 0 ∧
    ∀ n ∈ Shift.sources foldShifts (fold k).toNat, wordCharacters.mem n = true

instance (keyword : Text) : Decidable (IsKeyword keyword) :=
  @instDecidableAnd _ _ inferInstance (List.decidableBAll _ keyword)

theorem toNat_mem_sources {c : Char} (hne : (fold c).toNat ≠ 0) :
    c.toNat ∈ Shift.sources foldShifts (fold c).toNat := by
  have hto : (fold c).toNat = Shift.map foldShifts c.toNat := by
    unfold fold at hne ⊢
    -- a code point that is no character would have become the null character
    by_cases hvalid : (Shift.map foldShifts c.toNat).isValidChar
    · rw [Char.ofNat, dif_pos hvalid]
      rfl
    · rw [Char.ofNat, dif_neg hvalid] at hne
      exact absurd rfl hne
  rw [hto]
  exact Shift.mem_sources foldShifts c.toNat

theorem IsKeyword.isWord_of_fold_eq {keyword : Text} (hkeyword : IsKeyword keyword) {k c : Char}
    (hk : k ∈ keyword) (hfold : fold c = fold k) : isWord c = true := by
  rcases hkeyword.2 k hk with ⟨hne, hsources⟩
  rw [← hfold] at hne hsources
  exact hsources c.toNat (toNat_mem_sources hne)

/-- The words that the shapes of lines are told by. -/
def keywords : List Text :=
  ["entity", "end", "is", "package", "generic", "port", "map", "create_tb_run"].map String.toList

theorem isKeyword_of_mem : ∀ keyword ∈ keywords, IsKeyword keyword := by decide +kernel

theorem isKeyword_entity : IsKeyword "entity".toList := isKeyword_of_mem _ (by decide)
theorem isKeyword_end : IsKeyword "end".toList := isKeyword_of_mem _ (by decide)
theorem isKeyword_is : IsKeyword "is".toList := isKeyword_of_mem _ (by decide)
theorem isKeyword_package : IsKeyword "package".toList := isKeyword_of_mem _ (by decide)
theorem isKeyword_generic : IsKeyword "generic".toList := isKeyword_of_mem _ (by decide)
theorem isKeyword_port : IsKeyword "port".toList := isKeyword_of_mem _ (by decide)
theorem isKeyword_map : IsKeyword "map".toList := isKeyword_of_mem _ (by decide)

/-! ## 4. Letter case of word characters -/

/-- A table as one number: its bit at a code point tells whether the code point is in the table. -/
def Ranges.bits : Ranges → Nat
  | [] => 0
  | (lo, hi) :: rest => ((1 <<< (hi + 1) - 1 ||| Ranges.bits rest) >>> lo) <<< lo

theorem Ranges.testBit_bits (ranges : Ranges) (n : Nat) : ranges.bits.testBit n = ranges.mem n := by
  induction ranges with
  | nil => exact Nat.zero_testBit n
  | cons range rest ih =>
    rcases range with ⟨lo, hi⟩
    rw [bits, mem, Nat.testBit_shiftLeft, Nat.testBit_shiftRight, Nat.testBit_or, Nat.one_shiftLeft,
      Nat.testBit_two_pow_sub_one]
    by_cases hlo : lo ≤ n
    · rw [Nat.add_sub_cancel' hlo, ih]
      simp only [Nat.lt_succ_iff, hlo, decide_true, Bool.true_and]
    · simp [hlo]

/-- A code point that is not fixed lies in a row. -/
theorem Shift.map_eq_self_or (rows : List Shift) (n : Nat) :
    Shift.map rows n = n ∨ ∃ row ∈ rows, ∃ d ∈ List.range (row.last - row.first + 1),
      d % row.step = 0 ∧ n = row.first + d ∧ Shift.map rows n = row.image + d := by
  induction rows with
  | nil => exact .inl rfl
  | cons row rest ih =>
    rw [Shift.map]
    split
    · exact .inl rfl
    · rename_i hfirst
      split
      · rename_i hrow
        refine .inr ⟨row, List.mem_cons_self, n - row.first, ?_, hrow.2, by omega, rfl⟩
        rw [List.mem_range]
        omega
      · exact ih.imp_right fun ⟨row, hrow, h⟩ => ⟨row, List.mem_cons_of_mem _ hrow, h⟩

/-- Case folding changes word characters only, and makes word characters of them. -/
theorem foldShifts_within : ∀ row ∈ foldShifts, ∀ d ∈ List.range (row.last - row.first + 1),
    d % row.step = 0 →
    (wordCharacters.bits.testBit (row.first + d) = true ∧
      wordCharacters.bits.testBit (row.image + d) = true) ∧
      (row.image + d).isValidChar := by
  decide +kernel

theorem isWord_fold (c : Char) : isWord (fold c) = isWord c := by
  rw [fold]
  rcases Shift.map_eq_self_or foldShifts c.toNat with
    hfixed | ⟨row, hrow, d, hd, hstep, hsource, himage⟩
  · rw [hfixed, Char.ofNat_toNat]
  · rcases foldShifts_within row hrow d hd hstep with ⟨⟨hfrom, hto⟩, hvalid⟩
    have hnat : (Char.ofNat (row.image + d)).toNat = row.image + d := by
      rw [Char.ofNat, dif_pos hvalid]
      rfl
    rw [Ranges.testBit_bits] at hfrom hto
    rw [himage, isWord, isWord, hnat, hsource, hfrom, hto]

end Relabel.Text

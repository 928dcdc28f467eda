import Relabel.Proofs.Source
import Relabel.Proofs.Tokens

/-!
# The pass over symbols

The pass over symbols replaces every word of every code part by what the tables have under its
lowered form. The table that is asked first is that of the entity or package that was started last,
on the same line or above it. Here the lines of a text, their comments and the lines that start a
unit are all told by their shape, without the functions that look for them.
-/

namespace Relabel

open Text

/-! ## 1. Lines that start a unit -/

namespace LineShape

/-- Whether `KEYWORD NAME is` comes first in a line, for the given name. -/
def Names (keyword code : Text) (name : Name) : Prop :=
  ∃ b k b₁ b₂ i rest, code = b ++ (k ++ (b₁ ++ (name ++ (b₂ ++ (i ++ rest))))) ∧ AllBlank b ∧
    Spells keyword k ∧ AllBlank b₁ ∧ b₁ ≠ [] ∧ IsIdentifier name ∧ AllBlank b₂ ∧ b₂ ≠ [] ∧
    Spells "is".toList i

theorem nameIs?_eq_some {t rest : Text} {name : Name} (h : nameIs? t = some (name, rest)) :
    ∃ b i, t = name ++ (b ++ (i ++ rest)) ∧ IsIdentifier name ∧ AllBlank b ∧ b ≠ [] ∧
      Spells "is".toList i := by
  simp only [nameIs?, Option.bind_eq_some_iff] at h
  rcases h with ⟨first, hword, start, hblanks, behind, hkeyword, heq⟩
  rcases Prod.mk.inj (Option.some.inj heq) with ⟨rfl, rfl⟩
  rcases word?_eq_some.mp hword with ⟨rfl, hname, -⟩
  rcases exists_of_skipSomeBlanks? hblanks with ⟨b, hb, hne, hrest⟩
  rcases skipKeyword?_eq_some.mp hkeyword with ⟨i, hi, rfl⟩
  exact ⟨b, i, by rw [hrest], hname, hb, hne, hi⟩

/-- The leading words tell whether a line names a unit, and which. -/
theorem keywordThen_eq_some_iff {keyword : Text} (hkeyword : IsKeyword keyword) {code : Text}
    {name : Name} :
    keywordThen keyword nameBeforeIs? (leadingWords code) = some name ↔
      Names keyword code name := by
  constructor
  · intro h
    have hread : ((afterKeyword? keyword code).bind nameIs?).map Prod.fst = some name := by
      rw [map_afterKeyword?_bind hkeyword nameIs? nameBeforeIs? Prod.fst id rfl, h]
      · rfl
      · intro t ht
        rw [map_fst_nameIs? t ht, Option.map_id, id_eq]
    rcases Option.map_eq_some_iff.mp hread with ⟨found, hfound, rfl⟩
    rcases Option.bind_eq_some_iff.mp hfound with ⟨start, hafter, hname⟩
    rcases Option.bind_eq_some_iff.mp hafter with ⟨behind, hskip, hblanks⟩
    rcases exists_allBlank_append code with ⟨b, hb, hcode⟩
    rcases skipKeyword?_eq_some.mp hskip with ⟨k, hk, hstart⟩
    rcases exists_of_skipSomeBlanks? hblanks with ⟨b₁, hb₁, hne₁, rfl⟩
    rcases nameIs?_eq_some hname with ⟨b₂, i, rfl, hword, hb₂, hne₂, hi⟩
    exact ⟨b, k, b₁, b₂, i, found.2, by rw [← hstart]; exact hcode, hb, hk, hb₁, hne₁, hword,
      hb₂, hne₂, hi⟩
  · rintro ⟨b, k, b₁, b₂, i, rest, rfl, hb, hk, hb₁, hne₁, hword, hb₂, hne₂, hi⟩
    have his : headStarts? "is".toList (leadingWords (i ++ rest)) = some () := by
      have hskip := skipBlanks_of_startsWord (startsWord_append (isKeyword_is.isIdentifier hi) rest)
      rw [← headStarts?_leadingWords isKeyword_is hskip, skipKeyword?_eq_some.mpr ⟨i, hi, rfl⟩]
      rfl
    rw [leadingWords_append_of_allBlank hb,
      leadingWords_append (hkeyword.isIdentifier hk) (startsWord_append_of_allBlank hb₁ hne₁ _),
      leadingWords_append_of_allBlank hb₁,
      leadingWords_append hword (startsWord_append_of_allBlank hb₂ hne₂ _),
      leadingWords_append_of_allBlank hb₂, keywordThen, if_pos hk, nameBeforeIs?, his,
      Option.map_some]

/-- Whether a line starts the entity or the package of the given name. -/
def StartsUnit (code : Text) (name : Name) : Prop :=
  Names "entity".toList code name ∨ Names "package".toList code name

theorem unitName?_eq_some_iff {code : Text} {name : Name} :
    unitName? (leadingWords code) = some name ↔ StartsUnit code name := by
  rw [StartsUnit, ← keywordThen_eq_some_iff isKeyword_entity,
    ← keywordThen_eq_some_iff isKeyword_package, unitName?, entityName?]
  cases hentity : keywordThen "entity".toList nameBeforeIs? (leadingWords code) with
  | none => simp
  | some found =>
    -- a first word that spells the one keyword does not spell the other
    have hpackage : keywordThen "package".toList nameBeforeIs? (leadingWords code) = none := by
      cases hwords : leadingWords code with
      | nil => rfl
      | cons w ws =>
        rw [hwords, keywordThen] at hentity
        rw [keywordThen, if_neg]
        intro hpackage
        split at hentity
        · rename_i hw
          exact absurd (hw.symm.trans hpackage) (by decide)
        · contradiction
    rw [hpackage]
    simp

end LineShape

/-! ## 2. Comments -/

namespace Text

/-- A line cut in front of the first marker in it, or at its end if there is none. -/
structure IsCommentCut (marker line code comment : Text) : Prop where
  append : line = code ++ comment
  starts : comment = [] ∨ marker <+: comment
  first : ∀ l r, line = l ++ (marker ++ r) → code.length ≤ l.length

theorem commentPart_eq_nil_or_prefix (marker line : Text) :
    commentPart marker line = [] ∨ marker <+: commentPart marker line := by
  induction line with
  | nil => exact .inl rfl
  | cons c line ih =>
    rw [commentPart, splitComment]
    split
    · rename_i hmatch
      exact .inr (List.isPrefixOf_iff_prefix.mp hmatch)
    · exact ih

theorem length_codePart_le {marker line l r : Text} (h : line = l ++ (marker ++ r)) :
    (codePart marker line).length ≤ l.length := by
  induction line generalizing l with
  | nil => exact Nat.zero_le _
  | cons c line ih =>
    rw [codePart, splitComment]
    split
    · exact Nat.zero_le _
    · rename_i hno
      -- the marker does not start here, so it starts behind the first character
      cases l with
      | nil => exact absurd (List.isPrefixOf_iff_prefix.mpr ⟨r, h.symm⟩) hno
      | cons d l => exact Nat.succ_le_succ (ih (List.cons.inj h).2)

theorem isCommentCut_codePart (marker line : Text) :
    IsCommentCut marker line (codePart marker line) (commentPart marker line) where
  append := (codePart_append_commentPart marker line).symm
  starts := commentPart_eq_nil_or_prefix marker line
  first _ _ h := length_codePart_le h

/-- Of two cuts of a line, neither lies behind the other. -/
theorem IsCommentCut.length_le {marker line code comment code' comment' : Text}
    (h : IsCommentCut marker line code comment) (h' : IsCommentCut marker line code' comment') :
    code'.length ≤ code.length := by
  rcases h.starts with rfl | ⟨r, rfl⟩
  · have hlength := congrArg List.length (h'.append.symm.trans h.append)
    rw [List.length_append, List.length_append, List.length_nil] at hlength
    omega
  · exact h'.first code r h.append

theorem isCommentCut_iff {marker line code comment : Text} :
    IsCommentCut marker line code comment ↔
      code = codePart marker line ∧ comment = commentPart marker line := by
  have hcut := isCommentCut_codePart marker line
  constructor
  · intro h
    exact List.append_inj (h.append.symm.trans hcut.append)
      (Nat.le_antisymm (hcut.length_le h) (h.length_le hcut))
  · rintro ⟨rfl, rfl⟩
    exact hcut

end Text

/-! ## 3. The unit of a line -/

namespace Passes

open LineShape

/-- The component of the last of some lines that starts a unit, and no component if none does. -/
def Governs (seen : List Text) (component : Name) : Prop :=
  (∃ before line after, seen = before ++ line :: after ∧ StartsUnit (sourcePart line) component ∧
    ∀ later ∈ after, ∀ name, ¬ StartsUnit (sourcePart later) name) ∨
  component = [] ∧ ∀ line ∈ seen, ∀ name, ¬ StartsUnit (sourcePart line) name

/-- The unit that a line starts. -/
def unit? (line : Text) : Option Name :=
  unitName? (leadingWords (sourcePart line))

/-- The unit that the last of some lines belongs to. -/
def currentUnit (seen : List Text) : Name :=
  (seen.filterMap unit?).getLast?.getD []

theorem unit?_eq_some_iff {line : Text} {name : Name} :
    unit? line = some name ↔ StartsUnit (sourcePart line) name :=
  unitName?_eq_some_iff

theorem filterMap_unit?_eq_nil_iff {ls : List Text} :
    ls.filterMap unit? = [] ↔ ∀ line ∈ ls, ∀ name, ¬ StartsUnit (sourcePart line) name := by
  rw [List.filterMap_eq_nil_iff]
  refine forall₂_congr fun line _ => ?_
  rw [Option.eq_none_iff_forall_ne_some]
  exact forall_congr' fun name => not_congr unit?_eq_some_iff

theorem governs_iff {seen : List Text} {component : Name} :
    Governs seen component ↔ component = currentUnit seen := by
  rw [currentUnit]
  constructor
  · rintro (⟨before, line, after, rfl, hline, hafter⟩ | ⟨rfl, hnone⟩)
    · rw [List.filterMap_append, List.filterMap_cons_some (unit?_eq_some_iff.mpr hline),
        filterMap_unit?_eq_nil_iff.mpr hafter, List.getLast?_concat, Option.getD_some]
    · rw [filterMap_unit?_eq_nil_iff.mpr hnone]
      rfl
  · rintro rfl
    cases hlast : (seen.filterMap unit?).getLast? with
    | none => exact .inr ⟨rfl, filterMap_unit?_eq_nil_iff.mp (List.getLast?_eq_none_iff.mp hlast)⟩
    | some name =>
      -- the last name comes from a line behind which no other one is named
      rcases List.getLast?_eq_some_iff.mp hlast with ⟨names, hnames⟩
      rcases List.filterMap_eq_append_iff.mp hnames with ⟨front, rest, rfl, -, hrest⟩
      rcases List.filterMap_eq_cons_iff.mp hrest with ⟨skipped, line, after, rfl, -, hline, hafter⟩
      exact .inl ⟨front ++ skipped, line, after, by rw [List.append_assoc],
        unit?_eq_some_iff.mp hline, filterMap_unit?_eq_nil_iff.mp hafter⟩

theorem currentUnit_concat (seen : List Text) (line : Text) :
    currentUnit (seen ++ [line]) = (unit? line).getD (currentUnit seen) := by
  cases hline : unit? line with
  | none => simp [currentUnit, hline]
  | some name => simp [currentUnit, hline]

/-- The cursor over symbols is always in the unit of its line. -/
theorem component_cursors_symbols (lead : Name) {seen : List Text} {start : Cursor}
    (hstart : start.component = currentUnit seen) (ls : List Text) {i : Nat} {cursor : Cursor}
    (h : (Pass.symbols.cursors lead start ls)[i]? = some cursor) :
    cursor.component = currentUnit (seen ++ ls.take (i + 1)) := by
  induction ls generalizing seen start i with
  | nil => contradiction
  | cons line ls ih =>
    have hmove : (Pass.symbols.move lead (sourcePart line) start).component =
        currentUnit (seen ++ [line]) := by
      show (Pass.unitMarkers.move (sourcePart line) start).component = _
      rw [Pass.unitMarkers_move, currentUnit_concat, ← hstart]
      rfl
    cases i with
    | zero =>
      rw [← Option.some.inj h]
      exact hmove
    | succ i =>
      have hrest := ih hmove (i := i) h
      rwa [List.append_assoc, List.singleton_append, ← List.take_succ_cons] at hrest

/-- A line with every word of its code replaced by what is found under its lowered form in the table
of the unit that governs the line, or else in the fallback scope. What is governed and how the line
is cut is determined. -/
def IsRenamedLine (db : Database) (seen : List Text) (line renamed : Text) : Prop :=
  ∃ component code comment gaps ws,
    (∀ c, Governs seen c ↔ c = component) ∧
    (∀ l r, IsCommentCut ['-', '-'] line l r ↔ l = code ∧ r = comment) ∧
    (∀ gs vs, CutsInto code gs vs ↔ gs = gaps ∧ vs = ws) ∧
    renamed =
      weave gaps (ws.map fun w =>
        ((db.newName? component (lower w)).or (db.newName? fallbackScope (lower w))).getD w) ++
      comment

theorem isRenamedLine_renameLine (db : Database) {seen : List Text} {cursor : Cursor}
    (hcursor : cursor.component = currentUnit seen) (line : Text) :
    IsRenamedLine db seen line (Pass.symbols.renameLine db cursor line) := by
  have hlookup := funext (@Database.lookup_folded db cursor.component)
  refine ⟨cursor.component, sourcePart line, sourceComment line, _, _,
    fun c => hcursor ▸ governs_iff, fun l r => isCommentCut_iff, fun gs vs => cutsInto_iff, ?_⟩
  rw [← hlookup, ← (cutsInto_separators_words (sourcePart line)).mapWords_eq,
    renameLine_eq (by decide)]
  rfl

/-- The pass over symbols renames a text line by line and word by word. -/
theorem run_symbols_wordwise {db : Database} (hfilled : db.isEmpty = false) (lead : Name)
    (t : Text) :
    ∃ ls us : List Text, ls.flatten = t ∧ IsLines ls ∧ run [.symbols] lead db t = .ok us.flatten ∧
      us.length = ls.length ∧ ∀ i line renamed, ls[i]? = some line → us[i]? = some renamed →
        IsRenamedLine db (ls.take (i + 1)) line renamed := by
  have hlines := Pass.applyLines_eq .symbols lead db {} (lines t)
  refine ⟨lines t, Pass.symbols.applyLines lead db {} (lines t), flatten_lines t, isLines_lines t,
    run_eq_ok hfilled [.symbols] lead t, ?_, ?_⟩
  · rw [hlines, List.length_zipWith, Pass.length_cursors, Nat.min_self]
  · intro i line renamed hline hrenamed
    rw [hlines, List.getElem?_zipWith_eq_some] at hrenamed
    rcases hrenamed with ⟨cursor, line', hcursor, hline', rfl⟩
    rw [hline] at hline'
    cases hline'
    -- before the first line, no unit has been started
    have hstart : ({} : Cursor).component = currentUnit [] := rfl
    exact isRenamedLine_renameLine db (component_cursors_symbols lead hstart (lines t) hcursor) line

/-- Units of both kinds, one of them started inside a comment only, a name that is only in the
fallback scope, and a new name that is empty. -/
theorem run_symbols_wordwise_units :
    let db : Database :=
      ⟨.ofList [("c".toList, .ofList [("clk".toList, "clk_i".toList), ("x".toList, [])]),
        (fallbackScope, .ofList [("clk".toList, "k".toList), ("rst".toList, "rst_n".toList)])]⟩
    let t := ("CLK+Clk -- Clk\nEntity c iS(RST,x);\n--package p is\npackage body p is Clk\n" ++
      "Package p is Clk-").toList
    (∃ ls us : List Text, ls.flatten = t ∧ IsLines ls ∧ run [.symbols] [] db t = .ok us.flatten ∧
        us.length = ls.length ∧ ∀ i line renamed, ls[i]? = some line → us[i]? = some renamed →
          IsRenamedLine db (ls.take (i + 1)) line renamed) ∧
      apply [.symbols] [] db t =
        ("k+k -- Clk\nEntity c iS(rst_n,);\n--package p is\npackage body p is clk_i\n" ++
          "Package p is k-").toList := by
  repeat rw [String.toList_append]
  repeat rw [String.toList_ofList]
  intro db t
  exact ⟨run_symbols_wordwise (by decide +kernel) [] t, by decide +kernel⟩

end Passes

end Relabel

import Relabel.Proofs.Cursors

/-!
# Headers of instantiations

A header `LABEL : entity LIBRARY.NAME` has one place where its name begins, however the blanks are
set and whether or not one stands behind the keyword. The name goes on as long as word characters
do. A lead that is asked of names does not cut them short or move them: it lets through those that
begin with it, in any letter case, and go on.
-/

namespace Relabel

open Text

/-! ## 1. Names that begin with a lead -/

namespace Text

/-- What spells a text of word characters is made of word characters. -/
theorem isWord_of_spells {keyword w : Text} (hkeyword : ∀ k ∈ keyword, isWord k = true)
    (hw : Spells keyword w) :
    ∀ c ∈ w, isWord c = true := by
  intro c hc
  have hmem : fold c ∈ keyword.map fold := hw ▸ List.mem_map_of_mem hc
  rcases List.mem_map.mp hmem with ⟨k, hk, hfold⟩
  rw [← isWord_fold c, ← hfold, isWord_fold k, hkeyword k hk]

theorem length_of_spells {keyword w : Text} (hw : Spells keyword w) :
    w.length = keyword.length := by
  simpa using congrArg List.length hw

/-- Whether a name begins with a lead, in any letter case, and goes on. -/
def GoesBeyond (lead name : Name) : Prop :=
  lead.length < name.length ∧ Spells lead (name.take lead.length)

instance (lead name : Name) : Decidable (GoesBeyond lead name) :=
  inferInstanceAs (Decidable (_ ∧ _))

theorem goesBeyond_iff {lead name : Name} :
    GoesBeyond lead name ↔ ∃ w v, name = w ++ v ∧ Spells lead w ∧ v ≠ [] := by
  constructor
  · rintro ⟨hlength, hspells⟩
    refine ⟨_, name.drop lead.length, (List.take_append_drop lead.length name).symm, hspells, ?_⟩
    rw [Ne, List.drop_eq_nil_iff]
    omega
  · rintro ⟨w, v, rfl, hw, hv⟩
    have hlength := length_of_spells hw
    have hpos := List.length_pos_iff.mpr hv
    refine ⟨by rw [List.length_append]; omega, ?_⟩
    rwa [← hlength, List.take_left]

end Text

/-! ## 2. Where the name of a header begins -/

namespace LineShape

/-- Whether a text is `LABEL : entity LIBRARY.`, with blanks in front of each part or none. -/
def IsHeaderFront (front : Text) : Prop :=
  ∃ b label b₁ b₂ e b₃ library,
    front = b ++ (label ++ (b₁ ++ ':' :: (b₂ ++ (e ++ (b₃ ++ (library ++ ['.'])))))) ∧
    AllBlank b ∧ IsIdentifier label ∧ AllBlank b₁ ∧ AllBlank b₂ ∧ Spells "entity".toList e ∧
    AllBlank b₃ ∧ IsIdentifier library

theorem exists_isHeaderFront {code start : Text} (h : headerName? code = some start) :
    ∃ front, IsHeaderFront front ∧ code = front ++ start := by
  simp only [headerName?, bind, Option.bind_eq_some_iff] at h
  rcases h with ⟨⟨label, t₁⟩, hlabel, t₂, hcolon, t₃, hentity, ⟨library, t₄⟩, hlibrary, hdot⟩
  rcases exists_allBlank_append code with ⟨b, hb, hcode⟩
  rcases word?_eq_some.mp hlabel with ⟨hfirst, hlabel, -⟩
  rcases exists_allBlank_append t₁ with ⟨b₁, hb₁, ht₁⟩
  rcases exists_allBlank_append t₂ with ⟨b₂, hb₂, ht₂⟩
  rcases skipKeyword?_eq_some.mp hentity with ⟨e, he, hsecond⟩
  rcases exists_allBlank_append t₃ with ⟨b₃, hb₃, ht₃⟩
  rcases word?_eq_some.mp hlibrary with ⟨hthird, hlibrary, -⟩
  dsimp only at hcolon hdot
  refine ⟨_, ⟨b, label, b₁, b₂, e, b₃, library, rfl, hb, hlabel, hb₁, hb₂, he, hb₃, hlibrary⟩, ?_⟩
  rw [hcode, hfirst, ht₁, skipChar?_eq_some.mp hcolon, ht₂, hsecond, ht₃, hthird,
    skipChar?_eq_some.mp hdot]
  simp only [List.append_assoc, List.cons_append, List.nil_append]

/-- Each part of a front can be read in one way only, for neither a blank nor a separator is
part of a word. -/
theorem headerName?_append {front : Text} (hfront : IsHeaderFront front) (start : Text) :
    headerName? (front ++ start) = some start := by
  rcases hfront with
    ⟨b, label, b₁, b₂, e, b₃, library, rfl, hb, hlabel, hb₁, hb₂, he, hb₃, hlibrary⟩
  let t₃ : Text := b₃ ++ (library ++ '.' :: start)
  let t₂ : Text := b₂ ++ (e ++ t₃)
  let t₁ : Text := b₁ ++ ':' :: t₂
  have hlabelRead : word? (skipBlanks (b ++ (label ++ t₁))) = some (label, t₁) :=
    word?_skipBlanks_append hb hlabel
      (startsWord_append_of_gap hb₁ (by decide : isWord ':' = false))
  have hcolonRead : skipChar? ':' (skipBlanks t₁) = some t₂ := by
    rw [skipBlanks_append hb₁, skipBlanks_cons (by decide)]
    exact skipChar?_eq_some.mpr rfl
  have hentityRead : skipKeyword? "entity".toList (skipBlanks t₂) = some t₃ := by
    rw [skipBlanks_append hb₂,
      skipBlanks_of_startsWord (startsWord_append (isKeyword_entity.isIdentifier he) t₃)]
    exact skipKeyword?_eq_some.mpr ⟨e, he, rfl⟩
  have hlibraryRead : word? (skipBlanks t₃) = some (library, '.' :: start) :=
    word?_skipBlanks_append hb₃ hlibrary (by decide : isWord '.' = false)
  have hdotRead : skipChar? '.' ('.' :: start) = some start := skipChar?_eq_some.mpr rfl
  simp only [List.append_assoc, List.cons_append, List.nil_append]
  show headerName? (b ++ (label ++ t₁)) = some start
  simp only [headerName?, bind, hlabelRead, hcolonRead, hentityRead, hlibraryRead, hdotRead,
    Option.bind_some]

/-- A line cut around the name of its header. -/
structure IsHeaderCut (code front : Text) (name : Name) (rest : Text) : Prop where
  append : code = front ++ (name ++ rest)
  isFront : IsHeaderFront front
  isIdentifier : IsIdentifier name
  /-- The name goes as far as word characters do. -/
  maximal : startsWord rest = false

theorem IsHeaderCut.headerName? {code front rest : Text} {name : Name}
    (h : IsHeaderCut code front name rest) :
    LineShape.headerName? code = some (name ++ rest) := by
  rw [h.append, headerName?_append h.isFront]

theorem IsHeaderCut.unique {code front front' rest rest' : Text} {name name' : Name}
    (h : IsHeaderCut code front name rest) (h' : IsHeaderCut code front' name' rest') :
    front' = front ∧ name' = name ∧ rest' = rest := by
  have hstart : name' ++ rest' = name ++ rest :=
    Option.some.inj (h'.headerName?.symm.trans h.headerName?)
  have hread := word?_append h.isIdentifier h.maximal
  rw [← hstart, word?_append h'.isIdentifier h'.maximal] at hread
  rcases Prod.mk.inj (Option.some.inj hread) with ⟨rfl, rfl⟩
  exact ⟨List.append_cancel_right (h'.append.symm.trans h.append), rfl, rfl⟩

/-! ## 3. What a header captures -/

theorem headerComponent?_eq_some {lead component : Name} {start : Text} :
    headerComponent? lead start = some component ↔
      ∃ w v rest, start = w ++ (v ++ rest) ∧ Spells lead w ∧ IsIdentifier v ∧
        startsWord rest = false ∧ component = w ++ v := by
  simp only [headerComponent?, Option.bind_eq_some_iff, skipKeyword?_eq_some]
  constructor
  · rintro ⟨behind, ⟨w, hw, rfl⟩, ⟨v, rest⟩, hword, hcomponent⟩
    rcases word?_eq_some.mp hword with ⟨rfl, hv, hrest⟩
    refine ⟨w, v, rest, rfl, hw, hv, hrest, ?_⟩
    rw [← Option.some.inj hcomponent, ← List.append_assoc, upTo_append]
  · rintro ⟨w, v, rest, rfl, hw, hv, hrest, rfl⟩
    refine ⟨v ++ rest, ⟨w, hw, rfl⟩, (v, rest), word?_append hv hrest, ?_⟩
    rw [← List.append_assoc, upTo_append]

/-- With a lead of word characters, the whole word behind the front is captured, or nothing. -/
theorem headerComponent?_eq_some_of_isWord {lead : Name} (hlead : ∀ c ∈ lead, isWord c = true)
    {component : Name} {start : Text} :
    headerComponent? lead start = some component ↔
      (∃ rest, start = component ++ rest ∧ startsWord rest = false) ∧ IsIdentifier component ∧
        GoesBeyond lead component := by
  rw [headerComponent?_eq_some, goesBeyond_iff]
  constructor
  · rintro ⟨w, v, rest, rfl, hw, hv, hrest, rfl⟩
    refine ⟨⟨rest, (List.append_assoc w v rest).symm, hrest⟩,
      ⟨List.append_ne_nil_of_right_ne_nil w hv.1, ?_⟩, w, v, rfl, hw, hv.1⟩
    exact fun c hc => (List.mem_append.mp hc).elim (isWord_of_spells hlead hw c) (hv.2 c)
  · rintro ⟨⟨rest, rfl, hrest⟩, hcomponent, w, v, rfl, hw, hv⟩
    exact ⟨w, v, rest, List.append_assoc w v rest, hw,
      ⟨hv, fun c hc => hcomponent.2 c (List.mem_append_right w hc)⟩, hrest, rfl⟩

end LineShape

namespace Pass

open LineShape

/-- Whether the marker of headers matches a line and captures the given component. -/
def CapturesHeader (lead : Name) (code : Text) (component : Name) : Prop :=
  ∃ capture, (headerMarkers lead).match? code = some (.enter 1, capture) ∧
    capture.group? 1 = some component

theorem match?_headerMarkers (lead : Name) (code : Text) :
    (headerMarkers lead).match? code = (header? lead code).map (Action.enter 1, ·) := by
  simp [headerMarkers, MarkerTable.match?, capture?]

theorem capturesHeader_iff {lead : Name} {code : Text} {component : Name} :
    CapturesHeader lead code component ↔
      (headerName? code).bind (headerComponent? lead) = some component := by
  have hgroup : (header? lead code).map (·.group? 1) = some (some component) ↔
      (headerName? code).bind (headerComponent? lead) = some component := by
    rw [map_group_header?, Option.map_eq_some_iff]
    simp
  rw [← hgroup, CapturesHeader, Option.map_eq_some_iff, match?_headerMarkers]
  simp

theorem capturesHeader_iff_of_isWord {lead : Name} (hlead : ∀ c ∈ lead, isWord c = true)
    {code : Text} {component : Name} :
    CapturesHeader lead code component ↔
      (∃ front rest, IsHeaderCut code front component rest) ∧ GoesBeyond lead component := by
  rw [capturesHeader_iff, Option.bind_eq_some_iff]
  constructor
  · rintro ⟨start, hstart, hcomponent⟩
    rcases exists_isHeaderFront hstart with ⟨front, hfront, rfl⟩
    rcases (headerComponent?_eq_some_of_isWord hlead).mp hcomponent with
      ⟨⟨rest, rfl, hrest⟩, hname, hbeyond⟩
    exact ⟨⟨front, rest, rfl, hfront, hname, hrest⟩, hbeyond⟩
  · rintro ⟨⟨front, rest, hcut⟩, hbeyond⟩
    exact ⟨component ++ rest, hcut.headerName?,
      (headerComponent?_eq_some_of_isWord hlead).mpr
        ⟨⟨rest, rfl, hcut.maximal⟩, hcut.isIdentifier, hbeyond⟩⟩

/-- The headers with a lead are those of the plain marker whose component begins with the lead and
goes on. Either way the component is the whole word behind the dot, as it stands in the line, and
there is no other place for it. -/
theorem lead_filters_headers {lead : Name} (hlead : ∀ c ∈ lead, isWord c = true) (code : Text)
    (component : Name) :
    (CapturesHeader lead code component ↔
        CapturesHeader [] code component ∧ GoesBeyond lead component) ∧
      (CapturesHeader [] code component ↔ ∃ front rest, IsHeaderCut code front component rest) ∧
      ∀ front rest front' component' rest', IsHeaderCut code front component rest →
        IsHeaderCut code front' component' rest' →
          front' = front ∧ component' = component ∧ rest' = rest := by
  have hplain : CapturesHeader [] code component ↔
      ∃ front rest, IsHeaderCut code front component rest := by
    rw [capturesHeader_iff_of_isWord (List.forall_mem_nil _), and_iff_left_iff_imp]
    -- every name goes beyond the empty lead
    rintro ⟨front, rest, hcut⟩
    exact goesBeyond_iff.mpr ⟨[], component, rfl, rfl, hcut.isIdentifier.1⟩
  refine ⟨?_, hplain, fun front rest front' component' rest' hcut hcut' => hcut.unique hcut'⟩
  rw [hplain, capturesHeader_iff_of_isWord hlead]

/-- No blank stands behind the keyword, and the Kelvin sign is a letter K. A name that is the lead
itself is no header with that lead. -/
theorem lead_filters_headers_kelvin :
    let lead := "psi_k".toList
    let front := "\tu_1 :EntityWork.".toList
    let component := "PSI_\u212Aeep".toList
    let rest := "(rtl)\n".toList
    let code := front ++ (component ++ rest)
    let short := front ++ ("Psi_K".toList ++ rest)
    (∀ c ∈ lead, isWord c = true) ∧ CapturesHeader [] code component ∧
      CapturesHeader lead code component ∧
      CapturesHeader [] short "Psi_K".toList ∧ ¬ CapturesHeader lead short "Psi_K".toList := by
  intro lead front component rest code short
  have hword : IsIdentifier lead := by decide
  have hlead : ∀ c ∈ lead, isWord c = true := hword.2
  have hfront : IsHeaderFront front :=
    ⟨['\t'], "u_1".toList, [' '], [], "Entity".toList, [], "Work".toList,
      rfl, by decide, by decide, by decide, by decide, by decide, by decide, by decide⟩
  have hcode : CapturesHeader [] code component :=
    (lead_filters_headers hlead code component).2.1.mpr
      ⟨front, rest, rfl, hfront, by decide +kernel, by decide⟩
  have hshort : CapturesHeader [] short "Psi_K".toList :=
    (lead_filters_headers hlead short _).2.1.mpr ⟨front, rest, rfl, hfront, by decide, by decide⟩
  refine ⟨hlead, hcode, (lead_filters_headers hlead code component).1.mpr
    ⟨hcode, by decide +kernel⟩, hshort, ?_⟩
  rw [(lead_filters_headers hlead short _).1]
  exact fun h => absurd h.2 (by decide +kernel)

end Pass

end Relabel

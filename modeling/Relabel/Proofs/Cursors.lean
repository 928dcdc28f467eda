import Relabel.Pass
import Relabel.Proofs.Renaming

/-!
# How cursors move

The cursor after a line is a function of the line's leading words, of its header and of whether it
ends a list. Renaming a declared name or a formal leaves all of these alone, so the first two passes
over a source do not disturb the cursor of any pass that follows.
-/

namespace Relabel

open Text LineShape

namespace Pass

/-! ## 1. The cursor after a line -/

theorem entityMarkers_move (code : Text) (cursor : Cursor) :
    entityMarkers.move code cursor =
      match entityName? (leadingWords code) with
      | some name => ⟨name, true⟩
      | none => if endsEntity (leadingWords code) then ⟨cursor.component, false⟩ else cursor := by
  have hstart := map_group_entityStart? code
  have hend := isSome_entityEnd? code
  cases hname : entityName? (leadingWords code) with
  | some name =>
    rw [hname] at hstart
    rcases Option.map_eq_some_iff.mp hstart with ⟨capture, hcapture, hgroup⟩
    have hmatch : entityMarkers.match? code = some (.enterOpen 1, capture) := by
      simp only [entityMarkers, MarkerTable.match?, List.findSome?, capture?, hcapture,
        Option.map_some]
    simp only [MarkerTable.move, hmatch, Action.move, Action.entered?, Action.inside, hgroup,
      Option.getD_some]
  | none =>
    rw [hname, Option.map_none, Option.map_eq_none_iff] at hstart
    rw [← hend]
    cases hclose : entityEnd? code with
    | none =>
      have hmatch : entityMarkers.match? code = none := by
        simp only [entityMarkers, MarkerTable.match?, List.findSome?, capture?, hstart, hclose,
          Option.map_none]
      simp only [MarkerTable.move, hmatch, Option.isSome_none, Bool.false_eq_true, if_false]
    | some capture =>
      have hmatch : entityMarkers.match? code = some (.closes, capture) := by
        simp only [entityMarkers, MarkerTable.match?, List.findSome?, capture?, hstart, hclose,
          Option.map_none, Option.map_some]
      simp only [MarkerTable.move, hmatch, Action.move, Action.entered?, Action.inside,
        Option.getD_none, Option.isSome_some, if_true]

/-- A table with a single marker that enters a component. -/
theorem enter_move (shape : LineShape) (group : Nat) {code : Text} {name? : Option Name}
    (hgroup : (shape.capture? code).map (·.group? group) = name?.map some) (cursor : Cursor) :
    MarkerTable.move [⟨shape, .enter group⟩] code cursor =
      ⟨name?.getD cursor.component, cursor.inside⟩ := by
  cases hcapture : shape.capture? code with
  | none =>
    rw [hcapture, Option.map_none, eq_comm, Option.map_eq_none_iff] at hgroup
    simp only [MarkerTable.move, MarkerTable.match?, List.findSome?, hcapture, Option.map_none,
      hgroup, Option.getD_none]
  | some capture =>
    rw [hcapture, Option.map_some, eq_comm, Option.map_eq_some_iff] at hgroup
    rcases hgroup with ⟨name, rfl, hname⟩
    simp only [MarkerTable.move, MarkerTable.match?, List.findSome?, hcapture, Option.map_some,
      Action.move, Action.entered?, Action.inside, ← hname]

theorem unitMarkers_move (code : Text) (cursor : Cursor) :
    unitMarkers.move code cursor =
      ⟨(unitName? (leadingWords code)).getD cursor.component, cursor.inside⟩ :=
  enter_move .unitStart 2 (map_group_unitStart? code) cursor

theorem headerMarkers_move (lead : Name) (code : Text) (cursor : Cursor) :
    (headerMarkers lead).move code cursor =
      ⟨((headerName? code).bind (headerComponent? lead)).getD cursor.component, cursor.inside⟩ :=
  enter_move (.header lead) 1 (map_group_header? lead code) cursor

theorem listMarkers_move (code : Text) (cursor : Cursor) :
    listMarkers.move code cursor =
      ⟨cursor.component,
        startsMap (leadingWords code) || (cursor.inside && (listEnd? code).isNone)⟩ := by
  rw [← isSome_mapStart?]
  cases hmap : mapStart? code <;> cases hlist : listEnd? code <;>
    simp [listMarkers, MarkerTable.move, MarkerTable.match?, List.findSome?, capture?, hmap, hlist,
      Action.move, Action.entered?, Action.inside]

/-! ## 2. Lines that move every cursor alike -/

/-- Two lines with the same effect on the cursor of every pass over a source. -/
structure SameMoves (code code' : Text) : Prop where
  entityName : entityName? (leadingWords code) = entityName? (leadingWords code')
  endsEntity : endsEntity (leadingWords code) = endsEntity (leadingWords code')
  unitName : unitName? (leadingWords code) = unitName? (leadingWords code')
  startsMap : startsMap (leadingWords code) = startsMap (leadingWords code')
  headerName : headerName? code = headerName? code'
  listEnd : (listEnd? code).isNone = (listEnd? code').isNone

namespace SameMoves

variable {code code' : Text}

theorem refl (code : Text) : SameMoves code code :=
  ⟨rfl, rfl, rfl, rfl, rfl, rfl⟩

theorem move_eq (h : SameMoves code code') {pass : Pass} (hpass : pass ∈ source) (lead : Name)
    (cursor : Cursor) : pass.move lead code cursor = pass.move lead code' cursor := by
  simp only [source, List.mem_cons, List.not_mem_nil, or_false] at hpass
  rcases hpass with rfl | rfl | rfl
  · simp only [move, markers, List.foldl, entityMarkers_move, h.entityName, h.endsEntity]
  · simp only [move, markers, List.foldl, headerMarkers_move, listMarkers_move, h.headerName,
      h.startsMap, h.listEnd]
  · simp only [move, markers, List.foldl, unitMarkers_move, h.unitName]

theorem of_leadingWords (hwords : leadingWords code = leadingWords code')
    (hheader : headerName? code = headerName? code')
    (hlist : (listEnd? code).isNone = (listEnd? code').isNone) : SameMoves code code' := by
  refine ⟨?_, ?_, ?_, ?_, hheader, hlist⟩
  all_goals rw [hwords]

/-- A line with no more than one leading word is moved by its header and its list end alone. -/
theorem of_single {w v : Name} (hw : leadingWords code = [w]) (hv : leadingWords code' = [v])
    (hheader : headerName? code = headerName? code')
    (hlist : (listEnd? code).isNone = (listEnd? code').isNone) : SameMoves code code' := by
  -- a keyword shape needs a second word
  have hkeyword : ∀ {α : Type} (keyword : Text) (next : List Name → Option α) (w : Name),
      next [] = none → keywordThen keyword next [w] = none := by
    intro α keyword next w hnil
    simp only [keywordThen, hnil, ite_self]
  refine ⟨?_, ?_, ?_, ?_, hheader, hlist⟩
  all_goals
    rw [hw, hv]
    simp only [entityName?, LineShape.endsEntity, unitName?, LineShape.startsMap,
      hkeyword _ nameBeforeIs? _ rfl, hkeyword _ (headStarts? _) _ rfl]

end SameMoves

theorem leadingWords_single {b w t : Text} (hb : AllBlank b) (hw : IsIdentifier w)
    (ht : startsWord t = false) (hskip : startsWord (skipBlanks t) = false) :
    leadingWords (b ++ (w ++ t)) = [w] := by
  rw [leadingWords_append_of_allBlank hb, leadingWords_append hw ht, leadingWords_eq_nil hskip]

theorem sameMoves_declaration_rename {db : Database} {component : Name}
    (hdb : db.KeepsWords .exact component) (code : Text) :
    SameMoves (Declaration.rename db component code) code := by
  cases h : Declaration.split? code with
  | none => rw [Declaration.rename_eq_self h]; exact .refl code
  | some cut =>
    rcases cut with ⟨indent, name, rest⟩
    rcases Declaration.split?_eq_some.mp h with ⟨hcode, hindent, hname, hrest, hfollows⟩
    have hskip := Declaration.startsWord_skipBlanks_of_followsName hfollows
    rw [Declaration.rename_eq h, hcode]
    apply SameMoves.of_single (leadingWords_single hindent (hdb name hname) hrest hskip)
      (leadingWords_single hindent hname hrest hskip)
    · exact headerName?_of_word hindent (hdb name hname) hname hrest
    · rw [listEnd?_eq_none hindent (hdb name hname), listEnd?_eq_none hindent hname]

theorem sameMoves_association_rename {db : Database} {component : Name}
    (hdb : db.KeepsWords .exact component) (code : Text) :
    SameMoves (Association.rename db component code) code := by
  cases h : Association.split? code with
  | none => rw [Association.rename_eq_self h]; exact .refl code
  | some cut =>
    rcases cut with ⟨lead, formal, rest⟩
    rcases Association.split?_eq_some.mp h with ⟨hcode, hlead, hformal, hrest, hfollows⟩
    -- such a line is neither a header nor the end of a list, whatever its formal
    have hnone : ∀ w, IsIdentifier w →
        headerName? (lead ++ (w ++ rest)) = none ∧ listEnd? (lead ++ (w ++ rest)) = none := by
      intro w hw
      rcases hlead.front hw hrest hfollows with ⟨b, v, behind, heq, hb, hv, hbehind, hno⟩
      rw [heq]
      exact ⟨headerName?_eq_none hb hv hbehind hno, listEnd?_eq_none hb hv behind⟩
    have hlist : ∀ keyword, IsKeyword keyword → Association.IsListStart keyword lead →
        SameMoves (lead ++ (db.lookup .exact component formal ++ rest))
          (lead ++ (formal ++ rest)) := by
      intro keyword hkeyword hstart
      -- the two words of `port map` come first, and the formal is behind a parenthesis
      rcases hstart.front hkeyword with ⟨b, p, m, -, -, hfront⟩
      apply SameMoves.of_leadingWords
      · rw [(hfront _).1, (hfront _).1]
      · rw [(hnone _ (hdb formal hformal)).1, (hnone formal hformal).1]
      · rw [(hnone _ (hdb formal hformal)).2, (hnone formal hformal).2]
    rw [Association.rename_eq h, hcode]
    rcases hlead with hblank | hport | hgeneric
    · have hskip := Association.startsWord_skipBlanks_of_followsFormal hfollows
      apply SameMoves.of_single (leadingWords_single hblank (hdb formal hformal) hrest hskip)
        (leadingWords_single hblank hformal hrest hskip)
      · rw [(hnone _ (hdb formal hformal)).1, (hnone formal hformal).1]
      · rw [(hnone _ (hdb formal hformal)).2, (hnone formal hformal).2]
    · exact hlist _ isKeyword_port hport
    · exact hlist _ isKeyword_generic hgeneric

end Pass

end Relabel

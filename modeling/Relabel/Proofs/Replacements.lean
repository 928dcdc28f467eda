import Relabel.Proofs.Blocks

/-!
# Replaced names are harvested

The pass over declarations and a harvest look for declared names in different ways: the one at the
front of a line only, the other anywhere in it. Both move a cursor of their own over the lines.
Still, a name that the pass replaces is the one that the harvest takes from the same line, for the
component at which the pass has its cursor.
-/

namespace Relabel

open Text

/-! ## 1. The harvest of the first lines -/

namespace Harvest

/-- What is known after some lines. -/
def after (ls : List Text) : State :=
  ls.foldl (fun state line => step state (code line)) {}

theorem after_concat (ls : List Text) (line : Text) :
    after (ls ++ [line]) = step (after ls) (code line) := by
  rw [after, List.foldl_append, ← after, List.foldl_cons, List.foldl_nil]

theorem started_after (ls : List Text) : (after ls).Started := by
  induction ls using List.reverseRecOn with
  | nil => exact fun hinside => absurd hinside Bool.false_ne_true
  | append_singleton ls line ih =>
    rw [after_concat]
    exact ih.step (code line)

/-- The pass over declarations has the cursor of the harvest on every line. -/
theorem getElem?_cursors (lead : Name) (ls : List Text) (state : State) (i : Nat) :
    (Pass.declarations.cursors lead state.cursor ls)[i]? =
      ls[i]?.map fun _ =>
        ((ls.take (i + 1)).foldl (fun state line => step state (code line)) state).cursor := by
  induction ls generalizing state i with
  | nil => rfl
  | cons line ls ih =>
    rw [cursors_cons, List.singleton_append]
    cases i with
    | zero => rfl
    | succ i => exact ih (step state (code line)) i

/-- The harvest of the first lines of a text. -/
def ofFirst (t : Text) (n : Nat) : Declarations :=
  ofText ((lines t).take n).flatten

theorem ofFirst_eq (t : Text) (n : Nat) : ofFirst t n = (after ((lines t).take n)).sets := by
  rw [ofFirst, ofText, lines_flatten ((isLines_lines t).take n), after]

/-- Whether a harvest takes a name from a line, and no other, into a component that has been
started before. -/
def HarvestsFrom (t : Text) (i : Nat) (c name : Name) : Prop :=
  ∃ line, (lines t)[i]? = some line ∧ DeclaresFirst (code line) name ∧ c ∈ (ofFirst t i).keys ∧
    ofFirst t (i + 1) = add (ofFirst t i) c name

theorem harvestsFrom_of_inside {lead : Name} {t : Text} {i : Nat} {line : Text} {cursor : Cursor}
    {name : Name} (hline : (lines t)[i]? = some line)
    (hcursor : (Pass.declarations.cursors lead {} (lines t))[i]? = some cursor)
    (hinside : cursor.inside = true) (hstarts : starts (code line) = false)
    (hname : declared? (code line) = some name) :
    HarvestsFrom t i cursor.component name := by
  have htake : (lines t).take (i + 1) = (lines t).take i ++ [line] := by
    rw [List.take_add_one, hline, Option.toList_some]
  have hmove : Pass.entityMarkers.move (code line) (after ((lines t).take i)).cursor = cursor := by
    have hafter := getElem?_cursors lead (lines t) {} i
    rw [hcursor, hline, ← after, htake, after_concat, step_eq] at hafter
    exact (Option.some.inj hafter).symm
  -- the line starts nothing, so the cursor was there before it
  have hbefore : (after ((lines t).take i)).cursor = cursor := by
    rw [← hmove]
    exact (move_eq_self hstarts (by rw [hmove, hinside])).symm
  refine ⟨line, hline, declared?_eq_some_iff.mp hname, ?_, ?_⟩
  · rw [ofFirst_eq, ← hbefore]
    exact started_after _ (by rw [hbefore, hinside])
  · rw [ofFirst_eq, ofFirst_eq, htake, after_concat, step_eq, hmove]
    simp [absorb, read, hinside, hstarts, hname]

/-! ## 2. Names stay until a component is started again -/

theorem startsOf_read {c : Name} {cursor : Cursor} {line : Text} (h : ¬ StartsEntity line c) :
    (read (Pass.entityMarkers.move (code line) cursor) (code line)).startsOf c = false := by
  cases hline : entity? line with
  | none =>
    have hstarts : starts (code line) = false := by
      rw [starts_eq_isSome_entity?, hline, Option.isSome_none]
    simp [Reading.startsOf, read, hstarts]
  | some name =>
    have hstarts : StartsEntity line name := entity?_eq_some_iff.mp hline
    have hne : name ≠ c := by
      rintro rfl
      exact h hstarts
    simp [Reading.startsOf, read, move_of_startsEntity hstarts, hne]

theorem mem_foldl_collect {c name : Name} {ls : List Text}
    (hls : ∀ line ∈ ls, ¬ StartsEntity line c) (cursor : Cursor) {names : List Name}
    (hmem : name ∈ names) :
    ∃ all, (readingsFrom cursor ls).foldl (collect c) (some names) = some all ∧ name ∈ all := by
  induction ls generalizing cursor names with
  | nil => exact ⟨names, rfl, hmem⟩
  | cons line ls ih =>
    have hrest := ih fun line hline => hls line (List.mem_cons_of_mem _ hline)
    rw [readingsFrom_cons, List.foldl_cons,
      collect_of_not_startsOf (startsOf_read (hls line List.mem_cons_self))]
    split
    · exact hrest _ (List.mem_append_left _ hmem)
    · exact hrest _ hmem

theorem ofText_eq_foldl_ofFirst (t : Text) (n : Nat) :
    ofText t = (readingsFrom (after ((lines t).take n)).cursor ((lines t).drop n)).foldl absorb
      (ofFirst t n) := by
  rw [ofFirst_eq, readingsFrom, ← foldl_step, after, ← List.foldl_append, List.take_append_drop]
  rfl

theorem HarvestsFrom.mem_keys {t : Text} {i : Nat} {c name : Name} (h : HarvestsFrom t i c name)
    (hlater : ∀ line ∈ (lines t).drop (i + 1), ¬ StartsEntity line c) :
    ∃ table, (ofText t).get? c = some table ∧ name ∈ table.keys := by
  rcases h with ⟨line, -, -, hkey, hadd⟩
  cases hbefore : (ofFirst t i).get? c with
  | none => exact absurd hkey (Table.get?_eq_none.mp hbefore)
  | some table =>
    rcases exists_eq_identity hbefore with ⟨names, rfl⟩
    have hafter : (ofFirst t (i + 1)).get? c = (some (names ++ [name])).map Table.identity := by
      have hnames : (ofFirst t i).get? c = (some names).map Table.identity := hbefore
      rw [hadd, get?_add_self hnames]
      rfl
    rcases mem_foldl_collect hlater (after ((lines t).take (i + 1))).cursor
      (List.mem_append_right names (List.mem_singleton_self name)) with ⟨all, hall, hmem⟩
    refine ⟨.identity all, ?_, ?_⟩
    · rw [ofText_eq_foldl_ofFirst t (i + 1), get?_foldl_absorb hafter, hall, Option.map_some]
    · rwa [Table.keys_identity, List.mem_eraseDups]

end Harvest

/-! ## 3. Replaced names -/

/-- A line that declares a name at its front starts no entity. -/
theorem Declaration.starts_of_split? {code indent rest : Text} {name : Name}
    (h : split? code = some (indent, name, rest)) : Harvest.starts code = false := by
  rcases split?_eq_some.mp h with ⟨rfl, hindent, hname, hrest, hfollows⟩
  rw [Harvest.starts_eq, Pass.leadingWords_single hindent hname hrest
    (startsWord_skipBlanks_of_followsName hfollows), LineShape.entityName?, keywordThen]
  split <;> rfl

namespace Pass

variable {lead : Name} {db : Database} {t : Text} {i : Nat}

/-- What a declaration line is made of, with its comment, and what the pass makes of it. -/
theorem renameLine_declarations (db : Database) {cursor : Cursor} (hinside : cursor.inside = true)
    {line indent rest : Text} {name : Name}
    (h : Declaration.split? (Harvest.code line) = some (indent, name, rest)) :
    ∃ behind, line = indent ++ (name ++ behind) ∧ AllBlank indent ∧ IsIdentifier name ∧
      startsWord behind = false ∧
      declarations.renameLine db cursor line =
        indent ++ (db.lookup .exact cursor.component name ++ behind) := by
  rcases Declaration.split?_eq_some.mp h with ⟨hcode, hindent, hname, hrest, -⟩
  refine ⟨rest ++ commentPart declarations.commentMarker line, ?_, hindent, hname, ?_, ?_⟩
  · calc line
        _ = Harvest.code line ++ commentPart declarations.commentMarker line :=
          (codePart_append_commentPart _ line).symm
        _ = _ := by rw [hcode, List.append_assoc, List.append_assoc]
  · cases rest with
    | nil => exact startsWord_commentPart declarations.isMarker_commentMarker line
    | cons d rest => exact hrest
  · rw [renameLine, ← Harvest.code, rename, if_pos hinside, Declaration.rename_eq h,
      List.append_assoc, List.append_assoc]

/-- A line that changes is a declaration line inside an entity. -/
theorem exists_split?_of_renameLine_ne {cursor : Cursor} {line : Text}
    (h : declarations.renameLine db cursor line ≠ line) :
    cursor.inside = true ∧ ∃ indent name rest,
      Declaration.split? (Harvest.code line) = some (indent, name, rest) := by
  have hrename : declarations.rename db cursor (Harvest.code line) ≠ Harvest.code line := by
    intro hsame
    apply h
    rw [renameLine, ← Harvest.code, hsame]
    exact codePart_append_commentPart _ line
  cases hinside : cursor.inside with
  | false => simp [rename, hinside] at hrename
  | true =>
    refine ⟨rfl, ?_⟩
    cases hsplit : Declaration.split? (Harvest.code line) with
    | none =>
      rw [rename, if_pos hinside, Declaration.rename_eq_self hsplit] at hrename
      contradiction
    | some cut => exact ⟨cut.1, cut.2.1, cut.2.2, rfl⟩

/-- Whether the pass over declarations replaces a name at the front of a line, with
its cursor at `c`. -/
def Replaces (lead : Name) (db : Database) (t : Text) (i : Nat) (c name : Name) : Prop :=
  ∃ cursor indent new behind, (declarations.cursors lead {} (lines t))[i]? = some cursor ∧
    cursor.component = c ∧ (lines t)[i]? = some (indent ++ (name ++ behind)) ∧
    (declarations.applyLines lead db {} (lines t))[i]? = some (indent ++ (new ++ behind)) ∧
    AllBlank indent ∧ IsIdentifier name ∧ startsWord behind = false ∧ new ≠ name

theorem exists_replaces {line line' : Text} (hline : (lines t)[i]? = some line)
    (hline' : (declarations.applyLines lead db {} (lines t))[i]? = some line')
    (hne : line' ≠ line) :
    ∃ c name, Replaces lead db t i c name := by
  rcases exists_of_getElem?_applyLines hline' with ⟨cursor, found, hcursor, hfound, rfl⟩
  have hsame : found = line := Option.some.inj (hfound.symm.trans hline)
  subst hsame
  rcases exists_split?_of_renameLine_ne hne with ⟨hinside, indent, name, rest, hsplit⟩
  rcases renameLine_declarations db hinside hsplit with ⟨behind, heq, hindent, hname, hbehind, hnew⟩
  refine ⟨cursor.component, name, cursor, indent, db.lookup .exact cursor.component name, behind,
    hcursor, rfl, ?_, ?_, hindent, hname, hbehind, ?_⟩
  · rw [hline, ← heq]
  · rw [hline', ← hnew]
  · intro hsame
    rw [hnew, hsame, ← heq] at hne
    contradiction

theorem Replaces.harvestsFrom {c name : Name} (h : Replaces lead db t i c name) :
    Harvest.HarvestsFrom t i c name := by
  rcases h with
    ⟨cursor, indent, new, behind, hcursor, rfl, hline, hline', hindent, hname, hbehind, hne⟩
  rcases exists_of_getElem?_applyLines hline' with ⟨here, line, hhere, hfound, happlied⟩
  have hsame : here = cursor := Option.some.inj (hhere.symm.trans hcursor)
  subst hsame
  have hcut : line = indent ++ (name ++ behind) := Option.some.inj (hfound.symm.trans hline)
  subst hcut
  have hchanged : declarations.renameLine db here (indent ++ (name ++ behind)) ≠
      indent ++ (name ++ behind) := by
    rw [happlied]
    intro heq
    exact hne (List.append_cancel_right (List.append_cancel_left heq))
  rcases exists_split?_of_renameLine_ne hchanged with ⟨hinside, indent', name', rest, hsplit⟩
  -- there is one first word in a line
  rcases renameLine_declarations db hinside hsplit with
    ⟨behind', heq, hindent', hname', hbehind', -⟩
  have hword := word?_skipBlanks_append hindent hname hbehind
  rw [heq, word?_skipBlanks_append hindent' hname' hbehind'] at hword
  have hname : name' = name := congrArg Prod.fst (Option.some.inj hword)
  subst hname
  exact Harvest.harvestsFrom_of_inside hline hcursor hinside (Declaration.starts_of_split? hsplit)
    (Harvest.declared?_of_split? hsplit)

/-- Every line that the pass over declarations changes has a name replaced at its front, and a
replaced name is the one that a harvest takes from that line, for the component at which the pass
has its cursor. It is in the end among the names of the component, if no later line starts the
component again. -/
theorem replaced_names_are_harvested (lead : Name) (db : Database) (t : Text) :
    (∀ (i : Nat) (line line' : Text), (lines t)[i]? = some line →
      (declarations.applyLines lead db {} (lines t))[i]? = some line' → line' ≠ line →
        ∃ c name, Replaces lead db t i c name) ∧
    ∀ (i : Nat) (c name : Name), Replaces lead db t i c name →
      Harvest.HarvestsFrom t i c name ∧
        ((∀ line ∈ (lines t).drop (i + 1), ¬ Harvest.StartsEntity line c) →
          ∃ table, (Harvest.ofText t).get? c = some table ∧ name ∈ table.keys) := by
  constructor
  · intro i line line' hline hline' hne
    exact exists_replaces hline hline' hne
  · intro i c name h
    exact ⟨h.harvestsFrom, h.harvestsFrom.mem_keys⟩

/-- Two names are replaced in `c`, on a line with two colons and a comment, and before `c` is
started again: the first of them stays, and the second is forgotten. -/
theorem replaced_names_are_harvested_restarted :
    let c := "c".toList
    let db : Database :=
      ⟨.ofList [(c, .ofList [("Clk".toList, "clk_i".toList), ("a".toList, "x : y".toList)])]⟩
    let t := ("entity c is\n  a : in\nentity c is b : in;\n\tClk : a : x; -- Clk : b\n" ++
      "end entity;\n  Clk : in\n").toList
    Replaces [] db t 3 c "Clk".toList ∧ Replaces [] db t 1 c "a".toList ∧
      Harvest.HarvestsFrom t 3 c "Clk".toList ∧ Harvest.HarvestsFrom t 1 c "a".toList ∧
      ∃ table, (Harvest.ofText t).get? c = some table ∧ "Clk".toList ∈ table.keys ∧
        "a".toList ∉ table.keys := by
  repeat rw [String.toList_append]
  repeat rw [String.toList_ofList]
  intro c db t
  have hclk : Replaces [] db t 3 c "Clk".toList :=
    ⟨⟨c, true⟩, "\t".toList, "clk_i".toList, " : a : x; -- Clk : b\n".toList, by decide +kernel⟩
  have ha : Replaces [] db t 1 c "a".toList :=
    ⟨⟨c, true⟩, "  ".toList, "x : y".toList, " : in\n".toList, by decide +kernel⟩
  rcases replaced_names_are_harvested [] db t with ⟨-, hharvested⟩
  have hlater : ∀ line ∈ (lines t).drop 4, ¬ Harvest.StartsEntity line c := by
    have hentity : ∀ line ∈ (lines t).drop 4, Harvest.entity? line ≠ some c := by decide +kernel
    exact fun line hline hstarts => hentity line hline (Harvest.entity?_eq_some_iff.mpr hstarts)
  rcases hharvested 3 c _ hclk with ⟨hfrom, hkeys⟩
  rcases hkeys hlater with ⟨table, htable, hmem⟩
  have hnames : (Harvest.ofText t).get? c = some (.identity ["b".toList, "Clk".toList]) := by
    decide +kernel
  have hnamed : table = .identity ["b".toList, "Clk".toList] :=
    Option.some.inj (htable.symm.trans hnames)
  subst hnamed
  exact ⟨hclk, ha, hfrom, (hharvested 1 c _ ha).1, _, htable, hmem, by decide +kernel⟩

end Pass

end Relabel

import Relabel.Proofs.Building
import Relabel.Proofs.Replacements
import Relabel.Proofs.SecondRuns

/-!
# Texts put together

A line at which a pass enters a component makes the pass forget what it has read before. So a text
that starts with such a line can stand behind any other: both are rewritten as they would be alone,
and what the second declares goes over what the first does.
-/

namespace Relabel

open Text

/-! ## 1. Lines -/

theorem Text.lines_append_of_getLast? {t : Text} (ht : t = [] ∨ t.getLast? = some '\n') (u : Text) :
    lines (t ++ u) = lines t ++ lines u := by
  induction t with
  | nil => rfl
  | cons c t ih =>
    cases t with
    | nil =>
      have hc : c = '\n' := by simpa using ht
      subst hc
      rfl
    | cons d t =>
      have hrest : lines (d :: t ++ u) = lines (d :: t) ++ lines u := ih (.inr (by simpa using ht))
      have hne : lines (d :: t) ≠ [] := by
        intro hnil
        have hflat := flatten_lines (d :: t)
        rw [hnil] at hflat
        contradiction
      rcases List.exists_cons_of_ne_nil hne with ⟨line, more, hlines⟩
      rw [List.cons_append, lines, lines, hrest, hlines]
      split <;> rfl

namespace Pass

/-! ## 2. The cursor behind some lines -/

def cursorAfter (pass : Pass) (lead : Name) (cursor : Cursor) (ls : List Text) : Cursor :=
  ls.foldl (fun cursor line => pass.move lead (codePart pass.commentMarker line) cursor) cursor

theorem applyLines_append (pass : Pass) (lead : Name) (db : Database) (cursor : Cursor)
    (ls ms : List Text) :
    pass.applyLines lead db cursor (ls ++ ms) =
      pass.applyLines lead db cursor ls ++
        pass.applyLines lead db (pass.cursorAfter lead cursor ls) ms := by
  induction ls generalizing cursor with
  | nil => rfl
  | cons line ls ih => exact congrArg (_ :: ·) (ih _)

theorem inside_enter_move (shape : LineShape) (group : Nat) (code : Text) (cursor : Cursor) :
    (MarkerTable.move [⟨shape, .enter group⟩] code cursor).inside = cursor.inside := by
  rw [MarkerTable.move]
  cases hcapture : shape.capture? code <;>
    simp [MarkerTable.match?, List.findSome?, hcapture, Action.move, Action.inside]

/-- Only entities and association lists have an inside. -/
theorem inside_cursorAfter {pass : Pass} (hpass : pass ∈ [symbols, simConfig]) (lead : Name)
    {cursor : Cursor} (hcursor : cursor.inside = false) (ls : List Text) :
    (pass.cursorAfter lead cursor ls).inside = false := by
  induction ls generalizing cursor with
  | nil => exact hcursor
  | cons line ls ih =>
    apply ih
    rw [← hcursor]
    simp only [List.mem_cons, List.not_mem_nil, or_false] at hpass
    rcases hpass with rfl | rfl
    · exact inside_enter_move .unitStart 2 _ cursor
    · exact inside_enter_move .testbenchRun 1 _ cursor

/-! ## 3. Lines that make a pass forget -/

/-- The shape of the lines at which a pass enters a component. -/
def entryShape (lead : Name) : Pass → LineShape
  | declarations => .entityStart
  | instantiations => .header lead
  | symbols => .unitStart
  | simConfig => .testbenchRun

/-- Whether a pass enters a component at the first line of a text. -/
def startsAnew (pass : Pass) (lead : Name) (t : Text) : Bool :=
  (lines t).head?.any fun line =>
    ((pass.entryShape lead).capture? (codePart pass.commentMarker line)).isSome

/-- A captured name takes the place of any other. -/
theorem enter_move_of_isSome {shape : LineShape} {group : Nat} {code : Text} {name? : Option Name}
    (hgroup : (shape.capture? code).map (·.group? group) = name?.map some)
    (h : (shape.capture? code).isSome = true) {cursor : Cursor} (hcursor : cursor.inside = false) :
    MarkerTable.move [⟨shape, .enter group⟩] code cursor =
      MarkerTable.move [⟨shape, .enter group⟩] code {} := by
  have hname : name?.isSome = true := by
    have hsome := congrArg Option.isSome hgroup
    rwa [Option.isSome_map, Option.isSome_map, h, eq_comm] at hsome
  rcases Option.isSome_iff_exists.mp hname with ⟨name, rfl⟩
  rw [enter_move shape group hgroup, enter_move shape group hgroup, hcursor]
  rfl

theorem move_of_entryShape {pass : Pass} {lead : Name} {code : Text}
    (h : ((pass.entryShape lead).capture? code).isSome = true) {cursor : Cursor}
    (hcursor : pass = declarations ∨ cursor.inside = false) :
    pass.move lead code cursor = pass.move lead code {} := by
  cases pass with
  | declarations =>
    -- an entity is open from its first line on, whatever was open before
    have hstarts : (LineShape.entityName? (leadingWords code)).isSome = true := by
      have hsome := congrArg Option.isSome (LineShape.map_group_entityStart? code)
      rw [Option.isSome_map, Option.isSome_map] at hsome
      rw [← hsome]
      exact h
    rcases Option.isSome_iff_exists.mp hstarts with ⟨name, hname⟩
    show entityMarkers.move code cursor = entityMarkers.move code {}
    rw [entityMarkers_move, entityMarkers_move, hname]
  | instantiations =>
    -- a header does not close a list, but the cursor is in none
    rcases hcursor with hno | hcursor
    · contradiction
    · exact congrArg (listMarkers.move code)
        (enter_move_of_isSome (LineShape.map_group_header? lead code) h hcursor)
  | symbols =>
    rcases hcursor with hno | hcursor
    · contradiction
    · exact enter_move_of_isSome (LineShape.map_group_unitStart? code) h hcursor
  | simConfig =>
    rcases hcursor with hno | hcursor
    · contradiction
    · exact enter_move_of_isSome (LineShape.map_group_testbenchRun? code) h hcursor

theorem exists_line_of_startsAnew {pass : Pass} {lead : Name} {t : Text}
    (h : pass.startsAnew lead t = true) :
    ∃ line rest, lines t = line :: rest ∧
      ((pass.entryShape lead).capture? (codePart pass.commentMarker line)).isSome = true := by
  cases hlines : lines t with
  | nil =>
    rw [startsAnew, hlines] at h
    contradiction
  | cons line rest =>
    rw [startsAnew, hlines] at h
    exact ⟨line, rest, rfl, h⟩

theorem applyLines_of_startsAnew {pass : Pass} {lead : Name} {t : Text}
    (h : pass.startsAnew lead t = true) (db : Database) {cursor : Cursor}
    (hcursor : pass = declarations ∨ cursor.inside = false) :
    pass.applyLines lead db cursor (lines t) = pass.applyLines lead db {} (lines t) := by
  rcases exists_line_of_startsAnew h with ⟨line, rest, hlines, hshape⟩
  rw [hlines, applyLines_eq, applyLines_eq, cursors, cursors, move_of_entryShape hshape hcursor]

theorem apply_append {pass : Pass} {lead : Name} {t₁ t₂ : Text}
    (hend : t₁ = [] ∨ t₁.getLast? = some '\n') (hanew : pass.startsAnew lead t₂ = true)
    (hcursor : pass = instantiations → (pass.cursorAfter lead {} (lines t₁)).inside = false)
    (db : Database) :
    pass.apply lead db (t₁ ++ t₂) = pass.apply lead db t₁ ++ pass.apply lead db t₂ := by
  have hbetween : pass = declarations ∨ (pass.cursorAfter lead {} (lines t₁)).inside = false := by
    cases pass with
    | declarations => exact .inl rfl
    | instantiations => exact .inr (hcursor rfl)
    | symbols => exact .inr (inside_cursorAfter (by decide) lead rfl _)
    | simConfig => exact .inr (inside_cursorAfter (by decide) lead rfl _)
  rw [apply, lines_append_of_getLast? hend, applyLines_append,
    applyLines_of_startsAnew hanew db hbetween, List.flatten_append, ← apply, ← apply]

end Pass

/-! ## 4. Harvests -/

namespace Table

variable {α : Type}

theorem get?_insertAll_entries (base t : Table α) (k : Name) :
    (base.insertAll t.entries).get? k = (t.get? k).or (base.get? k) :=
  get?_insertAll t.nodup base k

theorem insertAll_insert (base t : Table α) (k : Name) (v : α) :
    base.insertAll (t.insert k v).entries = (base.insertAll t.entries).insert k v := by
  apply ext_get?
  · have hkeys : (base.insertAll t.entries).keys = (base.keys ++ t.keys).eraseDups :=
      keys_insertAll base t.entries
    rw [keys_insertAll, keys_insert_eq_eraseDups, hkeys, eraseDups_eraseDups_append]
    show (base.keys ++ (t.insert k v).keys).eraseDups = _
    rw [keys_insert]
    split
    · rename_i hk
      rw [eraseDups_concat, if_pos (List.mem_append_right _ hk)]
    · rw [List.append_assoc]
  · intro q
    rw [get?_insertAll_entries, get?_insert, get?_insert, get?_insertAll_entries]
    split <;> rfl

end Table

namespace Harvest

/-- What is known when the lines stand behind others that have declared `base`. -/
def State.over (base : Declarations) (state : State) : State :=
  ⟨base.insertAll state.sets.entries, state.cursor⟩

theorem add_over (base : Declarations) {sets : Declarations} {component : Name}
    (h : component ∈ sets.keys) (name : Name) :
    add (base.insertAll sets.entries) component name =
      base.insertAll (add sets component name).entries := by
  rcases Option.isSome_iff_exists.mp (Table.contains_iff.mpr h) with ⟨names, hnames⟩
  have hover : (base.insertAll sets.entries).get? component = some names := by
    rw [Table.get?_insertAll_entries, hnames, Option.some_or]
  rw [add, add, hnames, hover]
  dsimp only
  split
  · rfl
  · rw [Table.insertAll_insert]

theorem absorb_over (base : Declarations) {sets : Declarations} {r : Reading}
    (h : r.name? ≠ none → r.component ∈ (absorb sets r).keys) :
    absorb (base.insertAll sets.entries) r = base.insertAll (absorb sets r).entries := by
  rcases r with ⟨component, opens, name?⟩
  have hopened :
      (if opens then (base.insertAll sets.entries).insert component ∅
        else base.insertAll sets.entries) =
      base.insertAll (if opens then sets.insert component ∅ else sets).entries := by
    cases opens with
    | true => exact (Table.insertAll_insert base sets component ∅).symm
    | false => rfl
  cases name? with
  | none => exact hopened
  | some name =>
    have hmem := h (Option.some_ne_none name)
    simp only [absorb, keys_add] at hmem
    simp only [absorb, hopened]
    exact add_over base hmem name

/-- A line adds the same to what stands behind other declarations. -/
theorem step_over (base : Declarations) {state : State} (hstate : state.Started) (code : Text) :
    step (state.over base) code = (step state code).over base := by
  have hstarted := hstate.step code
  rw [step_eq] at hstarted
  generalize hcursor : Pass.entityMarkers.move code state.cursor = cursor at hstarted
  have habsorb : absorb (base.insertAll state.sets.entries) (read cursor code) =
      base.insertAll (absorb state.sets (read cursor code)).entries := by
    apply absorb_over
    intro hname
    -- a name is read only inside of a component, and that one has been started behind `base`
    apply hstarted
    by_contra hinside
    simp [read, hinside] at hname
  calc step (state.over base) code
      _ = ⟨absorb (base.insertAll state.sets.entries) (read cursor code), cursor⟩ := by
        rw [step_eq, ← hcursor]
        rfl
      _ = State.over base ⟨absorb state.sets (read cursor code), cursor⟩ := by
        rw [habsorb]
        rfl
      _ = (step state code).over base := by rw [step_eq, hcursor]

theorem foldl_step_over (base : Declarations) {state : State} (hstate : state.Started)
    (ls : List Text) :
    ls.foldl (fun state line => step state (code line)) (state.over base) =
      (ls.foldl (fun state line => step state (code line)) state).over base := by
  induction ls generalizing state with
  | nil => rfl
  | cons line ls ih =>
    rw [List.foldl_cons, List.foldl_cons, step_over base hstate, ih (hstate.step _)]

theorem ofText_append {lead : Name} {t₁ t₂ : Text} (hend : t₁ = [] ∨ t₁.getLast? = some '\n')
    (hanew : Pass.declarations.startsAnew lead t₂ = true) :
    ofText (t₁ ++ t₂) = (ofText t₁).insertAll (ofText t₂).entries := by
  rcases Pass.exists_line_of_startsAnew hanew with ⟨line, rest, hlines, hshape⟩
  have hmove : ∀ cursor, Pass.entityMarkers.move (code line) cursor =
      Pass.entityMarkers.move (code line) {} :=
    fun cursor => Pass.move_of_entryShape hshape (.inl rfl)
  -- the first line of `t₂` is read as if the cursor were still at its start
  have hfirst : step (after (lines t₁)) (code line) = (after [line]).over (ofText t₁) := by
    have hempty : step (State.over (ofText t₁) {}) (code line) = (after [line]).over (ofText t₁) :=
      step_over _ (started_after []) _
    rw [← hempty, step_eq, step_eq, hmove (after (lines t₁)).cursor]
    rfl
  calc ofText (t₁ ++ t₂)
      _ = (rest.foldl (fun state line => step state (code line))
            (step (after (lines t₁)) (code line))).sets := by
        rw [ofText, lines_append_of_getLast? hend, hlines, List.foldl_append, List.foldl_cons,
          after]
      _ = (State.over (ofText t₁)
            (rest.foldl (fun state line => step state (code line)) (after [line]))).sets := by
        rw [hfirst, foldl_step_over _ (started_after [line])]
      _ = (ofText t₁).insertAll (ofText t₂).entries := by
        rw [ofText.eq_def t₂, hlines]
        rfl

end Harvest

/-! ## 5. Runs -/

/-- Two texts, the first of which ends with a line feed: where a pass enters a component at the
first line of the second, it makes of both together what it makes of each. Only a list that is still
open would reach over. What the second declares goes over what the first does. -/
theorem Passes.run_append_of_startsAnew {db : Database} (hfilled : db.isEmpty = false) {t₁ : Text}
    (hend : t₁ = [] ∨ t₁.getLast? = some '\n') (t₂ : Text) (lead : Name) :
    (∀ pass : Pass, pass.startsAnew lead t₂ = true →
      (pass = .instantiations → (pass.cursorAfter lead {} (lines t₁)).inside = false) →
      ∃ u₁ u₂, run [pass] lead db t₁ = .ok u₁ ∧ run [pass] lead db t₂ = .ok u₂ ∧
        run [pass] lead db (t₁ ++ t₂) = .ok (u₁ ++ u₂)) ∧
    (Pass.declarations.startsAnew lead t₂ = true →
      Harvest.ofText (t₁ ++ t₂) = (Harvest.ofText t₁).insertAll (Harvest.ofText t₂).entries) := by
  refine ⟨?_, Harvest.ofText_append hend⟩
  intro pass hanew hcursor
  refine ⟨pass.apply lead db t₁, pass.apply lead db t₂, run_eq_ok hfilled [pass] lead t₁,
    run_eq_ok hfilled [pass] lead t₂, ?_⟩
  rw [run_eq_ok hfilled, ← Pass.apply_append hend hanew hcursor db]
  rfl

/-- An entity that is never closed, stale components of all passes, and a component
declared again. -/
theorem Passes.run_append_of_startsAnew_unclosed :
    let db : Database := ⟨.ofList [("c".toList, .ofList [("a".toList, "m".toList)]),
      ("d".toList, .ofList [("a".toList, "wrong".toList), ("x".toList, "y".toList)])]⟩
    let front := ("entity c is\n a : in;\n b : in;\nentity d is\n x : in;\n" ++
      "v : entity work.d\n port map (x => a,\n);\ncreate_tb_run \"d\" -gx=1\n").toList
    let unit := " Entity c Is -- again\n  a : in;\n a x".toList
    let header := "u : entity work.c\n  port map (a => x,\n".toList
    let bench := "create_tb_run \"c\"\n -ga=1 -gx=1".toList
    (db.isEmpty = false ∧ front.getLast? = some '\n' ∧
      Pass.declarations.cursorAfter [] {} (lines front) = ⟨['d'], true⟩ ∧
      Pass.instantiations.cursorAfter [] {} (lines front) = ⟨['d'], false⟩ ∧
      Pass.declarations.startsAnew [] unit = true ∧ Pass.symbols.startsAnew [] unit = true ∧
      Pass.instantiations.startsAnew [] header = true ∧ Pass.simConfig.startsAnew [] bench = true) ∧
    (∃ u₁ u₂, run [.declarations] [] db front = .ok u₁ ∧ run [.declarations] [] db unit = .ok u₂ ∧
      run [.declarations] [] db (front ++ unit) = .ok (u₁ ++ u₂)) ∧
    (∃ u₁ u₂, run [.symbols] [] db front = .ok u₁ ∧ run [.symbols] [] db unit = .ok u₂ ∧
      run [.symbols] [] db (front ++ unit) = .ok (u₁ ++ u₂)) ∧
    (∃ u₁ u₂, run [.instantiations] [] db front = .ok u₁ ∧
      run [.instantiations] [] db header = .ok u₂ ∧
      run [.instantiations] [] db (front ++ header) = .ok (u₁ ++ u₂)) ∧
    (∃ u₁ u₂, run [.simConfig] [] db front = .ok u₁ ∧ run [.simConfig] [] db bench = .ok u₂ ∧
      run [.simConfig] [] db (front ++ bench) = .ok (u₁ ++ u₂)) ∧
    Harvest.ofText (front ++ unit) =
      (Harvest.ofText front).insertAll (Harvest.ofText unit).entries ∧
    (Harvest.ofText (front ++ unit)).entries =
      [(['c'], .identity [['a']]), (['d'], .identity [['x'], ['v']])] := by
  repeat rw [String.toList_append]
  repeat rw [String.toList_ofList]
  intro db front unit header bench
  have hfilled : db.isEmpty = false := by decide +kernel
  have hend : front.getLast? = some '\n' := by decide +kernel
  have hopen : Pass.declarations.cursorAfter [] {} (lines front) = ⟨['d'], true⟩ := by
    decide +kernel
  have hlist : Pass.instantiations.cursorAfter [] {} (lines front) = ⟨['d'], false⟩ := by
    decide +kernel
  have hunit : Pass.declarations.startsAnew [] unit = true ∧
      Pass.symbols.startsAnew [] unit = true := by
    decide +kernel
  have hheader : Pass.instantiations.startsAnew [] header = true := by decide +kernel
  have hbench : Pass.simConfig.startsAnew [] bench = true := by decide +kernel
  have hover := run_append_of_startsAnew hfilled (.inr hend) unit []
  refine ⟨⟨hfilled, hend, hopen, hlist, hunit.1, hunit.2, hheader, hbench⟩,
    hover.1 .declarations hunit.1 nofun, hover.1 .symbols hunit.2 nofun, ?_, ?_,
    hover.2 hunit.1, by decide +kernel⟩
  · exact (run_append_of_startsAnew hfilled (.inr hend) header []).1 .instantiations hheader
      fun _ => by rw [hlist]
  · exact (run_append_of_startsAnew hfilled (.inr hend) bench []).1 .simConfig hbench nofun

end Relabel

import Relabel.Proofs.Source

/-!
# Which scopes a source can ask for

A pass looks names up in the scope of its cursor and in the fallback scope. The cursor starts
without a component and only ever takes one that a marker captures, and since the passes over a
source run under the cursors of the text that came in, those captures are read off that text. Scopes
of other components have no influence on the result.
-/

namespace Relabel

open Text

/-! ## 1. Databases that agree on a scope -/

namespace Database

/-- Whether two databases have the same new name for every key of a scope. A scope that is missing
agrees with one whose table is empty, and the order of a table does not count. -/
def AgreeOn (db db' : Database) (scope : Name) : Prop :=
  ∀ key, db.newName? scope key = db'.newName? scope key

variable {db db' : Database} {scope : Name}

theorem agreeOn_of_get?_eq (h : db.scopes.get? scope = db'.scopes.get? scope) :
    db.AgreeOn db' scope := by
  intro key
  rw [newName?, newName?, h]

theorem AgreeOn.lookup_exact (h : db.AgreeOn db' scope) :
    db.lookup .exact scope = db'.lookup .exact scope := by
  funext name
  rw [Database.lookup_exact, Database.lookup_exact, h name]

theorem AgreeOn.lookup_folded (h : db.AgreeOn db' scope) (hall : db.AgreeOn db' fallbackScope) :
    db.lookup .folded scope = db'.lookup .folded scope := by
  funext name
  rw [Database.lookup_folded, Database.lookup_folded, h (lower name), hall (lower name)]

end Database

namespace Pass

theorem rename_congr {pass : Pass} (hpass : pass ∈ source) {db db' : Database} {cursor : Cursor}
    (h : db.AgreeOn db' cursor.component) (hall : db.AgreeOn db' fallbackScope) (code : Text) :
    pass.rename db cursor code = pass.rename db' cursor code := by
  have hexact := h.lookup_exact
  simp only [source, List.mem_cons, List.not_mem_nil, or_false] at hpass
  rcases hpass with rfl | rfl | rfl
  · simp only [rename, Declaration.rename, hexact]
  · simp only [rename, Association.rename, hexact]
  · simp only [rename, h.lookup_folded hall]

end Pass

/-! ## 2. Components that a text names -/

/-- The component that a marker enters on a line, if the line has its shape. -/
def Marker.entered? (marker : Marker) (code : Text) : Option Name :=
  (marker.shape.capture? code).bind marker.action.entered?

theorem MarkerTable.component_move (table : MarkerTable) (code : Text) (cursor : Cursor) :
    (table.move code cursor).component = cursor.component ∨
      ∃ marker ∈ table, marker.entered? code = some (table.move code cursor).component := by
  cases hmatch : table.match? code with
  | none =>
    left
    simp only [MarkerTable.move, hmatch]
  | some found =>
    rcases found with ⟨action, capture⟩
    have hmove : (table.move code cursor).component =
        (action.entered? capture).getD cursor.component := by
      simp only [MarkerTable.move, hmatch, Action.move]
    rcases List.exists_of_findSome?_eq_some hmatch with ⟨marker, hmarker, hfound⟩
    rcases Option.map_eq_some_iff.mp hfound with ⟨_, hcapture, heq⟩
    rcases Prod.mk.inj heq with ⟨rfl, rfl⟩
    rw [hmove]
    cases hentered : marker.action.entered? _ with
    | none => exact .inl rfl
    | some name =>
      refine .inr ⟨marker, hmarker, ?_⟩
      rw [Marker.entered?, hcapture, Option.bind_some, hentered]
      rfl

theorem Pass.component_move (pass : Pass) (lead : Name) (code : Text) (cursor : Cursor) :
    (pass.move lead code cursor).component = cursor.component ∨
      ∃ table ∈ pass.markers lead, ∃ marker ∈ table,
        marker.entered? code = some (pass.move lead code cursor).component := by
  rw [Pass.move]
  generalize pass.markers lead = tables
  induction tables generalizing cursor with
  | nil => exact .inl rfl
  | cons table tables ih =>
    rw [List.foldl_cons]
    rcases ih (table.move code cursor) with hsame | ⟨later, hlater, hentered⟩
    · -- no table behind this one enters a component
      rw [hsame]
      refine (table.component_move code cursor).imp_right ?_
      rintro ⟨marker, hmarker, h⟩
      exact ⟨table, List.mem_cons_self, marker, hmarker, h⟩
    · exact .inr ⟨later, List.mem_cons_of_mem table hlater, hentered⟩

namespace Passes

/-- The shapes that name a component in a source, each with the group that holds the name. -/
def namingShapes (lead : Name) : List (LineShape × Nat) :=
  [(.entityStart, 1), (.header lead, 1), (.unitStart, 2)]

/-- The components that the naming shapes capture on the given lines. -/
def captured (lead : Name) (ls : List Text) : List Name :=
  ls.flatMap fun line => (namingShapes lead).filterMap fun x =>
    (x.1.capture? (sourcePart line)).bind (·.group? x.2)

theorem mem_captured {lead : Name} {ls : List Text} {line : Text} (hline : line ∈ ls)
    (shape : LineShape) (group : Nat) (hshape : (shape, group) ∈ namingShapes lead) {name : Name}
    (h : (shape.capture? (sourcePart line)).bind (·.group? group) = some name) :
    name ∈ captured lead ls :=
  List.mem_flatMap.mpr ⟨line, hline, List.mem_filterMap.mpr ⟨(shape, group), hshape, h⟩⟩

theorem mem_captured_of_entered? {pass : Pass} (hpass : pass ∈ Pass.source) {lead : Name}
    {table : MarkerTable} (htable : table ∈ pass.markers lead) {marker : Marker}
    (hmarker : marker ∈ table) {ls : List Text} {line : Text} (hline : line ∈ ls) {name : Name}
    (h : marker.entered? (sourcePart line) = some name) : name ∈ captured lead ls := by
  -- the markers that only open or close enter nothing
  have hnothing : ∀ shape action, (∀ capture, action.entered? capture = none) →
      Marker.entered? ⟨shape, action⟩ (sourcePart line) ≠ some name := by
    intro shape action hnone hsome
    rcases Option.bind_eq_some_iff.mp hsome with ⟨capture, -, hentered⟩
    rw [hnone] at hentered
    contradiction
  simp only [Pass.source, List.mem_cons, List.not_mem_nil, or_false] at hpass
  rcases hpass with rfl | rfl | rfl
  · simp only [Pass.markers, List.mem_singleton] at htable
    subst htable
    simp only [Pass.entityMarkers, List.mem_cons, List.not_mem_nil, or_false] at hmarker
    rcases hmarker with rfl | rfl
    · exact mem_captured hline .entityStart 1 (by simp [namingShapes]) h
    · exact absurd h (hnothing _ _ fun _ => rfl)
  · simp only [Pass.markers, List.mem_cons, List.not_mem_nil, or_false] at htable
    rcases htable with rfl | rfl
    · simp only [Pass.headerMarkers, List.mem_singleton] at hmarker
      subst hmarker
      exact mem_captured hline (.header lead) 1 (by simp [namingShapes]) h
    · simp only [Pass.listMarkers, List.mem_cons, List.not_mem_nil, or_false] at hmarker
      rcases hmarker with rfl | rfl <;> exact absurd h (hnothing _ _ fun _ => rfl)
  · simp only [Pass.markers, List.mem_singleton] at htable
    subst htable
    simp only [Pass.unitMarkers, List.mem_singleton] at hmarker
    subst hmarker
    exact mem_captured hline .unitStart 2 (by simp [namingShapes]) h

/-- Wherever a cursor goes, its component is the one it started from or is captured on
one of the lines. -/
theorem component_mem_captured {pass : Pass} (hpass : pass ∈ Pass.source) (lead : Name)
    (start : Cursor) (ls : List Text) :
    ∀ cursor ∈ pass.cursors lead start ls,
      cursor.component ∈ start.component :: captured lead ls := by
  induction ls generalizing start with
  | nil => exact fun cursor hcursor => nomatch hcursor
  | cons line ls ih =>
    intro cursor hcursor
    have hmore : ∀ name ∈ captured lead ls, name ∈ captured lead (line :: ls) :=
      fun name hname => List.mem_append_right _ hname
    have hstep : (pass.move lead (sourcePart line) start).component ∈
        start.component :: captured lead (line :: ls) := by
      rcases pass.component_move lead (sourcePart line) start with
        hsame | ⟨table, htable, marker, hmarker, hentered⟩
      · rw [hsame]
        exact List.mem_cons_self
      · exact List.mem_cons_of_mem _
          (mem_captured_of_entered? hpass htable hmarker List.mem_cons_self hentered)
    rw [Pass.cursors, commentMarker_eq hpass] at hcursor
    rcases List.mem_cons.mp hcursor with rfl | hlater
    · exact hstep
    · rcases List.mem_cons.mp (ih _ cursor hlater) with hsame | hcaptured
      · rw [hsame]
        exact hstep
      · exact List.mem_cons_of_mem _ (hmore _ hcaptured)

/-! ## 3. Two runs -/

theorem sourceLine_congr {db db' : Database} {cursors : Pass → Cursor}
    (h : ∀ pass ∈ Pass.source, db.AgreeOn db' (cursors pass).component)
    (hall : db.AgreeOn db' fallbackScope) (line : Text) :
    sourceLine db cursors line = sourceLine db' cursors line := by
  have hrename : ∀ pass ∈ Pass.source, ∀ code,
      pass.rename db (cursors pass) code = pass.rename db' (cursors pass) code :=
    fun pass hpass code => pass.rename_congr hpass (h pass hpass) hall code
  simp only [sourceLine, sourceCode, Pass.source, List.foldl_cons, List.foldl_nil]
  rw [hrename .declarations (by decide), hrename .instantiations (by decide),
    hrename .symbols (by decide)]

/-- Two databases that agree on the fallback scope, on the scope without a name, and on the
components that a source names make the same of it. -/
theorem source_isolates_scopes {db db' : Database} (hfilled : db.isEmpty = false)
    (hfilled' : db'.isEmpty = false) (hnames : ∀ v ∈ db.newNames, IsIdentifier v)
    (hnames' : ∀ v ∈ db'.newNames, IsIdentifier v) (lead : Name) (t : Text)
    (hagree : ∀ scope ∈ fallbackScope :: [] :: captured lead (lines t), db.AgreeOn db' scope) :
    ∃ u, run Pass.source lead db t = .ok u ∧ run Pass.source lead db' t = .ok u := by
  have hline : ∀ cursors ∈ sourceCursors lead t, ∀ line,
      sourceLine db cursors line = sourceLine db' cursors line := by
    intro cursors hcursors line
    apply sourceLine_congr _ (hagree _ List.mem_cons_self)
    intro pass hpass
    apply hagree _ (List.mem_cons_of_mem _ _)
    apply component_mem_captured hpass lead {}
    rw [← map_sourceCursors hpass]
    exact List.mem_map_of_mem hcursors
  have hlines : lines (apply Pass.source lead db t) = lines (apply Pass.source lead db' t) := by
    rw [lines_apply_source hnames, lines_apply_source hnames', ← List.map_uncurry_zip_eq_zipWith,
      ← List.map_uncurry_zip_eq_zipWith]
    exact List.map_congr_left fun x hx => hline x.1 (List.of_mem_zip hx).1 x.2
  refine ⟨apply Pass.source lead db t, run_eq_ok hfilled _ lead t, ?_⟩
  rw [run_eq_ok hfilled', ← flatten_lines (apply Pass.source lead db' t), ← hlines, flatten_lines]

theorem source_isolates_scopes_of_other_units :
    let shared : List (Name × RenameTable) :=
      [("c".toList, .ofList [("Clk".toList, "clk_i".toList)]),
        ("p".toList, .ofList [("clk".toList, "clk_p".toList)])]
    let db : Database :=
      ⟨.ofList (shared ++ [("clk_i".toList, .ofList [("q".toList, "q_i".toList)])])⟩
    let db' : Database := ⟨.ofList (([], .ofList []) :: shared)⟩
    let t := ("package p is\nentity c is\n  Clk : in;\nend entity;\n" ++
      "  u : entity work.C port map (\n  Clk => clk_i\n  );\n").toList
    db.scopes ≠ db'.scopes ∧
      captured [] (lines t) = ["p".toList, "c".toList, "c".toList, "C".toList] ∧
      ∃ u, run Pass.source [] db t = .ok u ∧ run Pass.source [] db' t = .ok u := by
  repeat rw [String.toList_append]
  repeat rw [String.toList_ofList]
  intro shared db db' t
  have hcaptured : captured [] (lines t) = ["p".toList, "c".toList, "c".toList, "C".toList] := by
    decide +kernel
  refine ⟨by decide +kernel, hcaptured,
    source_isolates_scopes (by decide +kernel) (by decide +kernel) (by decide +kernel)
      (by decide +kernel) [] t ?_⟩
  -- an empty table answers like a missing one
  have hunnamed : db.AgreeOn db' [] := fun key => rfl
  rw [hcaptured]
  intro scope hscope
  simp only [List.mem_cons, List.not_mem_nil, or_false] at hscope
  rcases hscope with rfl | rfl | rfl | rfl | rfl | rfl
  · exact Database.agreeOn_of_get?_eq (by decide +kernel)
  · exact hunnamed
  all_goals exact Database.agreeOn_of_get?_eq (by decide +kernel)

end Passes

end Relabel

import Relabel.Proofs.Idempotence
import Relabel.Proofs.Tables

/-!
# Running one pass twice

A pass whose look-ups do not rename a new name again settles at once, over every text: its second
run finds the cursors of the first on all lines and changes nothing. The passes over declarations
and over instantiations rename where no marker is spelled. The flags of a simulator script stand
behind a dash, and the marker of a test bench run ends before the first dash of its line.
-/

namespace Relabel

open Text

/-! ## 1. Look-ups -/

namespace Database

variable {db : Database}

theorem exists_isNewNameOf {v : Name} (h : v ∈ db.newNames) : ∃ scope, db.IsNewNameOf scope v := by
  rcases List.mem_flatMap.mp h with ⟨table, htable, hv⟩
  rcases List.mem_map.mp htable with ⟨e, he, rfl⟩
  exact ⟨e.1, e.2, Table.get?_of_mem he, hv⟩

theorem lookup_exact_exact
    (hkeys : ∀ table ∈ db.scopes.values, ∀ v ∈ table.values, v ∉ table.keys ∨ table.get? v = some v)
    (scope w : Name) :
    db.lookup .exact scope (db.lookup .exact scope w) = db.lookup .exact scope w := by
  rw [lookup_exact scope w]
  cases h : db.newName? scope w with
  | none => rw [Option.getD_none, lookup_exact, h, Option.getD_none]
  | some v =>
    rcases newName?_eq_some.mp h with ⟨table, htable, hv⟩
    have hagain : db.newName? scope v = table.get? v := by rw [newName?, htable, Option.bind_some]
    rw [Option.getD_some, lookup_exact, hagain]
    -- the table that has given the new name has no other for it
    rcases hkeys table (Table.mem_values_of_get? htable) v (Table.mem_values_of_get? hv) with
      hkey | hsame
    · rw [Table.get?_eq_none.mpr hkey, Option.getD_none]
    · rw [hsame, Option.getD_some]

end Database

/-! ## 2. Renaming a code part twice -/

/-- A renaming at one place of a code part finds there, the second time, a name that it has
put there itself. -/
theorem rename_rename_of_split? {rename : Text → Text} {split? : Text → Option (Text × Name × Text)}
    {f : Name → Name}
    (hself : ∀ {code}, (∀ front name rest, split? code = some (front, name, rest) → f name = name) →
      rename code = code)
    (hsplit : ∀ {code}, split? (rename code) = (split? code).map fun cut =>
      (cut.1, f cut.2.1, cut.2.2))
    (hidem : ∀ w, f (f w) = f w) (code : Text) : rename (rename code) = rename code := by
  apply hself
  intro front name rest h
  rw [hsplit] at h
  rcases Option.map_eq_some_iff.mp h with ⟨⟨_, old, _⟩, -, heq⟩
  simp only [Prod.mk.injEq] at heq
  rw [← heq.2.1]
  exact hidem old

namespace GenericFlag

variable {f : Name → Name} (hf : ∀ w, IsIdentifier w → IsIdentifier (f w))

/-- Only a dash in front of the runs matters. -/
theorem renameRuns_of_ne_dash (f : Name → Name) {last : Option Char} (hlast : last ≠ some '-')
    (runs : List Text) :
    renameRuns f last runs = renameRuns f none runs := by
  cases runs with
  | nil => rfl
  | cons run more => rw [renameRuns, renameRuns, if_neg hlast, if_neg (by decide)]

include hf

theorem renameRun_renameRun (hidem : ∀ w, f (f w) = f w) {w : Name} (hw : IsIdentifier w) :
    renameRun f (renameRun f w) = renameRun f w := by
  match w, hw with
  | [], _ => rfl
  | [g], _ => rfl
  | g :: c :: name, hw =>
    by_cases hflag : (g = 'g' ∨ g = 'G') ∧ isWord c = true
    · have hnew : IsIdentifier (f (c :: name)) :=
        hf _ ⟨List.cons_ne_nil _ _, fun d hd => hw.2 d (.tail _ hd)⟩
      have hrun : renameRun f (g :: c :: name) = g :: f (c :: name) := if_pos hflag
      -- the letter stays, and behind it stands the new name alone
      rcases List.exists_cons_of_ne_nil hnew.1 with ⟨d, new, heq⟩
      rw [hrun, heq, renameRun, if_pos ⟨hflag.1, hnew.2 d (heq ▸ List.mem_cons_self)⟩, ← heq, hidem]
    · have hrun : renameRun f (g :: c :: name) = g :: c :: name := if_neg hflag
      rw [hrun, hrun]

theorem renameRuns_renameRuns (hidem : ∀ w, f (f w) = f w) (t : Text) (last : Option Char) :
    renameRuns f last (runs (renameRuns f last (runs t))) = renameRuns f last (runs t) := by
  induction t using word_induction generalizing last with
  | nil => rfl
  | gap c t hc ih => rw [renameRuns_cons f hc, renameRuns_cons f hc, ih]
  | word w t hw ht ih =>
    have hstart : startsWord (renameRuns f w.getLast? (runs t)) = false :=
      (respelled_renameRuns hf t w.getLast?).startsWord_eq.symm.trans ht
    rw [renameRuns_append f hw ht]
    -- neither the word nor its new form ends in a dash, so the rest does not see which
    -- of them is there
    by_cases hlast : last = some '-'
    · have hrun : IsIdentifier (renameRun f w) := isIdentifier_renameRun hf hw
      rw [if_pos hlast, renameRuns_append f hrun hstart, if_pos hlast,
        renameRun_renameRun hf hidem hw, renameRuns_of_ne_dash f (getLast?_ne_dash hrun),
        ← renameRuns_of_ne_dash f (getLast?_ne_dash hw), ih]
    · rw [if_neg hlast, renameRuns_append f hw hstart, if_neg hlast, ih]

end GenericFlag

/-! ## 3. Test bench runs -/

theorem Text.takeWhile_ne_dash_word {w : Name} (hw : IsIdentifier w) (t : Text) :
    (w ++ t).takeWhile (· ≠ '-') = w ++ t.takeWhile (· ≠ '-') := by
  apply List.takeWhile_append_of_pos
  intro c hc
  exact decide_eq_true fun hdash => absurd (hdash ▸ hw.2 c hc) (by decide)

theorem Text.takeWhile_ne_dash_blanks {b : Text} (hb : AllBlank b) (t : Text) :
    (b ++ t).takeWhile (· ≠ '-') = b ++ t.takeWhile (· ≠ '-') := by
  apply List.takeWhile_append_of_pos
  intro c hc
  exact decide_eq_true fun hdash => absurd (hdash ▸ hb c hc) (by decide)

namespace LineShape

/-- The test bench that a line runs. -/
def testbenchName? (code : Text) : Option Name :=
  (testbenchRun? code).bind (·.group? 1)

theorem map_group_testbenchRun? (code : Text) :
    (testbenchRun? code).map (·.group? 1) = (testbenchName? code).map some := by
  rw [testbenchName?]
  cases h : testbenchRun? code with
  | none => rfl
  | some capture =>
    simp only [testbenchRun?, Option.bind_eq_bind, Option.bind_eq_some_iff] at h
    rcases h with ⟨_, -, _, -, _, -, _, -, hcapture⟩
    rcases Option.some.inj hcapture with rfl
    rfl

/-- Whether `create_tb_run "NAME"` comes first in a line, for the given name. -/
def RunsTestbench (code : Text) (name : Name) : Prop :=
  ∃ b k b₁ rest, code = b ++ (k ++ (b₁ ++ '"' :: (name ++ '"' :: rest))) ∧ AllBlank b ∧
    Spells "create_tb_run".toList k ∧ AllBlank b₁ ∧ IsIdentifier name

theorem isKeyword_create_tb_run : IsKeyword "create_tb_run".toList := isKeyword_of_mem _ (by decide)

theorem testbenchName?_eq_some {code : Text} {name : Name} :
    testbenchName? code = some name ↔ RunsTestbench code name := by
  constructor
  · intro h
    simp only [testbenchName?, testbenchRun?, Option.bind_eq_bind, Option.bind_eq_some_iff] at h
    rcases h with
      ⟨_, ⟨behind, hkeyword, start, hopen, ⟨found, tail⟩, hword, rest, hclose, hcapture⟩, hgroup⟩
    rcases Option.some.inj hcapture with rfl
    have hsame : found = name := Option.some.inj hgroup
    subst hsame
    rcases exists_allBlank_append code with ⟨b, hb, hcode⟩
    rcases skipKeyword?_eq_some.mp hkeyword with ⟨k, hk, hbehind⟩
    rcases exists_allBlank_append behind with ⟨b₁, hb₁, hstart⟩
    rcases word?_eq_some.mp hword with ⟨hname, hfound, -⟩
    have htail : tail = '"' :: rest := skipChar?_eq_some.mp hclose
    rw [skipChar?_eq_some.mp hopen, hname, htail] at hstart
    exact ⟨b, k, b₁, rest, by rw [← hstart, ← hbehind]; exact hcode, hb, hk, hb₁, hfound⟩
  · rintro ⟨b, k, b₁, rest, rfl, hb, hk, hb₁, hname⟩
    have hskip : skipBlanks (k ++ (b₁ ++ '"' :: (name ++ '"' :: rest))) =
        k ++ (b₁ ++ '"' :: (name ++ '"' :: rest)) :=
      skipBlanks_of_startsWord (startsWord_append (isKeyword_create_tb_run.isIdentifier hk) _)
    have hword : word? (name ++ '"' :: rest) = some (name, '"' :: rest) := word?_append hname rfl
    simp only [testbenchName?, testbenchRun?, skipBlanks_append hb, hskip,
      skipKeyword?_eq_some.mpr ⟨k, hk, rfl⟩, skipBlanks_append hb₁,
      skipBlanks_cons (by decide : isBlank '"' = false), skipChar?_eq_some.mpr rfl, hword,
      Option.bind_eq_bind, Option.bind_some]
    rfl

/-- What comes before the first dash of a line tells whether it runs a test bench. -/
theorem runsTestbench_takeWhile {code : Text} {name : Name} :
    RunsTestbench (code.takeWhile (· ≠ '-')) name ↔ RunsTestbench code name := by
  constructor
  · rintro ⟨b, k, b₁, rest, heq, hb, hk, hb₁, hname⟩
    refine ⟨b, k, b₁, rest ++ code.dropWhile (· ≠ '-'), ?_, hb, hk, hb₁, hname⟩
    calc code
        _ = code.takeWhile (· ≠ '-') ++ code.dropWhile (· ≠ '-') :=
          List.takeWhile_append_dropWhile.symm
        _ = _ := by rw [heq]; simp
  · rintro ⟨b, k, b₁, rest, rfl, hb, hk, hb₁, hname⟩
    refine ⟨b, k, b₁, rest.takeWhile (· ≠ '-'), ?_, hb, hk, hb₁, hname⟩
    rw [takeWhile_ne_dash_blanks hb,
      takeWhile_ne_dash_word (isKeyword_create_tb_run.isIdentifier hk),
      takeWhile_ne_dash_blanks hb₁, List.takeWhile_cons_of_pos (by decide),
      takeWhile_ne_dash_word hname, List.takeWhile_cons_of_pos (by decide)]

end LineShape

/-- The first flag stands behind the first dash. -/
theorem GenericFlag.takeWhile_renameRuns (f : Name → Name) (t : Text) {last : Option Char}
    (hlast : last ≠ some '-') :
    (renameRuns f last (runs t)).takeWhile (· ≠ '-') = t.takeWhile (· ≠ '-') := by
  induction t using word_induction generalizing last with
  | nil => rfl
  | gap c t hc ih =>
    rw [renameRuns_cons f hc]
    by_cases hdash : c = '-'
    · rw [List.takeWhile_cons_of_neg (by simp [hdash]),
        List.takeWhile_cons_of_neg (by simp [hdash])]
    · rw [List.takeWhile_cons_of_pos (by simp [hdash]),
        List.takeWhile_cons_of_pos (by simp [hdash]), ih (by simpa using hdash)]
  | word w t hw ht ih =>
    rw [renameRuns_append f hw ht, if_neg hlast, takeWhile_ne_dash_word hw,
      takeWhile_ne_dash_word hw, ih (getLast?_ne_dash hw)]

namespace Pass

theorem testbenchMarkers_move_rename (db : Database) (component : Name) (code : Text)
    (cursor : Cursor) :
    testbenchMarkers.move (GenericFlag.rename db component code) cursor =
      testbenchMarkers.move code cursor := by
  have hname : LineShape.testbenchName? (GenericFlag.rename db component code) =
      LineShape.testbenchName? code := by
    apply Option.ext
    intro name
    rw [LineShape.testbenchName?_eq_some, LineShape.testbenchName?_eq_some,
      ← LineShape.runsTestbench_takeWhile, GenericFlag.rename,
      GenericFlag.takeWhile_renameRuns _ _ (by decide), LineShape.runsTestbench_takeWhile]
  rw [testbenchMarkers, enter_move .testbenchRun 1 (LineShape.map_group_testbenchRun? _),
    enter_move .testbenchRun 1 (LineShape.map_group_testbenchRun? _), hname]

/-! ## 4. A whole text -/

/-- Whether a second run of a pass leaves what the first has made of a text, with the same
cursor on every line. -/
def SettlesAtOnce (pass : Pass) (lead : Name) (db : Database) (t : Text) : Prop :=
  ∃ u, Passes.run [pass] lead db t = .ok u ∧ Passes.run [pass] lead db u = .ok u ∧
    pass.cursors lead {} (lines u) = pass.cursors lead {} (lines t)

section SettlesAtOnce

variable {pass : Pass} {db : Database} {lead : Name} (hfilled : db.isEmpty = false)
  (hnames : ∀ v ∈ db.newNames, IsIdentifier v)

include hfilled hnames

theorem settlesAtOnce
    (hmove : ∀ cursor code start, pass.move lead (pass.rename db cursor code) start =
      pass.move lead code start)
    (hrename : ∀ cursor code, pass.rename db cursor (pass.rename db cursor code) =
      pass.rename db cursor code)
    (t : Text) : pass.SettlesAtOnce lead db t := by
  have hpass : ∀ cursor ∈ pass.cursors lead {} (lines t), pass.Respells db cursor ∧
      ∀ code start, pass.move lead (pass.rename db cursor code) start = pass.move lead code start :=
    fun cursor _ => ⟨respells hnames pass cursor, hmove cursor⟩
  have hline : ∀ cursor line,
      pass.renameLine db cursor (pass.renameLine db cursor line) =
        pass.renameLine db cursor line := by
    intro cursor line
    rw [renameLine_renameLine_of_respells (respells hnames pass cursor), hrename, renameLine]
  have hagain : pass.apply lead db (pass.apply lead db t) = pass.apply lead db t := by
    rw [apply_apply_of_move hpass]
    simp only [hline]
    rw [← applyLines_eq, ← apply]
  refine ⟨pass.apply lead db t, Passes.run_eq_ok hfilled [pass] lead t, ?_,
    cursors_apply_of_move rfl hpass⟩
  rw [Passes.run_eq_ok hfilled]
  exact congrArg Except.ok hagain

theorem settlesAtOnce_of_exact (hpass : pass ∈ [declarations, instantiations])
    (hidem : ∀ scope w, db.lookup .exact scope (db.lookup .exact scope w) =
      db.lookup .exact scope w) (t : Text) :
    pass.SettlesAtOnce lead db t := by
  have hkeep := db.keepsWords hnames .exact
  apply settlesAtOnce hfilled hnames
  · exact move_rename hnames hpass lead
  · intro cursor code
    simp only [List.mem_cons, List.not_mem_nil, or_false] at hpass
    -- outside of an entity or a list, neither of the passes does anything
    by_cases hinside : cursor.inside = true
    · rcases hpass with rfl | rfl
      · simp only [rename, if_pos hinside]
        exact rename_rename_of_split? Declaration.rename_eq_self_of_lookup
          (Declaration.split?_rename (hkeep _)) (hidem _) code
      · simp only [rename, if_pos hinside]
        exact rename_rename_of_split? Association.rename_eq_self_of_lookup
          (Association.split?_rename (hkeep _)) (hidem _) code
    · rcases hpass with rfl | rfl <;> simp only [rename, if_neg hinside]

theorem settlesAtOnce_simConfig
    (hidem : ∀ scope w, db.lookup .folded scope (db.lookup .folded scope w) =
      db.lookup .folded scope w) (t : Text) :
    simConfig.SettlesAtOnce lead db t := by
  apply settlesAtOnce hfilled hnames
  · intro cursor code start
    exact testbenchMarkers_move_rename db cursor.component code start
  · intro cursor code
    exact GenericFlag.renameRuns_renameRuns (db.keepsWords hnames .folded cursor.component)
      (hidem _) code none

end SettlesAtOnce

/-- Over every text, a second run of a single pass changes nothing. For declarations and for
instantiations it is enough that no table has another new name for a new name of its own; for the
flags of a simulator script, that a folded look-up of a new name gives it back wherever it can
have come from. -/
theorem single_pass_settles_at_once {db : Database} (hfilled : db.isEmpty = false) (lead : Name)
    (t : Text) :
    ((∀ v ∈ db.newNames, IsIdentifier v) →
      (∀ table ∈ db.scopes.values, ∀ v ∈ table.values, v ∉ table.keys ∨ table.get? v = some v) →
      ∀ pass ∈ [declarations, instantiations], pass.SettlesAtOnce lead db t) ∧
    ((∀ scope v, db.IsNewNameOf scope v ∨ db.IsNewNameOf fallbackScope v →
        IsIdentifier v ∧ db.lookup .folded scope v = v) →
      simConfig.SettlesAtOnce lead db t) := by
  constructor
  · intro hnames hkeys pass hpass
    exact settlesAtOnce_of_exact hfilled hnames hpass (db.lookup_exact_exact hkeys) t
  · intro hfixed
    have hnames : ∀ v ∈ db.newNames, IsIdentifier v := by
      intro v hv
      rcases Database.exists_isNewNameOf hv with ⟨scope, hscope⟩
      exact (hfixed scope v (.inl hscope)).1
    have hidem := db.lookup_folded_lookup_folded fun scope v hv => (hfixed scope v hv).2
    exact settlesAtOnce_simConfig hfilled hnames hidem t

/-- Two new names are keywords, and the text has lists and entities that open and close at odd
places. A new name may be a key of its table, if the key has itself for a new name. -/
theorem single_pass_settles_at_once_malformed :
    let db : Database :=
      ⟨.ofList [("c".toList, .ofList [("Clk".toList, "clk_i".toList), ("rst".toList, "is".toList),
        ("clk_i".toList, "clk_i".toList)]),
      (fallbackScope, .ofList [("q".toList, "entity".toList)])]⟩
    let t := ("entity c is -- Clk : x\n  Clk : in\nrst : entity x.c port map\n" ++
      "port map ( Clk => Clk\n  rst(0) => entity c is\nend entity create_tb_run \"c\" -gclk").toList
    let script := "-gQ create_tb_run \"d\"\n create_tb_run \"c\"-gCLK_I -gq-gQ # -gq\n".toList
    db.isEmpty = false ∧ (∀ v ∈ db.newNames, IsIdentifier v ∧ db.Fixes v) ∧
      (∀ table ∈ db.scopes.values, ∀ v ∈ table.values, v ∉ table.keys ∨ table.get? v = some v) ∧
      declarations.SettlesAtOnce [] db t ∧ instantiations.SettlesAtOnce [] db t ∧
      simConfig.SettlesAtOnce [] db script ∧
      (∀ pass ∈ [declarations, instantiations], Passes.run [pass] [] db t ≠ .ok t) ∧
      Passes.run [simConfig] [] db script ≠ .ok script := by
  repeat rw [String.toList_append]
  repeat rw [String.toList_ofList]
  intro db t script
  have hfilled : db.isEmpty = false := by decide +kernel
  have hnames : ∀ v ∈ db.newNames, IsIdentifier v ∧ db.Fixes v := by decide +kernel
  have hkeys : ∀ table ∈ db.scopes.values, ∀ v ∈ table.values,
      v ∉ table.keys ∨ table.get? v = some v := by
    decide +kernel
  have hfixed : ∀ scope v, db.IsNewNameOf scope v ∨ db.IsNewNameOf fallbackScope v →
      IsIdentifier v ∧ db.lookup .folded scope v = v := by
    intro scope v hv
    have hmem : v ∈ db.newNames := hv.elim (·.mem_newNames) (·.mem_newNames)
    exact ⟨(hnames v hmem).1, (hnames v hmem).2.lookup_folded scope⟩
  have hsource := (single_pass_settles_at_once hfilled [] t).1 (fun v hv => (hnames v hv).1) hkeys
  exact ⟨hfilled, hnames, hkeys, hsource declarations (by decide),
    hsource instantiations (by decide),
    (single_pass_settles_at_once hfilled [] script).2 hfixed, by decide +kernel, by decide +kernel⟩

end Pass

end Relabel

import Relabel.Proofs.Readings
import Relabel.Proofs.Units

/-!
# Harvests block by block

A harvest is made under a cursor that entities open and close, that moves from one component to
another and comes back, while the table of a component is emptied whenever it is started again. All
this comes to one block of lines for each component: it goes from the last line that starts the
component up to the next line that starts or ends an entity. The lines of interest and the name that
each of them declares are told by their shapes.
-/

namespace Relabel

open Text

/-! ## 1. Lines that end an entity -/

namespace LineShape

/-- Whether `end entity` comes first in a line. -/
def EndsEntity (code : Text) : Prop :=
  ∃ b k b₁ e rest, code = b ++ (k ++ (b₁ ++ (e ++ rest))) ∧ AllBlank b ∧ Spells "end".toList k ∧
    AllBlank b₁ ∧ b₁ ≠ [] ∧ Spells "entity".toList e

theorem endsEntity_iff {code : Text} : endsEntity (leadingWords code) = true ↔ EndsEntity code := by
  rw [← isSome_entityEnd?, Option.isSome_iff_exists]
  constructor
  · rintro ⟨capture, h⟩
    simp only [entityEnd?, bind, pure, Option.bind_eq_some_iff] at h
    rcases h with ⟨behind, hend, start, hblanks, rest, hentity, -⟩
    rcases exists_allBlank_append code with ⟨b, hb, hcode⟩
    rcases skipKeyword?_eq_some.mp hend with ⟨k, hk, hskip⟩
    rcases exists_of_skipSomeBlanks? hblanks with ⟨b₁, hb₁, hne, rfl⟩
    rcases skipKeyword?_eq_some.mp hentity with ⟨e, he, rfl⟩
    exact ⟨b, k, b₁, e, rest, by rw [← hskip]; exact hcode, hb, hk, hb₁, hne, he⟩
  · rintro ⟨b, k, b₁, e, rest, rfl, hb, hk, hb₁, hne, he⟩
    have hkWord := isKeyword_end.isIdentifier hk
    have heWord := isKeyword_entity.isIdentifier he
    simp only [entityEnd?, bind, pure, skipBlanks_append hb,
      skipBlanks_of_startsWord (startsWord_append hkWord _), skipKeyword?_eq_some.mpr ⟨k, hk, rfl⟩,
      Option.bind_some, skipSomeBlanks?_append hb₁ hne,
      skipBlanks_of_startsWord (startsWord_append heWord _), skipKeyword?_eq_some.mpr ⟨e, he, rfl⟩]
    exact ⟨_, rfl⟩

end LineShape

namespace Harvest

open LineShape Declaration

/-! ## 2. The first declared name of a line -/

/-- Whether `name`, blanks and a colon follow `front` in a line. -/
def DeclaresBehind (front code : Text) (name : Name) : Prop :=
  ∃ b rest, code = front ++ (name ++ (b ++ ':' :: rest)) ∧ IsIdentifier name ∧ AllBlank b

/-- Whether a name is the leftmost in a line that blanks and a colon follow. -/
def DeclaresFirst (code : Text) (name : Name) : Prop :=
  ∃ front, DeclaresBehind front code name ∧
    ∀ front' name', DeclaresBehind front' code name' → front.length ≤ front'.length

theorem followsName_iff_exists {t : Text} :
    followsName t ↔ ∃ b rest, t = b ++ ':' :: rest ∧ AllBlank b := by
  constructor
  · intro h
    rcases followsName_iff.mp h with ⟨rest, hskip⟩
    rcases exists_allBlank_append t with ⟨b, hb, ht⟩
    exact ⟨b, rest, by rw [← hskip]; exact ht, hb⟩
  · rintro ⟨b, rest, rfl, hb⟩
    rw [followsName_append_of_allBlank hb, followsName, skipBlanks_cons (by decide)]
    rfl

theorem declaresBehind_iff {front code : Text} {name : Name} :
    DeclaresBehind front code name ↔
      ∃ t, code = front ++ (name ++ t) ∧ IsIdentifier name ∧ startsWord t = false ∧
        followsName t := by
  constructor
  · rintro ⟨b, rest, rfl, hname, hb⟩
    exact ⟨_, rfl, hname, startsWord_append_of_gap hb (by decide : isWord ':' = false),
      followsName_iff_exists.mpr ⟨b, rest, rfl, hb⟩⟩
  · rintro ⟨t, rfl, hname, -, hfollows⟩
    rcases followsName_iff_exists.mp hfollows with ⟨b, rest, rfl, hb⟩
    exact ⟨b, rest, rfl, hname, hb⟩

theorem not_declaresBehind_nil {front : Text} {name : Name} : ¬ DeclaresBehind front [] name := by
  rintro ⟨b, rest, h, -, -⟩
  simp at h

/-- A character between words stands in front of every declared name. -/
theorem declaresBehind_cons {c : Char} (hc : isWord c = false) {front t : Text} {name : Name} :
    DeclaresBehind front (c :: t) name ↔
      ∃ front', front = c :: front' ∧ DeclaresBehind front' t name := by
  constructor
  · rintro ⟨b, rest, heq, hname, hb⟩
    cases front with
    | nil =>
      have hstart := startsWord_append hname (b ++ ':' :: rest)
      rw [← List.nil_append (name ++ _), ← heq, startsWord, hc] at hstart
      contradiction
    | cons d front =>
      rcases List.cons.inj heq with ⟨rfl, rfl⟩
      exact ⟨front, rfl, b, rest, rfl, hname, hb⟩
  · rintro ⟨front', rfl, b, rest, rfl, hname, hb⟩
    exact ⟨b, rest, rfl, hname, hb⟩

/-- So does a word that no colon follows. -/
theorem declaresBehind_append {w t : Text} (hw : IsIdentifier w) (ht : startsWord t = false)
    (hno : ¬ followsName t) {front : Text} {name : Name} :
    DeclaresBehind front (w ++ t) name ↔
      ∃ front', front = w ++ front' ∧ DeclaresBehind front' t name := by
  constructor
  · intro h
    rcases declaresBehind_iff.mp h with ⟨u, heq, hname, hu, hfollows⟩
    rcases List.append_eq_append_iff.mp heq with ⟨x, rfl, rfl⟩ | ⟨x, rfl, hx⟩
    · exact ⟨x, rfl, declaresBehind_iff.mpr ⟨u, rfl, hname, hu, hfollows⟩⟩
    · -- the name would start inside `w`, or right behind it
      cases x with
      | nil =>
        exact ⟨[], by simp, declaresBehind_iff.mpr ⟨u, by simpa using hx.symm, hname, hu, hfollows⟩⟩
      | cons c x =>
        have hsuffix : IsIdentifier (c :: x) :=
          ⟨List.cons_ne_nil c x, fun d hd => hw.2 d (List.mem_append_right front hd)⟩
        have hfirst := word?_append hname hu
        rw [hx, word?_append hsuffix ht] at hfirst
        rcases Prod.mk.inj (Option.some.inj hfirst) with ⟨-, rfl⟩
        exact absurd hfollows hno
  · rintro ⟨front', rfl, b, rest, rfl, hname, hb⟩
    exact ⟨b, rest, by rw [List.append_assoc], hname, hb⟩

theorem declaresFirst_of_declared? {code : Text} {name : Name} (h : declared? code = some name) :
    DeclaresFirst code name := by
  induction code using word_induction with
  | nil => contradiction
  | gap c t hc ih =>
    rcases ih (declared?_cons hc t ▸ h) with ⟨front, hbehind, hfirst⟩
    refine ⟨c :: front, (declaresBehind_cons hc).mpr ⟨front, rfl, hbehind⟩, ?_⟩
    intro front' name' hother
    rcases (declaresBehind_cons hc).mp hother with ⟨tail, rfl, htail⟩
    exact Nat.succ_le_succ (hfirst tail name' htail)
  | word w t hw ht ih =>
    by_cases hfollows : followsName t
    · rw [declared?_append_of_follows hw hfollows] at h
      rcases Option.some.inj h with rfl
      exact ⟨[], declaresBehind_iff.mpr ⟨t, rfl, hw, ht, hfollows⟩, fun _ _ _ => Nat.zero_le _⟩
    · rcases ih (declared?_append_of_not_follows hw ht hfollows ▸ h) with ⟨front, hbehind, hfirst⟩
      refine ⟨w ++ front, (declaresBehind_append hw ht hfollows).mpr ⟨front, rfl, hbehind⟩, ?_⟩
      intro front' name' hother
      rcases (declaresBehind_append hw ht hfollows).mp hother with ⟨tail, rfl, htail⟩
      have hle := hfirst tail name' htail
      simp only [List.length_append]
      omega

theorem not_declaresBehind_of_declared? {code : Text} (h : declared? code = none) (front : Text)
    (name : Name) :
    ¬ DeclaresBehind front code name := by
  induction code using word_induction generalizing front with
  | nil => exact not_declaresBehind_nil
  | gap c t hc ih =>
    rw [declaresBehind_cons hc]
    rintro ⟨front', rfl, h'⟩
    exact ih (declared?_cons hc t ▸ h) front' h'
  | word w t hw ht ih =>
    by_cases hfollows : followsName t
    · rw [declared?_append_of_follows hw hfollows] at h
      contradiction
    · rw [declaresBehind_append hw ht hfollows]
      rintro ⟨front', rfl, h'⟩
      exact ih (declared?_append_of_not_follows hw ht hfollows ▸ h) front' h'

theorem DeclaresFirst.unique {code : Text} {name name' : Name} (h : DeclaresFirst code name)
    (h' : DeclaresFirst code name') : name = name' := by
  rcases h with ⟨front, hbehind, hfirst⟩
  rcases h' with ⟨front', hbehind', hfirst'⟩
  have hlength : front.length = front'.length :=
    Nat.le_antisymm (hfirst front' name' hbehind') (hfirst' front name hbehind)
  rcases declaresBehind_iff.mp hbehind with ⟨t, heq, hname, ht, -⟩
  rcases declaresBehind_iff.mp hbehind' with ⟨t', heq', hname', ht', -⟩
  -- at the same place the same word is read
  have hword := (List.append_inj (heq.symm.trans heq') hlength).2
  have hread := word?_append hname ht
  rw [hword, word?_append hname' ht'] at hread
  exact (Prod.mk.inj (Option.some.inj hread)).1.symm

theorem declared?_eq_some_iff {code : Text} {name : Name} :
    declared? code = some name ↔ DeclaresFirst code name := by
  constructor
  · exact declaresFirst_of_declared?
  · intro h
    cases hcode : declared? code with
    | none =>
      rcases h with ⟨front, hbehind, -⟩
      exact absurd hbehind (not_declaresBehind_of_declared? hcode front name)
    | some other => rw [(declaresFirst_of_declared? hcode).unique h]

/-! ## 3. Names read off lines -/

/-- The names that some lines give, one from each line that gives one. -/
inductive Gives (P : Text → Name → Prop) : List Text → List Name → Prop
  | nil : Gives P [] []
  | name {line : Text} {name : Name} {ls : List Text} {names : List Name} (h : P line name)
      (hrest : Gives P ls names) : Gives P (line :: ls) (name :: names)
  | skip {line : Text} {ls : List Text} {names : List Name} (h : ∀ name, ¬ P line name)
      (hrest : Gives P ls names) : Gives P (line :: ls) names

theorem gives_iff {P : Text → Name → Prop} {f : Text → Option Name}
    (hf : ∀ line name, f line = some name ↔ P line name) {ls : List Text} {names : List Name} :
    Gives P ls names ↔ names = ls.filterMap f := by
  constructor
  · intro h
    induction h with
    | nil => rfl
    | name h hrest ih => rw [List.filterMap_cons_some ((hf _ _).mpr h), ih]
    | skip h hrest ih =>
      have hnone : f _ = none :=
        Option.eq_none_iff_forall_ne_some.mpr fun name => mt (hf _ name).mp (h name)
      rw [List.filterMap_cons_none hnone, ih]
  · rintro rfl
    induction ls with
    | nil => exact .nil
    | cons line ls ih =>
      cases hline : f line with
      | none =>
        rw [List.filterMap_cons_none hline]
        exact .skip (fun name h => by rw [(hf line name).mpr h] at hline; contradiction) ih
      | some name =>
        rw [List.filterMap_cons_some hline]
        exact .name ((hf line name).mp hline) ih

/-! ## 4. The last block of a component -/

/-- Whether a line starts the entity of the given name. -/
def StartsEntity (line : Text) (name : Name) : Prop :=
  Names "entity".toList (code line) name

/-- Whether a line starts an entity or ends one. -/
def IsBoundary (line : Text) : Prop :=
  (∃ name, StartsEntity line name) ∨ EndsEntity (code line)

/-- The lines from the last one that starts `c` up to the next boundary, or up to the end. -/
def IsLastBlock (c : Name) (ls block : List Text) : Prop :=
  ∃ before first more rest, ls = before ++ (first :: (more ++ rest)) ∧ block = first :: more ∧
    StartsEntity first c ∧ (∀ line ∈ more ++ rest, ¬ StartsEntity line c) ∧
    (∀ line ∈ more, ¬ IsBoundary line) ∧ ∀ line, rest.head? = some line → IsBoundary line

/-- The entity that a line starts. -/
def entity? (line : Text) : Option Name :=
  entityName? (leadingWords (code line))

theorem entity?_eq_some_iff {line : Text} {name : Name} :
    entity? line = some name ↔ StartsEntity line name :=
  keywordThen_eq_some_iff isKeyword_entity

def isBoundary (line : Text) : Bool :=
  (entity? line).isSome || endsEntity (leadingWords (code line))

theorem isBoundary_iff {line : Text} : isBoundary line = true ↔ IsBoundary line := by
  rw [isBoundary, Bool.or_eq_true, Option.isSome_iff_exists, endsEntity_iff, IsBoundary]
  simp only [entity?_eq_some_iff]

theorem exists_isLastBlock {c : Name} {ls : List Text} (h : ∃ line ∈ ls, StartsEntity line c) :
    ∃ block, IsLastBlock c ls block := by
  induction ls with
  | nil => simp at h
  | cons line ls ih =>
    by_cases hlater : ∃ line ∈ ls, StartsEntity line c
    · rcases ih hlater with ⟨block, before, first, more, rest, rfl, hblock⟩
      exact ⟨block, line :: before, first, more, rest, rfl, hblock⟩
    · -- the line is the last to start `c`; its block ends in front of the first boundary behind it
      have hline : StartsEntity line c := by simpa [hlater] using h
      refine ⟨line :: ls.takeWhile (!isBoundary ·), [], line, _, ls.dropWhile (!isBoundary ·), ?_,
        rfl, hline, ?_, ?_, ?_⟩
      · rw [List.takeWhile_append_dropWhile, List.nil_append]
      · rw [List.takeWhile_append_dropWhile]
        exact fun line hmem hstarts => hlater ⟨line, hmem, hstarts⟩
      · intro line hmem
        have hno := List.mem_takeWhile_imp hmem
        rw [← isBoundary_iff]
        simpa using hno
      · intro line hhead
        have hstop := List.head?_dropWhile_not (!isBoundary ·) ls
        rw [hhead] at hstop
        rw [← isBoundary_iff]
        simpa using hstop

/-! ## 5. What the cursor collects for a component -/

/-- What is read off lines, from a cursor on. -/
def readingsFrom (cursor : Cursor) (ls : List Text) : List Reading :=
  readings (Pass.declarations.cursors [] cursor ls) ls

theorem readingsFrom_cons (cursor : Cursor) (line : Text) (ls : List Text) :
    readingsFrom cursor (line :: ls) =
      read (Pass.entityMarkers.move (code line) cursor) (code line) ::
        readingsFrom (Pass.entityMarkers.move (code line) cursor) ls :=
  rfl

theorem move_of_startsEntity {line : Text} {c : Name} (h : StartsEntity line c) (cursor : Cursor) :
    Pass.entityMarkers.move (code line) cursor = ⟨c, true⟩ := by
  have hname : entityName? (leadingWords (code line)) = some c := entity?_eq_some_iff.mpr h
  rw [Pass.entityMarkers_move, hname]

theorem starts_eq_isSome_entity? (line : Text) : starts (code line) = (entity? line).isSome :=
  starts_eq (code line)

theorem move_of_not_isBoundary {line : Text} (h : ¬ IsBoundary line) (cursor : Cursor) :
    Pass.entityMarkers.move (code line) cursor = cursor := by
  rw [← isBoundary_iff, isBoundary, Bool.not_eq_true, Bool.or_eq_false_iff,
    Option.isSome_eq_false_iff, Option.isNone_iff_eq_none] at h
  have hname : entityName? (leadingWords (code line)) = none := h.1
  rw [Pass.entityMarkers_move, hname, h.2]
  rfl

/-- Whether a cursor is not inside of `c`. -/
def Away (c : Name) (cursor : Cursor) : Prop :=
  cursor.inside = true → cursor.component ≠ c

theorem Away.move {c : Name} {cursor : Cursor} (h : Away c cursor) {line : Text}
    (hno : ¬ StartsEntity line c) :
    Away c (Pass.entityMarkers.move (code line) cursor) := by
  rw [Pass.entityMarkers_move]
  cases hname : entityName? (leadingWords (code line)) with
  | some name =>
    rintro - rfl
    exact hno (entity?_eq_some_iff.mp hname)
  | none =>
    dsimp only
    split
    · exact fun hinside => absurd hinside Bool.false_ne_true
    · exact h

theorem away_move_of_isBoundary {c : Name} {line : Text} (h : IsBoundary line)
    (hno : ¬ StartsEntity line c) (cursor : Cursor) :
    Away c (Pass.entityMarkers.move (code line) cursor) := by
  rw [← isBoundary_iff, isBoundary, Bool.or_eq_true] at h
  rw [Pass.entityMarkers_move]
  cases hname : entityName? (leadingWords (code line)) with
  | some name =>
    rintro - rfl
    exact hno (entity?_eq_some_iff.mp hname)
  | none =>
    -- a boundary that starts nothing closes the entity
    have hend := h.resolve_left (by rw [entity?, hname]; exact Bool.false_ne_true)
    dsimp only
    rw [if_pos hend]
    exact fun hinside => absurd hinside Bool.false_ne_true

theorem collect_read_of_away {c : Name} {cursor : Cursor} {line : Text}
    (h : Away c (Pass.entityMarkers.move (code line) cursor)) (names? : Option (List Name)) :
    collect c names? (read (Pass.entityMarkers.move (code line) cursor) (code line)) = names? := by
  by_cases hc : (Pass.entityMarkers.move (code line) cursor).component = c
  · -- the line is outside of every entity, so it starts none and declares nothing
    have hinside : ¬ (Pass.entityMarkers.move (code line) cursor).inside = true :=
      fun hinside => h hinside hc
    have hstarts : ¬ starts (code line) = true :=
      fun hstarts => hinside (inside_move hstarts cursor)
    simp [collect, read, hc, hinside, hstarts]
  · simp [collect, read, hc]

theorem foldl_collect_of_away {c : Name} {cursor : Cursor} (h : Away c cursor) {ls : List Text}
    (hls : ∀ line ∈ ls, ¬ StartsEntity line c) (names? : Option (List Name)) :
    (readingsFrom cursor ls).foldl (collect c) names? = names? := by
  induction ls generalizing cursor with
  | nil => rfl
  | cons line ls ih =>
    have hmove := h.move (hls line List.mem_cons_self)
    rw [readingsFrom_cons, List.foldl_cons, collect_read_of_away hmove]
    exact ih hmove fun line hline => hls line (List.mem_cons_of_mem _ hline)

theorem foldl_collect_block {c : Name} {more : List Text} (hmore : ∀ line ∈ more, ¬ IsBoundary line)
    (rest : List Text) (names : List Name) :
    (readingsFrom ⟨c, true⟩ (more ++ rest)).foldl (collect c) (some names) =
      (readingsFrom ⟨c, true⟩ rest).foldl (collect c)
        (some (names ++ more.filterMap (declared? <| code ·))) := by
  induction more generalizing names with
  | nil => rw [List.filterMap_nil, List.append_nil, List.nil_append]
  | cons line more ih =>
    have hline := hmore line List.mem_cons_self
    have hstarts : ¬ starts (code line) = true := by
      rw [starts_eq_isSome_entity?]
      intro hsome
      rcases Option.isSome_iff_exists.mp hsome with ⟨name, hname⟩
      exact hline (.inl ⟨name, entity?_eq_some_iff.mp hname⟩)
    have hcollect : collect c (some names) (read ⟨c, true⟩ (code line)) =
        some (names ++ (declared? (code line)).toList) := by
      simp [collect, read, hstarts]
    rw [List.cons_append, readingsFrom_cons, move_of_not_isBoundary hline, List.foldl_cons,
      hcollect, ih fun line hline => hmore line (List.mem_cons_of_mem _ hline)]
    cases hdeclared : declared? (code line) <;> simp [hdeclared]

/-- Whatever has been read before, the names of a component are those of its last block. -/
theorem foldl_collect_of_isLastBlock {c : Name} {ls block : List Text} (h : IsLastBlock c ls block)
    (cursor : Cursor) (names? : Option (List Name)) :
    (readingsFrom cursor ls).foldl (collect c) names? =
      some (block.filterMap (declared? <| code ·)) := by
  rcases h with ⟨before, first, more, rest, rfl, rfl, hfirst, hno, hmore, hrest⟩
  induction before generalizing cursor names? with
  | cons line before ih =>
    rw [List.cons_append, readingsFrom_cons, List.foldl_cons]
    exact ih _ _
  | nil =>
    have hstarts : starts (code first) = true := by
      rw [starts_eq_isSome_entity?, entity?_eq_some_iff.mpr hfirst, Option.isSome_some]
    have hcollect : collect c names? (read ⟨c, true⟩ (code first)) =
        some (declared? (code first)).toList := by
      simp [collect, read, hstarts]
    rw [List.nil_append, readingsFrom_cons, move_of_startsEntity hfirst, List.foldl_cons, hcollect,
      foldl_collect_block hmore]
    have hblock : (declared? (code first)).toList ++ more.filterMap (declared? <| code ·) =
        (first :: more).filterMap (declared? <| code ·) := by
      cases hdeclared : declared? (code first) <;> simp [hdeclared]
    rw [hblock]
    -- the line that ends the block takes the cursor away, and no later line brings it back
    cases rest with
    | nil => rfl
    | cons line rest =>
      have hline := hno line (by simp)
      have hmove := away_move_of_isBoundary (hrest line rfl) hline ⟨c, true⟩
      rw [readingsFrom_cons, List.foldl_cons, collect_read_of_away hmove]
      exact foldl_collect_of_away hmove (fun line hmem => hno line (by simp [hmem])) _

theorem get?_ofText_of_isLastBlock {t : Text} {c : Name} {block : List Text}
    (h : IsLastBlock c (lines t) block) :
    (ofText t).get? c = some (.identity (block.filterMap (declared? <| code ·))) := by
  have hcollected := foldl_collect_of_isLastBlock h {} none
  rw [get?_ofText [], collected, ← readingsFrom, hcollected, Option.map_some]

theorem get?_ofText_of_not_started {t : Text} {c : Name}
    (h : ∀ line ∈ lines t, ¬ StartsEntity line c) :
    (ofText t).get? c = none := by
  have haway : Away c {} := fun hinside => absurd hinside Bool.false_ne_true
  rw [get?_ofText [], collected, ← readingsFrom, foldl_collect_of_away haway h, Option.map_none]

/-! ## 6. The components -/

theorem keys_foldl_absorb (sets : Declarations) (rs : List Reading) :
    (rs.foldl absorb sets).keys =
      (sets.keys ++ (rs.filter (·.opens)).map (·.component)).eraseDups := by
  induction rs generalizing sets with
  | nil => exact ((congrArg _ (List.append_nil _)).trans (eraseDups_of_nodup sets.keys_nodup)).symm
  | cons r rs ih =>
    rw [List.foldl_cons, ih, keys_absorb]
    by_cases hopens : r.opens = true
    · simp [hopens, eraseDups_eraseDups_append]
    · simp [hopens]

theorem map_component_readingsFrom (cursor : Cursor) (ls : List Text) :
    ((readingsFrom cursor ls).filter (·.opens)).map (·.component) = ls.filterMap entity? := by
  induction ls generalizing cursor with
  | nil => rfl
  | cons line ls ih =>
    rw [readingsFrom_cons]
    cases hline : entity? line with
    | none =>
      have hstarts : starts (code line) = false := by
        rw [starts_eq_isSome_entity?, hline, Option.isSome_none]
      simp [read, hstarts, hline, ih]
    | some name =>
      have hstarts : starts (code line) = true := by
        rw [starts_eq_isSome_entity?, hline, Option.isSome_some]
      have hmove := move_of_startsEntity (entity?_eq_some_iff.mp hline) cursor
      simp [read, hstarts, hline, hmove, ih]

theorem keys_ofText_eq_entities (t : Text) :
    (ofText t).keys = ((lines t).filterMap entity?).eraseDups := by
  rw [ofText_eq [], keys_foldl_absorb, ← readingsFrom, map_component_readingsFrom]
  rfl

/-- The components of a harvest are the entities that the lines of a text start, each where it is
started first. The table of a component has the names that the lines of its last block declare, one
from a line at most. -/
theorem ofText_eq_last_blocks (t : Text) :
    (∃ names, Gives StartsEntity (lines t) names ∧ (ofText t).keys = names.eraseDups) ∧
      ∀ c table, (ofText t).get? c = some table ↔
        ∃ block names, IsLastBlock c (lines t) block ∧
          Gives (fun line => DeclaresFirst (code line)) block names ∧
          table = .identity names := by
  have hgives : ∀ {block : List Text} {names : List Name},
      Gives (fun line => DeclaresFirst (code line)) block names ↔
        names = block.filterMap (declared? <| code ·) :=
    gives_iff fun _ _ => declared?_eq_some_iff
  refine ⟨⟨_, (gives_iff fun _ _ => entity?_eq_some_iff).mpr rfl, keys_ofText_eq_entities t⟩, ?_⟩
  intro c table
  constructor
  · intro h
    have hstarted : ∃ line ∈ lines t, StartsEntity line c := by
      by_contra hnone
      rw [get?_ofText_of_not_started fun line hline hstarts => hnone ⟨line, hline, hstarts⟩] at h
      contradiction
    rcases exists_isLastBlock hstarted with ⟨block, hblock⟩
    rw [get?_ofText_of_isLastBlock hblock] at h
    exact ⟨block, _, hblock, hgives.mpr rfl, (Option.some.inj h).symm⟩
  · rintro ⟨block, names, hblock, hnames, rfl⟩
    rw [get?_ofText_of_isLastBlock hblock, hgives.mp hnames]

-- `c` is started again behind `d`, on a line that declares a name itself; a comment starts nothing
example :
    ofText ("entity c is\n  a : in;\nentity d is port (x, y : in);\n  x: in; x : out\n" ++
      "entity c is b : in;\n  c: in\n-- entity c is\n  b , e :in\nend entity;\n  f : in\n").toList =
      .ofList [("c".toList, .identity ["b".toList, "c".toList, "e".toList]),
        ("d".toList, .identity ["y".toList, "x".toList])] := by
  repeat rw [String.toList_append]
  repeat rw [String.toList_ofList]
  decide +kernel

end Harvest

end Relabel

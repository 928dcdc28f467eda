import Relabel.Proofs.Declared
import Relabel.Proofs.Tables

/-!
# Harvests line by line

What a text declares is put together from one reading per line: the component that the line belongs
to, whether it starts the component, and the name it declares. The table of a component is the
identity table on the names read since its last start, and the components come in the order in which
the cursor has entered them.
-/

namespace Relabel.Harvest

open Text

/-- What is read off a line. -/
structure Reading where
  component : Name
  /-- The line starts an entity. -/
  opens : Bool
  name? : Option Name
deriving DecidableEq, Repr

/-- The reading of a code part under the cursor after it. -/
def read (cursor : Cursor) (code : Text) : Reading :=
  ⟨cursor.component, starts code, if cursor.inside then declared? code else none⟩

def readings (cs : List Cursor) (ls : List Text) : List Reading :=
  (cs.zip ls).map fun x => read x.1 (code x.2)

def absorb (sets : Declarations) (r : Reading) : Declarations :=
  let sets := if r.opens then sets.insert r.component ∅ else sets
  match r.name? with
  | some name => add sets r.component name
  | none => sets

theorem readings_zipWith {α : Type} (cursor : α → Cursor) (f : α → Text → Text) (xs : List α)
    (ls : List Text) :
    readings (xs.map cursor) (List.zipWith f xs ls) =
      (xs.zip ls).map fun x => read (cursor x.1) (code (f x.1 x.2)) := by
  induction xs generalizing ls with
  | nil => rfl
  | cons x xs ih =>
    cases ls with
    | nil => rfl
    | cons line ls =>
      simp only [readings] at ih
      simp only [readings, List.map_cons, List.zipWith_cons_cons, List.zip_cons_cons, ih]

/-! ## 1. One line -/

theorem step_eq (state : State) (code : Text) :
    step state code =
      ⟨absorb state.sets (read (Pass.entityMarkers.move code state.cursor) code),
        Pass.entityMarkers.move code state.cursor⟩ := by
  rw [step, absorb, read]
  split <;> simp_all

theorem cursors_cons (lead : Name) (state : State) (line : Text) (rest : List Text) :
    Pass.declarations.cursors lead state.cursor (line :: rest) =
      [(step state (code line)).cursor] ++
        Pass.declarations.cursors lead (step state (code line)).cursor rest := by
  rw [step_eq]
  rfl

theorem foldl_step (lead : Name) (ls : List Text) (state : State) :
    (ls.foldl (fun state line => step state (code line)) state).sets =
      (readings (Pass.declarations.cursors lead state.cursor ls) ls).foldl absorb state.sets := by
  induction ls generalizing state with
  | nil => rfl
  | cons line rest ih =>
    rw [List.foldl_cons, ih, step_eq]
    rfl

theorem ofText_eq (lead : Name) (t : Text) :
    ofText t =
      (readings (Pass.declarations.cursors lead {} (lines t)) (lines t)).foldl absorb ∅ :=
  foldl_step lead (lines t) {}

theorem cursors_declarations (lead : Name) (cursor : Cursor) (ls : List Text) :
    Pass.declarations.cursors lead cursor ls = Pass.declarations.cursors [] cursor ls := by
  induction ls generalizing cursor with
  | nil => rfl
  | cons line rest ih =>
    rw [Pass.cursors, Pass.cursors, ih]
    rfl

theorem starts_eq (code : Text) :
    starts code = (LineShape.entityName? (leadingWords code)).isSome := by
  have hgroup := congrArg Option.isSome (LineShape.map_group_entityStart? code)
  rw [Option.isSome_map, Option.isSome_map] at hgroup
  rw [← hgroup]
  cases hstart : LineShape.entityStart? code <;> cases hend : LineShape.entityEnd? code <;>
    simp [starts, Pass.entityMarkers, MarkerTable.match?, List.findSome?, LineShape.capture?,
      hstart, hend]

theorem inside_move {code : Text} (h : starts code = true) (cursor : Cursor) :
    (Pass.entityMarkers.move code cursor).inside = true := by
  rw [starts_eq] at h
  rcases Option.isSome_iff_exists.mp h with ⟨name, hname⟩
  rw [Pass.entityMarkers_move, hname]

/-- Inside an entity, a line that starts none leaves the cursor where it is. -/
theorem move_eq_self {code : Text} (h : starts code = false) {cursor : Cursor}
    (hinside : (Pass.entityMarkers.move code cursor).inside = true) :
    Pass.entityMarkers.move code cursor = cursor := by
  rw [starts_eq, Option.isSome_eq_false_iff, Option.isNone_iff_eq_none] at h
  rw [Pass.entityMarkers_move, h] at hinside ⊢
  dsimp only at hinside ⊢
  split at hinside
  · contradiction
  · rename_i hend
    rw [if_neg hend]

/-! ## 2. The table of a component -/

/-- Reads one more line into the names of `c`; before its first start, `c` has none. -/
def collect (c : Name) (names? : Option (List Name)) (r : Reading) : Option (List Name) :=
  if r.component = c then
    (if r.opens then some [] else names?).map (· ++ r.name?.toList)
  else names?

/-- The names of `c`, from its last start on and with repetitions. -/
def collected (c : Name) (rs : List Reading) : Option (List Name) :=
  rs.foldl (collect c) none

theorem collected_concat (c : Name) (rs : List Reading) (r : Reading) :
    collected c (rs ++ [r]) = collect c (collected c rs) r := by
  rw [collected, List.foldl_append, List.foldl_cons, List.foldl_nil, collected]

theorem get?_add_of_ne {sets : Declarations} {component c : Name} (name : Name)
    (hne : component ≠ c) :
    (add sets component name).get? c = sets.get? c := by
  have hne' : ¬ c = component := fun heq => hne heq.symm
  unfold add
  split
  · split
    · rfl
    · rw [Table.get?_insert, if_neg hne']
  · rfl

theorem get?_add_self {sets : Declarations} {c : Name} {names? : Option (List Name)}
    (h : sets.get? c = names?.map Table.identity) (name : Name) :
    (add sets c name).get? c = (names?.map (· ++ [name])).map Table.identity := by
  cases names? with
  | none =>
    rw [Option.map_none] at h
    rw [add, h]
    exact h
  | some names =>
    rw [Option.map_some] at h
    rw [add, h, Option.map_some, Option.map_some, Table.identity_concat]
    dsimp only
    split
    · exact h
    · rw [Table.get?_insert, if_pos rfl]

theorem get?_absorb {sets : Declarations} {c : Name} {names? : Option (List Name)}
    (h : sets.get? c = names?.map Table.identity) (r : Reading) :
    (absorb sets r).get? c = (collect c names? r).map Table.identity := by
  rcases r with ⟨component, opens, name?⟩
  by_cases hc : component = c
  · subst hc
    -- a start line empties the table before its own name goes in
    have hopened : (if opens then sets.insert component ∅ else sets).get? component =
        (if opens then some [] else names?).map Table.identity := by
      cases opens with
      | true => rw [if_pos rfl, if_pos rfl, Table.get?_insert, if_pos rfl]; rfl
      | false => exact h
    rw [collect, if_pos rfl]
    cases name? with
    | none =>
      rw [absorb, Option.toList_none]
      simp only [List.append_nil, Option.map_id']
      exact hopened
    | some name => exact get?_add_self hopened name
  · have hopened : (if opens then sets.insert component ∅ else sets).get? c = sets.get? c := by
      cases opens with
      | true => rw [if_pos rfl, Table.get?_insert, if_neg fun heq => hc heq.symm]
      | false => rfl
    rw [collect, if_neg hc, ← h]
    cases name? with
    | none => exact hopened
    | some name => exact (get?_add_of_ne name hc).trans hopened

theorem get?_foldl_absorb {sets : Declarations} {c : Name} {names? : Option (List Name)}
    (h : sets.get? c = names?.map Table.identity) (rs : List Reading) :
    (rs.foldl absorb sets).get? c = (rs.foldl (collect c) names?).map Table.identity := by
  induction rs generalizing sets names? with
  | nil => exact h
  | cons r rs ih => exact ih (get?_absorb h r)

/-- The table of a component holds the names collected for it. -/
theorem get?_ofText (lead : Name) (t : Text) (c : Name) :
    (ofText t).get? c =
      (collected c (readings (Pass.declarations.cursors lead {} (lines t)) (lines t))).map
        Table.identity := by
  have hempty : (∅ : Declarations).get? c = (none : Option (List Name)).map Table.identity := rfl
  rw [ofText_eq lead, collected, get?_foldl_absorb hempty]

theorem forall_mem_collected {c : Name} {rs : List Reading} {P : Name → Prop}
    (hrs : ∀ r ∈ rs, ∀ name, r.name? = some name → P name) {names : List Name}
    (h : collected c rs = some names) : ∀ name ∈ names, P name := by
  induction rs using List.reverseRecOn generalizing names with
  | nil => contradiction
  | append_singleton rs r ih =>
    have hbefore : ∀ {names}, collected c rs = some names → ∀ name ∈ names, P name :=
      fun h => ih (fun s hs => hrs s (List.mem_append_left _ hs)) h
    rw [collected_concat, collect] at h
    split at h
    · rcases Option.map_eq_some_iff.mp h with ⟨before, hopened, rfl⟩
      intro name hname
      rcases List.mem_append.mp hname with hmem | hmem
      · split at hopened
        · cases hopened
          contradiction
        · exact hbefore hopened name hmem
      · exact hrs r (List.mem_append_right _ List.mem_cons_self) name (Option.mem_toList.mp hmem)
    · exact hbefore h

theorem exists_eq_identity {t : Text} {c : Name} {table : RenameTable}
    (h : (ofText t).get? c = some table) : ∃ names, table = Table.identity names := by
  rw [get?_ofText []] at h
  rcases Option.map_eq_some_iff.mp h with ⟨names, -, rfl⟩
  exact ⟨names, rfl⟩

theorem isIdentifier_of_mem_keys {t : Text} {c : Name} {table : RenameTable}
    (h : (ofText t).get? c = some table) {name : Name} (hmem : name ∈ table.keys) :
    IsIdentifier name := by
  rw [get?_ofText []] at h
  rcases Option.map_eq_some_iff.mp h with ⟨names, hnames, rfl⟩
  rw [Table.keys_identity, List.mem_eraseDups] at hmem
  refine forall_mem_collected ?_ hnames name hmem
  intro r hr name hname
  rcases List.mem_map.mp hr with ⟨⟨cursor, line⟩, -, rfl⟩
  simp only [read] at hname
  split at hname
  · exact isIdentifier_of_declared? hname
  · contradiction

/-! ## 3. The components -/

/-- The components that some cursors are in, in order. -/
def entered (cs : List Cursor) : List Name :=
  (cs.filter (·.inside)).map (·.component)

theorem keys_add (sets : Declarations) (component name : Name) :
    (add sets component name).keys = sets.keys := by
  unfold add
  split
  · rename_i names hnames
    have hmem : component ∈ sets.keys := by
      rw [← Table.contains_iff, Table.contains, hnames, Option.isSome_some]
    split
    · rfl
    · rw [Table.keys_insert, if_pos hmem]
  · rfl

theorem keys_absorb (sets : Declarations) (r : Reading) :
    (absorb sets r).keys =
      if r.opens then (sets.keys ++ [r.component]).eraseDups else sets.keys := by
  have hopened : (if r.opens then sets.insert r.component ∅ else sets).keys =
      if r.opens then (sets.keys ++ [r.component]).eraseDups else sets.keys := by
    split
    · rw [Table.keys_insert, eraseDups_concat, eraseDups_of_nodup sets.keys_nodup]
    · rfl
  unfold absorb
  dsimp only
  split
  · rw [keys_add, hopened]
  · exact hopened

/-- Once inside a component, the component has been started. -/
def State.Started (state : State) : Prop :=
  state.cursor.inside = true → state.cursor.component ∈ state.sets.keys

theorem keys_step {state : State} (hstate : state.Started) (code : Text) :
    (step state code).sets.keys =
      (state.sets.keys ++ entered [(step state code).cursor]).eraseDups := by
  have hkeys := eraseDups_of_nodup state.sets.keys_nodup
  rw [step_eq]
  show (absorb state.sets _).keys = _
  rw [keys_absorb]
  show (if starts code then
      (state.sets.keys ++ [(Pass.entityMarkers.move code state.cursor).component]).eraseDups
    else state.sets.keys) = _
  generalize hcursor : Pass.entityMarkers.move code state.cursor = cursor
  cases hinside : cursor.inside with
  | true =>
    rw [entered, List.filter_cons_of_pos hinside, List.filter_nil, List.map_singleton]
    split
    · rfl
    · -- the line starts nothing, so its component has been started before
      rename_i hstarts
      have hsame : cursor = state.cursor := by
        rw [← hcursor]
        exact move_eq_self (by simpa using hstarts) (hcursor ▸ hinside)
      rw [eraseDups_concat, if_pos (hsame ▸ hstate (hsame ▸ hinside)), hkeys]
  | false =>
    have hstarts : ¬ starts code = true := by
      intro h
      rw [← hcursor, inside_move h] at hinside
      contradiction
    rw [if_neg hstarts, entered, List.filter_cons_of_neg (by simp [hinside]), List.filter_nil,
      List.map_nil, List.append_nil, hkeys]

theorem State.Started.step {state : State} (hstate : state.Started) (code : Text) :
    (step state code).Started := by
  intro hinside
  rw [keys_step hstate, List.mem_eraseDups, entered, List.filter_cons_of_pos hinside]
  exact List.mem_append_right _ List.mem_cons_self

theorem keys_foldl_step (lead : Name) (ls : List Text) {state : State} (hstate : state.Started) :
    (ls.foldl (fun state line => Harvest.step state (code line)) state).sets.keys =
      (state.sets.keys ++ entered (Pass.declarations.cursors lead state.cursor ls)).eraseDups := by
  induction ls generalizing state with
  | nil =>
    rw [Pass.cursors]
    exact ((congrArg _ (List.append_nil _)).trans (eraseDups_of_nodup state.sets.keys_nodup)).symm
  | cons line rest ih =>
    rw [List.foldl_cons, ih (hstate.step _), keys_step hstate, cursors_cons,
      eraseDups_eraseDups_append, List.append_assoc, entered, entered, entered, List.filter_append,
      List.map_append]

/-- The components of a harvest come in the order in which the cursor has entered them. -/
theorem keys_ofText (lead : Name) (t : Text) :
    (ofText t).keys = (entered (Pass.declarations.cursors lead {} (lines t))).eraseDups :=
  keys_foldl_step lead (lines t) fun h => absurd h Bool.false_ne_true

/-! ## 4. Two harvests -/

/-- Whether the line starts `c`. -/
def Reading.startsOf (c : Name) (r : Reading) : Bool :=
  r.opens && r.component = c

/-- The number of readings behind the last one that starts `c`. -/
def sinceStart? (c : Name) (rs : List Reading) : Option Nat :=
  (rs.map (·.startsOf c)).reverse.findIdx? id

/-- The number of lines of a text behind the last one that starts `c`. -/
def linesSinceStart? (c : Name) (t : Text) : Option Nat :=
  sinceStart? c (readings (Pass.declarations.cursors [] {} (lines t)) (lines t))

theorem sinceStart?_concat (c : Name) (rs : List Reading) (r : Reading) :
    sinceStart? c (rs ++ [r]) =
      if r.startsOf c then some 0 else (sinceStart? c rs).map (· + 1) := by
  rw [sinceStart?, List.map_append, List.map_singleton, List.reverse_append, List.reverse_singleton,
    List.singleton_append, List.findIdx?_cons, id_eq, sinceStart?]

theorem collect_of_startsOf {c : Name} {r : Reading} (h : r.startsOf c = true)
    (names? : Option (List Name)) : collect c names? r = some r.name?.toList := by
  rw [Reading.startsOf, Bool.and_eq_true, decide_eq_true_eq] at h
  rw [collect, if_pos h.2, if_pos h.1, Option.map_some, List.nil_append]

theorem collect_of_not_startsOf {c : Name} {r : Reading} (h : r.startsOf c = false)
    (names? : Option (List Name)) :
    collect c names? r = if r.component = c then names?.map (· ++ r.name?.toList) else names? := by
  rw [collect]
  split
  · rename_i hc
    have hopens : ¬ r.opens = true := by
      intro hopens
      simp [Reading.startsOf, hopens, hc] at h
    rw [if_neg hopens]
  · rfl

/-- When the lines of two texts belong to the same components, `c` starts last on the same line of
both, and the names that the one declares for `c` are the images of those of the other, then so are
the names collected for `c`. -/
theorem collected_map {α : Type} {ls : List α} {g g' : α → Reading} {c : Name} {f : Name → Name}
    (hcomponent : ∀ line ∈ ls, (g' line).component = (g line).component)
    (hname : ∀ line ∈ ls, (g line).component = c → (g' line).name? = (g line).name?.map f)
    (hstart : sinceStart? c (ls.map g') = sinceStart? c (ls.map g)) :
    collected c (ls.map g') = (collected c (ls.map g)).map (List.map f) := by
  -- from the last line backwards: where `c` starts, what came before is forgotten
  induction ls using List.reverseRecOn with
  | nil => rfl
  | append_singleton ls line ih =>
    have hline : line ∈ ls ++ [line] := List.mem_append_right _ List.mem_cons_self
    have hc := hcomponent line hline
    have hn := hname line hline
    simp only [List.map_append, List.map_singleton, sinceStart?_concat,
      collected_concat] at hstart ⊢
    cases hr : (g line).startsOf c with
    | true =>
      cases hr' : (g' line).startsOf c with
      | true =>
        -- both start here, and only the name of this line counts
        rw [Reading.startsOf, Bool.and_eq_true, decide_eq_true_eq] at hr
        rw [collect_of_startsOf hr', hn hr.2, collect, if_pos hr.2, if_pos hr.1]
        cases (g line).name? <;> rfl
      | false =>
        rw [hr, hr'] at hstart
        cases hlast : sinceStart? c (ls.map g') <;> simp [hlast] at hstart
    | false =>
      cases hr' : (g' line).startsOf c with
      | true =>
        rw [hr, hr'] at hstart
        cases hlast : sinceStart? c (ls.map g) <;> simp [hlast] at hstart
      | false =>
        -- neither does, so the last starts lie in front of this line
        rw [hr, hr'] at hstart
        have hbefore := ih (fun x hx => hcomponent x (List.mem_append_left _ hx))
          (fun x hx => hname x (List.mem_append_left _ hx))
          (Option.map_injective (fun _ _ => Nat.succ.inj) hstart)
        rw [collect_of_not_startsOf hr, collect_of_not_startsOf hr', hc, hbefore]
        by_cases hcomp : (g line).component = c
        · rw [if_pos hcomp, if_pos hcomp, hn hcomp]
          cases collected c (ls.map g) <;> cases (g line).name? <;> simp
        · rw [if_neg hcomp, if_neg hcomp]

/-- The table of `c` in the harvest of such a text. -/
theorem get?_ofText_of_readings {α : Type} {ls : List α} {g g' : α → Reading} {c : Name}
    {f : Name → Name} {lead : Name} {t u : Text}
    (ht : readings (Pass.declarations.cursors lead {} (lines t)) (lines t) = ls.map g)
    (hu : readings (Pass.declarations.cursors lead {} (lines u)) (lines u) = ls.map g')
    (hcomponent : ∀ line ∈ ls, (g' line).component = (g line).component)
    (hname : ∀ line ∈ ls, (g line).component = c → (g' line).name? = (g line).name?.map f)
    (hstart : linesSinceStart? c u = linesSinceStart? c t) :
    (ofText u).get? c =
      ((ofText t).get? c).map fun table => Table.identity (table.keys.map f) := by
  rw [linesSinceStart?, linesSinceStart?, ← cursors_declarations lead, ← cursors_declarations lead,
    ht, hu] at hstart
  rw [get?_ofText lead, get?_ofText lead t, ht, hu, collected_map hcomponent hname hstart,
    Option.map_map, Option.map_map]
  apply congrArg (Option.map · _)
  funext names
  exact (Table.identity_map_keys f names).symm

end Relabel.Harvest

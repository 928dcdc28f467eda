import Relabel.Proofs.SinglePasses
import Relabel.Proofs.Undoing

/-!
# Characters that no byte stands for

A file is read with one character for each byte, so a wide character can come into its text only
with a new name. Such a text is refused before anything is written; any other is found again in
the bytes that are.
-/

namespace Relabel

open Text

/-! ## 1. Where the characters of a text come from -/

/-- Whether each character of `u` stands in `t` or is one of some others. -/
def Text.DrawsOn (P : Char → Prop) (t u : Text) : Prop :=
  ∀ c ∈ u, c ∈ t ∨ P c

namespace Text.DrawsOn

variable {P : Char → Prop} {t u v t' u' : Text}

theorem refl (t : Text) : DrawsOn P t t :=
  fun _ hc => .inl hc

theorem trans (h : DrawsOn P t u) (h' : DrawsOn P u v) : DrawsOn P t v := by
  intro c hc
  rcases h' c hc with hmem | hother
  · exact h c hmem
  · exact .inr hother

theorem append (h : DrawsOn P t u) (h' : DrawsOn P t' u') : DrawsOn P (t ++ t') (u ++ u') := by
  intro c hc
  rcases List.mem_append.mp hc with hc | hc
  · exact (h c hc).imp_left (List.mem_append_left t')
  · exact (h' c hc).imp_left (List.mem_append_right t)

theorem mapWords {f : Name → Name} (hf : ∀ w, DrawsOn P w (f w)) (t : Text) :
    DrawsOn P t (mapWords f t) := by
  have hruns : ∀ rs : List Text,
      DrawsOn P rs.flatten (rs.flatMap fun run => if startsWord run then f run else run) := by
    intro rs
    induction rs with
    | nil => exact refl []
    | cons run rs ih =>
      rw [List.flatten_cons, List.flatMap_cons]
      apply append _ ih
      split
      · exact hf run
      · exact refl run
  have hall := hruns (runs t)
  rwa [flatten_runs] at hall

theorem renameRun {f : Name → Name} (hf : ∀ w, DrawsOn P w (f w)) (run : Text) :
    DrawsOn P run (GenericFlag.renameRun f run) := by
  unfold GenericFlag.renameRun
  split
  · split
    · exact append (refl [_]) (hf _)
    · exact refl _
  · exact refl run

theorem renameRuns {f : Name → Name} (hf : ∀ w, DrawsOn P w (f w)) (last : Option Char)
    (rs : List Text) :
    DrawsOn P rs.flatten (GenericFlag.renameRuns f last rs) := by
  induction rs generalizing last with
  | nil => exact refl []
  | cons run rs ih =>
    rw [List.flatten_cons, GenericFlag.renameRuns]
    apply append _ (ih _)
    split
    · exact renameRun hf run
    · exact refl run

end Text.DrawsOn

theorem RenamesAt.drawsOn {P : Char → Prop} {split? : Text → Option (Text × Name × Text)}
    {f : Name → Name} {rename : Text → Text} (h : RenamesAt split? f rename)
    (hf : ∀ w, DrawsOn P w (f w)) {code : Text}
    (hcut : ∀ front name rest, split? code = some (front, name, rest) →
      code = front ++ (name ++ rest)) :
    DrawsOn P code (rename code) := by
  rw [h]
  cases hcode : split? code with
  | none => exact .refl code
  | some cut =>
    rcases cut with ⟨front, name, rest⟩
    rw [hcut front name rest hcode]
    exact .append (.refl front) (.append (hf name) (.refl rest))

/-- Whether a character stands in a new name. -/
def Database.Supplies (db : Database) (c : Char) : Prop :=
  ∃ v ∈ db.newNames, c ∈ v

theorem Database.drawsOn_lookup (db : Database) (query : Query) (scope name : Name) :
    DrawsOn db.Supplies name (db.lookup query scope name) := by
  intro c hc
  rcases db.lookup_eq_self_or_mem query scope name with heq | hnew
  · rw [heq] at hc
    exact .inl hc
  · exact .inr ⟨_, hnew, hc⟩

namespace Pass

theorem drawsOn_rename (pass : Pass) (db : Database) (cursor : Cursor) (code : Text) :
    DrawsOn db.Supplies code (pass.rename db cursor code) := by
  cases pass with
  | declarations =>
    rw [rename]
    split
    · apply (Declaration.renamesAt db cursor.component).drawsOn
        (db.drawsOn_lookup .exact cursor.component)
      intro indent name rest hsplit
      exact (Declaration.split?_eq_some.mp hsplit).1
    · exact .refl code
  | instantiations =>
    rw [rename]
    split
    · apply (Association.renamesAt db cursor.component).drawsOn
        (db.drawsOn_lookup .exact cursor.component)
      intro front formal rest hsplit
      exact (Association.split?_eq_some.mp hsplit).1
    · exact .refl code
  | symbols => exact .mapWords (db.drawsOn_lookup .folded cursor.component) code
  | simConfig =>
    have hruns := DrawsOn.renameRuns (db.drawsOn_lookup .folded cursor.component) none (runs code)
    rwa [flatten_runs] at hruns

theorem drawsOn_renameLine (pass : Pass) (db : Database) (cursor : Cursor) (line : Text) :
    DrawsOn db.Supplies line (pass.renameLine db cursor line) := by
  have hline := (pass.drawsOn_rename db cursor (codePart pass.commentMarker line)).append
    (.refl (commentPart pass.commentMarker line))
  rwa [codePart_append_commentPart] at hline

theorem drawsOn_applyLines (pass : Pass) (lead : Name) (db : Database) (cursor : Cursor)
    (ls : List Text) :
    DrawsOn db.Supplies ls.flatten (pass.applyLines lead db cursor ls).flatten := by
  induction ls generalizing cursor with
  | nil => exact .refl []
  | cons line ls ih => exact (pass.drawsOn_renameLine db _ line).append (ih _)

theorem drawsOn_apply (pass : Pass) (lead : Name) (db : Database) (t : Text) :
    DrawsOn db.Supplies t (pass.apply lead db t) := by
  have hlines := pass.drawsOn_applyLines lead db {} (lines t)
  rwa [flatten_lines] at hlines

end Pass

theorem Passes.drawsOn_apply (passes : List Pass) (lead : Name) (db : Database) (t : Text) :
    DrawsOn db.Supplies t (apply passes lead db t) := by
  induction passes generalizing t with
  | nil => exact .refl t
  | cons pass passes ih => exact (pass.drawsOn_apply lead db t).trans (ih _)

/-! ## 2. Bytes -/

/-- Whether `c` is the first character of a text that no byte stands for. -/
def Text.FirstWide (t : Text) (c : Char) : Prop :=
  ∃ front rest, t = front ++ c :: rest ∧ (∀ d ∈ front, d.toNat < 256) ∧ 256 ≤ c.toNat

theorem Text.firstWide_cons {d c : Char} {t : Text} :
    FirstWide (d :: t) c ↔ if d.toNat < 256 then FirstWide t c else d = c := by
  split
  · rename_i hd
    constructor
    · rintro ⟨front, rest, heq, hfront, hc⟩
      cases front with
      | nil =>
        cases heq
        omega
      | cons e front =>
        cases heq
        exact ⟨front, rest, rfl, (List.forall_mem_cons.mp hfront).2, hc⟩
    · rintro ⟨front, rest, rfl, hfront, hc⟩
      exact ⟨d :: front, rest, rfl, List.forall_mem_cons.mpr ⟨hd, hfront⟩, hc⟩
  · rename_i hd
    constructor
    · rintro ⟨front, rest, heq, hfront, hc⟩
      cases front with
      | nil =>
        cases heq
        rfl
      | cons e front =>
        cases heq
        exact absurd (hfront d List.mem_cons_self) hd
    · rintro rfl
      exact ⟨[], t, rfl, nofun, by omega⟩

/-- A text is refused for its first wide character. -/
theorem Text.toBytes_eq_error_iff {t : Text} {c : Char} : toBytes t = .error c ↔ t.FirstWide c := by
  induction t with
  | nil =>
    constructor
    · intro h
      contradiction
    · rintro ⟨front, rest, h, -⟩
      cases front <;> contradiction
  | cons d t ih =>
    rw [toBytes, firstWide_cons]
    split
    · rw [← ih]
      cases toBytes t <;> simp [Except.map]
    · exact Except.error.injEq d c ▸ Iff.rfl

theorem Text.FirstWide.mem {t : Text} {c : Char} (h : t.FirstWide c) : c ∈ t := by
  rcases h with ⟨front, rest, rfl, -⟩
  exact List.mem_append_right front List.mem_cons_self

theorem Text.lt_of_mem_ofBytes {bytes : Bytes} {c : Char} (h : c ∈ ofBytes bytes) :
    c.toNat < 256 := by
  rcases List.mem_map.mp h with ⟨b, -, rfl⟩
  have hb : b.toNat < 256 := b.toNat_lt
  have hvalid : b.toNat.isValidChar := .inl (by omega)
  rw [Char.ofNat, dif_pos hvalid]
  exact hb

theorem Text.eq_ofBytes_iff {t : Text} {bytes bytes' : Bytes} (h : toBytes t = .ok bytes') :
    t = ofBytes bytes ↔ bytes' = bytes := by
  constructor
  · rintro rfl
    rw [toBytes_ofBytes] at h
    exact (Except.ok.inj h).symm
  · rintro rfl
    exact (ofBytes_of_toBytes h).symm

/-- What is wide in a rewritten text has come with a new name. -/
theorem Passes.supplies_of_firstWide {passes : List Pass} {lead : Name} {db : Database}
    {bytes : Bytes} {c : Char} (h : (apply passes lead db (ofBytes bytes)).FirstWide c) :
    db.Supplies c := by
  rcases drawsOn_apply passes lead db (ofBytes bytes) c h.mem with hmem | hnew
  · rcases h with ⟨-, -, -, -, hwide⟩
    have hbyte := lt_of_mem_ofBytes hmem
    omega
  · exact hnew

/-! ## 3. Files -/

namespace Refactoring

open Run

/-- The runs that put one file through passes, into itself or into another file. -/
inductive RunsPasses (r : Refactoring) : List Pass → Text → Text → Run Bool → Prop
  | file (path : Text) : RunsPasses r Pass.source path path (r.file path)
  | passFile (pass : Pass) (input output : Text) :
    RunsPasses r [pass] input output (r.passFile pass input output)

/-- What comes of rewriting a file into a file, and the disk that is left. -/
inductive Rewrites (r : Refactoring) (passes : List Pass) (input output : Text) (disk : Disk) :
    Except Error Bool → Disk → Prop
  | unread {cause : DiskError} (hread : disk.read input = .error cause) :
      Rewrites r passes input output disk
        (.error (.context s!"Failed to read {String.ofList input}" (.disk cause))) disk
  | unencodable {bytes : Bytes} {c : Char} (hread : disk.read input = .ok bytes)
      (hwide : toBytes (Passes.apply passes r.lead r.database (ofBytes bytes)) = .error c) :
      Rewrites r passes input output disk (.error (Run.unencodable output c)) disk
  | unwritten {bytes bytes' : Bytes} {cause : DiskError} (hread : disk.read input = .ok bytes)
      (hbytes : toBytes (Passes.apply passes r.lead r.database (ofBytes bytes)) = .ok bytes')
      (hwrite : disk.write output bytes' = .error cause) :
      Rewrites r passes input output disk
        (.error (.context s!"Failed to write {String.ofList output}" (.disk cause))) disk
  | written {bytes bytes' : Bytes} {after : Disk} (hread : disk.read input = .ok bytes)
      (hbytes : toBytes (Passes.apply passes r.lead r.database (ofBytes bytes)) = .ok bytes')
      (hwrite : disk.write output bytes' = .ok after) :
      Rewrites r passes input output disk (.ok (decide (bytes' ≠ bytes))) after

variable {r : Refactoring}

theorem Rewrites.of_encoding {passes : List Pass} {input output : Text} {disk after : Disk}
    {file message : String}
    (h : Rewrites r passes input output disk (.error (.encoding file message)) after) :
    after = disk ∧ ∃ bytes c, disk.read input = .ok bytes ∧
      (Passes.apply passes r.lead r.database (ofBytes bytes)).FirstWide c ∧
      Error.encoding file message = Run.unencodable output c := by
  generalize hresult : (Except.error (.encoding file message) : Except Error Bool) = result at h
  cases h with
  | unread hread => cases hresult
  | unwritten hread hbytes hwrite => cases hresult
  | written hread hbytes hwrite => cases hresult
  | @unencodable bytes c hread hwide =>
    exact ⟨rfl, bytes, c, hread, toBytes_eq_error_iff.mp hwide, Except.error.inj hresult⟩

theorem Rewrites.of_ok {passes : List Pass} {input output : Text} {disk after : Disk}
    {changed : Bool} (h : Rewrites r passes input output disk (.ok changed) after) :
    ∃ bytes bytes', disk.read input = .ok bytes ∧ after.read output = .ok bytes' ∧
      ofBytes bytes' = Passes.apply passes r.lead r.database (ofBytes bytes) := by
  cases h with
  | @written bytes bytes' after hread hbytes hwrite =>
    exact ⟨bytes, bytes', hread, Disk.read_write hwrite, ofBytes_of_toBytes hbytes⟩

theorem Rewrites.of_outcome {passes : List Pass} {input output : Text} {disk : Disk}
    {run : Run Bool} (h : ∃ result after, Rewrites r passes input output disk result after ∧
      ∃ log, outcome run { disk } = (result, ⟨after, log⟩)) :
    Rewrites r passes input output disk (Session.run disk run).1 (Session.run disk run).2.disk := by
  rcases h with ⟨result, after, hrewrites, log, hout⟩
  have hrun : Session.run disk run = (result, ⟨after, log⟩) := hout
  rwa [hrun]

/-- What comes of a run from where the rewritten text is to be written. -/
theorem exists_rewrites_of_writeSource {passes : List Pass} {input output : Text} {disk : Disk}
    {bytes : Bytes} (hread : disk.read input = .ok bytes) {changed : Bool}
    (hchanged : ∀ bytes',
      toBytes (Passes.apply passes r.lead r.database (ofBytes bytes)) = .ok bytes' →
        changed = decide (bytes' ≠ bytes)) (log : List Event) :
    ∃ result after, Rewrites r passes input output disk result after ∧ ∃ log',
      outcome (writeSource output (Passes.apply passes r.lead r.database (ofBytes bytes)) >>=
        fun _ => pure changed) ⟨disk, log⟩ = (result, ⟨after, log'⟩) := by
  cases hbytes : toBytes (Passes.apply passes r.lead r.database (ofBytes bytes)) with
  | error c =>
    refine ⟨_, _, .unencodable hread hbytes, ?_⟩
    simp only [outcome_bind, outcome_writeSource_of_error hbytes]
    exact ⟨_, rfl⟩
  | ok bytes' =>
    cases hwrite : disk.write output bytes' with
    | error cause =>
      refine ⟨_, _, .unwritten hread hbytes hwrite, ?_⟩
      simp only [outcome_bind, outcome_writeSource_of_refused hbytes hwrite]
      exact ⟨_, rfl⟩
    | ok after =>
      refine ⟨_, _, .written hread hbytes hwrite, ?_⟩
      simp only [outcome_bind, outcome_writeSource_of_ok hbytes hwrite, outcome_pure,
        hchanged bytes' hbytes]
      exact ⟨_, rfl⟩

section Filled

variable (hfilled : r.database.isEmpty = false)

include hfilled

theorem rewrites_passFile (pass : Pass) (input output : Text) (disk : Disk) :
    Rewrites r [pass] input output disk (Session.run disk (r.passFile pass input output)).1
      (Session.run disk (r.passFile pass input output)).2.disk := by
  apply Rewrites.of_outcome
  cases hread : disk.read input with
  | error cause =>
    refine ⟨_, _, .unread hread, ?_⟩
    simp only [passFile, say, outcome_bind, outcome_note, outcome_readSource, hread]
    exact ⟨_, rfl⟩
  | ok bytes =>
    rw [passFile, say, outcome_bind, outcome_note]
    simp only [outcome_bind (readSource input), outcome_readSource, hread, Except.mapError,
      Except.map, outcome_bind (r.applyPasses _ _), outcome_applyPasses hfilled]
    apply exists_rewrites_of_writeSource hread
    intro bytes' hbytes
    simp only [Ne, eq_ofBytes_iff hbytes]

theorem rewrites_file (path : Text) (disk : Disk) :
    Rewrites r Pass.source path path disk (Session.run disk (r.file path)).1
      (Session.run disk (r.file path)).2.disk := by
  apply Rewrites.of_outcome
  cases hread : disk.read path with
  | error cause =>
    refine ⟨_, _, .unread hread, ?_⟩
    simp only [file, say, outcome_bind, outcome_note, outcome_readSource, hread]
    exact ⟨_, rfl⟩
  | ok bytes =>
    rw [file, say, outcome_bind, outcome_note]
    simp only [outcome_bind (readSource path), outcome_readSource, hread, Except.mapError,
      Except.map, outcome_bind (r.applyPasses _ _), outcome_applyPasses hfilled]
    by_cases hsame : Passes.apply Pass.source r.lead r.database (ofBytes bytes) = ofBytes bytes
    · -- a file that stays the same is not written, which would leave the disk as it is
      have hbytes : toBytes (Passes.apply Pass.source r.lead r.database (ofBytes bytes)) =
          .ok bytes := by
        rw [hsame, toBytes_ofBytes]
      refine ⟨_, _, .written hread hbytes (Disk.write_of_read hread), ?_⟩
      simp only [if_pos hsame, outcome_bind, outcome_pure, ne_eq, not_true_eq_false, decide_false]
      exact ⟨_, rfl⟩
    · rw [if_neg hsame]
      apply exists_rewrites_of_writeSource hread
      intro bytes' hbytes
      rw [eq_ofBytes_iff hbytes] at hsame
      exact (decide_eq_true hsame).symm

theorem RunsPasses.rewrites {passes : List Pass} {input output : Text} {run : Run Bool}
    (h : r.RunsPasses passes input output run) (disk : Disk) :
    Rewrites r passes input output disk (Session.run disk run).1 (Session.run disk run).2.disk := by
  cases h with
  | file => exact rewrites_file hfilled _ disk
  | passFile pass => exact rewrites_passFile hfilled pass input output disk

end Filled

/-! ## 4. Refused texts and written ones -/

theorem supplies_of_encode_eq_error {passes : List Pass} {lead : Name} {db : Database}
    {bytes : Bytes} {path : Text} {e : Error}
    (h : Run.encode path (Passes.apply passes lead db (ofBytes bytes)) = .error e) :
    ∃ c, e = Run.unencodable path c ∧ (Passes.apply passes lead db (ofBytes bytes)).FirstWide c ∧
      db.Supplies c := by
  cases hwide : toBytes (Passes.apply passes lead db (ofBytes bytes)) with
  | ok written =>
    rw [Run.encode, hwide] at h
    contradiction
  | error c =>
    rw [Run.encode, hwide] at h
    have hfirst := toBytes_eq_error_iff.mp hwide
    exact ⟨c, (Except.error.inj h).symm, hfirst, Passes.supplies_of_firstWide hfirst⟩

theorem ofBytes_of_encode {path text : Text} {written : Bytes}
    (h : Run.encode path text = .ok written) :
    ofBytes written = text := by
  cases hbytes : toBytes text with
  | error c =>
    rw [Run.encode, hbytes] at h
    contradiction
  | ok bytes =>
    rw [Run.encode, hbytes] at h
    have hsame : bytes = written := Except.ok.inj h
    subst hsame
    exact ofBytes_of_toBytes hbytes

/-- Each character of a rewritten text stands in the file or in a new name. So a text is refused
only for a character of a new name, the first one that is wide, and the disk stays as it was; a text
that is written is found again in the bytes. -/
theorem wide_characters_come_from_new_names {r : Refactoring}
    (hfilled : r.database.isEmpty = false) :
    (∀ (passes : List Pass) (bytes : Bytes), ∃ text,
      Passes.run passes r.lead r.database (ofBytes bytes) = .ok text ∧
      (∀ c ∈ text, c ∈ ofBytes bytes ∨ ∃ v ∈ r.database.newNames, c ∈ v) ∧
      (∀ path e, Run.encode path text = .error e →
        ∃ c, e = Run.unencodable path c ∧ text.FirstWide c ∧ ∃ v ∈ r.database.newNames, c ∈ v) ∧
      (∀ path written, Run.encode path text = .ok written → ofBytes written = text)) ∧
    (∀ passes input output run, r.RunsPasses passes input output run → ∀ disk,
      (∀ file message, (Session.run disk run).1 = .error (.encoding file message) →
        (Session.run disk run).2.disk = disk ∧ ∃ bytes text c, disk.read input = .ok bytes ∧
          Passes.run passes r.lead r.database (ofBytes bytes) = .ok text ∧ text.FirstWide c ∧
          Error.encoding file message = Run.unencodable output c ∧
          ∃ v ∈ r.database.newNames, c ∈ v) ∧
      (∀ changed, (Session.run disk run).1 = .ok changed →
        ∃ bytes written, disk.read input = .ok bytes ∧
          (Session.run disk run).2.disk.read output = .ok written ∧
          Passes.run passes r.lead r.database (ofBytes bytes) = .ok (ofBytes written))) := by
  constructor
  · intro passes bytes
    exact ⟨_, Passes.run_eq_ok hfilled passes r.lead (ofBytes bytes),
      Passes.drawsOn_apply passes r.lead r.database _, fun path e => supplies_of_encode_eq_error,
      fun path written => ofBytes_of_encode⟩
  · intro passes input output run hrun disk
    have hrewrites := hrun.rewrites hfilled disk
    constructor
    · intro file message h
      rw [h] at hrewrites
      rcases hrewrites.of_encoding with ⟨hdisk, bytes, c, hread, hfirst, herror⟩
      exact ⟨hdisk, bytes, _, c, hread, Passes.run_eq_ok hfilled passes r.lead _, hfirst, herror,
        Passes.supplies_of_firstWide hfirst⟩
    · intro changed h
      rw [h] at hrewrites
      rcases hrewrites.of_ok with ⟨bytes, written, hread, hwritten, htext⟩
      exact ⟨bytes, written, hread, hwritten, by rw [htext, Passes.run_eq_ok hfilled]⟩

/-- The first pass brings in a wide character, and the last one takes it out again: alone, the first
pass is refused, and all of them together are not. -/
theorem wide_characters_come_from_new_names_taken_out :
    let r : Refactoring :=
      ⟨⟨.ofList [("c".toList, .ofList [("a".toList, "Δ".toList), ("δ".toList, "é".toList)])]⟩,
        [.anyRun], []⟩
    let bytes := toUtf8 "entity c is\n  a : in; -- ".toList ++ [0xE9]
    let disk : Disk := { root := .dir [("c.vhd".toList, .file bytes)] }
    let input := "c.vhd".toList
    let output := "d.vhd".toList
    let error := Error.encoding "d.vhd" "character 'Δ' cannot be written as a single byte"
    (r.database.isEmpty = false ∧ (Session.run disk (r.file input)).1 = .ok true ∧
      (Session.run disk (r.passFile .declarations input output)).1 = .error error) ∧
    ((Session.run disk (r.passFile .declarations input output)).2.disk = disk ∧
      ∃ bytes text c, disk.read input = .ok bytes ∧
        Passes.run [.declarations] r.lead r.database (ofBytes bytes) = .ok text ∧ text.FirstWide c ∧
        error = Run.unencodable output c ∧ ∃ v ∈ r.database.newNames, c ∈ v) ∧
    ∃ bytes written, disk.read input = .ok bytes ∧
      (Session.run disk (r.file input)).2.disk.read input = .ok written ∧
      Passes.run Pass.source r.lead r.database (ofBytes bytes) = .ok (ofBytes written) := by
  repeat rw [String.toList_ofList]
  intro r bytes disk input output error
  have hfilled : r.database.isEmpty = false := by decide +kernel
  have htogether : (Session.run disk (r.file input)).1 = .ok true := by decide +kernel
  have halone : (Session.run disk (r.passFile .declarations input output)).1 = .error error := by
    decide +kernel
  have hruns := (wide_characters_come_from_new_names hfilled).2
  have hrefused := (hruns _ _ _ _ (.passFile .declarations input output) disk).1 _ _ halone
  have hwritten := (hruns _ _ _ _ (.file input) disk).2 true htogether
  exact ⟨⟨hfilled, htogether, halone⟩, hrefused, hwritten⟩

end Refactoring

end Relabel

import Relabel.Command
import Relabel.Proofs.RoundTrip
import Relabel.Proofs.Sessions
import Relabel.Proofs.Writing

/-!
# Building a rename table and keeping it on disk

The command that builds a rename table reads a seed and two trees, and writes once, at its end. So
the disk is as it was whatever made the command fail; and when it succeeds, the one file that it
wrote holds the tables that it gives back.
-/

namespace Relabel

variable {ε ε' α β : Type}

/-! ## 1. Steps that only read -/

/-- Whether steps leave the disk as it is, however they end, and give what the
disk alone decides. -/
def OnlyReads (steps : ExceptT ε (StateM Session) α) : Prop :=
  ∀ session, ∃ log,
    StateT.run (ExceptT.run steps) session =
      ((Session.run session.disk steps).1, ⟨session.disk, log⟩)

namespace OnlyReads

theorem pure (a : α) : OnlyReads (Pure.pure a : ExceptT ε (StateM Session) α) :=
  fun session => ⟨session.log, rfl⟩

theorem throw (e : ε) : OnlyReads (MonadExcept.throw e : ExceptT ε (StateM Session) α) :=
  fun session => ⟨session.log, rfl⟩

/-- Behind steps that only read, the next ones go on from the same disk. -/
theorem run_bind_of_ok {steps : ExceptT ε (StateM Session) α} (hsteps : OnlyReads steps)
    (next : α → ExceptT ε (StateM Session) β) (session : Session) {a : α}
    (h : (Session.run session.disk steps).1 = .ok a) :
    ∃ log, StateT.run (ExceptT.run (steps >>= next)) session =
      StateT.run (ExceptT.run (next a)) ⟨session.disk, log⟩ := by
  rcases hsteps session with ⟨log, hout⟩
  exact ⟨log, by rw [Session.run_bind, hout, h]⟩

theorem run_bind_of_error {steps : ExceptT ε (StateM Session) α} (hsteps : OnlyReads steps)
    (next : α → ExceptT ε (StateM Session) β) (session : Session) {e : ε}
    (h : (Session.run session.disk steps).1 = .error e) :
    ∃ log, StateT.run (ExceptT.run (steps >>= next)) session = (.error e, ⟨session.disk, log⟩) := by
  rcases hsteps session with ⟨log, hout⟩
  exact ⟨log, by rw [Session.run_bind, hout, h]⟩

theorem bind {steps : ExceptT ε (StateM Session) α} {next : α → ExceptT ε (StateM Session) β}
    (hsteps : OnlyReads steps) (hnext : ∀ a, OnlyReads (next a)) : OnlyReads (steps >>= next) := by
  intro session
  cases h : (Session.run session.disk steps).1 with
  | error e =>
    rcases hsteps.run_bind_of_error next session h with ⟨log, hout⟩
    rcases hsteps.run_bind_of_error next { disk := session.disk } h with ⟨_, hfresh⟩
    exact ⟨log, hout.trans (congrArg (·, _) (congrArg Prod.fst hfresh).symm)⟩
  | ok a =>
    -- the log that the next steps find differs, what they give does not
    rcases hsteps.run_bind_of_ok next session h with ⟨log, hout⟩
    rcases hsteps.run_bind_of_ok next { disk := session.disk } h with ⟨log₀, hfresh⟩
    rcases hnext a ⟨session.disk, log⟩ with ⟨log', hrest⟩
    rcases hnext a ⟨session.disk, log₀⟩ with ⟨_, hrest₀⟩
    exact ⟨log', (hout.trans hrest).trans
      (congrArg (·, _) (congrArg Prod.fst (hfresh.trans hrest₀)).symm)⟩

theorem get_bind {next : Session → ExceptT ε (StateM Session) α}
    (hnext : ∀ session, OnlyReads (next session))
    (hlog : ∀ session, next session = next { disk := session.disk }) :
    OnlyReads (get >>= next) := by
  intro session
  rcases hnext session session with ⟨log, hout⟩
  rw [hlog session] at hout
  refine ⟨log, ?_⟩
  change StateT.run (ExceptT.run (next session)) session = _
  rw [hlog session]
  exact hout

theorem adapt (f : ε → ε') {steps : ExceptT ε (StateM Session) α} (hsteps : OnlyReads steps) :
    OnlyReads (ExceptT.adapt f steps) := by
  intro session
  rcases hsteps session with ⟨log, hout⟩
  refine ⟨log, ?_⟩
  change ((StateT.run (ExceptT.run steps) session).1.mapError f,
    (StateT.run (ExceptT.run steps) session).2) = _
  rw [hout]
  rfl

end OnlyReads

namespace Run

theorem onlyReads_note (events : List Event) : OnlyReads (note events) :=
  fun _ => ⟨_, rfl⟩

theorem onlyReads_ofExcept (result : Except Error α) : OnlyReads (ofExcept result) := by
  cases result with
  | ok a => exact .pure a
  | error e => exact .throw e

theorem onlyReads_during (doing : String) {run : Run α} (hrun : OnlyReads run) :
    OnlyReads (during doing run) := by
  intro session
  rcases hrun session with ⟨log, hout⟩
  change outcome run session = _ at hout
  have hresult : (Session.run session.disk (during doing run)).1 =
      (Session.run session.disk run).1.mapError (.context doing) :=
    congrArg Prod.fst (outcome_during doing run { disk := session.disk })
  refine ⟨log, ?_⟩
  change outcome (during doing run) session = _
  rw [outcome_during, hout, hresult]

theorem onlyReads_readBytes (path : Text) : OnlyReads (readBytes path) :=
  .get_bind (fun _ => onlyReads_ofExcept _) fun _ => rfl

theorem onlyReads_readSource (path : Text) : OnlyReads (readSource path) :=
  (onlyReads_during _ (onlyReads_readBytes path)).bind fun _ => .pure _

theorem onlyReads_sourceFiles (root : Text) (pattern : Glob) :
    OnlyReads (sourceFiles root pattern) := by
  refine .get_bind (fun session => (onlyReads_note _).bind fun _ => ?_) fun _ => rfl
  cases (session.disk.walk root).stop with
  | none => exact .pure _
  | some stop => exact .throw _

theorem onlyReads_harvestFile (path : Text) : OnlyReads (harvestFile path) :=
  (onlyReads_readSource path).bind fun _ => (onlyReads_note _).bind fun _ => .pure _

theorem onlyReads_harvestFiles (settings : HarvestSettings) (sets : Declarations)
    (paths : List Text) :
    OnlyReads (harvestFiles settings sets paths) := by
  induction paths generalizing sets with
  | nil => exact .pure sets
  | cons path paths ih =>
    exact (onlyReads_note _).bind fun _ => (onlyReads_harvestFile path).bind fun declared =>
      ih (settings.addFile sets declared)

theorem onlyReads_harvestTree (settings : HarvestSettings) (pattern : Glob) (root : Text) :
    OnlyReads (harvestTree settings pattern root) :=
  (onlyReads_sourceFiles root pattern).bind fun paths => onlyReads_harvestFiles settings ∅ paths

theorem onlyReads_mergeTrees (settings : HarvestSettings) (pattern : Glob) (old new : Text)
    (seed : Scopes) :
    OnlyReads (mergeTrees settings pattern old new seed) :=
  (onlyReads_harvestTree settings pattern old).bind fun _ =>
    (onlyReads_harvestTree settings pattern new).bind fun _ => (onlyReads_note _).bind fun _ =>
      .pure _

theorem onlyReads_readText (path : Text) : OnlyReads (readText path) := by
  refine (onlyReads_readBytes path).bind fun bytes => ?_
  cases Text.ofUtf8? bytes with
  | some text => exact .pure text
  | none => exact .throw _

theorem onlyReads_readScopes (path : Text) : OnlyReads (readScopes path) :=
  (onlyReads_during _ (onlyReads_readText path)).bind fun _ =>
    (onlyReads_ofExcept _).bind fun _ => (onlyReads_note _).bind fun _ => .pure _

end Run

/-! ## 2. Tables in a file -/

namespace Run

variable {path : Text} {scopes : Scopes} {disk : Disk}

theorem outcome_writeScopes_of_ok {written : Disk} (log : List Event)
    (h : disk.write path (Text.toUtf8 (Scopes.render scopes)) = .ok written) :
    ∃ log', outcome (writeScopes path scopes) ⟨disk, log⟩ = (.ok (), ⟨written, log'⟩) := by
  rw [writeScopes, outcome_bind, outcome_during, outcome_writeBytes, h]
  exact ⟨_, rfl⟩

theorem outcome_writeScopes_of_error {cause : DiskError} (log : List Event)
    (h : disk.write path (Text.toUtf8 (Scopes.render scopes)) = .error cause) :
    ∃ e, outcome (writeScopes path scopes) ⟨disk, log⟩ = (.error e, ⟨disk, log⟩) := by
  rw [writeScopes, outcome_bind, outcome_during, outcome_writeBytes, h]
  exact ⟨_, rfl⟩

/-- Tables are read back from a file that holds their written form. -/
theorem readScopes_of_read (h : disk.read path = .ok (Text.toUtf8 (Scopes.render scopes))) :
    (Session.run disk (readScopes path)).1 = .ok scopes := by
  have hparse : Scopes.parse (Scopes.render scopes) = .ok scopes := by
    rw [Scopes.parse, Scopes.readScopes_render]
    rfl
  have htext : outcome (readText path) { disk } = (.ok (Scopes.render scopes), { disk }) := by
    rw [readText, readBytes, outcome_bind, outcome_get_bind, outcome_ofExcept, h]
    simp only [Except.mapError, Text.ofUtf8?_toUtf8]
    rfl
  have hout : ∃ log, outcome (readScopes path) { disk } = (.ok scopes, ⟨disk, log⟩) := by
    rw [readScopes, outcome_bind, outcome_during, htext]
    simp only [Except.mapError, outcome_bind, hparse, outcome_ofExcept]
    exact ⟨_, rfl⟩
  rcases hout with ⟨log, hout⟩
  exact congrArg Prod.fst hout

end Run

/-! ## 3. The command -/

namespace Command

/-- The steps of the command that read: the tables that two trees give on top of a seed. -/
def mergedTables (settings : Settings) (old new : Text) (seed : Option Text) : Command Scopes := do
  let seed ← readSeed seed
  let pattern ← run (Run.ofExcept settings.harvest.pattern)
  step "Failed to build rename database" (Run.mergeTrees settings.harvest pattern old new seed)

/-- The steps of the command that write. -/
def saveTables (db : Text) (scopes : Scopes) : Command Scopes := do
  let shown := String.ofList db
  step s!"Failed to write rename database {shown}" (Run.writeScopes db scopes)
  say .info s!"Wrote {scopes.size} scopes to {shown}"
  return scopes

theorem buildDatabase_eq (settings : Settings) (old new db : Text) (seed : Option Text) :
    buildDatabase settings old new db seed =
      mergedTables settings old new seed >>= saveTables db := by
  simp only [mergedTables, bind_assoc]
  rfl

theorem run_step (doing : String) (run : Run α) (session : Session) :
    StateT.run (ExceptT.run (step doing run)) session =
      ((Run.outcome run session).1.mapError fun e => ⟨[doing], e⟩, (Run.outcome run session).2) :=
  rfl

theorem onlyReads_readSeed (seed : Option Text) : OnlyReads (readSeed seed) := by
  cases seed with
  | none => exact .pure _
  | some path => exact (Run.onlyReads_readScopes path).adapt _

theorem onlyReads_mergedTables (settings : Settings) (old new : Text) (seed : Option Text) :
    OnlyReads (mergedTables settings old new seed) :=
  (onlyReads_readSeed seed).bind fun start =>
    ((Run.onlyReads_ofExcept settings.harvest.pattern).adapt _).bind fun pattern =>
      (Run.onlyReads_mergeTrees settings.harvest pattern old new start).adapt _

section Save

variable {db : Text} {scopes : Scopes} {disk : Disk} (log : List Event)

theorem run_saveTables_of_ok {written : Disk}
    (h : disk.write db (Text.toUtf8 (Scopes.render scopes)) = .ok written) :
    ∃ log', StateT.run (ExceptT.run (saveTables db scopes)) ⟨disk, log⟩ =
      (.ok scopes, ⟨written, log'⟩) := by
  rcases Run.outcome_writeScopes_of_ok log h with ⟨log', hout⟩
  rw [saveTables, Session.run_bind, run_step, hout]
  exact ⟨_, rfl⟩

theorem run_saveTables_of_error {cause : DiskError}
    (h : disk.write db (Text.toUtf8 (Scopes.render scopes)) = .error cause) :
    ∃ e, StateT.run (ExceptT.run (saveTables db scopes)) ⟨disk, log⟩ = (.error e, ⟨disk, log⟩) := by
  rcases Run.outcome_writeScopes_of_error log h with ⟨e, hout⟩
  rw [saveTables, Session.run_bind, run_step, hout]
  exact ⟨_, rfl⟩

end Save

/-- A rename table is built wholly or not at all. An error leaves the disk as it was, and comes from
the steps that read or from a path that has no place for a file. Without one, the file that the path
stands for, and no other, has been written, and the tables are read back from it. -/
theorem buildDatabase_writes_once (disk : Disk) (settings : Settings) (old new db : Text)
    (seed : Option Text) :
    let read := Session.run disk (mergedTables settings old new seed)
    let out := Session.run disk (buildDatabase settings old new db seed)
    match out.1 with
    | .error _ =>
        out.2.disk = disk ∧ ((∃ e, read.1 = .error e) ∨ ∃ cause, disk.target db = .error cause)
    | .ok scopes =>
        read.1 = .ok scopes ∧ (Session.run out.2.disk (Run.readScopes db)).1 = .ok scopes ∧
          ∃ location, disk.target db = .ok location ∧
            ∀ other, out.2.disk.fileAt? other =
              if other = location then some (Text.toUtf8 (Scopes.render scopes))
              else disk.fileAt? other := by
  intro read out
  have hreads := onlyReads_mergedTables settings old new seed
  have heq : out = StateT.run (ExceptT.run (mergedTables settings old new seed >>= saveTables db))
      { disk } :=
    congrArg (fun steps => StateT.run (ExceptT.run steps) _)
      (buildDatabase_eq settings old new db seed)
  cases hread : read.1 with
  | error e =>
    rcases hreads.run_bind_of_error (saveTables db) { disk } hread with ⟨log, hout⟩
    rw [heq.trans hout]
    exact ⟨rfl, .inl ⟨e, rfl⟩⟩
  | ok scopes =>
    rcases hreads.run_bind_of_ok (saveTables db) { disk } hread with ⟨log, hout⟩
    cases hwrite : disk.write db (Text.toUtf8 (Scopes.render scopes)) with
    | error cause =>
      rcases run_saveTables_of_error log hwrite with ⟨e, hsave⟩
      rw [heq.trans (hout.trans hsave)]
      exact ⟨rfl, .inr ⟨cause, Disk.target_of_write_eq_error hwrite⟩⟩
    | ok written =>
      rcases run_saveTables_of_ok log hwrite with ⟨log', hsave⟩
      rw [heq.trans (hout.trans hsave)]
      exact ⟨rfl, Run.readScopes_of_read (Disk.read_write hwrite), Disk.fileAt?_write hwrite⟩

end Command

end Relabel

import Relabel.Proofs.Layout
import Relabel.Run.Refactor

/-!
# What runs do to a session

Each operation on files either gives its result and leaves a session, or stops and leaves
the disk as it was.
-/

namespace Relabel

theorem Text.ofBytes_of_toBytes {t : Text} {bytes : Bytes} (h : toBytes t = .ok bytes) :
    ofBytes bytes = t := by
  induction t generalizing bytes with
  | nil =>
    cases h
    rfl
  | cons c rest ih =>
    rw [toBytes] at h
    by_cases hc : c.toNat < 256
    · rw [if_pos hc] at h
      cases hrest : toBytes rest with
      | error d => rw [hrest] at h; contradiction
      | ok more =>
        rw [hrest] at h
        cases h
        have hbyte : c.toNat.toUInt8.toNat = c.toNat := by
          simp [Nat.mod_eq_of_lt hc]
        have hmore := ih hrest
        rw [ofBytes] at hmore ⊢
        rw [List.map_cons, hmore, hbyte, Char.ofNat_toNat]
    · rw [if_neg hc] at h
      contradiction

/-! ## 1. Operations -/

/-- Steps go on from where the steps before them ended, unless those stopped with an error. -/
theorem Session.run_bind {ε α β : Type} (steps : ExceptT ε (StateM Session) α)
    (next : α → ExceptT ε (StateM Session) β) (session : Session) :
    StateT.run (ExceptT.run (steps >>= next)) session =
      match StateT.run (ExceptT.run steps) session with
      | (.ok a, between) => StateT.run (ExceptT.run (next a)) between
      | (.error e, between) => (.error e, between) := by
  simp only [ExceptT.run_bind, StateT.run_bind]
  rcases StateT.run (ExceptT.run steps) session with ⟨_ | _, _⟩ <;> rfl

namespace Run

variable {α β : Type}

/-- What a run gives from a session on, and the session that it leaves. -/
def outcome (run : Run α) (session : Session) : Except Error α × Session :=
  StateT.run (ExceptT.run run) session

theorem outcome_pure (a : α) (session : Session) :
    outcome (pure a) session = (.ok a, session) :=
  rfl

theorem outcome_note (events : List Event) (session : Session) :
    outcome (note events) session = (.ok (), { session with log := session.log ++ events }) :=
  rfl

theorem outcome_ofExcept (result : Except Error α) (session : Session) :
    outcome (ofExcept result) session = (result, session) := by
  cases result <;> rfl

theorem outcome_bind (run : Run α) (next : α → Run β) (session : Session) :
    outcome (run >>= next) session =
      match outcome run session with
      | (.ok a, session') => outcome (next a) session'
      | (.error e, session') => (.error e, session') := by
  rw [outcome, Session.run_bind, outcome]
  rcases StateT.run (ExceptT.run run) session with ⟨_ | _, _⟩ <;> rfl

/-- A result behind two runs is that of the second, which goes on from where the first ended. -/
theorem exists_of_outcome_bind {run : Run α} {next : α → Run β} {session after : Session} {b : β}
    (h : outcome (run >>= next) session = (.ok b, after)) :
    ∃ a between, outcome run session = (.ok a, between) ∧
      outcome (next a) between = (.ok b, after) := by
  rw [outcome_bind] at h
  split at h
  · exact ⟨_, _, ‹_›, h⟩
  · cases h

theorem outcome_get_bind (next : Session → Run β) (session : Session) :
    outcome (get >>= next) session = outcome (next session) session :=
  rfl

theorem outcome_during (doing : String) (run : Run α) (session : Session) :
    outcome (during doing run) session =
      ((outcome run session).1.mapError (.context doing), (outcome run session).2) := by
  simp only [outcome, during, tryCatch, tryCatchThe, MonadExceptOf.tryCatch, ExceptT.tryCatch,
    ExceptT.run, ExceptT.mk, StateT.run_bind]
  rcases StateT.run run session with ⟨_ | _, _⟩ <;> rfl

theorem outcome_writeBytes (path : Text) (bytes : Bytes) (session : Session) :
    outcome (writeBytes path bytes) session =
      match session.disk.write path bytes with
      | .ok disk => (.ok (), { session with disk })
      | .error cause => (.error (.disk cause), session) := by
  rw [writeBytes, outcome_get_bind, outcome_bind, outcome_ofExcept]
  cases session.disk.write path bytes <;> rfl

theorem outcome_readSource (path : Text) (session : Session) :
    outcome (readSource path) session =
      (((session.disk.read path).mapError fun cause =>
        .context s!"Failed to read {String.ofList path}" (.disk cause)).map Text.ofBytes,
      session) := by
  rw [readSource, outcome_bind, outcome_during, readBytes, outcome_get_bind, outcome_ofExcept]
  cases session.disk.read path <;> rfl

theorem of_outcome_readSource {path text : Text} {session after : Session}
    (h : outcome (readSource path) session = (.ok text, after)) :
    after = session ∧ ∃ bytes, session.disk.read path = .ok bytes ∧ text = Text.ofBytes bytes := by
  rw [outcome_readSource] at h
  cases hbytes : session.disk.read path with
  | error cause =>
    rw [hbytes] at h
    cases h
  | ok bytes =>
    rw [hbytes] at h
    cases h
    exact ⟨rfl, bytes, rfl, rfl⟩

theorem outcome_writeSource_of_error {path text : Text} {c : Char}
    (h : Text.toBytes text = .error c) (session : Session) :
    outcome (writeSource path text) session = (.error (unencodable path c), session) := by
  rw [writeSource, outcome_bind, outcome_ofExcept, encode, h]
  rfl

theorem outcome_writeSource_of_ok {path text : Text} {bytes : Bytes} {disk disk' : Disk}
    (hbytes : Text.toBytes text = .ok bytes) (hwrite : disk.write path bytes = .ok disk')
    (log : List Event) :
    outcome (writeSource path text) ⟨disk, log⟩ = (.ok (), ⟨disk', log⟩) := by
  rw [writeSource, outcome_bind, outcome_ofExcept, encode, hbytes]
  simp only [Except.mapError]
  rw [outcome_during, outcome_writeBytes, hwrite]
  rfl

theorem outcome_writeSource_of_refused {path text : Text} {bytes : Bytes} {disk : Disk}
    {cause : DiskError} (hbytes : Text.toBytes text = .ok bytes)
    (hwrite : disk.write path bytes = .error cause) (log : List Event) :
    outcome (writeSource path text) ⟨disk, log⟩ =
      (.error (.context s!"Failed to write {String.ofList path}" (.disk cause)), ⟨disk, log⟩) := by
  rw [writeSource, outcome_bind, outcome_ofExcept, encode, hbytes]
  simp only [Except.mapError]
  rw [outcome_during, outcome_writeBytes, hwrite]
  rfl

theorem of_outcome_writeSource {path text : Text} {session after : Session}
    (h : outcome (writeSource path text) session = (.ok (), after)) :
    ∃ bytes, Text.toBytes text = .ok bytes ∧ session.disk.write path bytes = .ok after.disk := by
  cases hbytes : Text.toBytes text with
  | error c =>
    rw [outcome_writeSource_of_error hbytes] at h
    cases h
  | ok bytes =>
    rw [writeSource, outcome_bind, outcome_ofExcept, encode, hbytes] at h
    simp only [Except.mapError] at h
    rw [outcome_during, outcome_writeBytes] at h
    cases hwrite : session.disk.write path bytes with
    | error cause =>
      rw [hwrite] at h
      cases h
    | ok disk =>
      rw [hwrite] at h
      cases h
      exact ⟨bytes, rfl, hwrite⟩

theorem outcome_sourceFiles_of_none {root : Text} (session : Session)
    (h : (session.disk.walk root).stop = none) (pattern : Glob) :
    ∃ log, outcome (sourceFiles root pattern) session =
      (.ok ((select pattern (session.disk.walk root).met).1.map (·.path)),
        { session with log }) := by
  rw [sourceFiles, outcome_get_bind]
  simp only [h]
  exact ⟨_, rfl⟩

theorem outcome_sourceFiles_of_some {root : Text} {session : Session} {stop : Text × DiskError}
    (h : (session.disk.walk root).stop = some stop) (pattern : Glob) :
    ∃ e log, outcome (sourceFiles root pattern) session = (.error e, { session with log }) := by
  rw [sourceFiles, outcome_get_bind]
  simp only [h]
  exact ⟨_, _, rfl⟩

theorem run_sourceFiles {disk : Disk} {root : Text} (h : (disk.walk root).stop = none)
    (pattern : Glob) :
    (Session.run disk (sourceFiles root pattern)).1 =
      .ok ((select pattern (disk.walk root).met).1.map (·.path)) := by
  rcases outcome_sourceFiles_of_none { disk } h pattern with ⟨log, hout⟩
  exact congrArg Prod.fst hout

end Run

/-! ## 2. One file -/

namespace Refactoring

open Run

theorem outcome_applyPasses {r : Refactoring} (hfilled : r.database.isEmpty = false)
    (passes : List Pass) (text : Text) (session : Session) :
    outcome (r.applyPasses passes text) session =
      (.ok (Passes.apply passes r.lead r.database text),
        { session with log := session.log ++ Passes.events r.lead r.database passes text }) := by
  rw [applyPasses, outcome_bind, outcome_ofExcept, Passes.run_eq_ok hfilled]
  rfl

/-- Passes that were run have a database to look names up in. -/
theorem of_outcome_applyPasses {r : Refactoring} {passes : List Pass} (hpasses : passes ≠ [])
    {text text' : Text} {session after : Session}
    (h : outcome (r.applyPasses passes text) session = (.ok text', after)) :
    r.database.isEmpty = false ∧ text' = Passes.apply passes r.lead r.database text ∧
      after.disk = session.disk := by
  cases hempty : r.database.isEmpty with
  | true =>
    have hsome : passes.isEmpty = false := List.isEmpty_eq_false_iff.mpr hpasses
    rw [applyPasses, outcome_bind, outcome_ofExcept, Passes.run, Database.ensureFilled, hempty,
      hsome] at h
    cases h
  | false =>
    rw [outcome_applyPasses hempty] at h
    cases h
    exact ⟨rfl, rfl, rfl⟩

/-- The bytes that the source passes make of the bytes of a file, if each character has one. -/
def rewritten? (r : Refactoring) (bytes : Bytes) : Option Bytes :=
  (Text.toBytes (Passes.apply Pass.source r.lead r.database (Text.ofBytes bytes))).toOption

variable {r : Refactoring} {path : Text} {session : Session} {bytes bytes' : Bytes}

theorem toBytes_of_rewritten? (h : r.rewritten? bytes = some bytes') :
    Text.toBytes (Passes.apply Pass.source r.lead r.database (Text.ofBytes bytes)) =
      .ok bytes' := by
  rw [rewritten?] at h
  cases htext : Text.toBytes (Passes.apply Pass.source r.lead r.database (Text.ofBytes bytes)) with
  | error c => rw [htext] at h; contradiction
  | ok new =>
    rw [htext] at h
    cases h
    rfl

/-- The text of a file stays the same if and only if its bytes do. -/
theorem apply_eq_iff_rewritten? :
    Passes.apply Pass.source r.lead r.database (Text.ofBytes bytes) = Text.ofBytes bytes ↔
      r.rewritten? bytes = some bytes := by
  constructor
  · intro hsame
    rw [rewritten?, hsame, Text.toBytes_ofBytes]
    rfl
  · intro hsome
    exact (Text.ofBytes_of_toBytes (toBytes_of_rewritten? hsome)).symm

theorem outcome_file_of_unread {cause : DiskError} (h : session.disk.read path = .error cause) :
    ∃ e log, outcome (r.file path) session = (.error e, { session with log }) := by
  simp only [file, say, outcome_bind, outcome_note, outcome_readSource, h]
  exact ⟨_, _, rfl⟩

theorem outcome_file_of_none (hfilled : r.database.isEmpty = false)
    (hread : session.disk.read path = .ok bytes) (h : r.rewritten? bytes = none) :
    ∃ e log, outcome (r.file path) session = (.error e, { session with log }) := by
  -- the text is another one, for what was read can be written back
  have hother : Passes.apply Pass.source r.lead r.database (Text.ofBytes bytes) ≠
      Text.ofBytes bytes := by
    rw [Ne, apply_eq_iff_rewritten?, h]
    exact (Option.some_ne_none bytes).symm
  rw [rewritten?] at h
  cases htext : Text.toBytes (Passes.apply Pass.source r.lead r.database (Text.ofBytes bytes)) with
  | ok new => rw [htext] at h; contradiction
  | error c =>
    simp only [file, say, outcome_bind, outcome_note, outcome_readSource, hread, Except.mapError,
      Except.map, outcome_applyPasses hfilled, if_neg hother, outcome_writeSource_of_error htext]
    exact ⟨_, _, rfl⟩

/-- A file that can be rewritten is written if its bytes change. -/
theorem outcome_file_of_some (hfilled : r.database.isEmpty = false)
    (hread : session.disk.read path = .ok bytes) (h : r.rewritten? bytes = some bytes')
    {disk : Disk} (hwrite : session.disk.write path bytes' = .ok disk) :
    ∃ log, outcome (r.file path) session =
      (.ok (decide (bytes' ≠ bytes)), ⟨if bytes' = bytes then session.disk else disk, log⟩) := by
  have htext : Passes.apply Pass.source r.lead r.database (Text.ofBytes bytes) =
      Text.ofBytes bytes ↔ bytes' = bytes := by
    rw [apply_eq_iff_rewritten?, h, Option.some_inj]
  simp only [file, say, outcome_bind, outcome_note, outcome_readSource, hread, Except.mapError,
    Except.map, outcome_applyPasses hfilled, htext]
  by_cases hsame : bytes' = bytes
  · simp only [if_pos hsame, outcome_bind, outcome_note, outcome_pure,
      decide_eq_false (not_not.mpr hsame)]
    exact ⟨_, rfl⟩
  · simp only [if_neg hsame, outcome_bind,
      outcome_writeSource_of_ok (toBytes_of_rewritten? h) hwrite, outcome_pure,
      decide_eq_true hsame]
    exact ⟨_, rfl⟩

end Refactoring

end Relabel

import Relabel.Proofs.Sessions
import Relabel.Proofs.Writing

/-!
# Passes over a file one at a time

Each pass can be run over a file by itself, in place. Run in turn, the three passes over a source
leave the disk as they do when they are run at once: the bytes between two passes are read back as
the text that was written, and what is written last is what stays.
-/

namespace Relabel.Refactoring

open Run

variable {r : Refactoring} {path : Text} {disk after : Disk}

/-- What a pass over a file has found and done. -/
theorem of_outcome_passFile {pass : Pass} {input output : Text} {session after : Session}
    {changed : Bool} (h : outcome (r.passFile pass input output) session = (.ok changed, after)) :
    r.database.isEmpty = false ∧ ∃ bytes bytes', session.disk.read input = .ok bytes ∧
      Text.toBytes (pass.apply r.lead r.database (Text.ofBytes bytes)) = .ok bytes' ∧
      session.disk.write output bytes' = .ok after.disk := by
  rw [passFile, say] at h
  rcases exists_of_outcome_bind h with ⟨_, noted, hnote, h⟩
  rcases exists_of_outcome_bind h with ⟨text, read, hread, h⟩
  rcases exists_of_outcome_bind h with ⟨text', passed, hpass, h⟩
  rcases exists_of_outcome_bind h with ⟨_, written, hwrite, hlast⟩
  -- before the write, nothing but the log changes
  have hnoted : noted.disk = session.disk := (congrArg (fun out => out.2.disk) hnote).symm
  rcases of_outcome_readSource hread with ⟨rfl, bytes, hbytes, rfl⟩
  rcases of_outcome_applyPasses (List.cons_ne_nil _ _) hpass with ⟨hfilled, rfl, hpassed⟩
  rcases of_outcome_writeSource hwrite with ⟨bytes', hbytes', hwritten⟩
  have hafter : written.disk = after.disk := congrArg (fun out => out.2.disk) hlast
  rw [hnoted] at hbytes
  rw [hpassed, hnoted, hafter] at hwritten
  exact ⟨hfilled, bytes, bytes', hbytes, hbytes', hwritten⟩

/-- Whether passes over a file, each in place and run by itself, all end well and lead from a
disk to another. -/
inductive InTurn (r : Refactoring) (path : Text) : List Pass → Disk → Disk → Prop
  | nil (disk : Disk) : InTurn r path [] disk disk
  | cons {pass : Pass} {passes : List Pass} {disk after : Disk} {changed : Bool} {between : Session}
      (h : Session.run disk (r.passFile pass path path) = (.ok changed, between))
      (hrest : InTurn r path passes between.disk after) : InTurn r path (pass :: passes) disk after

/-- Passes in turn do to a file what the passes do to its text, and write to it as if once. -/
theorem InTurn.write_eq {passes : List Pass} (h : InTurn r path passes disk after) {bytes : Bytes}
    (hread : disk.read path = .ok bytes) :
    ∃ bytes', Text.toBytes (Passes.apply passes r.lead r.database (Text.ofBytes bytes)) =
      .ok bytes' ∧
      disk.write path bytes' = .ok after := by
  induction h generalizing bytes with
  | nil disk => exact ⟨bytes, Text.toBytes_ofBytes bytes, Disk.write_of_read hread⟩
  | @cons pass passes disk after changed between h hrest ih =>
    rcases of_outcome_passFile h with ⟨-, found, middle, hfound, hmiddle, hwrite⟩
    have hsame : found = bytes := Except.ok.inj (hfound.symm.trans hread)
    subst hsame
    -- the next pass reads what this one has written
    rcases ih (Disk.read_write hwrite) with ⟨bytes', hbytes', hwrite'⟩
    rw [Text.ofBytes_of_toBytes hmiddle] at hbytes'
    exact ⟨bytes', hbytes', (Disk.write_write hwrite bytes').symm.trans hwrite'⟩

/-- Where the three passes over a source succeed one after the other, so do they at once, with the
same disk; and it is told whether the bytes of the file have changed. -/
theorem file_eq_single_passes {changed₁ changed₂ changed₃ : Bool} {after₁ after₂ after₃ : Session}
    (h₁ : Session.run disk (r.passFile .declarations path path) = (.ok changed₁, after₁))
    (h₂ : Session.run after₁.disk (r.passFile .instantiations path path) = (.ok changed₂, after₂))
    (h₃ : Session.run after₂.disk (r.passFile .symbols path path) = (.ok changed₃, after₃)) :
    ∃ bytes bytes' log, disk.read path = .ok bytes ∧ after₃.disk.read path = .ok bytes' ∧
      Session.run disk (r.file path) = (.ok (decide (bytes' ≠ bytes)), ⟨after₃.disk, log⟩) := by
  have hturn : InTurn r path Pass.source disk after₃.disk := .cons h₁ (.cons h₂ (.cons h₃ (.nil _)))
  rcases of_outcome_passFile h₁ with ⟨hfilled, bytes, -, hread, -⟩
  rcases hturn.write_eq hread with ⟨bytes', hbytes', hwrite⟩
  have hrewritten : r.rewritten? bytes = some bytes' := by
    rw [rewritten?, hbytes']
    rfl
  have hfile : ∃ log, Session.run disk (r.file path) =
      (.ok (decide (bytes' ≠ bytes)), ⟨if bytes' = bytes then disk else after₃.disk, log⟩) :=
    outcome_file_of_some hfilled hread hrewritten hwrite
  rcases hfile with ⟨log, hout⟩
  -- a file that stays the same is not written, which makes no difference
  have hdisk : (if bytes' = bytes then disk else after₃.disk) = after₃.disk := by
    split
    next hsame =>
      rw [hsame, Disk.write_of_read hread] at hwrite
      exact Except.ok.inj hwrite
    · rfl
  rw [hdisk] at hout
  exact ⟨bytes, bytes', log, hread, Disk.read_write hwrite, hout⟩

/-- Through a link, and with passes of which the last undoes the first. -/
theorem file_eq_single_passes_undone :
    let r : Refactoring :=
      ⟨⟨.ofList [("c".toList, .ofList [("a".toList, "b".toList), ("b".toList, "a".toList)])]⟩,
        [.anyRun], []⟩
    let bytes := Text.toUtf8 "entity c is\n  a : in; -- ".toList ++ [0xE9]
    let disk : Disk := { root := .dir [("s".toList, .link "d/c.vhd".toList),
      ("d".toList, .dir [("c.vhd".toList, .file bytes)])] }
    let path := "./s".toList
    let after₁ := (Session.run disk (r.passFile .declarations path path)).2
    let after₂ := (Session.run after₁.disk (r.passFile .instantiations path path)).2
    let after₃ := (Session.run after₂.disk (r.passFile .symbols path path)).2
    (Session.run disk (r.passFile .declarations path path) = (.ok true, after₁) ∧
        Session.run after₁.disk (r.passFile .instantiations path path) = (.ok false, after₂) ∧
        Session.run after₂.disk (r.passFile .symbols path path) = (.ok true, after₃) ∧
        (Session.run disk (r.file path)).1 = .ok false) ∧
      ∃ bytes bytes' log, disk.read path = .ok bytes ∧ after₃.disk.read path = .ok bytes' ∧
        Session.run disk (r.file path) = (.ok (decide (bytes' ≠ bytes)), ⟨after₃.disk, log⟩) := by
  repeat rw [String.toList_ofList]
  intro r bytes disk path after₁ after₂ after₃
  have hfirst : (Session.run disk (r.passFile .declarations path path)).1 = .ok true := by
    decide +kernel
  have hsecond : (Session.run after₁.disk (r.passFile .instantiations path path)).1 =
      .ok false := by
    decide +kernel
  have hthird : (Session.run after₂.disk (r.passFile .symbols path path)).1 = .ok true := by
    decide +kernel
  have hfile : (Session.run disk (r.file path)).1 = .ok false := by decide +kernel
  have h₁ : Session.run disk (r.passFile .declarations path path) = (.ok true, after₁) := by
    rw [← hfirst]
  have h₂ : Session.run after₁.disk (r.passFile .instantiations path path) =
      (.ok false, after₂) := by
    rw [← hsecond]
  have h₃ : Session.run after₂.disk (r.passFile .symbols path path) = (.ok true, after₃) := by
    rw [← hthird]
  exact ⟨⟨h₁, h₂, h₃, hfile⟩, file_eq_single_passes h₁ h₂ h₃⟩

end Relabel.Refactoring

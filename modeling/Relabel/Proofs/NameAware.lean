import Relabel.Proofs.Merging

/-!
# Pairing by form

A form that one old name and one new name have, and no others, pairs the two. All names of
other forms are paired by position among themselves, so a merge by form has as many entries
as one by position.
-/

namespace Relabel.Merge

section SoleForms

variable {old new : List Name}

/-- Whether a form occurs exactly once among the old names, and once among the new ones. -/
def SoleForm (old new : List Name) (f : Name) : Prop :=
  (old.map form).count f = 1 ∧ (new.map form).count f = 1

instance (old new : List Name) (f : Name) : Decidable (SoleForm old new f) :=
  inferInstanceAs (Decidable (_ ∧ _))

theorem count_map_form (names : List Name) (f : Name) :
    (names.map form).count f = (ofForm f names).length := by
  rw [List.count_eq_countP, List.countP_map, List.countP_eq_length_filter]
  rfl

theorem ofForm_eq_singleton {names : List Name} {f name : Name}
    (hcount : (names.map form).count f = 1) (hmem : name ∈ names) (hform : form name = f) :
    ofForm f names = [name] := by
  rw [count_map_form, List.length_eq_one_iff] at hcount
  rcases hcount with ⟨sole, hsole⟩
  -- the name is a member, so it is the sole one
  have hname := mem_ofForm.mpr ⟨hmem, hform⟩
  rw [hsole, List.mem_singleton] at hname
  rw [hsole, hname]

theorem mem_pairsFor_nameAware {p : Name × Name} :
    p ∈ pairsFor .nameAware old new ↔ ∃ f, ofForm f old = [p.1] ∧ ofForm f new = [p.2] := by
  simp only [pairsFor, mem_pairsByForm, get?_soleNames_eq_some]

theorem SoleForm.mem_pairsFor {o n : Name} (h : SoleForm old new (form o)) (ho : o ∈ old)
    (hn : n ∈ new) (hform : form n = form o) : (o, n) ∈ pairsFor .nameAware old new :=
  mem_pairsFor_nameAware.mpr
    ⟨form o, ofForm_eq_singleton h.1 ho rfl, ofForm_eq_singleton h.2 hn hform⟩

theorem soleForm_of_mem_pairsFor {p : Name × Name} (h : p ∈ pairsFor .nameAware old new) :
    SoleForm old new (form p.1) ∧ form p.2 = form p.1 := by
  rcases mem_pairsFor_nameAware.mp h with ⟨f, hold, hnew⟩
  have ho : form p.1 = f := (mem_ofForm.mp (hold ▸ List.mem_singleton_self p.1)).2
  have hn : form p.2 = f := (mem_ofForm.mp (hnew ▸ List.mem_singleton_self p.2)).2
  rw [ho, hn, SoleForm, count_map_form, count_map_form, hold, hnew]
  exact ⟨⟨rfl, rfl⟩, rfl⟩

theorem SoleForm.exists_mem {f : Name} (h : SoleForm old new f) :
    (∃ o ∈ old, form o = f) ∧ ∃ n ∈ new, form n = f := by
  have hold : f ∈ old.map form := List.count_pos_iff.mp (by rw [h.1]; exact Nat.one_pos)
  have hnew : f ∈ new.map form := List.count_pos_iff.mp (by rw [h.2]; exact Nat.one_pos)
  exact ⟨List.mem_map.mp hold, List.mem_map.mp hnew⟩

theorem mem_map_fst_pairsFor {o : Name} (ho : o ∈ old) :
    o ∈ (pairsFor .nameAware old new).map Prod.fst ↔ SoleForm old new (form o) := by
  rw [List.mem_map]
  constructor
  · rintro ⟨p, hp, rfl⟩
    exact (soleForm_of_mem_pairsFor hp).1
  · intro hsole
    -- the form is that of a new name, too
    rcases hsole.exists_mem.2 with ⟨n, hn, hform⟩
    exact ⟨(o, n), hsole.mem_pairsFor ho hn hform, rfl⟩

theorem mem_map_snd_pairsFor {n : Name} (hn : n ∈ new) :
    n ∈ (pairsFor .nameAware old new).map Prod.snd ↔ SoleForm old new (form n) := by
  rw [List.mem_map]
  constructor
  · rintro ⟨p, hp, rfl⟩
    have hp := soleForm_of_mem_pairsFor hp
    rw [hp.2]
    exact hp.1
  · intro hsole
    rcases hsole.exists_mem.1 with ⟨o, ho, hform⟩
    rw [← hform] at hsole
    exact ⟨(o, n), hsole.mem_pairsFor ho hn hform.symm, rfl⟩

theorem isNone_valueAt?_pairsFor {o : Name} (ho : o ∈ old) :
    (valueAt? o (pairsFor .nameAware old new)).isNone = decide (¬ SoleForm old new (form o)) := by
  rw [Bool.eq_iff_iff, Option.isNone_iff_eq_none, valueAt?_eq_none, mem_map_fst_pairsFor ho,
    decide_eq_true_eq]

theorem unpaired_pairsFor (old new : List Name) :
    unpaired (pairsFor .nameAware old new) old = old.filter fun o => ¬ SoleForm old new (form o) :=
  List.filter_congr fun _ ho => isNone_valueAt?_pairsFor ho

theorem unclaimed_pairsFor (old new : List Name) :
    unclaimed (pairsFor .nameAware old new) new = new.filter fun n =>
      ¬ SoleForm old new (form n) := by
  apply List.filter_congr
  intro n hn
  rw [Bool.eq_iff_iff, Bool.not_eq_true', ← Bool.not_eq_true, List.contains_iff_mem,
    mem_map_snd_pairsFor hn, decide_eq_true_eq]

end SoleForms

theorem get?_nameAware {old new : RenameTable} {o n : Name}
    (h : SoleForm old.keys new.keys (form o)) (ho : o ∈ old.keys) (hn : n ∈ new.keys)
    (hform : form n = form o) : (nameAware old new).get? o = some n := by
  have hpartners := partners_pairsFor .nameAware old.keys new.keys
  have hpartner := valueAt?_of_mem hpartners.nodup_fst (h.mem_pairsFor ho hn hform)
  have hentry :=
    mem_fill_of_valueAt? hpartner ho (unclaimed (pairsFor .nameAware old.keys new.keys) new.keys)
  rw [← entries_byStrategy] at hentry
  exact Table.get?_of_mem hentry

theorem filter_entries_nameAware (old new : RenameTable) :
    (nameAware old new).entries.filter (fun e => ¬ SoleForm old.keys new.keys (form e.1)) =
      (old.keys.filter fun o => ¬ SoleForm old.keys new.keys (form o)).zip
        (new.keys.filter fun n => ¬ SoleForm old.keys new.keys (form n)) := by
  have hentries := entries_byStrategy .nameAware old new
  have hfilter := filter_fill (pairsFor .nameAware old.keys new.keys) old.keys
    (unclaimed (pairsFor .nameAware old.keys new.keys) new.keys)
  rw [← hentries, unpaired_pairsFor, unclaimed_pairsFor] at hfilter
  rw [← hfilter]
  -- every key of the table is an old name, and has a partner exactly when its form is sole
  apply List.filter_congr
  intro e he
  have hkey : e.1 ∈ old.keys :=
    (keys_byStrategy_sublist .nameAware old new).subset (List.mem_map_of_mem he)
  exact (isNone_valueAt?_pairsFor hkey).symm

/-- A merge by form pairs old names, in order, with new names, none of them twice, and as many as
there are on the smaller side. A sole form pairs its two names. The names of other forms are
paired as they come. -/
theorem nameAware_pairs_injectively (old new : RenameTable) :
    let merged := nameAware old new
    let sole := SoleForm old.keys new.keys
    merged.keys.Sublist old.keys ∧
      merged.values.Nodup ∧ (∀ v ∈ merged.values, v ∈ new.keys) ∧
      merged.size = min old.size new.size ∧ merged.size = (positional old new).size ∧
      (∀ o ∈ old.keys, ∀ n ∈ new.keys, form n = form o → sole (form o) → merged.get? o = some n) ∧
      merged.entries.filter (fun e => ¬ sole (form e.1)) =
        (old.keys.filter fun o => ¬ sole (form o)).zip
          (new.keys.filter fun n => ¬ sole (form n)) := by
  intro merged sole
  have hvalues : merged.values.Subperm new.keys := values_byStrategy_subperm .nameAware old new
  have hsize : merged.size = min old.size new.size := size_byStrategy .nameAware old new
  have hpositional : (positional old new).size = min old.size new.size :=
    size_byStrategy .positional old new
  refine ⟨keys_byStrategy_sublist .nameAware old new, ?_, hvalues.subset, hsize,
    hsize.trans hpositional.symm, ?_, filter_entries_nameAware old new⟩
  · rcases hvalues with ⟨values, hperm, hsublist⟩
    exact hperm.nodup_iff.mp (hsublist.nodup new.keys_nodup)
  · intro o ho n hn hform hsole
    exact get?_nameAware hsole ho hn hform

/-- Two old names share a form that only one new name has; they take what is left, and the last old
name goes without. -/
theorem nameAware_pairs_injectively_ambiguous :
    let old : RenameTable := .identity (["DataIn", "A_B", "ab", "Rst", "x"].map String.toList)
    let new : RenameTable := .identity (["rst", "data_in", "AB", "y"].map String.toList)
    let merged := nameAware old new
    merged.values.Nodup ∧ merged.size = 4 ∧ merged.get? "DataIn".toList = some "data_in".toList ∧
      merged.get? "Rst".toList = some "rst".toList ∧
      merged.entries.filter (fun e => ¬ SoleForm old.keys new.keys (form e.1)) =
        [("A_B".toList, "AB".toList), ("ab".toList, "y".toList)] := by
  intro old new merged
  have h := nameAware_pairs_injectively old new
  refine ⟨h.2.1, h.2.2.2.1.trans (by decide +kernel), ?_, ?_,
    h.2.2.2.2.2.2.trans (by decide +kernel)⟩
  · exact h.2.2.2.2.2.1 _ (by decide +kernel) _ (by decide +kernel) (by decide +kernel)
      (by decide +kernel)
  · exact h.2.2.2.2.2.1 _ (by decide +kernel) _ (by decide +kernel) (by decide +kernel)
      (by decide +kernel)

end Relabel.Merge

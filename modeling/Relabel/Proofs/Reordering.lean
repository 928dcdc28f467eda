import Mathlib.Data.List.Forall2
import Relabel.Proofs.NameAware

/-!
# Names in another order, and names in place

Pairing by form visits the old forms in no particular order. The pairs that come out differ in their
order only, and the merged table not at all. New names in another order leave the partners as they
are. Where each new name stands at the place of the old name that it restyles, pairing by form and
pairing by position are the same.
-/

namespace Relabel.Merge

/-! ## 1. The order of the pairs -/

section Order

variable {pairs pairs₁ : List (Name × Name)}

theorem fill_congr (h : ∀ name, valueAt? name pairs = valueAt? name pairs₁)
    (old leftover : List Name) :
    fill pairs old leftover = fill pairs₁ old leftover := by
  induction old generalizing leftover with
  | nil => rfl
  | cons name old ih =>
    rw [fill.eq_def, fill.eq_def pairs₁]
    simp only [h, ih]

theorem unclaimed_perm (h : pairs.Perm pairs₁) (new : List Name) :
    unclaimed pairs new = unclaimed pairs₁ new := by
  rw [unclaimed, unclaimed]
  simp only [(h.map Prod.snd).contains_eq]

theorem withPairs_perm (h : pairs.Perm pairs₁) (hpairs : (pairs.map Prod.fst).Nodup)
    (old new : RenameTable) :
    withPairs pairs old new = withPairs pairs₁ old new := by
  apply Table.ext
  rw [entries_withPairs, entries_withPairs, unclaimed_perm h, fill_congr (valueAt?_perm h hpairs)]

theorem withPairs_eq_nameAware {forms : List (Name × Option Name)} {old new : RenameTable}
    (hforms : forms.Perm (soleNames old.keys).entries)
    (hpairs : pairs.Perm (pairsByForm forms (soleNames new.keys))) :
    withPairs pairs old new = nameAware old new := by
  have hperm : pairs.Perm (pairsFor .nameAware old.keys new.keys) :=
    hpairs.trans (hforms.filterMap _)
  -- in table order no old name comes twice, so in no order does one
  have hnodup := (partners_pairsFor .nameAware old.keys new.keys).nodup_fst
  exact withPairs_perm hperm ((hperm.map Prod.fst).nodup_iff.mpr hnodup) old new

end Order

/-! ## 2. The order of the new names -/

section NewNames

variable {old new new₁ : RenameTable}

theorem SoleForm.perm {old new new₁ : List Name} {f : Name} (h : SoleForm old new f)
    (hperm : new₁.Perm new) :
    SoleForm old new₁ f :=
  ⟨h.1, ((hperm.map form).count_eq f).trans h.2⟩

theorem keys_nameAware_of_soleForm (hsole : ∀ o ∈ old.keys, SoleForm old.keys new.keys (form o)) :
    (nameAware old new).keys = old.keys := by
  have hsubset : old.keys ⊆ (nameAware old new).keys := by
    intro o ho
    rcases (hsole o ho).exists_mem.2 with ⟨n, hn, hform⟩
    exact Table.mem_keys_of_get? (get?_nameAware (hsole o ho) ho hn hform)
  apply (keys_byStrategy_sublist .nameAware old new).eq_of_length_le
  exact (List.subperm_of_subset old.keys_nodup hsubset).length_le

theorem exists_get?_nameAware_perm (hperm : new₁.entries.Perm new.entries) {o : Name}
    (ho : o ∈ old.keys) (hsole : SoleForm old.keys new.keys (form o)) :
    ∃ n ∈ new.keys, form n = form o ∧ (nameAware old new).get? o = some n ∧
      (nameAware old new₁).get? o = some n := by
  rcases hsole.exists_mem.2 with ⟨n, hn, hform⟩
  have hkeys := Table.keys_perm hperm
  exact ⟨n, hn, hform, get?_nameAware hsole ho hn hform,
    get?_nameAware (hsole.perm hkeys) ho (hkeys.mem_iff.mpr hn) hform⟩

theorem nameAware_perm (hperm : new₁.entries.Perm new.entries)
    (hsole : ∀ o ∈ old.keys, SoleForm old.keys new.keys (form o)) :
    nameAware old new₁ = nameAware old new := by
  have hkeys₁ := keys_nameAware_of_soleForm fun o ho => (hsole o ho).perm (Table.keys_perm hperm)
  have hkeys := keys_nameAware_of_soleForm hsole
  apply Table.ext_get? (hkeys₁.trans hkeys.symm)
  intro o
  by_cases ho : o ∈ old.keys
  · rcases exists_get?_nameAware_perm hperm ho (hsole o ho) with ⟨n, -, -, hget, hget₁⟩
    rw [hget, hget₁]
  · -- a name that is none of the old ones is under no key of either table
    rw [Table.get?_eq_none.mpr (hkeys₁ ▸ ho), Table.get?_eq_none.mpr (hkeys ▸ ho)]

end NewNames

/-- A merge by form is the same in whatever order the old forms and the pairs that they give are
visited. With the new names in another order, an old name of a sole form keeps its partner, and the
whole table stays the same if all old names are such. -/
theorem nameAware_order_irrelevant (old new : RenameTable) :
    (∀ forms pairs, forms.Perm (soleNames old.keys).entries →
      pairs.Perm (pairsByForm forms (soleNames new.keys)) →
        withPairs pairs old new = nameAware old new) ∧
      ∀ new₁ : RenameTable, new₁.entries.Perm new.entries →
        (∀ o ∈ old.keys, SoleForm old.keys new.keys (form o) →
          ∃ n ∈ new.keys, form n = form o ∧ (nameAware old new).get? o = some n ∧
            (nameAware old new₁).get? o = some n) ∧
        ((∀ o ∈ old.keys, SoleForm old.keys new.keys (form o)) →
          nameAware old new₁ = nameAware old new) := by
  refine ⟨fun forms pairs hforms hpairs => withPairs_eq_nameAware hforms hpairs,
    fun new₁ hperm => ⟨?_, ?_⟩⟩
  · intro o ho hsole
    exact exists_get?_nameAware_perm hperm ho hsole
  · exact nameAware_perm hperm

/-- The forms are visited from the last to the first, the pairs from the second on, and the new
names come in another order, which changes what pairing by position gives. -/
theorem nameAware_order_irrelevant_rotated :
    let old : RenameTable := .identity (["Width_g", "Depth_g", "Clk"].map String.toList)
    let new : RenameTable := .identity (["depth_g", "clk", "width_g"].map String.toList)
    let new₁ : RenameTable := .identity (["clk", "width_g", "depth_g"].map String.toList)
    let forms := (soleNames old.keys).entries.reverse
    let pairs := (pairsByForm forms (soleNames new.keys)).rotate 1
    forms ≠ (soleNames old.keys).entries ∧ pairs ≠ pairsByForm forms (soleNames new.keys) ∧
      withPairs pairs old new = nameAware old new ∧
      new₁.entries.Perm new.entries ∧ (∀ o ∈ old.keys, SoleForm old.keys new.keys (form o)) ∧
      (nameAware old new₁).get? "Clk".toList = some "clk".toList ∧
      nameAware old new₁ = nameAware old new ∧
      positional old new₁ ≠ positional old new := by
  intro old new new₁ forms pairs
  have hperm : new₁.entries.Perm new.entries := by decide +kernel
  have hsole : ∀ o ∈ old.keys, SoleForm old.keys new.keys (form o) := by decide +kernel
  rcases nameAware_order_irrelevant old new with ⟨hvisits, hnew⟩
  rcases hnew new₁ hperm with ⟨hpartner, hsame⟩
  have hclk : "Clk".toList ∈ old.keys := by decide +kernel
  rcases hpartner _ hclk (hsole _ hclk) with ⟨n, hn, hform, -, hget⟩
  have hname : n = "clk".toList := by
    have hfound : ∀ m ∈ new.keys, form m = form "Clk".toList → m = "clk".toList := by decide +kernel
    exact hfound n hn hform
  exact ⟨by decide +kernel, by decide +kernel,
    hvisits forms pairs (List.reverse_perm _) (by decide +kernel), hperm, hsole, hname ▸ hget,
    hsame hsole, by decide +kernel⟩

/-! ## 3. Names in place -/

section InPlace

variable {pairs : List (Name × Name)} {old new : List Name}

/-- Whether two names that stand at one place are partners, or neither of them has a partner. -/
def InPlace (pairs : List (Name × Name)) (o n : Name) : Prop :=
  valueAt? o pairs = some n ∨ valueAt? o pairs = none ∧ n ∉ pairs.map Prod.snd

theorem fill_of_inPlace (h : List.Forall₂ (InPlace pairs) old new) :
    fill pairs old (unclaimed pairs new) = old.zip new := by
  induction h with
  | nil => rfl
  | @cons o n old new hplace _ ih =>
    rcases hplace with hpartner | ⟨hnone, hleft⟩
    · -- the partner is claimed, so the leftover names are those behind it
      have hclaimed : n ∈ pairs.map Prod.snd := List.mem_map_of_mem (mem_of_valueAt? hpartner)
      rw [unclaimed_cons_of_mem hclaimed, fill_cons_some hpartner, ih, List.zip_cons_cons]
    · rw [unclaimed_cons_of_notMem hleft, fill_cons_none hnone, ih, List.zip_cons_cons]

theorem inPlace_of_form_eq {o n : Name} (ho : o ∈ old) (hn : n ∈ new) (hform : form o = form n) :
    InPlace (pairsFor .nameAware old new) o n := by
  by_cases hsole : SoleForm old new (form o)
  · have hpair := hsole.mem_pairsFor ho hn hform.symm
    exact .inl (valueAt?_of_mem (partners_pairsFor .nameAware old new).nodup_fst hpair)
  · -- a form that is not sole leaves the names on both sides alone
    refine .inr ⟨valueAt?_eq_none.mpr ?_, ?_⟩
    · rwa [mem_map_fst_pairsFor ho]
    · rwa [mem_map_snd_pairsFor hn, ← hform]

theorem forall₂_inPlace (h : old.map form = new.map form) :
    List.Forall₂ (InPlace (pairsFor .nameAware old new)) old new := by
  have hforms : List.Forall₂ (fun o n => form o = form n) old new := by
    rw [← List.forall₂_map_right_iff, ← List.forall₂_map_left_iff, List.forall₂_eq_eq_eq]
    exact h
  rcases List.forall₂_iff_zip.mp hforms with ⟨hlength, hform⟩
  refine List.forall₂_iff_zip.mpr ⟨hlength, fun hmem => ?_⟩
  rcases List.of_mem_zip hmem with ⟨ho, hn⟩
  exact inPlace_of_form_eq ho hn (hform hmem)

end InPlace

theorem entries_nameAware_of_forms {old new : RenameTable}
    (h : old.keys.map form = new.keys.map form) :
    (nameAware old new).entries = old.keys.zip new.keys := by
  have hentries := entries_byStrategy .nameAware old new
  rwa [fill_of_inPlace (forall₂_inPlace h)] at hentries

/-- Where every name has been restyled at its place, both strategies pair it with the new name
there, whether or not other names share its form. -/
theorem nameAware_eq_positional_of_restyled {old new : RenameTable}
    (h : old.keys.map form = new.keys.map form) :
    nameAware old new = positional old new ∧
      (nameAware old new).entries = old.keys.zip new.keys := by
  have hentries := entries_nameAware_of_forms h
  exact ⟨Table.ext (hentries.trans (entries_positional old new).symm), hentries⟩

/-- Two names of one form around a sole one. -/
theorem nameAware_eq_positional_of_restyled_shared :
    let old : RenameTable := .identity (["A_B", "Clk", "ab", "In_Vld"].map String.toList)
    let new : RenameTable := .identity (["ab", "clk", "a_b", "invld"].map String.toList)
    old.keys.map form = new.keys.map form ∧ nameAware old new = positional old new ∧
      (nameAware old new).get? "ab".toList = some "a_b".toList := by
  intro old new
  have hforms : old.keys.map form = new.keys.map form := by decide +kernel
  rcases nameAware_eq_positional_of_restyled hforms with ⟨hsame, hentries⟩
  refine ⟨hforms, hsame, Table.get?_of_mem ?_⟩
  rw [hentries]
  decide +kernel

end Relabel.Merge

import Mathlib.Data.List.Forall2
import Relabel.Pass
import Relabel.Text.SingleByte
import Relabel.Proofs.Renaming

/-!
# Texts that differ in letter case only

Among the characters that have a byte, lowering is done one character at a time, stays among them,
and leaves alone whatever is no letter with case. A database that has its new names under themselves
or under their lower-case forms changes no more than the letter case of a text.
-/

namespace Relabel

namespace Text

/-! ## 1. Characters that have a byte -/

/-- Whether every character of a text has a byte. -/
def IsSingleByte (t : Text) : Prop :=
  ∀ c ∈ t, c.toNat < 256

instance (t : Text) : Decidable (IsSingleByte t) :=
  List.decidableBAll _ t

/-- Whether two characters are the same up to letter case. -/
def SameLetter (c d : Char) : Prop :=
  c.toNat < 256 ∧ d.toNat < 256 ∧ lowerChar c = lowerChar d

theorem lowerChar_eq_singleton {c : Char} (hc : c.toNat < 256) :
    ∃ d, lowerChar c = [d] ∧ SameLetter c d ∧
      (d = c ∨ cased.mem c.toNat = true ∧ cased.mem d.toNat = true) := by
  -- there are 256 such characters, and each is asked for its lower-case form
  have hbytes : ∀ n ∈ List.range 256,
      lowerChar (Char.ofNat n) = [Char.ofNat (Shift.map lowerShifts n)] ∧
        (Char.ofNat (Shift.map lowerShifts n)).toNat < 256 ∧
        lowerChar (Char.ofNat n) = lowerChar (Char.ofNat (Shift.map lowerShifts n)) ∧
        (Char.ofNat (Shift.map lowerShifts n) = Char.ofNat n ∨
          cased.mem (Char.ofNat n).toNat = true ∧
            cased.mem (Char.ofNat (Shift.map lowerShifts n)).toNat = true) := by
    decide +kernel
  have hself := hbytes c.toNat (List.mem_range.mpr hc)
  rw [Char.ofNat_toNat] at hself
  rcases hself with ⟨hlower, hlt, hsame, hcased⟩
  exact ⟨_, hlower, ⟨hc, hlt, hsame⟩, hcased⟩

theorem SameLetter.eq_of_not_cased {c d : Char} (h : SameLetter c d)
    (hc : cased.mem c.toNat = false) : d = c := by
  rcases h with ⟨hcByte, hdByte, hlower⟩
  rcases lowerChar_eq_singleton hcByte with ⟨c', hc', -, hcCase⟩
  rcases lowerChar_eq_singleton hdByte with ⟨d', hd', -, hdCase⟩
  have hsame : c' = d' := by
    rw [hc', hd'] at hlower
    exact (List.cons.inj hlower).1
  have hfixed : c' = c := by
    rcases hcCase with heq | ⟨hcased, -⟩
    · exact heq
    · rw [hc] at hcased
      contradiction
  -- a character that changed would have become a letter with case
  rcases hdCase with heq | ⟨-, hcased⟩
  · rw [← heq, ← hsame, hfixed]
  · rw [← hsame, hfixed, hc] at hcased
    contradiction

/-! ## 2. Texts -/

/-- Whether two texts are the same, character by character, up to letter case. -/
def Recased (t u : Text) : Prop :=
  List.Forall₂ SameLetter t u

namespace Recased

variable {t u v t' u' : Text}

theorem refl (ht : IsSingleByte t) : Recased t t :=
  List.forall₂_same.mpr fun c hc => ⟨ht c hc, ht c hc, rfl⟩

theorem symm (h : Recased t u) : Recased u t :=
  h.flip.imp fun _ _ ⟨hc, hd, hlower⟩ => ⟨hd, hc, hlower.symm⟩

theorem trans (h : Recased t u) (h' : Recased u v) : Recased t v := by
  induction h generalizing v with
  | nil => exact h'
  | cons hletter _ ih =>
    cases h' with
    | cons hletter' h' =>
      exact .cons ⟨hletter.1, hletter'.2.1, hletter.2.2.trans hletter'.2.2⟩ (ih h')

theorem append (h : Recased t u) (h' : Recased t' u') : Recased (t ++ t') (u ++ u') :=
  List.rel_append h h'

theorem isSingleByte_right (h : Recased t u) : IsSingleByte u := by
  induction h with
  | nil => exact List.forall_mem_nil _
  | cons hletter _ ih => exact List.forall_mem_cons.mpr ⟨hletter.2.1, ih⟩

theorem length_eq (h : Recased t u) : u.length = t.length :=
  (List.Forall₂.length_eq h).symm

theorem getElem?_of_not_cased (h : Recased t u) {i : Nat} {c : Char} (hi : t[i]? = some c)
    (hc : cased.mem c.toNat = false) : u[i]? = some c := by
  induction h generalizing i with
  | nil => contradiction
  | cons hletter _ ih =>
    cases i with
    | zero =>
      have hhead := Option.some.inj hi
      subst hhead
      exact congrArg some (hletter.eq_of_not_cased hc)
    | succ i => exact ih hi

end Recased

/-! ## 3. Lowering -/

theorem lowerAfter_eq_lowerEach (before : Text) {t : Text} (ht : 'Σ' ∉ t) :
    lowerAfter before t = lowerEach t := by
  induction t generalizing before with
  | nil => rfl
  | cons c t ih =>
    have hc : c ≠ 'Σ' := fun h => ht (h ▸ List.mem_cons_self)
    rw [lowerAfter, if_neg hc, ih (c :: before) fun h => ht (List.mem_cons_of_mem c h)]
    rfl

theorem IsSingleByte.lower_eq {t : Text} (ht : IsSingleByte t) : lower t = lowerEach t := by
  apply lowerAfter_eq_lowerEach
  intro hsigma
  exact absurd (ht 'Σ' hsigma) (by decide)

theorem Recased.lower_eq {t u : Text} (h : Recased t u) : lower u = lower t := by
  have hsame : lowerEach u = lowerEach t := by
    induction h with
    | nil => rfl
    | cons hletter _ ih =>
      change lowerChar _ ++ lowerEach _ = lowerChar _ ++ lowerEach _
      rw [ih, hletter.2.2]
  rw [h.isSingleByte_right.lower_eq, h.symm.isSingleByte_right.lower_eq, hsame]

theorem recased_lower {t : Text} (ht : IsSingleByte t) : Recased t (lower t) := by
  rw [ht.lower_eq]
  induction t with
  | nil => exact .nil
  | cons c t ih =>
    rcases List.forall_mem_cons.mp ht with ⟨hc, ht⟩
    rcases lowerChar_eq_singleton hc with ⟨d, hd, hletter, -⟩
    change Recased (c :: t) (lowerChar c ++ lowerEach t)
    rw [hd]
    exact .cons hletter (ih ht)

end Text

open Text

/-! ## 4. Look-ups -/

namespace Database

/-- Whether a database has its new names under no other keys than themselves and their
lower-case forms. -/
def OnlyRecases (db : Database) : Prop :=
  ∀ scope key v, db.newName? scope key = some v → IsSingleByte v ∧ (key = v ∨ key = lower v)

theorem OnlyRecases.recased_lookup {db : Database} (hdb : db.OnlyRecases) (query : Query)
    (scope : Name) {w : Name} (hw : IsSingleByte w) : Recased w (db.lookup query scope w) := by
  rcases db.lookup_eq_self_or_newName? query scope w with heq | ⟨asked, -, h⟩
  · rw [heq]
    exact .refl hw
  · have hkey : Recased w (if query.caseFold then lower w else w) := by
      split
      · exact recased_lower hw
      · exact .refl hw
    -- the key is the answer or its lower-case form
    rcases hdb _ _ _ h with ⟨hanswer, heq | heq⟩
    · rwa [heq] at hkey
    · rw [heq] at hkey
      exact hkey.trans (recased_lower hanswer).symm

end Database

/-! ## 5. Passes -/

section Rename

variable {db : Database} (hdb : db.OnlyRecases) {component : Name} {code : Text}
  (hcode : IsSingleByte code)

include hdb hcode

/-- What stands in front of a name and behind it stays, and the name is looked up. -/
theorem Text.recased_lookup_between {front name rest : Text}
    (hcut : code = front ++ (name ++ rest)) :
    Recased code (front ++ (db.lookup .exact component name ++ rest)) := by
  rw [hcut] at hcode ⊢
  rcases List.forall_mem_append.mp hcode with ⟨hfront, hbehind⟩
  rcases List.forall_mem_append.mp hbehind with ⟨hname, hrest⟩
  exact (Recased.refl hfront).append ((hdb.recased_lookup .exact component hname).append
    (.refl hrest))

theorem Declaration.recased_rename : Recased code (Declaration.rename db component code) := by
  cases h : Declaration.split? code with
  | none =>
    rw [Declaration.rename_eq_self h]
    exact .refl hcode
  | some cut =>
    rw [Declaration.rename_eq h]
    exact recased_lookup_between hdb hcode (Declaration.split?_eq_some.mp h).1

theorem Association.recased_rename : Recased code (Association.rename db component code) := by
  cases h : Association.split? code with
  | none =>
    rw [Association.rename_eq_self h]
    exact .refl hcode
  | some cut =>
    rw [Association.rename_eq h]
    exact recased_lookup_between hdb hcode (Association.split?_eq_some.mp h).1

end Rename

/-- A piece of a text that is cut into pieces has a byte for every character, too. -/
theorem Text.IsSingleByte.of_mem_runs {t run : Text} (ht : IsSingleByte t) (hrun : run ∈ runs t) :
    IsSingleByte run := by
  intro c hc
  apply ht
  rw [← flatten_runs t]
  exact List.mem_flatten_of_mem hrun hc

theorem Text.recased_mapWords {f : Name → Name} (hf : ∀ w, IsSingleByte w → Recased w (f w))
    {t : Text} (ht : IsSingleByte t) : Recased t (mapWords f t) := by
  have hruns : List.Forall₂ Recased (runs t) ((runs t).map fun run =>
      if startsWord run then f run else run) := by
    apply List.forall₂_map_right_iff.mpr
    apply List.forall₂_same.mpr
    intro run hrun
    have hbytes := ht.of_mem_runs hrun
    split
    · exact hf run hbytes
    · exact .refl hbytes
  have hflat : Recased (runs t).flatten (mapWords f t) := by
    rw [mapWords, List.flatMap_def]
    exact List.rel_flatten hruns
  rwa [flatten_runs] at hflat

namespace GenericFlag

variable {f : Name → Name} (hf : ∀ w, IsSingleByte w → Recased w (f w))

include hf

theorem recased_renameRun {run : Text} (hrun : IsSingleByte run) :
    Recased run (renameRun f run) := by
  fun_cases renameRun f run with
  | case1 g c name hflag =>
    rcases List.forall_mem_cons.mp hrun with ⟨hg, hname⟩
    exact .cons ⟨hg, hg, rfl⟩ (hf _ hname)
  | case2 g c name hflag => exact .refl hrun
  | case3 run => exact .refl hrun

theorem recased_renameRuns (last : Option Char) {pieces : List Text}
    (hpieces : ∀ run ∈ pieces, IsSingleByte run) :
    Recased pieces.flatten (renameRuns f last pieces) := by
  induction pieces generalizing last with
  | nil => exact .nil
  | cons run pieces ih =>
    rcases List.forall_mem_cons.mp hpieces with ⟨hrun, hpieces⟩
    have hhead : Recased run (if last = some '-' then renameRun f run else run) := by
      split
      · exact recased_renameRun hf hrun
      · exact .refl hrun
    exact hhead.append (ih run.getLast? hpieces)

end GenericFlag

section Pass

variable {db : Database} (hdb : db.OnlyRecases)

include hdb

theorem Pass.recased_rename (pass : Pass) (cursor : Cursor) {code : Text}
    (hcode : IsSingleByte code) :
    Recased code (pass.rename db cursor code) := by
  have hfolded : ∀ w, IsSingleByte w → Recased w (db.lookup .folded cursor.component w) :=
    fun w hw => hdb.recased_lookup _ _ hw
  cases pass with
  | declarations =>
    rw [Pass.rename]
    split
    · exact Declaration.recased_rename hdb hcode
    · exact .refl hcode
  | instantiations =>
    rw [Pass.rename]
    split
    · exact Association.recased_rename hdb hcode
    · exact .refl hcode
  | symbols => exact recased_mapWords hfolded hcode
  | simConfig =>
    have hruns := GenericFlag.recased_renameRuns hfolded none fun run hrun => hcode.of_mem_runs hrun
    rwa [flatten_runs] at hruns

/-- Line by line, whatever the cursor in front of them. -/
theorem Pass.forall₂_recased_applyLines (pass : Pass) (lead : Name) (cursor : Cursor)
    {ls : List Text} (hls : ∀ line ∈ ls, IsSingleByte line) :
    List.Forall₂ Recased ls (pass.applyLines lead db cursor ls) := by
  induction ls generalizing cursor with
  | nil => exact .nil
  | cons line ls ih =>
    rcases List.forall_mem_cons.mp hls with ⟨hline, hls⟩
    rw [← codePart_append_commentPart pass.commentMarker line] at hline
    rcases List.forall_mem_append.mp hline with ⟨hcode, hcomment⟩
    have hrenamed := (Pass.recased_rename hdb pass
      (pass.move lead (codePart pass.commentMarker line) cursor) hcode).append
      (Recased.refl hcomment)
    rw [codePart_append_commentPart] at hrenamed
    exact .cons hrenamed (ih _ hls)

theorem Pass.recased_apply (pass : Pass) (lead : Name) {t : Text} (ht : IsSingleByte t) :
    Recased t (pass.apply lead db t) := by
  have hls : ∀ line ∈ lines t, IsSingleByte line := by
    intro line hline c hc
    apply ht
    rw [← flatten_lines t]
    exact List.mem_flatten_of_mem hline hc
  have hflat : Recased (lines t).flatten (pass.apply lead db t) :=
    List.rel_flatten (Pass.forall₂_recased_applyLines hdb pass lead {} hls)
  rwa [flatten_lines] at hflat

theorem Passes.recased_apply (passes : List Pass) (lead : Name) {t : Text} (ht : IsSingleByte t) :
    Recased t (Passes.apply passes lead db t) := by
  induction passes generalizing t with
  | nil => exact .refl ht
  | cons pass passes ih =>
    have hfirst := Pass.recased_apply hdb pass lead ht
    exact hfirst.trans (ih hfirst.isSingleByte_right)

end Pass

end Relabel

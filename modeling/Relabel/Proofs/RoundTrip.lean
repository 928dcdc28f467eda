import Relabel.Proofs.Tables
import Relabel.Run.Storage

/-!
# Rename tables are read back as they were written

The reader undoes the printer from the inside out: one escaped character, a string, the members of
an object, the object, and the object of objects. Each step is stated in front of any further text,
since the reader goes on from there.
-/

namespace Relabel.Scopes

/-! ## 1. Strings -/

theorem hexValue?_digitChar {n : Nat} (hn : n < 16) : hexValue? (Nat.digitChar n) = some n := by
  have hall : ∀ n < 16, hexValue? (Nat.digitChar n) = some n := by decide
  exact hall n hn

theorem readString_hex {c : Char} (hc : c.toNat < 0x20) (rest : Text) :
    readString (.hex none 0 0)
        ('0' :: '0' :: Nat.digitChar (c.toNat / 16) :: Nat.digitChar (c.toNat % 16) :: rest) =
      consRead c (readString .plain rest) := by
  have hzero : hexValue? '0' = some 0 := by decide
  have hhigh : hexValue? (Nat.digitChar (c.toNat / 16)) = some (c.toNat / 16) :=
    hexValue?_digitChar (by omega)
  have hlow : hexValue? (Nat.digitChar (c.toNat % 16)) = some (c.toNat % 16) :=
    hexValue?_digitChar (by omega)
  -- the four digits make up the number of the character, which is no half of a pair
  have hnumber : 16 * (16 * (16 * (16 * 0 + 0) + 0) + c.toNat / 16) + c.toNat % 16 = c.toNat := by
    omega
  have hnotLow : isLowHalf c.toNat = false := by
    simp only [isLowHalf, Bool.and_eq_false_iff, decide_eq_false_iff_not]
    omega
  have hnotHigh : isHighHalf c.toNat = false := by
    simp only [isHighHalf, Bool.and_eq_false_iff, decide_eq_false_iff_not]
    omega
  simp only [readString, hzero, hhigh, hlow, hnumber, hnotLow, hnotHigh, Nat.reduceLT, if_true,
    Nat.reduceAdd, Nat.lt_irrefl, if_false, Bool.false_eq_true, Char.ofNat_toNat]

theorem readString_escapeChar (c : Char) (rest : Text) :
    readString .plain (escapeChar c ++ rest) = consRead c (readString .plain rest) := by
  -- a character is written by itself unless one of the eight tests of the printer holds
  have hsimple : ∀ letter, simpleEscape? letter = some c →
      readString .plain (['\\', letter] ++ rest) = consRead c (readString .plain rest) := by
    intro letter hletter
    have hplain : readString .plain ('\\' :: letter :: rest) =
        readString .escape (letter :: rest) := by
      rw [readString, if_neg (by decide), if_pos rfl]
    show readString .plain ('\\' :: letter :: rest) = _
    rw [hplain, readString, hletter]
  unfold escapeChar
  split_ifs with hquote hslash hback hfeed hline hreturn htab hcontrol
  · exact hsimple '"' (by rw [hquote]; decide)
  · exact hsimple '\\' (by rw [hslash]; decide)
  · exact hsimple 'b' (by rw [hback]; decide)
  · exact hsimple 'f' (by rw [hfeed]; decide)
  · exact hsimple 'n' (by rw [hline]; decide)
  · exact hsimple 'r' (by rw [hreturn]; decide)
  · exact hsimple 't' (by rw [htab]; decide)
  · have hescape : simpleEscape? 'u' = none := by decide
    show readString .plain ('\\' :: 'u' :: _) = _
    rw [readString, if_neg (by decide), if_pos rfl, readString, hescape]
    exact readString_hex hcontrol rest
  · show readString .plain (c :: rest) = _
    rw [readString, if_neg hquote, if_neg hslash, if_neg hcontrol]

theorem readString_flatMap_escapeChar (s rest : Text) :
    readString .plain (s.flatMap escapeChar ++ '"' :: rest) = .ok (s, rest) := by
  induction s with
  | nil => rfl
  | cons c s ih =>
    rw [List.flatMap_cons, List.append_assoc, readString_escapeChar, ih]
    rfl

/-! ## 2. Space between the members -/

theorem isSpace_of_mem_newLine (depth : Nat) : ∀ c ∈ newLine depth, isSpace c = true := by
  intro c hc
  rcases List.mem_cons.mp hc with rfl | hblank
  · decide
  · rw [List.eq_of_mem_replicate hblank]
    decide

theorem skipSpace_newLine (depth : Nat) (t : Text) : skipSpace (newLine depth ++ t) = skipSpace t :=
  List.dropWhile_append_of_pos (isSpace_of_mem_newLine depth)

theorem skipSpace_cons {c : Char} (hc : isSpace c = false) (t : Text) :
    skipSpace (c :: t) = c :: t := by
  rw [skipSpace, List.dropWhile_cons, hc]
  rfl

theorem nextKey_first (depth : Nat) (t : Text) :
    nextKey true (newLine depth ++ '"' :: t) = .ok (true, t) := by
  rw [nextKey, skipSpace_newLine, skipSpace_cons (by decide)]
  rfl

theorem nextKey_comma (depth : Nat) (t : Text) :
    nextKey false (',' :: (newLine depth ++ '"' :: t)) = .ok (true, t) := by
  rw [nextKey, skipSpace_cons (by decide)]
  simp only [Char.reduceEq, if_false, if_true, Bool.false_eq_true]
  rw [skipSpace_newLine, skipSpace_cons (by decide)]
  rfl

theorem nextKey_close (first : Bool) {space : Text} (hspace : ∀ c ∈ space, isSpace c = true)
    (t : Text) :
    nextKey first (space ++ '}' :: t) = .ok (false, t) := by
  rw [nextKey, skipSpace, List.dropWhile_append_of_pos hspace, ← skipSpace,
    skipSpace_cons (by decide)]
  rfl

/-! ## 3. Objects -/

section Members

variable {α : Type} {readValue : Text → Read (α × Text)} {write : α → Text}

/-- Whether a value is read back from behind the blank that follows a colon. -/
def ReadsBack (readValue : Text → Read (α × Text)) (write : α → Text) (value : α) : Prop :=
  ∀ rest, readValue (' ' :: (write value ++ rest)) = .ok (value, rest)

theorem readMembers_member {key : Name} {value : α} (hvalue : ReadsBack readValue write value)
    {steps : Nat} {first : Bool} {t rest : Text} {members : List (Name × α)} {behind : Text}
    (hkey : nextKey first t =
      .ok (true, key.flatMap escapeChar ++ '"' :: ':' :: ' ' :: (write value ++ rest)))
    (hrest : readMembers readValue steps false rest = .ok (members, behind)) :
    readMembers readValue (steps + 1) first t = .ok ((key, value) :: members, behind) := by
  have hcolon : readColon (':' :: ' ' :: (write value ++ rest)) =
      .ok ((), ' ' :: (write value ++ rest)) := by
    rw [readColon, skipSpace_cons (by decide)]
    rfl
  rw [readMembers, hkey]
  simp only [bind, Except.bind, pure, Except.pure, if_true, readString_flatMap_escapeChar, hcolon,
    hvalue rest, hrest]

/-- The members behind the first, each with its comma. -/
def renderMore (depth : Nat) (write : α → Text) (members : List (Name × α)) : Text :=
  members.flatMap fun e => ',' :: renderMember depth e.1 (write e.2)

theorem renderMembers_cons (depth : Nat) (key : Name) (value : α) (members : List (Name × α)) :
    renderMembers depth (((key, value) :: members).map fun e => (e.1, write e.2)) =
      renderMember depth key (write value) ++
        (renderMore depth write members ++ newLine (depth - 1)) := by
  induction members generalizing key value with
  | nil => rfl
  | cons e members ih =>
    have hmore := ih e.1 e.2
    rw [List.map_cons] at hmore
    rw [List.map_cons, List.map_cons, renderMembers, hmore, renderMore, renderMore,
      List.flatMap_cons]
    · simp only [List.append_assoc, List.cons_append]
    · simp

theorem readMembers_renderMore {members : List (Name × α)}
    (hvalues : ∀ e ∈ members, ReadsBack readValue write e.2) (depth : Nat) {steps : Nat}
    (hsteps : members.length < steps) (behind : Text) :
    readMembers readValue steps false
        (renderMore depth write members ++ (newLine (depth - 1) ++ '}' :: behind)) =
      .ok (members, behind) := by
  induction members generalizing steps with
  | nil =>
    rcases Nat.exists_eq_add_of_lt hsteps with ⟨more, rfl⟩
    have hclose : nextKey false (newLine (depth - 1) ++ '}' :: behind) = .ok (false, behind) :=
      nextKey_close false (isSpace_of_mem_newLine _) behind
    show readMembers readValue (_ + 1) false (newLine (depth - 1) ++ '}' :: behind) = _
    rw [readMembers, hclose]
    rfl
  | cons e members ih =>
    rcases Nat.exists_eq_add_of_lt hsteps with ⟨more, rfl⟩
    have hrest := ih (fun d hd => hvalues d (List.mem_cons_of_mem e hd))
      (show members.length < members.length + 1 + more by omega)
    rw [List.length_cons]
    apply readMembers_member (hvalues e List.mem_cons_self) _ hrest
    rw [renderMore, List.flatMap_cons, renderMember, renderString]
    simp only [List.append_assoc, List.cons_append, List.nil_append]
    exact nextKey_comma depth _

theorem length_le_length_renderMore (depth : Nat) (write : α → Text) (members : List (Name × α)) :
    members.length ≤ (renderMore depth write members).length := by
  induction members with
  | nil => exact Nat.le_refl 0
  | cons e members ih =>
    rw [renderMore, List.flatMap_cons, List.length_append, List.length_cons, List.length_cons]
    rw [renderMore] at ih
    omega

theorem readMembers_renderMembers {members : List (Name × α)}
    (hvalues : ∀ e ∈ members, ReadsBack readValue write e.2) (depth : Nat) (behind : Text) :
    let t := renderMembers depth (members.map fun e => (e.1, write e.2)) ++ '}' :: behind
    readMembers readValue (t.length + 1) true t = .ok (members, behind) := by
  intro t
  cases members with
  | nil =>
    have hclose : nextKey true ('}' :: behind) = .ok (false, behind) :=
      nextKey_close true (List.forall_mem_nil _) behind
    show readMembers readValue (_ + 1) true ('}' :: behind) = _
    rw [readMembers, hclose]
    rfl
  | cons e members =>
    have ht : t = renderMember depth e.1 (write e.2) ++
        (renderMore depth write members ++ (newLine (depth - 1) ++ '}' :: behind)) := by
      show renderMembers depth (((e.1, e.2) :: members).map fun e => (e.1, write e.2)) ++ _ = _
      rw [renderMembers_cons]
      simp only [List.append_assoc]
    -- every further member has a comma of its own, so the steps suffice
    have hsteps : members.length < t.length := by
      have hmore := length_le_length_renderMore depth write members
      rw [ht]
      simp only [List.length_append, List.length_cons]
      omega
    have hrest := readMembers_renderMore (fun d hd => hvalues d (List.mem_cons_of_mem e hd)) depth
      hsteps behind
    apply readMembers_member (hvalues e List.mem_cons_self) _ hrest
    rw [ht, renderMember, renderString]
    simp only [List.append_assoc, List.cons_append, List.nil_append]
    exact nextKey_first depth _

end Members

/-- An object whose values are read back is read back, in front of any text. -/
theorem readObject_renderObject {α : Type} {readValue : Text → Read (α × Text)} {write : α → Text}
    {table : Table α} (hvalues : ∀ e ∈ table.entries, ReadsBack readValue write e.2) (depth : Nat)
    (behind : Text) :
    readObject readValue
        (renderObject depth (table.entries.map fun e => (e.1, write e.2)) ++ behind) =
      .ok (table, behind) := by
  have hmembers := readMembers_renderMembers hvalues depth behind
  -- the keys of a table are different, so making a table of its entries drops none
  have htable : Table.ofList table.entries = table := Table.ext (Table.entries_ofList table.nodup)
  rw [renderObject, List.cons_append, List.cons_append, readObject, skipSpace_cons (by decide),
    List.append_assoc, List.singleton_append]
  simp only [if_true, hmembers, bind, Except.bind, pure, Except.pure, htable]

/-! ## 4. Scopes -/

theorem readsBack_renderString (s : Text) : ReadsBack readStringValue renderString s := by
  intro rest
  have hquote : skipSpace (' ' :: (renderString s ++ rest)) =
      '"' :: (s.flatMap escapeChar ++ '"' :: rest) := by
    show skipSpace (renderString s ++ rest) = _
    rw [renderString, List.cons_append, List.cons_append, List.append_assoc,
      skipSpace_cons (by decide)]
    rfl
  rw [readStringValue, hquote]
  exact readString_flatMap_escapeChar s rest

theorem readsBack_renderTable (table : RenameTable) :
    ReadsBack (readObject readStringValue) renderTable table := by
  intro rest
  show readObject readStringValue (renderTable table ++ rest) = _
  exact readObject_renderObject (fun e _ => readsBack_renderString e.2) 2 rest

theorem readScopes_render (scopes : Scopes) : readScopes (render scopes) = .ok scopes := by
  have hobject : readObject (readObject readStringValue) (render scopes ++ []) = .ok (scopes, []) :=
    readObject_renderObject (fun e _ => readsBack_renderTable e.2) 1 []
  rw [List.append_nil] at hobject
  rw [readScopes, hobject]
  rfl

/-- Scopes are read back from their written form: every scope, every old and every new name,
in their order. -/
theorem ofText_render (scopes : Scopes) : ofText (render scopes) = .ok scopes := by
  rw [ofText, parse, readScopes_render]
  rfl

end Relabel.Scopes

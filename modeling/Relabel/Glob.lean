import Relabel.Text.Ranges

/-!
# File name patterns

In a pattern, `?` stands for any character, `*` for any run of characters, `**` for whole path
components, and a bracket such as `[a-z]` or `[!abc]` for one character in or out of a set. Every
other character stands for itself; there is no way to escape one.
-/

namespace Relabel

/-- A pattern that cannot be read, with the position of the fault in characters. -/
inductive GlobFault where
  /-- Three or more stars in a row. -/
  | tooManyStars (position : Nat)
  /-- Two stars that are not a path component of their own. -/
  | partialComponent (position : Nat)
  /-- A bracket that is not closed. -/
  | badRange (position : Nat)
deriving DecidableEq, Repr

def GlobFault.message : GlobFault → String
  | tooManyStars p =>
      s!"Pattern syntax error near position {p}: wildcards are either regular `*` or recursive `**`"
  | partialComponent p =>
      s!"Pattern syntax error near position {p}: " ++
        "recursive wildcards must form a single path component"
  | badRange p => s!"Pattern syntax error near position {p}: invalid range pattern"

/-- An item of a bracket. -/
inductive GlobItem where
  | one (c : Char)
  | range (first last : Char)
deriving DecidableEq, Repr

def GlobItem.accepts (c : Char) : GlobItem → Bool
  | one d => c = d
  | range first last => first ≤ c && c ≤ last

inductive GlobToken where
  | literal (c : Char)
  /-- Any one character. -/
  | anyChar
  /-- Any run of characters. -/
  | anyRun
  /-- Any number of path components. -/
  | anyPath
  /-- One character inside a set, or outside of it. -/
  | bracket (outside : Bool) (items : List GlobItem)
deriving DecidableEq, Repr

/-- Whether a token that stands for one character stands for `c`. -/
def GlobToken.accepts (c : Char) : GlobToken → Bool
  | literal d => c = d
  | anyChar => true
  | bracket outside items => (items.any (·.accepts c)) != outside
  | anyRun => false
  | anyPath => false

/-- A pattern that has been read. -/
abbrev Glob := List GlobToken

namespace Glob

/-! ## Reading -/

/-- The items of a bracket; a dash between two characters makes a range. -/
def items : Text → List GlobItem
  | [] => []
  | [a] => [.one a]
  | [a, b] => [.one a, .one b]
  | a :: b :: c :: rest =>
      if b = '-' then .range a c :: items rest else .one a :: items (b :: c :: rest)

/-- Cuts in front of the first closing bracket: what stands before it and what behind. -/
def closeBracket? : Text → Option (Text × Text)
  | [] => none
  | c :: rest =>
      if c = ']' then some ([], rest)
      else (closeBracket? rest).map fun (inner, behind) => (c :: inner, behind)

/-- Reads the rest of a bracket. The first character of the set is never its end. -/
def bracket? (t : Text) : Option (GlobToken × Text) :=
  match t with
  | '!' :: c :: rest =>
      (closeBracket? rest).map fun (inner, behind) => (.bracket true (items (c :: inner)), behind)
  | ['!'] => none
  | c :: rest =>
      (closeBracket? rest).map fun (inner, behind) => (.bracket false (items (c :: inner)), behind)
  | [] => none

/-- Reads two stars. `before` is the character in front of them, `position` their place, and `rest`
what follows; a slash behind them belongs to them. -/
def readStars (before : Option Char) (position : Nat) (rest : Text) :
    Except GlobFault (GlobToken × Text) :=
  if before = none ∨ before = some '/' then
    match rest with
    | [] => .ok (.anyPath, [])
    | c :: behind =>
        if c = '/' then .ok (.anyPath, behind) else .error (.partialComponent (position + 2))
  else .error (.partialComponent (position - 1))

/-- Reads one token; see `readStars` for `before` and `position`. -/
def readToken (before : Option Char) (position : Nat) (c : Char) (rest : Text) :
    Except GlobFault (GlobToken × Text) :=
  if c = '?' then .ok (.anyChar, rest)
  else if c = '*' then
    match (rest.takeWhile (· = '*')).length with
    | 0 => .ok (.anyRun, rest)
    | 1 => readStars before position (rest.drop 1)
    | _ => .error (.tooManyStars (position + 2))
  else if c = '[' then
    match bracket? rest with
    | some r => .ok r
    | none => .error (.badRange position)
  else .ok (.literal c, rest)

/-- Reads tokens; every token takes at least one character, so `steps` never runs out when it starts
as the length of the text. -/
def readTokens : (steps : Nat) → (whole rest : Text) → Except GlobFault Glob
  | 0, _, _ => .ok []
  | steps + 1, whole, rest =>
      match rest with
      | [] => .ok []
      | c :: behind => do
          let position := whole.length - rest.length
          let before := if position = 0 then none else whole[position - 1]?
          let (token, rest) ← readToken before position c behind
          return token :: (← readTokens steps whole rest)

/-- Reads a pattern. -/
def parse (pattern : Text) : Except GlobFault Glob :=
  readTokens pattern.length pattern pattern

/-! ## Matching -/

/-- All tails of a text, the text itself first. -/
def tails : Text → List Text
  | [] => [[]]
  | c :: rest => (c :: rest) :: tails rest

/-- The tails of a text behind a slash, and the empty one. -/
def tailsBehindSlash : Text → List Text
  | [] => [[]]
  | c :: rest => if c = '/' then rest :: tailsBehindSlash rest else tailsBehindSlash rest

/-- Whether a pattern stands for the whole of a name. -/
def standsFor : Glob → Text → Bool
  | [], name => name.isEmpty
  | .anyRun :: tokens, name => (tails name).any (standsFor tokens)
  | .anyPath :: tokens, name => (name :: tailsBehindSlash name).any (standsFor tokens)
  | token :: tokens, name =>
      match name with
      | [] => false
      | c :: rest => token.accepts c && standsFor tokens rest

/-! ## Matching without backtracking

A pattern with many stars has exponentially many ways to be tried. The answers for all tails of a
name at once follow from those of the pattern without its first token. -/

/-- The answers of a pattern whose first token stands for one character, from
those of the others. -/
def afterOne (token : GlobToken) : Text → List Bool → List Bool
  | c :: rest, _ :: below => (token.accepts c && below.headD false) :: afterOne token rest below
  | _, _ => [false]

/-- The answers of a pattern behind any run of characters. -/
def afterRun : List Bool → List Bool
  | [] => []
  | answer :: below =>
      let later := afterRun below
      (answer || later.headD false) :: later

/-- The answers of a pattern behind at least one path component or at the end. -/
def afterSlash : Text → List Bool → List Bool
  | c :: rest, _ :: below =>
      let later := afterSlash rest below
      ((c = '/' && below.headD false) || later.headD false) :: later
  | _, answers => answers

/-- Whether a pattern stands for each tail of a name, the longest first. -/
def answers (name : Text) : Glob → List Bool
  | [] => (tails name).map List.isEmpty
  | .anyRun :: tokens => afterRun (answers name tokens)
  | .anyPath :: tokens =>
      let below := answers name tokens
      List.zipWith (fun here later => here || later) below (afterSlash name below)
  | token :: tokens => afterOne token name (answers name tokens)

/-- Whether a pattern stands for the whole of a name, in time proportional to the product of their
lengths. -/
def accepts (pattern : Glob) (name : Text) : Bool :=
  (answers name pattern).headD false

theorem headD_map_tails (f : Text → Bool) (name : Text) :
    ((tails name).map f).headD false = f name := by
  cases name <;> rfl

theorem afterOne_map (token : GlobToken) (f : Text → Bool) (name : Text) :
    afterOne token name ((tails name).map f) =
      (tails name).map fun
        | [] => false
        | c :: rest => token.accepts c && f rest := by
  induction name with
  | nil => rfl
  | cons c rest ih => simp only [tails, List.map_cons, afterOne, ih, headD_map_tails]

theorem afterRun_map (f : Text → Bool) (name : Text) :
    afterRun ((tails name).map f) = (tails name).map fun t => (tails t).any f := by
  induction name with
  | nil => simp [tails, afterRun]
  | cons c rest ih =>
    simp only [tails, List.map_cons, afterRun, ih, headD_map_tails, List.any_cons]

theorem afterSlash_map (f : Text → Bool) (name : Text) :
    afterSlash name ((tails name).map f) =
      (tails name).map fun t => (tailsBehindSlash t).any f := by
  induction name with
  | nil => simp [tails, afterSlash, tailsBehindSlash]
  | cons c rest ih =>
    simp only [tails, List.map_cons, afterSlash, ih, headD_map_tails, tailsBehindSlash]
    by_cases h : c = '/' <;> simp [h]

theorem answers_eq (name : Text) (pattern : Glob) :
    answers name pattern = (tails name).map (standsFor pattern) := by
  induction pattern with
  | nil => simp [answers, standsFor]
  | cons token tokens ih =>
    cases token with
    | anyRun => simp only [answers, ih, afterRun_map, standsFor]
    | anyPath =>
      simp only [answers, ih, afterSlash_map, standsFor, List.any_cons, List.zipWith_map,
        List.zipWith_self]
    | literal d =>
      simp only [answers, ih, afterOne_map]
      exact List.map_congr_left fun t _ => by cases t <;> rfl
    | anyChar =>
      simp only [answers, ih, afterOne_map]
      exact List.map_congr_left fun t _ => by cases t <;> rfl
    | bracket outside items =>
      simp only [answers, ih, afterOne_map]
      exact List.map_congr_left fun t _ => by cases t <;> rfl

/-- The answers without backtracking are those of the plain definition. -/
theorem accepts_eq_standsFor (pattern : Glob) (name : Text) :
    pattern.accepts name = pattern.standsFor name := by
  rw [accepts, answers_eq, headD_map_tails]

end Glob

end Relabel

import Relabel.Text.Ranges

/-!
# TOML strings

Strings in double quotes have escapes, those in single quotes have none. Both come in a form that
spans several lines, between three quotes; a line break that directly follows the opening quotes is
dropped. A reader takes the text behind the opening quotes, and gives the string and the rest.
-/

namespace Relabel.Toml

/-- Characters that may stand in a comment, and in a string if they mean nothing there. -/
def isPlain (c : Char) : Bool :=
  c = '\t' || (0x20 ≤ c.toNat && c.toNat ≤ 0x7E) || 0x80 ≤ c.toNat

def isBlank (c : Char) : Bool :=
  c = ' ' || c = '\t'

def skipBlanks (t : Text) : Text :=
  t.dropWhile isBlank

/-- The text behind a line break. -/
def lineBreak? : Text → Option Text
  | '\n' :: rest => some rest
  | '\r' :: '\n' :: rest => some rest
  | _ => none

def hexDigit? (c : Char) : Option Nat :=
  if '0' ≤ c ∧ c ≤ '9' then some (c.toNat - '0'.toNat)
  else if 'a' ≤ c ∧ c ≤ 'f' then some (c.toNat - 'a'.toNat + 10)
  else if 'A' ≤ c ∧ c ≤ 'F' then some (c.toNat - 'A'.toNat + 10)
  else none

/-- The character with a number, if there is one. -/
def charOf? (n : Nat) : Option Char :=
  if n.isValidChar then some (Char.ofNat n) else none

/-- The character that a backslash and a letter stand for. -/
def escape? (c : Char) : Option Char :=
  if c = '"' ∨ c = '\\' then some c
  else if c = 'b' then some '\x08'
  else if c = 'f' then some '\x0c'
  else if c = 'n' then some '\n'
  else if c = 'r' then some '\r'
  else if c = 't' then some '\t'
  else none

/-- Adds a character to what is read behind it. -/
def consChar (c : Char) (read : Option (Text × Text)) : Option (Text × Text) :=
  read.map fun (t, rest) => (c :: t, rest)

/-- Where a reader stands in a string in double quotes. -/
inductive Inside where
  | plain
  /-- Behind a backslash. -/
  | escape
  /-- In the digits of a numbered character, `left` more to come after the next. -/
  | hex (left value : Nat)
deriving DecidableEq, Repr

/-- Reads a string in double quotes. -/
def basicString : Inside → Text → Option (Text × Text)
  | _, [] => none
  | .plain, c :: rest =>
      if c = '"' then some ([], rest)
      else if c = '\\' then basicString .escape rest
      else if isPlain c then consChar c (basicString .plain rest)
      else none
  | .escape, c :: rest =>
      if c = 'u' then basicString (.hex 3 0) rest
      else if c = 'U' then basicString (.hex 7 0) rest
      else do consChar (← escape? c) (basicString .plain rest)
  | .hex left value, c :: rest => do
      let n := 16 * value + (← hexDigit? c)
      match left with
      | left + 1 => basicString (.hex left n) rest
      | 0 => consChar (← charOf? n) (basicString .plain rest)

/-- Reads a string in single quotes. -/
def literalString : Text → Option (Text × Text)
  | [] => none
  | c :: rest =>
      if c = '\'' then some ([], rest)
      else if isPlain c then consChar c (literalString rest)
      else none

/-- What remains of a run of quotes that ends a string of several lines: three of them close it, and
up to two before these belong to it. -/
def closing? (quote : Char) : Text → Option (Text × Text)
  | a :: b :: c :: rest =>
      if a = quote ∧ b = quote ∧ c = quote then
        match rest with
        | d :: e :: more =>
            if d = quote ∧ e = quote then some ([quote, quote], more)
            else if d = quote then some ([quote], e :: more)
            else some ([], rest)
        | [d] => if d = quote then some ([quote], []) else some ([], rest)
        | [] => some ([], [])
      else none
  | _ => none

/-- Where a reader stands in a string of several lines in double quotes. -/
inductive InLines where
  | plain
  | escape
  | hex (left value : Nat)
  /-- Behind a backslash and blanks, before the line break. -/
  | lineEnd
  /-- In the blanks and line breaks that a backslash at the end of a line skips. -/
  | skipping
deriving DecidableEq, Repr

/-- Reads a string of several lines in double quotes. -/
def basicLines : InLines → Text → Option (Text × Text)
  | _, [] => none
  | .plain, c :: rest =>
      match closing? '"' (c :: rest) with
      | some found => some found
      | none =>
          if c = '\\' then basicLines .escape rest
          else if c = '\n' then consChar '\n' (basicLines .plain rest)
          else if c = '\r' then
            match rest with
            | '\n' :: rest => consChar '\n' (basicLines .plain rest)
            | _ => none
          else if isPlain c then consChar c (basicLines .plain rest)
          else none
  | .escape, c :: rest =>
      if c = 'u' then basicLines (.hex 3 0) rest
      else if c = 'U' then basicLines (.hex 7 0) rest
      else if isBlank c then basicLines .lineEnd rest
      else if c = '\n' then basicLines .skipping rest
      else if c = '\r' then
        match rest with
        | '\n' :: rest => basicLines .skipping rest
        | _ => none
      else do consChar (← escape? c) (basicLines .plain rest)
  | .hex left value, c :: rest => do
      let n := 16 * value + (← hexDigit? c)
      match left with
      | left + 1 => basicLines (.hex left n) rest
      | 0 => consChar (← charOf? n) (basicLines .plain rest)
  | .lineEnd, c :: rest =>
      if isBlank c then basicLines .lineEnd rest
      else if c = '\n' then basicLines .skipping rest
      else if c = '\r' then
        match rest with
        | '\n' :: rest => basicLines .skipping rest
        | _ => none
      else none
  | .skipping, c :: rest =>
      if isBlank c ∨ c = '\n' then basicLines .skipping rest
      else
        match closing? '"' (c :: rest) with
        | some found => some found
        | none =>
            if c = '\\' then basicLines .escape rest
            else if c = '\r' then
              match rest with
              | '\n' :: rest => basicLines .skipping rest
              | _ => none
            else if isPlain c then consChar c (basicLines .plain rest)
            else none

/-- Reads a string of several lines in single quotes. -/
def literalLines : Text → Option (Text × Text)
  | [] => none
  | c :: rest =>
      match closing? '\'' (c :: rest) with
      | some found => some found
      | none =>
          if c = '\n' then consChar '\n' (literalLines rest)
          else if c = '\r' then
            match rest with
            | '\n' :: rest => consChar '\n' (literalLines rest)
            | _ => none
          else if isPlain c then consChar c (literalLines rest)
          else none

/-- Drops a line break at the start. -/
def dropLineBreak (t : Text) : Text :=
  (lineBreak? t).getD t

/-- Reads a string in any of the four forms, from its opening quotes on. -/
def string? : Text → Option (Text × Text)
  | '"' :: '"' :: '"' :: rest => basicLines .plain (dropLineBreak rest)
  | '"' :: rest => basicString .plain rest
  | '\'' :: '\'' :: '\'' :: rest => literalLines (dropLineBreak rest)
  | '\'' :: rest => literalString rest
  | _ => none

end Relabel.Toml

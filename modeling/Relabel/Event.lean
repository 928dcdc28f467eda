import Relabel.Text.Quoted

/-!
# Log events

What a run reports besides its result: events in the order in which they happen, each with a level
and the part of the library that it comes from.
-/

namespace Relabel

/-- How much an event matters, most important first. -/
inductive Level where
  | warn
  | info
  | debug
  | trace
deriving DecidableEq, Repr

namespace Level

def rank : Level → Nat
  | warn => 0
  | info => 1
  | debug => 2
  | trace => 3

def label : Level → String
  | warn => "WARN"
  | info => "INFO"
  | debug => "DEBUG"
  | trace => "TRACE"

/-- Whether a log kept down to `limit` holds events of this level. -/
def shownAt (level limit : Level) : Bool :=
  level.rank ≤ limit.rank

end Level

/-- The part of the library that an event comes from. -/
inductive Origin where
  | commands
  | database
  | storage
  | markers
  | harvest
  | merge
  | walk
  | refactor
deriving DecidableEq, Repr

/-- The label of an origin in a log line. -/
def Origin.label : Origin → String
  | commands => "hdlrefactor::commands"
  | database => "hdlrefactor_core::database"
  | storage => "hdlrefactor_core::database::persist"
  | markers => "hdlrefactor_refactor::markers"
  | harvest => "hdlrefactor_refactor::analyzer"
  | merge => "hdlrefactor_refactor::merge"
  | walk => "hdlrefactor_refactor::walk"
  | refactor => "hdlrefactor_refactor::orchestrator"

structure Event where
  level : Level
  origin : Origin
  message : String
deriving DecidableEq, Repr

/-- A character of a message as the log shows it: those that a terminal would act on are written by
their numbers. -/
def Event.shownChar (c : Char) : Text :=
  if c = '\x07' then "\\x07".toList
  else if c = '\x08' then "\\x08".toList
  else if c = '\x0c' then "\\x0c".toList
  else if c = '\x1b' then "\\x1b".toList
  else if c = '\x7f' then "\\x7f".toList
  else if 0x80 ≤ c.toNat ∧ c.toNat ≤ 0x9F then Text.byNumber c
  else [c]

/-- An event as a line of the log. -/
def Event.line (event : Event) : String :=
  let shown := String.ofList (event.message.toList.flatMap Event.shownChar)
  s!"{event.level.label} {event.origin.label}: {shown}"

end Relabel

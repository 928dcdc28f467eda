import Relabel.Text.Ranges

/-!
# Errors

Every way in which an operation can fail, with its wording and the chain of causes behind it.
-/

namespace Relabel

/-- Refusals of the file system. -/
inductive DiskError where
  | notFound
  | notDirectory
  | isDirectory
  | tooManyLinks
  /-- A path or one of its names has too many bytes. -/
  | nameTooLong
  /-- A path holds a zero, which no name can. -/
  | zeroInPath
  | notUtf8
deriving DecidableEq, Repr

def DiskError.message : DiskError → String
  | notFound => "No such file or directory (os error 2)"
  | notDirectory => "Not a directory (os error 20)"
  | isDirectory => "Is a directory (os error 21)"
  | tooManyLinks => "Too many levels of symbolic links (os error 40)"
  | nameTooLong => "File name too long (os error 36)"
  | zeroInPath => "file name contained an unexpected NUL byte"
  | notUtf8 => "stream did not contain valid UTF-8"

inductive Error where
  /-- Input or output failed for a reason given in words. -/
  | io (message : String)
  /-- The settings are unusable. -/
  | config (message : String)
  /-- A rename table is malformed. -/
  | database (message : String)
  /-- Names were to be replaced by a database that has no scope. -/
  | emptyDatabase
  /-- A line pattern is not one of the known ones. -/
  | pattern (message : String)
  /-- A text does not fit into single bytes. -/
  | encoding (file message : String)
  | invalidInput (message : String)
  /-- The file system refused. -/
  | disk (cause : DiskError)
  /-- A walk of a tree stopped at a path. -/
  | traversal (path : String) (cause : DiskError)
  /-- An error, with what was being done. -/
  | context (doing : String) (cause : Error)
deriving DecidableEq, Repr

namespace Error

def message : Error → String
  | io m => s!"I/O error: {m}"
  | config m => s!"Configuration error: {m}"
  | database m => s!"Rename database error: {m}"
  | emptyDatabase => "Rename database is not initialized, load a database before rewriting"
  | pattern m => s!"Pattern error: {m}"
  | encoding file m => s!"Encoding error in {file}: {m}"
  | invalidInput m => s!"Invalid input: {m}"
  | disk cause => cause.message
  | traversal path cause => s!"IO error for operation on {path}: {cause.message}"
  | context doing cause => s!"{doing}: {cause.message}"

/-- The messages of the causes behind an error, outermost first. -/
def causes : Error → List String
  | io m => [m]
  | traversal _ cause => [cause.message]
  | context _ cause => cause.message :: cause.causes
  | _ => []

end Error

/-- An error that a command reports, under the steps it was taking, outermost first. -/
structure Failure where
  steps : List String
  error : Error
deriving DecidableEq, Repr

namespace Failure

/-- The steps, the error and its causes. -/
def chain (f : Failure) : List String :=
  f.steps ++ f.error.message :: f.error.causes

/-- The whole chain on one line. -/
def message (f : Failure) : String :=
  ": ".intercalate f.chain

/-- Lines after the first are indented by `margin`. -/
def indented (margin : String) (text : String) : String :=
  ("\n" ++ margin).intercalate (text.splitOn "\n")

/-- One cause of a report; causes are numbered when there are several. -/
def causeLine (several : Bool) (index : Nat) (cause : String) : String :=
  if several then
    let number := toString index
    let lead := "".pushn ' ' (5 - number.length)
    s!"{lead}{number}: " ++ indented "       " cause
  else "    " ++ indented "    " cause

/-- The report that ends a failed command. -/
def report (f : Failure) : String :=
  match f.chain with
  | [] => "Error: \n"
  | first :: causes =>
      let body :=
        if causes.isEmpty then ""
        else "\n\nCaused by:" ++
          String.join ((causes.zipIdx).map fun (cause, i) =>
            "\n" ++ causeLine (decide (1 < causes.length)) i cause)
      s!"Error: {first}{body}\n"

end Failure

end Relabel

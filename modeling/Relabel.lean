import Relabel.Main
import Relabel.Proofs.Characters
import Relabel.Proofs.Words
import Relabel.Proofs.Front
import Relabel.Proofs.Shapes
import Relabel.Proofs.Respelling
import Relabel.Proofs.Lookups
import Relabel.Proofs.Renaming
import Relabel.Proofs.Cursors
import Relabel.Proofs.LineByLine
import Relabel.Proofs.Layout
import Relabel.Proofs.Source
import Relabel.Proofs.Idempotence
import Relabel.Proofs.Tables
import Relabel.Proofs.Declared
import Relabel.Proofs.Readings
import Relabel.Proofs.Merging
import Relabel.Proofs.LoweredKeys
import Relabel.Proofs.Migration
import Relabel.Proofs.RenamedHarvest
import Relabel.Proofs.RoundTrip
import Relabel.Proofs.Building
import Relabel.Proofs.Isolation
import Relabel.Proofs.Trees
import Relabel.Proofs.Paths
import Relabel.Proofs.Sessions
import Relabel.Proofs.TreeRuns
import Relabel.Proofs.Commuting
import Relabel.Proofs.Recasing
import Relabel.Proofs.SelfMigration
import Relabel.Proofs.Writing
import Relabel.Proofs.SinglePasses
import Relabel.Proofs.Persistence
import Relabel.Proofs.Formals
import Relabel.Proofs.Tokens
import Relabel.Proofs.Units
import Relabel.Proofs.NameAware
import Relabel.Proofs.MergedScopes
import Relabel.Proofs.Reordering
import Relabel.Proofs.Blocks
import Relabel.Proofs.SecondRuns
import Relabel.Proofs.Replacements
import Relabel.Proofs.Undoing
import Relabel.Proofs.Concatenation
import Relabel.Proofs.WideCharacters
import Relabel.Proofs.Listing
import Relabel.Proofs.Headers
import Relabel.Proofs.Libraries

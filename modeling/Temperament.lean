import Temperament.Answers
import Temperament.Binary64
import Temperament.Category
import Temperament.Date
import Temperament.Encoding
import Temperament.Fault
import Temperament.Files.Basic
import Temperament.Files.Path
import Temperament.Files.Tree
import Temperament.Invocation.Basic
import Temperament.Invocation.Scan
import Temperament.Invocation.Switch
import Temperament.Journal.Basic
import Temperament.Journal.Filter
import Temperament.Json.Literal
import Temperament.Json.Record
import Temperament.Json.Token
import Temperament.Json.Value
import Temperament.Main
import Temperament.Plan.Adjustment
import Temperament.Plan.Basic
import Temperament.Profile
import Temperament.Progress
import Temperament.Question
import Temperament.Questionnaire
import Temperament.Run.Basic
import Temperament.Run.Commands
import Temperament.Run.Program
import Temperament.Scoreboard
import Temperament.Scratch
import Temperament.Settings.Basic
import Temperament.Settings.Document
import Temperament.Settings.File
import Temperament.SortedMap
import Temperament.Styled
import Temperament.Text.Alphanumeric
import Temperament.Text.Backspace
import Temperament.Text.Blank
import Temperament.Text.Decimal
import Temperament.Text.Grapheme.Cluster
import Temperament.Text.Grapheme.Ranges
import Temperament.Text.Hexadecimal
import Temperament.Text.Range
import Temperament.Toml.Literal
import Temperament.Toml.Scalar
import Temperament.Toml.Statement
import Temperament.Toml.Tree
import Temperament.Toml.Value
import Temperament.Verbosity
import Temperament.View
import Temperament.Proofs.Adjustment
import Temperament.Proofs.Answers
import Temperament.Proofs.Binary64
import Temperament.Proofs.Date
import Temperament.Proofs.Effects
import Temperament.Proofs.Encoding
import Temperament.Proofs.Files.Changes
import Temperament.Proofs.Files.Folders
import Temperament.Proofs.Files.Path
import Temperament.Proofs.Files.Walk
import Temperament.Proofs.Invocation
import Temperament.Proofs.Json.Grammar
import Temperament.Proofs.Json.Literal
import Temperament.Proofs.Json.Members
import Temperament.Proofs.Json.Number
import Temperament.Proofs.Json.Record
import Temperament.Proofs.Json.Spacing
import Temperament.Proofs.Json.Text
import Temperament.Proofs.Json.Value
import Temperament.Proofs.Options
import Temperament.Proofs.Percent
import Temperament.Proofs.PlanView
import Temperament.Proofs.Profile
import Temperament.Proofs.Progress
import Temperament.Proofs.Prompt
import Temperament.Proofs.Questionnaire
import Temperament.Proofs.Run.Adjusting
import Temperament.Proofs.Run.Answering
import Temperament.Proofs.Run.Assessing
import Temperament.Proofs.Run.Changes
import Temperament.Proofs.Run.Colour
import Temperament.Proofs.Run.Commands
import Temperament.Proofs.Run.Creating
import Temperament.Proofs.Run.Keeping
import Temperament.Proofs.Run.Locating
import Temperament.Proofs.Run.Program
import Temperament.Proofs.Run.Recording
import Temperament.Proofs.Run.Registers
import Temperament.Proofs.Run.Verbosity
import Temperament.Proofs.Scoreboard
import Temperament.Proofs.Scratch.Contents
import Temperament.Proofs.Scratch.Grammar
import Temperament.Proofs.Scratch.Operations
import Temperament.Proofs.Scratch.Refinement
import Temperament.Proofs.Scratch.Text
import Temperament.Proofs.Settings.Document
import Temperament.Proofs.Settings.File
import Temperament.Proofs.Settings.Sections
import Temperament.Proofs.SortedMap
import Temperament.Proofs.Spec
import Temperament.Proofs.Spelling
import Temperament.Proofs.Styled
import Temperament.Proofs.Tally
import Temperament.Proofs.Text.ByteOrder
import Temperament.Proofs.Text.Decimal
import Temperament.Proofs.Text.Numeral
import Temperament.Proofs.Toml.Literal
import Temperament.Proofs.Toml.Statement
import Temperament.Proofs.Toml.Tree
import Temperament.Proofs.Toml.Value
import Temperament.Proofs.View

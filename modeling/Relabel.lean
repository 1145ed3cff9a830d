import Relabel.Casing
import Relabel.Client.Decode
import Relabel.Client.Draft
import Relabel.Client.Encode
import Relabel.Client.Model
import Relabel.Client.Operation
import Relabel.Client.Service
import Relabel.Client.Tag
import Relabel.CommandLine.Arguments
import Relabel.CommandLine.Directory
import Relabel.CommandLine.Path
import Relabel.CommandLine.Run
import Relabel.Convention
import Relabel.Json.Fault
import Relabel.Json.Number
import Relabel.Json.Printer
import Relabel.Json.Reader
import Relabel.Json.Source
import Relabel.Json.Token
import Relabel.Json.Value
import Relabel.Main
import Relabel.Number.Binary64
import Relabel.Number.Shortest
import Relabel.Renaming.Event
import Relabel.Renaming.Rules
import Relabel.Renaming.Tree
import Relabel.Text.Quoted
import Relabel.Unicode.Alphanumeric
import Relabel.Unicode.Blank
import Relabel.Unicode.CaseMapping
import Relabel.Unicode.LetterCase
import Relabel.Unicode.Printable
import Relabel.Unicode.Ranges
import Relabel.Unicode.WordBreak
import Relabel.Word.Boundary
import Relabel.Word.Capital
import Relabel.Word.Segment
import Relabel.Word.Split
import Relabel.Yaml.Cursor
import Relabel.Yaml.Document
import Relabel.Yaml.Kind
import Relabel.Yaml.Node
import Relabel.Yaml.Scalar
import Relabel.Yaml.Token
import Relabel.Proofs.Renaming.Frame
import Relabel.Proofs.Word.Ascii
import Relabel.Proofs.Word.Shape
import Relabel.Proofs.Word.Pieces
import Relabel.Proofs.Word.Snake
import Relabel.Proofs.Renaming.Composition
import Relabel.Proofs.Renaming.Snake
import Relabel.Proofs.Json.Normal
import Relabel.Proofs.Json.Depth
import Relabel.Proofs.Json.Scalar
import Relabel.Proofs.Json.Print
import Relabel.Proofs.Client.Layout
import Relabel.Proofs.Client.Members
import Relabel.Proofs.Client.Field
import Relabel.Proofs.Json.Uniform
import Relabel.Proofs.Client.Agreement
import Relabel.Proofs.Client.NodeType
import Relabel.Proofs.Client.Repeat
import Relabel.Proofs.Client.Route
import Relabel.Proofs.Json.ReadBack
import Relabel.Proofs.Client.Canonical
import Relabel.Proofs.Client.Written
import Relabel.Proofs.Client.ReadBack
import Relabel.Proofs.Renaming.Log
import Relabel.Proofs.Client.Grammar
import Relabel.Proofs.Client.Acceptance
import Relabel.Proofs.Client.Flattened
import Relabel.Proofs.Client.Rewritten
import Relabel.Proofs.Client.Assembly
import Relabel.Proofs.Client.Output
import Relabel.Proofs.CommandLine.Run
import Relabel.Proofs.Renaming.Options
import Relabel.Proofs.Word.Spelling
import Relabel.Proofs.Word.Cut
import Relabel.Proofs.Word.Titled
import Relabel.Proofs.Renaming.Settled
import Relabel.Proofs.Client.Reuse
import Relabel.Proofs.Renaming.Identifier
import Relabel.Proofs.Unicode.CaseForm
import Relabel.Proofs.Word.Spaced
import Relabel.Proofs.Word.Letters
import Relabel.Proofs.Word.Adjoining
import Relabel.Proofs.Renaming.Erased

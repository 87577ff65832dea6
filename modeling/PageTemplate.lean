import PageTemplate.Text.Basic
import PageTemplate.Text.Blank
import PageTemplate.Text.Letter
import PageTemplate.Text.Visible
import PageTemplate.Text.Case
import PageTemplate.Text.Quoted
import PageTemplate.Decimal.Shortest
import PageTemplate.Decimal.Notation
import PageTemplate.Decimal.Numeral
import PageTemplate.Fields
import PageTemplate.Value.Basic
import PageTemplate.Value.Written
import PageTemplate.Value.Order
import PageTemplate.Data
import PageTemplate.Expr.Basic
import PageTemplate.Expr.Symbol
import PageTemplate.Expr.Parse
import PageTemplate.Context
import PageTemplate.Error
import PageTemplate.Filter
import PageTemplate.Line.Placeholder
import PageTemplate.Line.Compile
import PageTemplate.Line.Substitution
import PageTemplate.Expr.Eval
import PageTemplate.Program.Assembly
import PageTemplate.Program.Listing
import PageTemplate.Program.Run
import PageTemplate.Options.Basic
import PageTemplate.Render.Cache
import PageTemplate.Render.Inclusion
import PageTemplate.Render.Renderer
import PageTemplate.Render.Saving
import PageTemplate.Source.Library
import PageTemplate.Toml.Basic
import PageTemplate.Toml.Scan
import PageTemplate.Toml.Number
import PageTemplate.Toml.Strings
import PageTemplate.Toml.Document
import PageTemplate.CommandLine
import PageTemplate.Main
import PageTemplate.Proofs.Outcome
import PageTemplate.Proofs.Program.Assembled
import PageTemplate.Proofs.Expr.Grammar
import PageTemplate.Proofs.Expr.Recognition
import PageTemplate.Proofs.Render.Directives
import PageTemplate.Proofs.Render.Refusal
import PageTemplate.Proofs.Render.Filling
import PageTemplate.Proofs.Render.Includes
import PageTemplate.Proofs.Render.Origin
import PageTemplate.Proofs.Program.Reference
import PageTemplate.Proofs.Line.Occurrences
import PageTemplate.Proofs.Fields
import PageTemplate.Proofs.Files.Tree
import PageTemplate.Proofs.Context
import PageTemplate.Proofs.Render.History
import PageTemplate.Proofs.Line.Replacement
import PageTemplate.Proofs.Line.Resolution
import PageTemplate.Proofs.Render.Plain
import PageTemplate.Proofs.Render.Expansion
import PageTemplate.Proofs.Agreement
import PageTemplate.Proofs.Render.Template
import PageTemplate.Proofs.Line.Compilation
import PageTemplate.Proofs.Line.Filters
import PageTemplate.Proofs.Render.Comparison
import PageTemplate.Proofs.Render.Depth
import PageTemplate.Proofs.Program.Outline
import PageTemplate.Proofs.Render.Structure
import PageTemplate.Proofs.Render.Stages
import PageTemplate.Proofs.Render.Transparency
import PageTemplate.Proofs.Render.Frame
import PageTemplate.Proofs.Files.Writing
import PageTemplate.Proofs.Render.Saving
import PageTemplate.Proofs.Text.Case
import PageTemplate.Proofs.Line.LineBreaks
import PageTemplate.Proofs.Render.Numbering
import PageTemplate.Proofs.Program.Reserved
import PageTemplate.Proofs.Program.Branches
import PageTemplate.Proofs.Render.Reserved
import PageTemplate.Proofs.Text.Trimming
import PageTemplate.Proofs.Line.Brackets
import PageTemplate.Proofs.Line.Pipelines
import PageTemplate.Proofs.Render.Escaping
import PageTemplate.Proofs.Expr.Spelling
import PageTemplate.Proofs.Expr.Printing
import PageTemplate.Proofs.Line.Tags
import PageTemplate.Proofs.Line.ControlLines
import PageTemplate.Proofs.Line.Exactness
import PageTemplate.Proofs.Render.Conditions
import PageTemplate.Proofs.Render.Unrolling
import PageTemplate.Proofs.Program.Locals
import PageTemplate.Proofs.Render.Passes
import PageTemplate.Proofs.Render.SelfReference
import PageTemplate.Proofs.Program.WellFormed
import PageTemplate.Proofs.Render.Descent
import PageTemplate.Proofs.Render.WellFormed
import PageTemplate.Proofs.Context.History
import PageTemplate.Proofs.Context.Merging
import PageTemplate.Proofs.Data.Faults
import PageTemplate.Proofs.Data.Values
import PageTemplate.Proofs.Expr.Shown
import PageTemplate.Proofs.Program.Listing
import PageTemplate.Proofs.Value.Equality
import PageTemplate.Proofs.Value.Order
import PageTemplate.Proofs.Program.Rounds
import PageTemplate.Proofs.Render.Emission
import PageTemplate.Proofs.Files.Path
import PageTemplate.Proofs.Files.Descent
import PageTemplate.Proofs.Files.Listing
import PageTemplate.Proofs.Source.Directory
import PageTemplate.Proofs.Source.Filling
import PageTemplate.Proofs.Source.Registration

import Keypad.Binary64.Arithmetic
import Keypad.Binary64.Basic
import Keypad.Binary64.Bits
import Keypad.Binary64.Rounding
import Keypad.Calculator.Basic
import Keypad.Calculator.Lemmas
import Keypad.Calculator.Session
import Keypad.CommandLine.Arguments
import Keypad.CommandLine.Commands
import Keypad.CommandLine.Table
import Keypad.CommandLine.WholeNumber
import Keypad.Computation
import Keypad.Debouncer.Basic
import Keypad.Debouncer.Run
import Keypad.Decimal.Basic
import Keypad.Decimal.Digits
import Keypad.Decimal.Numeral
import Keypad.Decimal.Reading
import Keypad.Decimal.Shortest
import Keypad.Entry
import Keypad.Entry.Form
import Keypad.Fault
import Keypad.Grammar
import Keypad.Lexeme
import Keypad.Lexeme.Admissible
import Keypad.Lexeme.Offence
import Keypad.Main
import Keypad.NumberFormat
import Keypad.Operator
import Keypad.Postorder.Machine
import Keypad.Postorder.Nesting
import Keypad.Postorder.Yard
import Keypad.Rendering
import Keypad.Settings
import Keypad.Text.Basic
import Keypad.Text.Blank
import Keypad.Text.DecimalDigit
import Keypad.Text.Glyph
import Keypad.Text.Printable
import Keypad.Text.Quoted
import Keypad.Text.Width
import Keypad.Token
import Keypad.Tree
import Keypad.Proofs.Lexeme.Scan
import Keypad.Proofs.Rendering
import Keypad.Proofs.Grammar.Alternation
import Keypad.Proofs.Grammar.Acceptance
import Keypad.Proofs.Calculator.Debounced
import Keypad.Proofs.Entry.WellKept
import Keypad.Proofs.NumberFormat.Written
import Keypad.Proofs.Entry.Result
import Keypad.Proofs.Lexeme.Stop
import Keypad.Proofs.Entry.Reading
import Keypad.Proofs.Calculator.EntryKept
import Keypad.Proofs.Binary64.SignOfZero
import Keypad.Proofs.Composition
import Keypad.Proofs.Lexeme.Spelling
import Keypad.Proofs.Calculator.Agreement
import Keypad.Proofs.Entry.Typing
import Keypad.Proofs.Calculator.Keystrokes
import Keypad.Proofs.Calculator.Chaining
import Keypad.Proofs.Postorder.Group
import Keypad.Proofs.Postorder.Mismatch
import Keypad.Proofs.Postorder.Places
import Keypad.Proofs.Debouncer.Journal
import Keypad.Proofs.Binary64.Nearest
import Keypad.Proofs.Decimal.Reading
import Keypad.Proofs.Decimal.Value
import Keypad.Proofs.NumberFormat.Reread
import Keypad.Proofs.Calculator.Repeated
import Keypad.Proofs.Calculator.Current
import Keypad.Proofs.Settings.Literal
import Keypad.Proofs.Faults
import Keypad.Proofs.Checked
import Keypad.Proofs.Binary64.Negation
import Keypad.Proofs.Grammar.Rendered
import Keypad.Proofs.Rendering.LeadingSign
import Keypad.Proofs.Entry.LeadingZeros
import Keypad.Proofs.Postorder.Forest
import Keypad.Proofs.Entry.Typeable
import Keypad.Proofs.Calculator.Points
import Keypad.Proofs.CommandLine.Check
import Keypad.Proofs.CommandLine.Typed
import Keypad.Proofs.Lexeme.Offence
import Keypad.Proofs.Decimal.Nearest
import Keypad.Proofs.NumberFormat.Canonical
import Keypad.Proofs.Binary64.Indeterminate
import Keypad.Proofs.Binary64.Remainder
import Keypad.Proofs.Postorder.NotANumber
import Keypad.Proofs.Postorder.Layers
import Keypad.Proofs.Decimal.Closest
import Keypad.Proofs.NumberFormat.Computed
import Keypad.Proofs.NumberFormat.Monotone
import Keypad.Proofs.NumberFormat.Idempotent
import Keypad.Proofs.Decimal.Stable
import Keypad.Proofs.Entry.Groups
import Keypad.Proofs.Calculator.Groups
import Keypad.Proofs.Calculator.Glyphs
import Keypad.Proofs.Debouncer.Awaited

import PenPlotter.Main
import PenPlotter.Proofs.Text.SourceLines
import PenPlotter.Proofs.Text.Case
import PenPlotter.Proofs.Text.Words
import PenPlotter.Proofs.Text.Scanning
import PenPlotter.Proofs.Text.Layout
import PenPlotter.Proofs.Text.Folding
import PenPlotter.Proofs.Text.Numbering
import PenPlotter.Proofs.Number.Rounding
import PenPlotter.Proofs.Number.Shortest
import PenPlotter.Proofs.Number.Text
import PenPlotter.Proofs.Number.Nearest
import PenPlotter.Proofs.Number.Numerals
import PenPlotter.Proofs.Number.Arithmetic
import PenPlotter.Proofs.Number.Sums
import PenPlotter.Proofs.Number.Zeros
import PenPlotter.Proofs.Reading.Spelling
import PenPlotter.Proofs.Reading.Grammar
import PenPlotter.Proofs.Reading.LetterCase
import PenPlotter.Proofs.Reading.Faults
import PenPlotter.Proofs.Reading.Numbers
import PenPlotter.Proofs.Picture.Hiding
import PenPlotter.Proofs.Picture.Painting
import PenPlotter.Proofs.Picture.Texts
import PenPlotter.Proofs.Picture.Boxes
import PenPlotter.Proofs.Plotting.Instructions
import PenPlotter.Proofs.Plotting.RawLines
import PenPlotter.Proofs.Plotting.Positions
import PenPlotter.Proofs.Plotting.Replay
import PenPlotter.Proofs.Plotting.Turns
import PenPlotter.Proofs.Plotting.Values
import PenPlotter.Proofs.Plotting.Canvases
import PenPlotter.Proofs.Plotting.Circles
import PenPlotter.Proofs.Checking.Agreement
import PenPlotter.Proofs.Checking.Messages
import PenPlotter.Proofs.Checking.Reports
import PenPlotter.Proofs.Checking.Phases
import PenPlotter.Proofs.Programs.Layout
import PenPlotter.Proofs.Programs.LetterCase
import PenPlotter.Proofs.Programs.Sequence
import PenPlotter.Proofs.Programs.History
import PenPlotter.Proofs.Programs.PenState
import PenPlotter.Proofs.Editing.Actions
import PenPlotter.Proofs.Editing.Opening
import PenPlotter.Proofs.Editing.Sessions
import PenPlotter.Proofs.Editing.Moments
import PenPlotter.Proofs.Editing.Messages
import PenPlotter.Proofs.Editing.Safekeeping
import PenPlotter.Proofs.Editing.Storage

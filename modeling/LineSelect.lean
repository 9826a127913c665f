import LineSelect.Main
import LineSelect.Proofs.AbsoluteStarts
import LineSelect.Proofs.CheckedSelection
import LineSelect.Proofs.Commutation
import LineSelect.Proofs.ConfigLoading
import LineSelect.Proofs.CursorChain
import LineSelect.Proofs.CursorOrder
import LineSelect.Proofs.DebugArgument
import LineSelect.Proofs.DebugRequest
import LineSelect.Proofs.Dependence
import LineSelect.Proofs.ExactLines
import LineSelect.Proofs.Explanation
import LineSelect.Proofs.FileChanges
import LineSelect.Proofs.FirstFault
import LineSelect.Proofs.Interpolation
import LineSelect.Proofs.LineEndings
import LineSelect.Proofs.LineList
import LineSelect.Proofs.LinewiseSubstitution
import LineSelect.Proofs.PrintedLines
import LineSelect.Proofs.ReplacementFaults
import LineSelect.Proofs.RunEffects
import LineSelect.Proofs.Scanning
import LineSelect.Proofs.SelectionNotes
import LineSelect.Proofs.SpelledRequest
import LineSelect.Proofs.VerbatimReplacement

import Symbolication.Files.Tree
import Symbolication.Main
import Symbolication.Proofs.Floors
import Symbolication.Proofs.NameIndex
import Symbolication.Proofs.Resolution
import Symbolication.Proofs.Relocation
import Symbolication.Proofs.DebugRows
import Symbolication.Proofs.DumpLayout
import Symbolication.Proofs.ExitCodes
import Symbolication.Proofs.Runs
import Symbolication.Proofs.LineKinds
import Symbolication.Proofs.LineNumbers
import Symbolication.Proofs.ReportForms
import Symbolication.Proofs.Unambiguous
import Symbolication.Proofs.TextReports
import Symbolication.Proofs.JsonReports
import Symbolication.Proofs.RuntimeRuns
import Symbolication.Proofs.EncodedText
import Symbolication.Proofs.PipedAddresses
import Symbolication.Proofs.Switches
import Symbolication.Proofs.MissingLines
import Symbolication.Proofs.LoadedRows
import Symbolication.Proofs.QuietRuns
import Symbolication.Proofs.Warnings
import Symbolication.Proofs.Lookups
import Symbolication.Proofs.HeaderLines
import Symbolication.Proofs.WrittenNumbers
import Symbolication.Proofs.RoutineLines
import Symbolication.Proofs.HexAddresses
import Symbolication.Proofs.WrittenRoutines
import Symbolication.Proofs.DumpLines
import Symbolication.Proofs.JoinedDumps
import Symbolication.Proofs.Holders
import Symbolication.Proofs.TextEdits
import Symbolication.Proofs.DefinedSymbols
import Symbolication.Proofs.CanonicalTables
import Symbolication.Proofs.RoutineLabels
import Symbolication.Proofs.SymbolLabels
import Symbolication.Proofs.CheckedSteps
import Symbolication.Proofs.SectionContents
import Symbolication.Proofs.DebugContents

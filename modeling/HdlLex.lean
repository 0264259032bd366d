import HdlLex.Config.File
import HdlLex.Lexer.Stream
import HdlLex.Proofs.Longest
import HdlLex.Proofs.Positions
import HdlLex.Proofs.Spaced
import HdlLex.Proofs.Tiling
import HdlLex.Proofs.Failure
import HdlLex.Proofs.Progress
import HdlLex.Proofs.Shift
import HdlLex.Proofs.LineFeed
import HdlLex.Proofs.Lines
import HdlLex.Proofs.Interleaving
import HdlLex.Proofs.LineTable
import HdlLex.Proofs.Pointing
import HdlLex.Proofs.Reports
import HdlLex.Proofs.Carets
import HdlLex.Proofs.Bounds
import HdlLex.Proofs.Regap
import HdlLex.Proofs.Agreement
import HdlLex.Proofs.UnknownPolicy
import HdlLex.Proofs.UnicodeWords
import HdlLex.Proofs.CommentDepth
import HdlLex.Proofs.Returns
import HdlLex.Proofs.LineEndings
import HdlLex.Proofs.Literals
import HdlLex.Proofs.CommentExtent
import HdlLex.Proofs.LineStarts
import HdlLex.Proofs.Underline
import HdlLex.Proofs.EventLog
import HdlLex.Proofs.Travel
import HdlLex.Proofs.Assignments
import HdlLex.Proofs.Settings

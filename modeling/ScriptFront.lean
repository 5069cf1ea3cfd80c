import ScriptFront.Expr.Chain
import ScriptFront.Expr.Workspace
import ScriptFront.Lexer.Session
import ScriptFront.Proofs.Lexer.Scan
import ScriptFront.Token.Layout
import ScriptFront.Proofs.Lexer.RoundTrip
import ScriptFront.Proofs.Lexer.Backlog
import ScriptFront.Proofs.Lexer.Append
import ScriptFront.Proofs.Lexer.Quotes
import ScriptFront.Proofs.Cursor.Walk
import ScriptFront.Proofs.Lexer.Growth
import ScriptFront.Proofs.Lexer.Seam
import ScriptFront.Proofs.Lexer.Transcript
import ScriptFront.Proofs.Expr.Chain
import ScriptFront.Proofs.Expr.Rendering
import ScriptFront.Proofs.Lexer.OperatorRuns
import ScriptFront.Proofs.Expr.ClosedForm
import ScriptFront.Proofs.Expr.Integer
import ScriptFront.Proofs.Lexer.Singles
import ScriptFront.Proofs.Lexer.Position
import ScriptFront.Proofs.Cursor.Passage
import ScriptFront.Proofs.Lexer.Literals
import ScriptFront.Proofs.Lexer.Progress
import ScriptFront.Proofs.Lexer.Trace
import ScriptFront.Proofs.Text.Quoted
import ScriptFront.Proofs.Expr.Error
import ScriptFront.Proofs.Expr.Workspace

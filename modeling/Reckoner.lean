import Reckoner.Expr.Plain
import Reckoner.Main
import Reckoner.Proofs.Line.Grammar
import Reckoner.Proofs.Reading.Descent
import Reckoner.Proofs.Reading.FirstError
import Reckoner.Token.Cursor
import Reckoner.Proofs.Scan.Border
import Reckoner.Proofs.Line.Spelling
import Reckoner.Proofs.Line.Joined
import Reckoner.Proofs.Line.Rendering
import Reckoner.Proofs.Line.Stages
import Reckoner.Proofs.Line.Positions
import Reckoner.Proofs.Line.Width
import Reckoner.Proofs.Line.Caret
import Reckoner.Proofs.Session.Ending
import Reckoner.Proofs.Session.Digits
import Reckoner.Proofs.Session.Events
import Reckoner.Proofs.Session.Input
import Reckoner.Proofs.Reading.Cursor
import Reckoner.Proofs.Expr.Branches
import Reckoner.Proofs.Numeral.Grammar
import Reckoner.Proofs.Numeral.Length
import Reckoner.Proofs.Reading.Lookahead
import Reckoner.Proofs.Expr.Written
import Reckoner.Proofs.Scan.Letters
import Reckoner.Proofs.Settings.Ending
import Reckoner.Proofs.Settings.Normal
import Reckoner.Proofs.Text.Description
import Reckoner.Proofs.Expr.Plain

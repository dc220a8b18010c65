import PathTemplate.Unicode.Ranges
import PathTemplate.Unicode.Classes
import PathTemplate.Unicode.Printable
import PathTemplate.Unicode.Case
import PathTemplate.Unicode.Identifier
import PathTemplate.Unicode.Alpha
import PathTemplate.Unicode.NameData
import PathTemplate.Unicode.Names
import PathTemplate.Text
import PathTemplate.Decimal.Shortest
import PathTemplate.Decimal.Read
import PathTemplate.Regex.Syntax
import PathTemplate.Regex.Error
import PathTemplate.Regex.Reader
import PathTemplate.Regex.Atom
import PathTemplate.Regex.InlineFlags
import PathTemplate.Regex.Group
import PathTemplate.Regex.Parser
import PathTemplate.Regex.Char
import PathTemplate.Regex.Program
import PathTemplate.Regex.Machine
import PathTemplate.Regex.Match
import PathTemplate.Key
import PathTemplate.Error
import PathTemplate.Value
import PathTemplate.Template.Token
import PathTemplate.Template.Scanner
import PathTemplate.Template.Pattern
import PathTemplate.Builder
import PathTemplate.Store
import PathTemplate.Routes
import PathTemplate.Proofs.Pieces
import PathTemplate.Proofs.Generation
import PathTemplate.Proofs.Substitution
import PathTemplate.Proofs.GroupPattern
import PathTemplate.Proofs.CachedPath
import PathTemplate.Proofs.SyntaxFault
import PathTemplate.Proofs.TokenShape
import PathTemplate.Proofs.Refusal
import PathTemplate.Proofs.RouteFallback
import PathTemplate.Proofs.Alternation
import PathTemplate.Proofs.LiteralTemplate
import PathTemplate.Proofs.SegmentEncoding
import PathTemplate.Proofs.LiteralPattern
import PathTemplate.Proofs.ReadingLoop
import PathTemplate.Proofs.MatchFuel

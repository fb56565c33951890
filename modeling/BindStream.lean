import BindStream.Main
import BindStream.Channel.Session
import BindStream.QueryStream.Basic
import BindStream.Statement.Collection
import BindStream.Proofs.Resolver.Markers
import BindStream.Proofs.Channel.History
import BindStream.Proofs.Channel.Order
import BindStream.Proofs.Resolver.Columns
import BindStream.Proofs.Resolver.Subselect
import BindStream.Proofs.Token.Lexeme
import BindStream.Proofs.Token.Name
import BindStream.Proofs.Predicate.Syntax
import BindStream.Proofs.Predicate.Words
import BindStream.Proofs.Predicate.Binds
import BindStream.Proofs.Predicate.Operand
import BindStream.Proofs.Predicate.Resolution
import BindStream.Proofs.Predicate.Statement
import BindStream.Proofs.Channel.Wakeup
import BindStream.Proofs.Channel.Stuck
import BindStream.Proofs.Channel.Worker
import BindStream.Proofs.QueryStream.Closing
import BindStream.Proofs.Channel.Leaving
import BindStream.Proofs.QueryStream.Reader
import BindStream.Proofs.QueryStream.Writer
import BindStream.Proofs.QueryStream.Finishing
import BindStream.Proofs.QueryStream.Transparent
import BindStream.Proofs.Resolver.Sequence
import BindStream.Proofs.Channel.Draining
import BindStream.Proofs.Channel.Lookahead
import BindStream.Proofs.Channel.Schedule
import BindStream.Proofs.Pump.Outcome
import BindStream.Proofs.Resolver.Backward
import BindStream.Proofs.Token.Tiling
import BindStream.Proofs.Token.Visibility
import BindStream.Proofs.Resolver.Respacing
import BindStream.Proofs.Resolver.Refilling
import BindStream.Proofs.Statement.Memory
import BindStream.Proofs.Resolver.Spelling
import BindStream.Proofs.Predicate.Wrapping
import BindStream.Proofs.Insertion.Syntax
import BindStream.Proofs.Insertion.Resolution
import BindStream.Proofs.Token.Parentheses
import BindStream.Proofs.Resolver.Outcome
import BindStream.Proofs.Expression.Reading
import BindStream.Proofs.Predicate.Condition
import BindStream.Proofs.Predicate.Rows
import BindStream.Proofs.Predicate.Range
import BindStream.Proofs.Resolver.Sight
import BindStream.Proofs.Resolver.Record
import BindStream.Proofs.Resolver.Redundant
import BindStream.Proofs.Insertion.Cells
import BindStream.Proofs.Insertion.Items
import BindStream.Proofs.Channel.EndOfRows
import BindStream.Proofs.Resolver.LetterCase
import BindStream.Proofs.Resolver.LookingBack
import BindStream.Proofs.Resolver.Provenance
import BindStream.Proofs.Statement.Binding
import BindStream.Proofs.Token.Reader
import BindStream.Proofs.Token.Unterminated
import BindStream.Proofs.Channel.Failure
import BindStream.Proofs.Resolver.QuotedName
import BindStream.Proofs.Tool.Input
import BindStream.Proofs.Resolver.Handover

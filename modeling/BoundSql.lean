import BoundSql.Condition.Memo
import BoundSql.Decimal.Reading
import BoundSql.Query.Run
import BoundSql.Registry
import BoundSql.Scripted
import BoundSql.Server
import BoundSql.Transaction
import BoundSql.Proofs.Expansion
import BoundSql.Proofs.Flattening
import BoundSql.Proofs.Forgetting
import BoundSql.Proofs.Alignment
import BoundSql.Proofs.Ownership
import BoundSql.Proofs.Interleaving
import BoundSql.Proofs.Void
import BoundSql.Proofs.Qualification
import BoundSql.Proofs.Cursor
import BoundSql.Proofs.Memory
import BoundSql.Proofs.Bracketing
import BoundSql.Proofs.Operations
import BoundSql.Proofs.Digits
import BoundSql.Proofs.Cells
import BoundSql.Proofs.JsonText
import BoundSql.Proofs.Registration
import BoundSql.Proofs.Inheritance
import BoundSql.Proofs.BrokenRows
import BoundSql.Proofs.Floats
import BoundSql.Proofs.References
import BoundSql.Proofs.Validation
import BoundSql.Proofs.FixedPoint
import BoundSql.Proofs.Conjunctions
import BoundSql.Proofs.Columns
import BoundSql.Proofs.Laziness
import BoundSql.Proofs.Truncation
import BoundSql.Proofs.Delivery
import BoundSql.Proofs.Framing
import BoundSql.Proofs.Delivery

import QueryLoom.Pool.Lease
import QueryLoom.Proofs.Accounting
import QueryLoom.Proofs.Audit
import QueryLoom.Proofs.Binding
import QueryLoom.Proofs.Bits
import QueryLoom.Proofs.Bracketing
import QueryLoom.Proofs.Conjunction
import QueryLoom.Proofs.Cursors
import QueryLoom.Proofs.Durability
import QueryLoom.Proofs.Fetching
import QueryLoom.Proofs.FieldLists
import QueryLoom.Proofs.Guard
import QueryLoom.Proofs.Hiding
import QueryLoom.Proofs.Integers
import QueryLoom.Proofs.MapPayloads
import QueryLoom.Proofs.Marks
import QueryLoom.Proofs.Naming
import QueryLoom.Proofs.Nulls
import QueryLoom.Proofs.Numerals
import QueryLoom.Proofs.Outcomes
import QueryLoom.Proofs.Paging
import QueryLoom.Proofs.Pooling
import QueryLoom.Proofs.Preview
import QueryLoom.Proofs.Readability
import QueryLoom.Proofs.Records
import QueryLoom.Proofs.Refusal
import QueryLoom.Proofs.Regrouping
import QueryLoom.Proofs.Replies
import QueryLoom.Proofs.Rereading
import QueryLoom.Proofs.Shapes
import QueryLoom.Proofs.Source
import QueryLoom.Proofs.Spellings
import QueryLoom.Proofs.StrayMarks
import QueryLoom.Proofs.TaggedText
import QueryLoom.Proofs.Times
import QueryLoom.Proofs.Visits
import QueryLoom.Script.Run
import QueryLoom.Settings
import QueryLoom.Wire.Address
import QueryLoom.Wire.Conversation

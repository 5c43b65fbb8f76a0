import SqlCondition.Plan
import SqlCondition.Settings
import SqlCondition.Json.Reader
import SqlCondition.Json.Conversion
import SqlCondition.Binding.Encoding
import SqlCondition.Binding.Decoding
import SqlCondition.Proofs.Column
import SqlCondition.Proofs.Assembly
import SqlCondition.Proofs.Origin
import SqlCondition.Proofs.Form
import SqlCondition.Proofs.WellFormed
import SqlCondition.Proofs.Expression
import SqlCondition.Proofs.Formula
import SqlCondition.Proofs.Meaning
import SqlCondition.Proofs.Leaves
import SqlCondition.Proofs.Strictness
import SqlCondition.Proofs.Emission
import SqlCondition.Proofs.Numbering
import SqlCondition.Proofs.Identifier
import SqlCondition.Proofs.Termination
import SqlCondition.Proofs.Shape
import SqlCondition.Proofs.Operands
import SqlCondition.Proofs.History
import SqlCondition.Proofs.Accumulation
import SqlCondition.Proofs.Caching
import SqlCondition.Proofs.Reordering
import SqlCondition.Proofs.Wire
import SqlCondition.Proofs.Refusal
import SqlCondition.Proofs.Keys
import SqlCondition.Proofs.Positions
import SqlCondition.Proofs.Pruning
import SqlCondition.Proofs.Combination
import SqlCondition.Proofs.Lookup
import SqlCondition.Proofs.JsonFragment
import SqlCondition.Proofs.Temporal
import SqlCondition.Proofs.Mapping
import SqlCondition.Proofs.Spreading
import SqlCondition.Proofs.TemporalBinding
import SqlCondition.Proofs.IntegerBinding
import SqlCondition.Proofs.TableHistory
import SqlCondition.Proofs.AliasHistory
import SqlCondition.Proofs.Template

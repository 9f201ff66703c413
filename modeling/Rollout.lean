import Rollout.Context.OfJson
import Rollout.Engine
import Rollout.Literal.Duration
import Rollout.Proofs.Commitment
import Rollout.Proofs.Consistency
import Rollout.Proofs.EqualRuleSets
import Rollout.RuleSet.Script
import Rollout.Value.Hash
import Rollout.Value.Tagged
import Rollout.Proofs.Parallel
import Rollout.Proofs.Writes
import Rollout.Proofs.KeysAsked
import Rollout.Proofs.PoolContents
import Rollout.Proofs.BranchOrder
import Rollout.Proofs.Faults
import Rollout.Proofs.Assembly
import Rollout.Proofs.Comparers
import Rollout.Proofs.Absence
import Rollout.Proofs.DocumentLeaves
import Rollout.Proofs.Durations
import Rollout.Proofs.Versions
import Rollout.Proofs.LetterCase
import Rollout.Proofs.Comparisons
import Rollout.Proofs.Shares
import Rollout.Proofs.Recency
import Rollout.Proofs.KeyForms
import Rollout.Proofs.FoldedTests
import Rollout.Proofs.OwnKeys
import Rollout.Proofs.Dispatch
import Rollout.Proofs.Containment
import Rollout.Proofs.Connectives
import Rollout.Proofs.RaisedShares
import Rollout.Proofs.VersionOrder
import Rollout.Proofs.EqualKeys
import Rollout.Proofs.TimestampForms
import Rollout.Proofs.Interning
import Rollout.Proofs.TaggedForms

import Reconcile.Main
import Reconcile.Cluster.Trial
import Reconcile.Command.Delete
import Reconcile.Command.Diff
import Reconcile.Command.Validate
import Reconcile.Remote.Server
import Reconcile.Proofs.Json.Fields
import Reconcile.Proofs.MergePatch.Apply
import Reconcile.Proofs.MergePatch.ThreeWay
import Reconcile.Proofs.Program.Run
import Reconcile.Proofs.Resource.Metadata
import Reconcile.Proofs.Command.Target
import Reconcile.Proofs.Cluster.Session
import Reconcile.Proofs.Command.Phases
import Reconcile.Proofs.Command.Touched
import Reconcile.Proofs.Cluster.Stamp
import Reconcile.Proofs.Cluster.Store
import Reconcile.Proofs.Cluster.Sound
import Reconcile.Proofs.Resource.Patched
import Reconcile.Proofs.Cluster.Change
import Reconcile.Proofs.Program.Failing
import Reconcile.Proofs.Cluster.Told
import Reconcile.Proofs.Command.Apply
import Reconcile.Proofs.Command.Seen
import Reconcile.Proofs.Command.Search
import Reconcile.Proofs.Command.Collect
import Reconcile.Proofs.MergePatch.Noop
import Reconcile.Proofs.Resource.Held
import Reconcile.Proofs.Program.Reads
import Reconcile.Proofs.Command.Settled
import Reconcile.Proofs.Command.Converge
import Reconcile.Proofs.Command.Doomed
import Reconcile.Proofs.Command.DryRun
import Reconcile.Proofs.Program.Moments
import Reconcile.Proofs.Cluster.Answers
import Reconcile.Proofs.Cluster.Shared
import Reconcile.Proofs.Command.Races
import Reconcile.Proofs.MergePatch.Paths
import Reconcile.Proofs.Cluster.Stamped
import Reconcile.Proofs.Command.Interleaved
import Reconcile.Proofs.Command.Laid
import Reconcile.Proofs.Command.Recalled
import Reconcile.Proofs.Command.Failed
import Reconcile.Proofs.Json.Depth
import Reconcile.Proofs.Resource.Recordable
import Reconcile.Proofs.Comparison.Stripped
import Reconcile.Proofs.Program.Events
import Reconcile.Proofs.Command.Inspect
import Reconcile.Proofs.Command.Clean
import Reconcile.Proofs.Command.Purge
import Reconcile.Proofs.Comparison.Covers
import Reconcile.Proofs.Comparison.Admitted
import Reconcile.Proofs.Command.Covered
import Reconcile.Proofs.Schema.Validator
import Reconcile.Proofs.Command.Validate
import Reconcile.Proofs.Order.Tiers
import Reconcile.Proofs.Command.Tiers
import Reconcile.Proofs.Cluster.Consistent
import Reconcile.Proofs.Command.History
import Reconcile.Proofs.Schema.Fits
import Reconcile.Proofs.Schema.Reading
import Reconcile.Proofs.Schema.Applies
import Reconcile.Proofs.Schema.Tighten
import Reconcile.Proofs.Comparison.Equality
import Reconcile.Proofs.MergePatch.Unowned
import Reconcile.Proofs.MergePatch.Idle
import Reconcile.Proofs.Order.Canonical
import Reconcile.Proofs.Comparison.Summary
import Reconcile.Proofs.Json.Parser
import Reconcile.Proofs.Comparison.Shown
import Reconcile.Proofs.Comparison.Trim
import Reconcile.Proofs.Comparison.Verdict
import Reconcile.Proofs.Number.Rounding
import Reconcile.Proofs.Comparison.Transitive
import Reconcile.Proofs.Input.Walk
import Reconcile.Proofs.Cluster.Selector
import Reconcile.Proofs.Input.Limit
import Reconcile.Proofs.Snapshot.RoundTrip
import Reconcile.Proofs.Schema.Pruned
import Reconcile.Proofs.Schema.Closed
import Reconcile.Proofs.Resource.Edited

import BehaviorPlan.Graph.Dot
import BehaviorPlan.Number.Reading
import BehaviorPlan.Proofs.Analysis.Chains
import BehaviorPlan.Proofs.Code.Block
import BehaviorPlan.Proofs.Code.Lexing
import BehaviorPlan.Proofs.Code.Place
import BehaviorPlan.Proofs.Code.Selection
import BehaviorPlan.Proofs.Code.Site
import BehaviorPlan.Proofs.Graph.DirectCalls
import BehaviorPlan.Proofs.Graph.Dot
import BehaviorPlan.Proofs.Graph.Feedback
import BehaviorPlan.Proofs.Graph.Listing
import BehaviorPlan.Proofs.Graph.Settlement
import BehaviorPlan.Proofs.Name.Lifecycle
import BehaviorPlan.Proofs.Partition.Linkage
import BehaviorPlan.Proofs.Partition.Overlap
import BehaviorPlan.Proofs.Partition.Placement
import BehaviorPlan.Proofs.Partition.Problems
import BehaviorPlan.Proofs.Partition.Reorder
import BehaviorPlan.Proofs.Partition.Resharing
import BehaviorPlan.Proofs.Pipeline.Category
import BehaviorPlan.Proofs.Pipeline.Coordination
import BehaviorPlan.Proofs.Pipeline.Coupling
import BehaviorPlan.Proofs.Pipeline.Naming
import BehaviorPlan.Proofs.Report.Plain
import BehaviorPlan.Proofs.Startup.Methods
import BehaviorPlan.Proofs.Startup.Problems
import BehaviorPlan.Proofs.Startup.StepNames
import BehaviorPlan.Proofs.Startup.Unnumbered
import BehaviorPlan.Report.Console
import BehaviorPlan.Report.Json
import BehaviorPlan.Text.Emoji

import CreatorNode.Objects.Rows
import CreatorNode.Objects.Database
import CreatorNode.Objects.Export
import CreatorNode.Execution.Batches
import CreatorNode.Execution.State
import CreatorNode.Execution.Import
import CreatorNode.Execution.ProcessSync
import CreatorNode.Execution.Interleaving
import CreatorNode.Execution.Theorems.Commits
import CreatorNode.Execution.Theorems.Locks
import CreatorNode.Execution.Theorems.Saves
import CreatorNode.Execution.Theorems.FailureGate
import CreatorNode.Execution.Theorems.ForceResync
import CreatorNode.Execution.Theorems.Replication
import CreatorNode.Utils.FindCIDInNetwork
import CreatorNode.Utils.ImageDir
import CreatorNode.Queue.Step
import CreatorNode.Queue.Theorems
import CreatorNode.Registry.ServiceRegistry

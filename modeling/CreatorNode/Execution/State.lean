import CreatorNode.Execution.Batches
import Mathlib.Data.Finset.Basic

namespace CreatorNode

/-- What the failure gate decided for one import. -/
inductive GateEvent
  -- every save succeeded: the count is reset
  | clean
  -- some saves failed below the threshold: the count went up and the sync is rejected
  | rejected
  -- some saves failed at the threshold: the count is reset and the sync goes on with skipped files
  | skipping
  deriving DecidableEq, Repr

/-- The state of the secondary that `processSync` reads and writes. -/
structure NodeState where
  db : DB
  -- the node-sync locks held in redis, keyed by wallet
  locks : Finset Wallet
  -- `UserSyncFailureCountManager`
  failureCounts : Wallet → Nat
  -- every decision of the failure gate, oldest first; the code keeps no such list, the proofs do
  gateLog : List (Wallet × GateEvent)
  -- `SyncHistoryAggregator`: `true` for `recordSyncSuccess`, `false` for `recordSyncFail`
  syncHistory : List (Wallet × Bool)

namespace NodeState

variable {s : NodeState} {w w' : Wallet}

def init (db : DB) : NodeState :=
  ⟨db, ∅, fun _ => 0, [], []⟩

/-- `redisLock.removeLock(redisKey)`; `redisKey` is unset before the lock loop has run. -/
def removeLock (s : NodeState) : Option Wallet → NodeState
  | none => s
  | some w => { s with locks := s.locks.erase w }

/-- Modelled from the spec: `UserSyncFailureCountManager` is not among the sources. A per-wallet
counter whose increment returns the new value. -/
def incrementFailureCount (s : NodeState) (w : Wallet) : Nat × NodeState :=
  (s.failureCounts w + 1, { s with failureCounts := Function.update s.failureCounts w (s.failureCounts w + 1) })

/-- Modelled from the spec, as `incrementFailureCount`. -/
def resetFailureCount (s : NodeState) (w : Wallet) : NodeState :=
  { s with failureCounts := Function.update s.failureCounts w 0 }

def logGate (s : NodeState) (w : Wallet) (e : GateEvent) : NodeState :=
  { s with gateLog := s.gateLog ++ [(w, e)] }

/-- Modelled from the spec: `SyncHistoryAggregator` is not among the sources; it records one
outcome per call. -/
def recordSyncSuccess (s : NodeState) (w : Wallet) : NodeState :=
  { s with syncHistory := s.syncHistory ++ [(w, true)] }

/-- Modelled from the spec, as `recordSyncSuccess`. -/
def recordSyncFail (s : NodeState) (w : Wallet) : NodeState :=
  { s with syncHistory := s.syncHistory ++ [(w, false)] }

@[simp] theorem removeLock_db (k : Option Wallet) : (s.removeLock k).db = s.db := by
  cases k <;> rfl
@[simp] theorem removeLock_locks (k : Option Wallet) :
    (s.removeLock k).locks = k.elim s.locks s.locks.erase := by
  cases k <;> rfl
@[simp] theorem removeLock_failureCounts (k : Option Wallet) :
    (s.removeLock k).failureCounts = s.failureCounts := by
  cases k <;> rfl
@[simp] theorem removeLock_gateLog (k : Option Wallet) : (s.removeLock k).gateLog = s.gateLog := by
  cases k <;> rfl
@[simp] theorem removeLock_syncHistory (k : Option Wallet) :
    (s.removeLock k).syncHistory = s.syncHistory := by
  cases k <;> rfl
@[simp] theorem recordSyncSuccess_syncHistory :
    (s.recordSyncSuccess w).syncHistory = s.syncHistory ++ [(w, true)] := rfl
@[simp] theorem recordSyncSuccess_db : (s.recordSyncSuccess w).db = s.db := rfl
@[simp] theorem recordSyncSuccess_locks : (s.recordSyncSuccess w).locks = s.locks := rfl
@[simp] theorem recordSyncSuccess_failureCounts :
    (s.recordSyncSuccess w).failureCounts = s.failureCounts := rfl
@[simp] theorem recordSyncSuccess_gateLog : (s.recordSyncSuccess w).gateLog = s.gateLog := rfl
@[simp] theorem recordSyncFail_db : (s.recordSyncFail w).db = s.db := rfl
@[simp] theorem recordSyncFail_locks : (s.recordSyncFail w).locks = s.locks := rfl
@[simp] theorem recordSyncFail_failureCounts :
    (s.recordSyncFail w).failureCounts = s.failureCounts := rfl
@[simp] theorem recordSyncFail_gateLog : (s.recordSyncFail w).gateLog = s.gateLog := rfl
@[simp] theorem logGate_db (e : GateEvent) : (s.logGate w e).db = s.db := rfl
@[simp] theorem logGate_locks (e : GateEvent) : (s.logGate w e).locks = s.locks := rfl
@[simp] theorem logGate_failureCounts (e : GateEvent) :
    (s.logGate w e).failureCounts = s.failureCounts := rfl
@[simp] theorem logGate_gateLog (e : GateEvent) : (s.logGate w e).gateLog = s.gateLog ++ [(w, e)] :=
  rfl
@[simp] theorem incrementFailureCount_fst : (s.incrementFailureCount w).1 = s.failureCounts w + 1 :=
  rfl
@[simp] theorem incrementFailureCount_db : (s.incrementFailureCount w).2.db = s.db := rfl
@[simp] theorem incrementFailureCount_locks : (s.incrementFailureCount w).2.locks = s.locks := rfl
@[simp] theorem incrementFailureCount_gateLog : (s.incrementFailureCount w).2.gateLog = s.gateLog :=
  rfl
@[simp] theorem incrementFailureCount_failureCounts :
    (s.incrementFailureCount w).2.failureCounts =
      Function.update s.failureCounts w (s.failureCounts w + 1) := rfl
@[simp] theorem resetFailureCount_db : (s.resetFailureCount w).db = s.db := rfl
@[simp] theorem resetFailureCount_locks : (s.resetFailureCount w).locks = s.locks := rfl
@[simp] theorem resetFailureCount_gateLog : (s.resetFailureCount w).gateLog = s.gateLog := rfl
@[simp] theorem resetFailureCount_failureCounts :
    (s.resetFailureCount w).failureCounts = Function.update s.failureCounts w 0 := rfl

theorem foldl_recordSyncFail (ws : List Wallet) :
    ws.foldl recordSyncFail s = { s with syncHistory := s.syncHistory ++ ws.map (·, false) } := by
  induction ws generalizing s with
  | nil => simp
  | cons w ws ih => simp [ih, recordSyncFail]

end NodeState

end CreatorNode

import CreatorNode.Execution.ProcessSync
import Mathlib.Logic.Relation

namespace CreatorNode

/-- Where a `processSync` call stands between two awaits of its lock code. -/
inductive Pc
  /-- at `await redisLock.getLock` for the first of `pending`; the loop is over when it is empty -/
  | getLock (pending : List Wallet)
  /-- at `await redisLock.setLock` for `wallet`, whose `getLock` found it free -/
  | setLock (wallet : Wallet) (pending : List Wallet)
  /-- inside the `try` block -/
  | body
  /-- in the `finally` block, at `removeLock` for the first of `pending` -/
  | release (pending : List Wallet)
  | done
  deriving DecidableEq, Repr

structure Call where
  walletPublicKeys : List Wallet
  pc : Pc
  deriving DecidableEq, Repr

namespace Call

/-- One step of a call, from one await to the next, against the lock store (no TTL expiry). -/
inductive Step : Finset Wallet → Call → Finset Wallet → Call → Prop
  | getLockFree {locks ws w pending} (h : w ∉ locks) :
      Step locks ⟨ws, .getLock (w :: pending)⟩ locks ⟨ws, .setLock w pending⟩
  /-- the lock is held: the call returns its error from before the `try` -/
  | getLockHeld {locks ws w pending} (h : w ∈ locks) :
      Step locks ⟨ws, .getLock (w :: pending)⟩ locks ⟨ws, .done⟩
  | setLock {locks ws w pending} :
      Step locks ⟨ws, .setLock w pending⟩ (insert w locks) ⟨ws, .getLock pending⟩
  | enter {locks ws} : Step locks ⟨ws, .getLock []⟩ locks ⟨ws, .body⟩
  /-- a transaction committed or rolled back: `removeLock(redisKey)`, the key of the last wallet -/
  | removeRedisKey {locks ws} :
      Step locks ⟨ws, .body⟩ (ws.getLast?.elim locks locks.erase) ⟨ws, .body⟩
  /-- the `try` block returns or throws, and the `finally` block starts -/
  | leave {locks ws} : Step locks ⟨ws, .body⟩ locks ⟨ws, .release ws⟩
  | release {locks ws w pending} :
      Step locks ⟨ws, .release (w :: pending)⟩ (locks.erase w) ⟨ws, .release pending⟩
  | finish {locks ws} : Step locks ⟨ws, .release []⟩ locks ⟨ws, .done⟩

/-- The call is inside the critical section for `w`: it passed the lock loop with `w` among its
wallets and has not returned. -/
def InCritical (c : Call) (w : Wallet) : Prop :=
  w ∈ c.walletPublicKeys ∧ (c.pc = .body ∨ ∃ pending, c.pc = .release pending)

end Call

structure Node where
  locks : Finset Wallet
  calls : List Call

namespace Node

/-- The scheduler lets one call take its next step. -/
inductive Step : Node → Node → Prop
  | step {locks locks' : Finset Wallet} {calls : List Call} {c' : Call} (i : Nat)
      (hi : i < calls.length) (h : Call.Step locks calls[i] locks' c') :
      Step ⟨locks, calls⟩ ⟨locks', calls.set i c'⟩

def start (locks : Finset Wallet) (wss : List (List Wallet)) : Node :=
  ⟨locks, wss.map fun ws => ⟨ws, .getLock ws⟩⟩

/-- Two calls on `w`, started with no lock held: both run `getLock` before either runs `setLock`,
and both pass the lock loop. -/
theorem two_syncs_in_critical_section :
    ∃ S, Relation.ReflTransGen Step (start ∅ [["w"], ["w"]]) S ∧
      ∃ c₁ c₂, S.calls = [c₁, c₂] ∧ c₁.InCritical "w" ∧ c₂.InCritical "w" := by
  refine ⟨_, .head (.step 0 (by decide) (.getLockFree (by decide)))
    (.head (.step 1 (by decide) (.getLockFree (by decide)))
    (.head (.step 0 (by decide) .setLock) (.head (.step 1 (by decide) .setLock)
    (.head (.step 0 (by decide) .enter) (.single (.step 1 (by decide) .enter)))))),
    _, _, rfl, ⟨by decide, .inl rfl⟩, ⟨by decide, .inl rfl⟩⟩

end Node

end CreatorNode

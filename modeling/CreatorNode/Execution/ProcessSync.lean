import CreatorNode.Execution.Import

namespace CreatorNode

/-- The lock loop of `processSync`: `getLock`, then `setLock`, wallet by wallet. It stops at the
first wallet whose lock is held, and returns with the locks it has set still set. -/
def acquireLocks (locks : Finset Wallet) : List Wallet → Option Wallet × Finset Wallet
  | [] => (none, locks)
  | w :: ws => if w ∈ locks then (some w, locks) else acquireLocks (insert w locks) ws

/-- The `finally` block: `removeLock` for every wallet. -/
def releaseLocks (locks : Finset Wallet) (walletPublicKeys : List Wallet) : Finset Wallet :=
  walletPublicKeys.foldl (fun locks w => locks.erase w) locks

namespace DB

def localClock (db : DB) (wallet : Option Wallet) : Int :=
  ((wallet.bind db.cnodeUsers.find).map (·.clock)).getD (-1)

/-- `localMaxClockVal`: `-1` on a forced resync, else the clock of `walletPublicKeys[0]`. -/
def localMaxClockVal (db : DB) (walletPublicKeys : List Wallet) (forceResync : Bool) : Int :=
  if forceResync then -1 else db.localClock walletPublicKeys.head?

/-- The database once the forced resync has deleted `walletPublicKeys[0]`. -/
def baseline (db : DB) (walletPublicKeys : List Wallet) (forceResync : Bool) : DB :=
  if forceResync then db.deleteAllCNodeUserDataFromDB walletPublicKeys.head? else db

end DB

/-- The per-user loop over `Object.values(body.data.cnodeUsers)`, from the `u`-th user on. Every
transaction that commits or rolls back removes the lock `redisKey`. -/
def syncCNodeUsers (cfg : Config) (env : Env) (walletPublicKeys : List Wallet)
    (localMaxClockVal : Int) (redisKey : Option Wallet) :
    Nat → List FetchedCNodeUser → NodeState → Option (Option SyncError × NodeState)
  | _, [], s => some (none, s)
  | u, fetchedCNodeUser :: rest, s =>
    match checkFetchedCNodeUser walletPublicKeys localMaxClockVal fetchedCNodeUser with
    | .error e => some (some e, s)
    | .ok none => syncCNodeUsers cfg env walletPublicKeys localMaxClockVal redisKey (u + 1) rest s
    | .ok (some w) =>
      if env.rejects (.transaction u) then some (some (.rejected (.transaction u)), s)
      else match importCNodeUser cfg env u w fetchedCNodeUser s with
        | none => none
        | some (.error e, s) => some (some (.transactionFailed e), s.removeLock redisKey)
        | some (.ok db, s) =>
          syncCNodeUsers cfg env walletPublicKeys localMaxClockVal redisKey (u + 1) rest
            (({ s with db } |>.removeLock redisKey).recordSyncSuccess w)

/-- The `try` block of `processSync`: the local clock (after the forced deletion), the export
request from the next clock on, the checks of the response, then the per-user loop. -/
def syncWallets (cfg : Config) (env : Env) (walletPublicKeys : List Wallet) (forceResync : Bool)
    (s : NodeState) : Option (Option SyncError × NodeState) :=
  let localMaxClockVal := s.db.localMaxClockVal walletPublicKeys forceResync
  let s := { s with db := s.db.baseline walletPublicKeys forceResync }
  if !forceResync && env.rejects .findLocalCNodeUser then
    some (some (.rejected .findLocalCNodeUser), s)
  else match env.exportRoute walletPublicKeys (localMaxClockVal + 1) with
    | .failed e => some (some (.exportFailed e), s)
    | .ok data =>
      match data.cnodeUsers, data.ipfsIDObj.bind (·.addresses) with
      | some cnodeUsers, some _ =>
        syncCNodeUsers cfg env walletPublicKeys localMaxClockVal walletPublicKeys.getLast? 0
          cnodeUsers s
      | _, _ => some (some .malformedResponse, s)

/-- `processSync(serviceRegistry, walletPublicKeys, creatorNodeEndpoint, blockNumber,
forceResync)` on a secondary; the endpoint and the block number reach it through `env`. The
result is the returned `errorObj`, `none` when the call never returns. -/
def processSync (cfg : Config) (env : Env) (walletPublicKeys : List Wallet) (forceResync : Bool)
    (s : NodeState) : Option (Option SyncError × NodeState) :=
  match acquireLocks s.locks walletPublicKeys with
  | (some w, locks) => some (some (.syncInProgress w), { s with locks })
  | (none, locks) =>
    (syncWallets cfg env walletPublicKeys forceResync { s with locks }).map fun (errorObj, s) =>
      let s := if errorObj.isSome then walletPublicKeys.foldl NodeState.recordSyncFail s else s
      (errorObj, { s with locks := releaseLocks s.locks walletPublicKeys })

/-- Calls of `processSync` on one node, one after the other, each of which returned. -/
inductive Runs (cfg : Config) : NodeState → NodeState → Prop
  | refl (s : NodeState) : Runs cfg s s
  | step {s₁ s₂ s₃ : NodeState} (env : Env) (walletPublicKeys : List Wallet) (forceResync : Bool)
      (errorObj : Option SyncError) :
      processSync cfg env walletPublicKeys forceResync s₁ = some (errorObj, s₂) → Runs cfg s₂ s₃ →
      Runs cfg s₁ s₃

end CreatorNode

import CreatorNode.Objects.Database

namespace CreatorNode

/-- One value of `body.data.cnodeUsers` in an export; `walletPublicKey` is `none` when the entry
has no such property. -/
structure FetchedCNodeUser where
  walletPublicKey : Option Wallet
  clock : Int
  latestBlockNumber : Int
  lastLogin : Nat
  createdAt : Nat
  clockRecords : List ClockRecord
  files : List File
  tracks : List Track
  audiusUsers : List AudiusUser
  deriving Repr

structure IpfsIDObj where
  addresses : Option (List String)
  deriving Repr

/-- `body.data` of an export; a field is `none` when the property is missing. -/
structure ExportData where
  cnodeUsers : Option (List FetchedCNodeUser)
  ipfsIDObj : Option IpfsIDObj
  deriving Repr

inductive ExportResponse
  -- the request threw, or its status was not `200` and `error` is `resp.data.error`
  | failed (error : String)
  | ok (data : ExportData)
  deriving Repr

inductive DbCall
  | findLocalCNodeUser
  | transaction (u : Nat)
  | findOne (u : Nat)
  | update (u : Nat)
  | create (u : Nat)
  | bulkCreateClockRecords (u : Nat)
  | bulkCreateNonTrackFiles (u : Nat)
  | bulkCreateTracks (u : Nat)
  | bulkCreateTrackFiles (u : Nat)
  | bulkCreateAudiusUsers (u : Nat)
  | commit (u : Nat)
  deriving DecidableEq, Repr

structure SaveCall where
  multihash : Multihash
  storagePath : String
  gatewaysToTry : List String
  fileNameForImage : Option String
  trackId : Option Nat
  deriving DecidableEq, Repr

inductive SyncError
  | syncInProgress (wallet : Wallet)
  | exportFailed (error : String)
  | malformedResponse
  | walletPublicKeyNotFound
  | walletNotRequested
  | clockRegression (localMaxClockVal fetchedLatestClockVal : Int)
  | notContiguous (localMaxClockVal importedMinClockVal : Int)
  | saveFileFailures (numCIDsThatFailedSaveFileOp userSyncFailureCount maxCount : Nat)
  | updateFailed (wallet : Wallet)
  | rejected (call : DbCall)
  | transactionFailed (cause : SyncError)
  deriving DecidableEq, Repr

namespace SyncError

/-- The message of the `Error` that `processSync` returns. -/
def message (creatorNodeEndpoint : String) : SyncError → String
  | syncInProgress wallet =>
    s!"Cannot change state of wallet {wallet}. Node sync currently in progress."
  | exportFailed error => error
  | malformedResponse => s!"Malformed response from {creatorNodeEndpoint}."
  | walletPublicKeyNotFound =>
    s!"Malformed response received from {creatorNodeEndpoint}. " ++
      "\"walletPublicKey\" property not found on CNodeUser in response object"
  | walletNotRequested =>
    s!"Malformed response from {creatorNodeEndpoint}. " ++
      "Returned data for walletPublicKey that was not requested."
  | clockRegression localMaxClockVal fetchedLatestClockVal =>
    s!"Cannot sync for localMaxClockVal {localMaxClockVal} - " ++
      s!"imported data has max clock val {fetchedLatestClockVal}"
  | notContiguous localMaxClockVal importedMin =>
    "Cannot sync - imported data is not contiguous. " ++
      s!"Local max clock val = {localMaxClockVal} and imported min clock val {importedMin}"
  | saveFileFailures n count maxCount =>
    s!"User Sync failed due to {n} failing saveFileForMultihashToFS op. " ++
      s!"userSyncFailureCount = {count} // SyncRequestMaxUserFailureCountBeforeSkip = {maxCount}"
  | updateFailed wallet => s!"Failed to update cnodeUser row for cnodeUser wallet {wallet}"
  | rejected _ => "database call rejected"
  | transactionFailed cause => "Error: " ++ message creatorNodeEndpoint cause

end SyncError

structure Config where
  nodeSyncFileSaveMaxConcurrency : Nat
  syncRequestMaxUserFailureCountBeforeSkip : Nat
  deriving Repr

/-- Everything a run of `processSync` gets from outside the node: the primary's answer to each
export request, the user's replica set, the outcome of the `k`-th `saveFileForMultihashToFS` call
of the `u`-th import, and which database calls reject. -/
structure Env where
  exportRoute : List Wallet → Int → ExportResponse
  ownEndpoint : String
  getCreatorNodeEndpoints : Wallet → Option (List String)
  saveFileForMultihashToFS : Nat → Nat → SaveCall → Bool
  rejects : DbCall → Bool

end CreatorNode

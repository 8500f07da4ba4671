import CreatorNode.Execution.State

namespace CreatorNode

open Row

/-- The checks the per-user loop makes on one exported user before any write: the wallet must be
present and requested, the clock must not go back, and the first clock record must follow the
local clock unless the node has none. `.ok none` is an up-to-date user (`continue`). -/
def checkFetchedCNodeUser (walletPublicKeys : List Wallet) (localMaxClockVal : Int)
    (fetchedCNodeUser : FetchedCNodeUser) : Except SyncError (Option Wallet) :=
  match fetchedCNodeUser.walletPublicKey with
  | none => .error .walletPublicKeyNotFound
  | some w =>
    if w ∉ walletPublicKeys then .error .walletNotRequested
    else if fetchedCNodeUser.clock < localMaxClockVal then
      .error (.clockRegression localMaxClockVal fetchedCNodeUser.clock)
    else if fetchedCNodeUser.clock = localMaxClockVal then .ok none
    else match fetchedCNodeUser.clockRecords.head? with
      | some r =>
        if localMaxClockVal ≠ -1 ∧ r.clock ≠ localMaxClockVal + 1 then
          .error (.notContiguous localMaxClockVal r.clock)
        else .ok (some w)
      | none => .ok (some w)

theorem checkFetchedCNodeUser_ok {ws : List Wallet} {lm : Int} {f : FetchedCNodeUser} {w : Wallet}
    (h : checkFetchedCNodeUser ws lm f = .ok (some w)) :
    f.walletPublicKey = some w ∧ w ∈ ws ∧ lm < f.clock ∧
      ∀ r, f.clockRecords.head? = some r → lm ≠ -1 → r.clock = lm + 1 := by
  unfold checkFetchedCNodeUser at h
  split at h
  · cases h
  · rename_i w' hw
    split_ifs at h with h₁ h₂ h₃ <;> try cases h
    split at h
    · rename_i r₀ hhead
      split_ifs at h with h₄
      cases h
      refine ⟨hw, by simpa using h₁, by omega, fun r hr hlm => ?_⟩
      rw [hhead, Option.some.injEq] at hr
      subst hr; by_contra hc; exact h₄ ⟨hlm, hc⟩
    · cases h
      exact ⟨hw, by simpa using h₁, by omega, fun r hr => by simp_all⟩

namespace DB

variable {db : DB} {w w' : Wallet} {f : FetchedCNodeUser} {failed : List Multihash} {u x : UUID}

def localUUID (db : DB) (w : Wallet) : UUID :=
  ((db.cnodeUsers.find w).map (·.cnodeUserUUID)).getD db.freshUUID

/-- The `CNodeUser` write of an import: `CNodeUser.update` of the wallet's row, or
`CNodeUser.create` of a row with a fresh `cnodeUserUUID`. -/
def upsert (db : DB) (w : Wallet) (f : FetchedCNodeUser) : DB :=
  match h : db.cnodeUsers.find w with
  | some _ =>
    { db with cnodeUsers := db.cnodeUsers.update w f.lastLogin f.latestBlockNumber f.clock f.createdAt }
  | none =>
    { db with
      cnodeUsers := db.cnodeUsers.insert
        ⟨w, db.freshUUID, f.clock, f.latestBlockNumber, f.lastLogin, f.createdAt⟩ h
        freshUUID_not_mem_cnodeUsers }

end DB

/-- `nonTrackFiles.map(...)`: `skipped` set for a multihash whose save failed, no
`trackBlockchainId`, and the local `cnodeUserUUID`. -/
def nonTrackFileRows (failed : List Multihash) (uuid : UUID) (files : List File) : List File :=
  rekey (files.map fun file =>
    { file with skipped := failed.contains file.multihash || file.skipped, trackBlockchainId := none })
    uuid

def trackFileRows (failed : List Multihash) (uuid : UUID) (files : List File) : List File :=
  rekey (files.map fun file => { file with skipped := failed.contains file.multihash || file.skipped })
    uuid

def importedRows (uuid : UUID) (f : FetchedCNodeUser) (failed : List Multihash) : Owned :=
  ⟨rekey f.clockRecords uuid,
    nonTrackFileRows failed uuid f.nonTrackFiles ++ trackFileRows failed uuid f.trackFiles,
    rekey f.tracks uuid, rekey f.audiusUsers uuid⟩

def Owned.append (o o' : Owned) : Owned :=
  ⟨o.clockRecords ++ o'.clockRecords, o.files ++ o'.files, o.tracks ++ o'.tracks,
    o.audiusUsers ++ o'.audiusUsers⟩

namespace DB

def addRows (db : DB) (o : Owned) : DB :=
  { db with
    clockRecords := db.clockRecords ++ o.clockRecords
    files := db.files ++ o.files
    tracks := db.tracks ++ o.tracks
    audiusUsers := db.audiusUsers ++ o.audiusUsers }

def importUser (db : DB) (w : Wallet) (f : FetchedCNodeUser) (failed : List Multihash) : DB :=
  (db.upsert w f).addRows (importedRows (db.localUUID w) f failed)

end DB

/-- `CNodeUser.findOne` in the transaction, then the `CNodeUser` write; each call may reject, and
an update must touch exactly one row. -/
def upsertCNodeUser (rejects : DbCall → Bool) (u : Nat) (w : Wallet) (f : FetchedCNodeUser)
    (db : DB) : Except SyncError DB :=
  if rejects (.findOne u) then .error (.rejected (.findOne u))
  else match db.cnodeUsers.find w with
    | some _ =>
      if rejects (.update u) then .error (.rejected (.update u))
      else if db.cnodeUsers.numRowsUpdated w ≠ 1 then .error (.updateFailed w)
      else .ok (db.upsert w f)
    | none =>
      if rejects (.create u) then .error (.rejected (.create u))
      else .ok (db.upsert w f)

def dbCall (rejects : DbCall → Bool) (call : DbCall) (db : DB) : Except SyncError DB :=
  if rejects call then .error (.rejected call) else .ok db

/-- The five `bulkCreate` calls, in the order of the code, and the commit. -/
def writeRecords (rejects : DbCall → Bool) (u : Nat) (uuid : UUID) (f : FetchedCNodeUser)
    (failed : List Multihash) (db : DB) : Except SyncError DB := do
  let db ← dbCall rejects (.bulkCreateClockRecords u)
    { db with clockRecords := db.clockRecords ++ rekey f.clockRecords uuid }
  let db ← dbCall rejects (.bulkCreateNonTrackFiles u)
    { db with files := db.files ++ nonTrackFileRows failed uuid f.nonTrackFiles }
  let db ← dbCall rejects (.bulkCreateTracks u) { db with tracks := db.tracks ++ rekey f.tracks uuid }
  let db ← dbCall rejects (.bulkCreateTrackFiles u)
    { db with files := db.files ++ trackFileRows failed uuid f.trackFiles }
  let db ← dbCall rejects (.bulkCreateAudiusUsers u)
    { db with audiusUsers := db.audiusUsers ++ rekey f.audiusUsers uuid }
  dbCall rejects (.commit u) db

/-- The user's replica set without this node and without repeats, the gateways of the saves; `[]`
when the lookup throws. -/
def userReplicaSet (env : Env) (w : Wallet) : List String :=
  match env.getCreatorNodeEndpoints w with
  | none => []
  | some endpoints => (endpoints.filter (· ≠ env.ownEndpoint)).eraseDups

def saveFiles (cfg : Config) (ok : Nat → SaveCall → Bool) (userReplicaSet : List String)
    (f : FetchedCNodeUser) : Option SaveState :=
  (SaveState.saveInBatches cfg.nodeSyncFileSaveMaxConcurrency f.trackFiles
      (SaveState.saveSlice ok (trackFileSaveCall userReplicaSet)) (f.trackFiles.length + 1) 0
      ⟨[], []⟩).bind
    (SaveState.saveInBatches cfg.nodeSyncFileSaveMaxConcurrency f.nonTrackFiles
      (SaveState.saveSlice ok (nonTrackFileSaveCall userReplicaSet)) (f.nonTrackFiles.length + 1) 0)

/-- The failure gate: after failed saves the count goes up, and below the threshold the sync is
rejected; at the threshold, or with no failure, the count is reset. -/
def failureGate (maxCount : Nat) (w : Wallet) (numFailed : Nat) (s : NodeState) :
    Option SyncError × NodeState :=
  if 0 < numFailed then
    let userSyncFailureCount := (s.incrementFailureCount w).1
    let s := (s.incrementFailureCount w).2
    if userSyncFailureCount < maxCount then
      (some (.saveFileFailures numFailed userSyncFailureCount maxCount), s.logGate w .rejected)
    else (none, (s.resetFailureCount w).logGate w .skipping)
  else (none, (s.resetFailureCount w).logGate w .clean)

def gateDecision (maxCount numFailed count : Nat) : GateEvent :=
  if 0 < numFailed then if count + 1 < maxCount then .rejected else .skipping else .clean

/-- The transaction of one exported user. The database in the result is the one the transaction
commits; the node state carries what happens outside it, the failure count and the gate log.
`none` when a batched loop never exits. -/
def importCNodeUser (cfg : Config) (env : Env) (u : Nat) (w : Wallet) (f : FetchedCNodeUser)
    (s : NodeState) : Option (Except SyncError DB × NodeState) :=
  match upsertCNodeUser env.rejects u w f s.db with
  | .error e => some (.error e, s)
  | .ok db =>
    (saveFiles cfg (env.saveFileForMultihashToFS u) (userReplicaSet env w) f).map fun saves =>
      match failureGate cfg.syncRequestMaxUserFailureCountBeforeSkip w saves.failed.length s with
      | (some e, s) => (.error e, s)
      | (none, s) => (writeRecords env.rejects u (s.db.localUUID w) f saves.failed db, s)

end CreatorNode

namespace CreatorNode

open Row

namespace Owned

def ownedBy (o : Owned) (x : UUID) : Owned :=
  ⟨Row.ownedBy o.clockRecords x, Row.ownedBy o.files x, Row.ownedBy o.tracks x,
    Row.ownedBy o.audiusUsers x⟩

theorem ownedBy_importedRows (uuid x : UUID) (f : FetchedCNodeUser) (failed : List Multihash) :
    (importedRows uuid f failed).ownedBy x =
      if x = uuid then importedRows uuid f failed else ⟨[], [], [], []⟩ := by
  by_cases h : x = uuid
  · subst h; simp [ownedBy, importedRows, nonTrackFileRows, trackFileRows]
  · simp [ownedBy, importedRows, nonTrackFileRows, trackFileRows, h, ownedBy_rekey_of_ne (Ne.symm h)]

@[simp]
theorem append_empty (o : Owned) : o.append ⟨[], [], [], []⟩ = o := by
  simp [append]

end Owned

namespace DB

variable {db : DB} {w w' : Wallet} {f : FetchedCNodeUser} {failed : List Multihash} {u x : UUID}
  {o : Owned} {r' : CNodeUser}

def importRow (db : DB) (w : Wallet) (f : FetchedCNodeUser) : CNodeUser :=
  match db.cnodeUsers.find w with
  | some r => r.refresh f.lastLogin f.latestBlockNumber f.clock f.createdAt
  | none => ⟨w, db.freshUUID, f.clock, f.latestBlockNumber, f.lastLogin, f.createdAt⟩

@[simp]
theorem importRow_uuid : (db.importRow w f).cnodeUserUUID = db.localUUID w := by
  unfold importRow localUUID; split <;> simp [*, CNodeUser.refresh]

@[simp]
theorem importRow_clock : (db.importRow w f).clock = f.clock := by
  unfold importRow; split <;> rfl

theorem upsert_of_find (h : db.cnodeUsers.find w = some r') :
    db.upsert w f =
      { db with cnodeUsers := db.cnodeUsers.update w f.lastLogin f.latestBlockNumber f.clock f.createdAt } := by
  unfold upsert; split
  · rfl
  · simp_all

theorem upsert_of_find_none (h : db.cnodeUsers.find w = none) :
    db.upsert w f =
      { db with
        cnodeUsers := db.cnodeUsers.insert
          ⟨w, db.freshUUID, f.clock, f.latestBlockNumber, f.lastLogin, f.createdAt⟩ h
          freshUUID_not_mem_cnodeUsers } := by
  unfold upsert; split
  · simp_all
  · rfl

theorem find_upsert :
    (db.upsert w f).cnodeUsers.find w' =
      if w' = w then some (db.importRow w f) else db.cnodeUsers.find w' := by
  unfold upsert importRow
  split
  · rename_i r h
    simp only [CNodeUserTable.find_update]
    by_cases hw : w' = w
    · subst hw; simp [h, CNodeUserTable.find_wallet h]
    · cases h' : db.cnodeUsers.find w' with
      | none => simp [hw]
      | some r' => simp [hw, CNodeUserTable.find_wallet h']
  · rename_i h
    simp [CNodeUserTable.find_insert, eq_comm, h]

@[simp]
theorem owned_upsert : (db.upsert w f).owned x = db.owned x := by
  unfold upsert; split <;> rfl

theorem owned_addRows : (db.addRows o).owned x = (db.owned x).append (o.ownedBy x) := by
  simp [addRows, owned, Owned.append, Owned.ownedBy]

@[simp]
theorem find_addRows : (db.addRows o).cnodeUsers.find w = db.cnodeUsers.find w := rfl

theorem owned_importUser :
    (db.importUser w f failed).owned x =
      if x = db.localUUID w then (db.owned x).append (importedRows x f failed) else db.owned x := by
  rw [importUser, owned_addRows, owned_upsert, Owned.ownedBy_importedRows]
  split <;> simp [*]

theorem localUUID_ne (h : db.cnodeUsers.find w' = some r') (hw : w' ≠ w) :
    r'.cnodeUserUUID ≠ db.localUUID w := by
  unfold localUUID
  cases hr : db.cnodeUsers.find w with
  | none =>
    exact fun he => freshUUID_not_mem_cnodeUsers (he ▸ CNodeUserTable.mem_uuids_of_find h)
  | some r => exact CNodeUserTable.uuid_ne_of_find h hr hw

theorem rowsOf_importUser_of_ne (hw : w' ≠ w) :
    (db.importUser w f failed).rowsOf w' = db.rowsOf w' := by
  simp only [rowsOf, importUser, find_addRows, find_upsert, hw, if_false]
  cases h : db.cnodeUsers.find w' with
  | none => rfl
  | some r' =>
    simp [owned_addRows, Owned.ownedBy_importedRows, localUUID_ne h hw]

theorem rowsOf_importUser_self :
    (db.importUser w f failed).rowsOf w =
      some (db.importRow w f,
        (db.owned (db.localUUID w)).append (importedRows (db.localUUID w) f failed)) := by
  simp [rowsOf, importUser, find_upsert, owned_addRows, Owned.ownedBy_importedRows]

/-- Deleting a wallet undoes an import of it: what the import added carries the wallet's
`cnodeUserUUID`, which a created row draws fresh. -/
theorem deleteAll_importUser :
    (db.importUser w f failed).deleteAllCNodeUserDataFromDB (some w) =
      db.deleteAllCNodeUserDataFromDB (some w) := by
  have hfind : (db.importUser w f failed).cnodeUsers.find w = some (db.importRow w f) := by
    simp [importUser, find_upsert]
  rw [deleteAll_of_find hfind, importRow_uuid]
  cases h : db.cnodeUsers.find w with
  | some r =>
    simp [importUser, upsert_of_find h, addRows, importedRows, nonTrackFileRows, trackFileRows,
      deleteAll_of_find h, localUUID, h, CNodeUserTable.erase_update]
  | none =>
    have hfresh := @owned_freshUUID db
    simp only [owned, Owned.mk.injEq] at hfresh
    simp [importUser, upsert_of_find_none h, addRows, importedRows, nonTrackFileRows, trackFileRows,
      deleteAll_of_find_none h, localUUID, h, CNodeUserTable.erase_insert _ _ rfl,
      eraseOwned_of_ownedBy_nil hfresh.1, eraseOwned_of_ownedBy_nil hfresh.2.1,
      eraseOwned_of_ownedBy_nil hfresh.2.2.1, eraseOwned_of_ownedBy_nil hfresh.2.2.2]

theorem clockOf_importUser :
    (db.importUser w f failed).clockOf w' = if w' = w then f.clock else db.clockOf w' := by
  by_cases hw : w' = w
  · subst hw; simp [clockOf, importUser, find_upsert]
  · simp [clockOf, importUser, find_upsert, hw]

theorem mem_uuids_upsert (hx : x ∈ db.cnodeUsers.uuids) : x ∈ (db.upsert w f).cnodeUsers.uuids := by
  unfold upsert; split
  · obtain ⟨r, hr, rfl⟩ := List.mem_map.mp hx
    refine List.mem_map.mpr ⟨_, List.mem_map_of_mem _ hr, ?_⟩
    by_cases h : r.walletPublicKey = w <;> simp [h, CNodeUser.refresh]
  · simpa [CNodeUserTable.insert, CNodeUserTable.uuids] using .inl (List.mem_map.mp hx)

theorem localUUID_mem_upsert : db.localUUID w ∈ (db.upsert w f).cnodeUsers.uuids := by
  have h : (db.upsert w f).cnodeUsers.find w = some (db.importRow w f) := by simp [find_upsert]
  simpa using CNodeUserTable.mem_uuids_of_find h

theorem KeysResolve.importUser (h : db.KeysResolve) : (db.importUser w f failed).KeysResolve := by
  refine keysResolve_of_owned fun x hx => ?_
  have hx' : x ∉ (db.upsert w f).cnodeUsers.uuids := hx
  rw [owned_importUser, if_neg fun (he : x = _) => hx' (he ▸ localUUID_mem_upsert)]
  exact h.owned_eq fun hm => hx' (mem_uuids_upsert hm)

end DB

end CreatorNode

namespace CreatorNode

variable {rejects : DbCall → Bool} {u : Nat} {uuid : UUID} {w : Wallet} {f : FetchedCNodeUser}
  {failed : List Multihash} {db db' : DB} {cfg : Config} {env : Env} {s s' : NodeState}
  {r : Except SyncError DB} {maxCount n : Nat} {e : Option SyncError}

theorem upsertCNodeUser_ok (h : upsertCNodeUser rejects u w f db = .ok db') : db' = db.upsert w f := by
  unfold upsertCNodeUser at h
  repeat' split at h
  all_goals cases h; try rfl

theorem dbCall_ok {c : DbCall} (h : dbCall rejects c db = .ok db') : db' = db := by
  unfold dbCall at h; split at h <;> cases h; rfl

theorem dbCall_bind_ok {c : DbCall} {g : DB → Except SyncError DB}
    (h : (dbCall rejects c db >>= g) = .ok db') : g db = .ok db' := by
  unfold dbCall at h; split at h
  · cases h
  · exact h

theorem writeRecords_ok (h : writeRecords rejects u uuid f failed db = .ok db') :
    db' = db.addRows (importedRows uuid f failed) := by
  rw [dbCall_ok (dbCall_bind_ok (dbCall_bind_ok (dbCall_bind_ok (dbCall_bind_ok
    (dbCall_bind_ok h)))))]
  simp [DB.addRows, importedRows]

theorem failureGate_frame (h : failureGate maxCount w n s = (e, s')) :
    s' = { s with failureCounts := s'.failureCounts, gateLog := s'.gateLog } := by
  have : (failureGate maxCount w n s).2 = { s with
      failureCounts := (failureGate maxCount w n s).2.failureCounts
      gateLog := (failureGate maxCount w n s).2.gateLog } := by
    unfold failureGate; dsimp only; split_ifs <;> rfl
  rwa [h] at this

theorem failureGate_fst_eq_none :
    (failureGate maxCount w n s).1 = none ↔ gateDecision maxCount n (s.failureCounts w) ≠ .rejected := by
  unfold failureGate gateDecision
  simp only [NodeState.incrementFailureCount_fst]
  split_ifs <;> simp

theorem failureGate_snd :
    (failureGate maxCount w n s).2 = { s with
      failureCounts := Function.update s.failureCounts w
        (if gateDecision maxCount n (s.failureCounts w) = .rejected then s.failureCounts w + 1 else 0)
      gateLog := s.gateLog ++ [(w, gateDecision maxCount n (s.failureCounts w))] } := by
  unfold failureGate gateDecision
  simp only [NodeState.incrementFailureCount_fst]
  split_ifs <;> simp_all [NodeState.logGate, NodeState.resetFailureCount, NodeState.incrementFailureCount]

theorem failureGate_fst_eq_some {e : SyncError} (h : (failureGate maxCount w n s).1 = some e) :
    0 < n ∧ e = .saveFileFailures n (s.failureCounts w + 1) maxCount := by
  unfold failureGate at h
  simp only [NodeState.incrementFailureCount_fst] at h
  split_ifs at h with hn
  cases h
  exact ⟨hn, rfl⟩

theorem gateDecision_of_ne_rejected {c : Nat} (h : gateDecision maxCount n c ≠ .rejected) :
    gateDecision maxCount n c = if 0 < n then .skipping else .clean := by
  unfold gateDecision at h ⊢
  split_ifs at h ⊢ <;> simp_all

theorem failureGate_gateLog_of_none (h : failureGate maxCount w n s = (none, s')) :
    s'.gateLog = s.gateLog ++ [(w, if 0 < n then .skipping else .clean)] := by
  have hd := failureGate_fst_eq_none.mp (by rw [h])
  rw [show s' = (failureGate maxCount w n s).2 by rw [h], failureGate_snd,
    gateDecision_of_ne_rejected hd]

theorem importCNodeUser_frame (h : importCNodeUser cfg env u w f s = some (r, s')) :
    s' = { s with failureCounts := s'.failureCounts, gateLog := s'.gateLog } := by
  unfold importCNodeUser at h
  split at h
  · cases h; rfl
  · obtain ⟨saves, -, hs⟩ := Option.map_eq_some'.mp h
    split at hs <;> cases hs <;> exact failureGate_frame ‹_›

theorem importCNodeUser_gate (h : importCNodeUser cfg env u w f s = some (r, s')) :
    s' = s ∨ ∃ n, s' = (failureGate cfg.syncRequestMaxUserFailureCountBeforeSkip w n s).2 := by
  unfold importCNodeUser at h
  split at h
  · cases h; exact .inl rfl
  · obtain ⟨saves, -, hs⟩ := Option.map_eq_some'.mp h
    split at hs <;> cases hs <;> exact .inr ⟨_, by rw [‹failureGate _ _ _ _ = _›]⟩

theorem importCNodeUser_error {e' : SyncError}
    (h : importCNodeUser cfg env u w f s = some (.error e', s')) :
    s' = s ∨ ∃ n, s' = (failureGate cfg.syncRequestMaxUserFailureCountBeforeSkip w n s).2 ∧
      (gateDecision cfg.syncRequestMaxUserFailureCountBeforeSkip n (s.failureCounts w) = .rejected →
        0 < n ∧
          e' = .saveFileFailures n (s.failureCounts w + 1) cfg.syncRequestMaxUserFailureCountBeforeSkip) := by
  unfold importCNodeUser at h
  split at h
  · cases h; exact .inl rfl
  · obtain ⟨saves, -, hs⟩ := Option.map_eq_some'.mp h
    split at hs
    · rename_i hgate
      cases hs
      exact .inr ⟨_, by rw [hgate], fun _ => failureGate_fst_eq_some (by rw [hgate])⟩
    · rename_i hgate
      obtain ⟨-, rfl⟩ := Prod.mk.inj hs
      exact .inr ⟨_, by rw [hgate], fun hr => absurd hr (failureGate_fst_eq_none.mp (by rw [hgate]))⟩

theorem importCNodeUser_db (h : importCNodeUser cfg env u w f s = some (r, s')) :
    s'.db = s.db := by
  rw [importCNodeUser_frame h]

theorem importCNodeUser_locks (h : importCNodeUser cfg env u w f s = some (r, s')) :
    s'.locks = s.locks := by
  rw [importCNodeUser_frame h]

theorem importCNodeUser_syncHistory (h : importCNodeUser cfg env u w f s = some (r, s')) :
    s'.syncHistory = s.syncHistory := by
  rw [importCNodeUser_frame h]

theorem importCNodeUser_ok (h : importCNodeUser cfg env u w f s = some (.ok db', s')) :
    ∃ saves, saveFiles cfg (env.saveFileForMultihashToFS u) (userReplicaSet env w) f = some saves ∧
      failureGate cfg.syncRequestMaxUserFailureCountBeforeSkip w saves.failed.length s = (none, s') ∧
      db' = s.db.importUser w f saves.failed := by
  unfold importCNodeUser at h
  split at h
  · cases h
  · rename_i db hup
    obtain ⟨saves, hsaves, hs⟩ := Option.map_eq_some'.mp h
    refine ⟨saves, hsaves, ?_⟩
    split at hs
    · cases hs
    · rename_i s'' hgate
      obtain ⟨hw, rfl⟩ := Prod.mk.injEq _ _ _ _ ▸ hs
      have := failureGate_frame hgate
      refine ⟨hgate, ?_⟩
      rw [writeRecords_ok hw, upsertCNodeUser_ok hup, DB.importUser, this]

end CreatorNode

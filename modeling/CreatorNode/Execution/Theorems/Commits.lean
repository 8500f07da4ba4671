import CreatorNode.Execution.ProcessSync

namespace CreatorNode

/-- An import that a run committed: the position of the exported user, the wallet it was imported
as, the exported user and the failed set of its saves. -/
structure Commit where
  index : Nat
  wallet : Wallet
  fetched : FetchedCNodeUser
  failed : List Multihash

def DB.commitAll (db : DB) (cs : List Commit) : DB :=
  cs.foldl (fun db c => db.importUser c.wallet c.fetched c.failed) db

@[simp]
theorem DB.commitAll_nil (db : DB) : db.commitAll [] = db := rfl

@[simp]
theorem DB.commitAll_cons (db : DB) (c : Commit) (cs : List Commit) :
    db.commitAll (c :: cs) = (db.importUser c.wallet c.fetched c.failed).commitAll cs := rfl

structure Commit.Valid (cfg : Config) (env : Env) (ws : List Wallet) (lm : Int) (c : Commit) :
    Prop where
  check : checkFetchedCNodeUser ws lm c.fetched = .ok (some c.wallet)
  saves : ∃ st, saveFiles cfg (env.saveFileForMultihashToFS c.index) (userReplicaSet env c.wallet)
    c.fetched = some st ∧ st.failed = c.failed

/-- The commits of a pass of the per-user loop over `users`, numbered from `u`: exported users in
the order of the export, each at most once. -/
def Commits (cfg : Config) (env : Env) (ws : List Wallet) (lm : Int) (u : Nat)
    (users : List FetchedCNodeUser) (cs : List Commit) : Prop :=
  (cs.map fun c => (c.index, c.fetched)).Sublist (users.enumFrom u) ∧ ∀ c ∈ cs, c.Valid cfg env ws lm

def exportedUsers (env : Env) (ws : List Wallet) (lm : Int) : List FetchedCNodeUser :=
  match env.exportRoute ws (lm + 1) with
  | .failed _ => []
  | .ok data =>
    match data.cnodeUsers, data.ipfsIDObj.bind (·.addresses) with
    | some users, some _ => users
    | _, _ => []

variable {cfg : Config} {env : Env} {ws : List Wallet} {lm : Int} {k : Option Wallet} {u : Nat}
  {users : List FetchedCNodeUser} {s s' : NodeState} {r : Option SyncError} {force : Bool}

theorem Commits.nil : Commits cfg env ws lm u users [] :=
  ⟨List.nil_sublist _, by simp⟩

/-- One exported user of the per-user loop: the loop returns at once, with the node unchanged;
or goes on to the next user; or the user's transaction failed and the loop returns with the lock
`redisKey` removed; or the user's import committed and the loop goes on from a node recording its
success. -/
theorem syncCNodeUsers_cons_cases {f : FetchedCNodeUser} {rest : List FetchedCNodeUser}
    (h : syncCNodeUsers cfg env ws lm k u (f :: rest) s = some (r, s')) :
    s' = s ∨ syncCNodeUsers cfg env ws lm k (u + 1) rest s = some (r, s') ∨
      (∃ w e s₂, checkFetchedCNodeUser ws lm f = .ok (some w) ∧
        importCNodeUser cfg env u w f s = some (.error e, s₂) ∧ r = some (.transactionFailed e) ∧
        s' = s₂.removeLock k) ∨
      ∃ w db s₂, checkFetchedCNodeUser ws lm f = .ok (some w) ∧
        importCNodeUser cfg env u w f s = some (.ok db, s₂) ∧
        syncCNodeUsers cfg env ws lm k (u + 1) rest
          (({ s₂ with db } |>.removeLock k).recordSyncSuccess w) = some (r, s') := by
  simp only [syncCNodeUsers] at h
  split at h
  · cases h; exact .inl rfl
  · exact .inr (.inl h)
  · rename_i w hcheck
    split at h
    · cases h; exact .inl rfl
    · split at h
      · cases h
      · rename_i e s₂ himport
        cases h
        exact .inr (.inr (.inl ⟨w, e, s₂, hcheck, himport, rfl, rfl⟩))
      · rename_i db s₂ himport
        exact .inr (.inr (.inr ⟨w, db, s₂, hcheck, himport, h⟩))

/-- A run either finds a lock held and returns with the locks the loop left, or runs the `try`
block on the locked node, records a failure for every wallet when it returns an error, and then
releases the locks. -/
theorem processSync_cases (h : processSync cfg env ws force s = some (r, s')) :
    (∃ w L, acquireLocks s.locks ws = (some w, L) ∧ r = some (.syncInProgress w) ∧
        s' = { s with locks := L }) ∨
      ∃ L s₁, acquireLocks s.locks ws = (none, L) ∧
        syncWallets cfg env ws force { s with locks := L } = some (r, s₁) ∧
        s' = { s₁ with
          syncHistory := s₁.syncHistory ++ if r.isSome then ws.map (·, false) else []
          locks := releaseLocks s₁.locks ws } := by
  unfold processSync at h
  split at h
  · rename_i w L hL
    cases h
    exact .inl ⟨w, L, hL, rfl, rfl⟩
  · rename_i L hL
    obtain ⟨⟨r₁, s₁⟩, hsync, hs⟩ := Option.map_eq_some'.mp h
    cases hs
    refine .inr ⟨L, s₁, hL, hsync, ?_⟩
    split <;> simp [NodeState.foldl_recordSyncFail]

/-- The `try` block either returns before the per-user loop, with the node after the forced
deletion, or returns what that loop returns over the exported users. -/
theorem syncWallets_cases (h : syncWallets cfg env ws force s = some (r, s')) :
    s' = { s with db := s.db.baseline ws force } ∨
      syncCNodeUsers cfg env ws (s.db.localMaxClockVal ws force) ws.getLast? 0
        (exportedUsers env ws (s.db.localMaxClockVal ws force))
        { s with db := s.db.baseline ws force } = some (r, s') := by
  unfold syncWallets at h
  simp only at h
  split at h
  · cases h; exact .inl rfl
  · split at h
    · cases h; exact .inl rfl
    · rename_i data hexp
      split at h
      · rename_i users _ hu ha
        right
        rwa [show exportedUsers env ws _ = users by simp [exportedUsers, hexp, hu, ha]]
      · cases h; exact .inl rfl

theorem Commits.wallet_mem {cs : List Commit} (h : Commits cfg env ws lm u users cs) :
    ∀ c ∈ cs, c.wallet ∈ ws :=
  fun c hc => (checkFetchedCNodeUser_ok (h.2 c hc).check).2.1

def Commit.gateEvent (c : Commit) : GateEvent :=
  if 0 < c.failed.length then .skipping else .clean

/-- The decisions a pass of the per-user loop logs: one for each commit, in order, and at most one
more, for the import that ended the pass with an error; when that one is a rejection, the error is
`saveFileFailures` with the count the rejection raised. -/
def GateTrail (maxCount : Nat) (cs : List Commit) (r : Option SyncError) (counts : Wallet → Nat)
    (new : List (Wallet × GateEvent)) : Prop :=
  ∃ last, new = cs.map (fun c => (c.wallet, c.gateEvent)) ++ last ∧
    (last = [] ∨ r.isSome ∧ ∃ w e, last = [(w, e)] ∧
      (e = .rejected → ∃ n, 0 < n ∧
        r = some (.transactionFailed (.saveFileFailures n (counts w) maxCount))))

theorem GateTrail.nil {maxCount : Nat} {counts : Wallet → Nat} :
    GateTrail maxCount [] r counts [] :=
  ⟨[], rfl, .inl rfl⟩

theorem GateTrail.cons {maxCount : Nat} {counts : Wallet → Nat} {c : Commit} {cs : List Commit}
    {new : List (Wallet × GateEvent)} (h : GateTrail maxCount cs r counts new) :
    GateTrail maxCount (c :: cs) r counts ((c.wallet, c.gateEvent) :: new) :=
  let ⟨last, hnew, hlast⟩ := h
  ⟨last, by rw [hnew]; rfl, hlast⟩

/-- A pass of the per-user loop: its commits, in order, on the database it started from, each
recorded as a success in the sync history, and nothing else recorded; the gate's decisions
logged along the way are its `GateTrail`. -/
theorem syncCNodeUsers_records (h : syncCNodeUsers cfg env ws lm k u users s = some (r, s')) :
    ∃ cs, Commits cfg env ws lm u users cs ∧ s'.db = s.db.commitAll cs ∧
      s'.syncHistory = s.syncHistory ++ cs.map (fun c => (c.wallet, true)) ∧
      ∃ new, s'.gateLog = s.gateLog ++ new ∧
        GateTrail cfg.syncRequestMaxUserFailureCountBeforeSkip cs r s'.failureCounts new := by
  induction users generalizing u s with
  | nil =>
    simp only [syncCNodeUsers, Option.some.injEq, Prod.mk.injEq] at h
    obtain ⟨rfl, rfl⟩ := h
    exact ⟨[], .nil, rfl, by simp, [], by simp, .nil⟩
  | cons f rest ih =>
    rcases syncCNodeUsers_cons_cases h with
      rfl | h | ⟨w, e, s₂, -, himport, rfl, rfl⟩ | ⟨w, db, s₂, hcheck, himport, h⟩
    · exact ⟨[], .nil, rfl, by simp, [], by simp, .nil⟩
    · obtain ⟨cs, ⟨hsub, hvalid⟩, hrest⟩ := ih h
      exact ⟨cs, ⟨hsub.cons _, hvalid⟩, hrest⟩
    · refine ⟨[], .nil, by simpa using importCNodeUser_db himport,
        by simpa using importCNodeUser_syncHistory himport, ?_⟩
      rcases importCNodeUser_error himport with rfl | ⟨n, rfl, hrej⟩
      · exact ⟨[], by simp, .nil⟩
      · refine ⟨[(w, gateDecision cfg.syncRequestMaxUserFailureCountBeforeSkip n (s.failureCounts w))],
          by simp [failureGate_snd], _, rfl, .inr ⟨rfl, w, _, rfl, fun hr => ?_⟩⟩
        obtain ⟨hn, rfl⟩ := hrej hr
        exact ⟨n, hn, by simp [failureGate_snd, hr]⟩
    · obtain ⟨cs, ⟨hsub, hvalid⟩, hdb, hhist, new, hlog, htrail⟩ := ih h
      obtain ⟨saves, hsaves, hgate, rfl⟩ := importCNodeUser_ok himport
      refine ⟨⟨u, w, f, saves.failed⟩ :: cs, ⟨hsub.cons₂ _, ?_⟩, by simpa using hdb, ?_, _, ?_,
        htrail.cons⟩
      · intro c hc
        rcases List.mem_cons.mp hc with rfl | hc
        · exact ⟨hcheck, saves, hsaves, rfl⟩
        · exact hvalid c hc
      · simp [hhist, importCNodeUser_syncHistory himport]
      · simp [hlog, failureGate_gateLog_of_none hgate, Commit.gateEvent]

/-- A run: it stops in the lock loop with only the locks changed, or its commits, in order, on the
database after the forced deletion, each recorded as a success, then a failure for every wallet
when it returns an error, with the gate's decisions its `GateTrail`. -/
theorem processSync_records (h : processSync cfg env ws force s = some (r, s')) :
    (∃ w L, acquireLocks s.locks ws = (some w, L) ∧ s' = { s with locks := L }) ∨
      ∃ cs, Commits cfg env ws (s.db.localMaxClockVal ws force) 0
          (exportedUsers env ws (s.db.localMaxClockVal ws force)) cs ∧
        s'.db = (s.db.baseline ws force).commitAll cs ∧
        s'.syncHistory = s.syncHistory ++ cs.map (fun c => (c.wallet, true)) ++
          (if r.isSome then ws.map (·, false) else []) ∧
        ∃ new, s'.gateLog = s.gateLog ++ new ∧
          GateTrail cfg.syncRequestMaxUserFailureCountBeforeSkip cs r s'.failureCounts new := by
  rcases processSync_cases h with ⟨w, L, hL, -, rfl⟩ | ⟨L, s₁, -, hsync, rfl⟩
  · exact .inl ⟨w, L, hL, rfl⟩
  · right
    rcases syncWallets_cases hsync with rfl | hsync
    · exact ⟨[], .nil, rfl, by simp, [], by simp, .nil⟩
    · obtain ⟨cs, hcs, hdb, hhist, hgate⟩ := syncCNodeUsers_records hsync
      exact ⟨cs, hcs, hdb, by simp [hhist], hgate⟩

theorem processSync_commits (h : processSync cfg env ws force s = some (r, s')) :
    s'.db = s.db ∨ ∃ cs, Commits cfg env ws (s.db.localMaxClockVal ws force) 0
      (exportedUsers env ws (s.db.localMaxClockVal ws force)) cs ∧
      s'.db = (s.db.baseline ws force).commitAll cs := by
  rcases processSync_records h with ⟨_, _, _, rfl⟩ | ⟨cs, hcs, hdb, -⟩
  exacts [.inl rfl, .inr ⟨cs, hcs, hdb⟩]

namespace DB

variable {db : DB} {w v : Wallet} {f : FetchedCNodeUser} {failed : List Multihash} {x y : UUID}
  {cs : List Commit}

/-- One import as its own wallet sees it: the row refreshed, or created with `cnodeUserUUID` `x`,
and the exported rows added under the row's `cnodeUserUUID`. -/
def importView (view : Option (CNodeUser × Owned)) (x : UUID) (w : Wallet) (f : FetchedCNodeUser)
    (failed : List Multihash) : CNodeUser × Owned :=
  match view with
  | some (r, o) =>
    (r.refresh f.lastLogin f.latestBlockNumber f.clock f.createdAt,
      o.append (importedRows r.cnodeUserUUID f failed))
  | none => (⟨w, x, f.clock, f.latestBlockNumber, f.lastLogin, f.createdAt⟩, importedRows x f failed)

theorem foldl_importView_some (l : List Commit) (view : CNodeUser × Owned) :
    l.foldl (fun view c => some (importView view x w c.fetched c.failed)) (some view) =
      l.foldl (fun view c => some (importView view y w c.fetched c.failed)) (some view) := by
  induction l generalizing view with
  | nil => rfl
  | cons c l ih => exact ih _

theorem rowsOf_importUser_view :
    (db.importUser w f failed).rowsOf w = some (importView (db.rowsOf w) db.freshUUID w f failed) := by
  rw [rowsOf_importUser_self, rowsOf]
  unfold importRow localUUID
  cases h : db.cnodeUsers.find w <;> simp [h, importView, Owned.append]

theorem rowsOf_commitAll_of_ne (h : ∀ c ∈ cs, c.wallet ≠ v) : (db.commitAll cs).rowsOf v = db.rowsOf v := by
  induction cs generalizing db with
  | nil => rfl
  | cons c cs ih =>
    rw [commitAll_cons, ih fun c' hc' => h c' (List.mem_cons_of_mem _ hc'),
      rowsOf_importUser_of_ne (Ne.symm (h c (List.mem_cons_self _ _)))]

theorem rowsOf_commitAll : ∃ x, (db.commitAll cs).rowsOf w =
    (cs.filter (·.wallet = w)).foldl (fun view c => some (importView view x w c.fetched c.failed))
      (db.rowsOf w) := by
  induction cs generalizing db with
  | nil => exact ⟨0, rfl⟩
  | cons c cs ih =>
    obtain ⟨x, hx⟩ := @ih (db.importUser c.wallet c.fetched c.failed)
    rw [commitAll_cons, hx]
    by_cases hw : c.wallet = w
    · subst hw
      refine ⟨db.freshUUID, ?_⟩
      rw [List.filter_cons_of_pos (by simp), List.foldl_cons, rowsOf_importUser_view]
      exact foldl_importView_some _ _
    · refine ⟨x, ?_⟩
      simp [List.filter_cons, hw, rowsOf_importUser_of_ne (Ne.symm hw)]

theorem rowsOf_baseline {ws : List Wallet} {force : Bool} :
    (db.baseline ws force).rowsOf v = if force ∧ ws.head? = some v then none else db.rowsOf v := by
  cases force
  · simp [baseline]
  · cases ws with
    | nil => simp [baseline]
    | cons w ws =>
      by_cases hv : w = v
      · subst hv; simp [baseline, rowsOf_deleteAll]
      · simp [baseline, rowsOf_deleteAll, Ne.symm hv, hv]

theorem owned_baseline_sublist {ws : List Wallet} {force : Bool} :
    ((db.baseline ws force).owned x).Sublist (db.owned x) := by
  unfold baseline; split
  · exact owned_deleteAll_sublist _
  · exact .refl _

def uuidOf (db : DB) (w : Wallet) : Option UUID :=
  (db.cnodeUsers.find w).map (·.cnodeUserUUID)

theorem uuidOf_importUser :
    (db.importUser w f failed).uuidOf v = if v = w then some (db.localUUID w) else db.uuidOf v := by
  by_cases hv : v = w <;> simp [uuidOf, importUser, find_upsert, hv]

theorem uuidOf_commitAll (h : db.uuidOf v = some x) : (db.commitAll cs).uuidOf v = some x := by
  induction cs generalizing db with
  | nil => exact h
  | cons c cs ih =>
    refine ih ?_
    rw [uuidOf_importUser]
    split
    · subst v
      obtain ⟨r, hr, rfl⟩ := Option.map_eq_some'.mp h
      simp [localUUID, hr]
    · exact h

theorem owned_importUser_of_ne (h : x ≠ db.localUUID w) :
    (db.importUser w f failed).owned x = db.owned x := by
  simp [owned_importUser, h]

theorem owned_commitAll_sublist {ws : List Wallet} (hws : ∀ c ∈ cs, c.wallet ∈ ws)
    (hx : ∀ w ∈ ws, (db.commitAll cs).uuidOf w ≠ some x) :
    ((db.commitAll cs).owned x).Sublist (db.owned x) := by
  induction cs generalizing db with
  | nil => exact .refl _
  | cons c cs ih =>
    have hc := hws c (List.mem_cons_self _ _)
    have hself : (db.importUser c.wallet c.fetched c.failed).uuidOf c.wallet =
        some (db.localUUID c.wallet) := by simp [uuidOf_importUser]
    rw [commitAll_cons] at hx ⊢
    have hne : x ≠ db.localUUID c.wallet := fun he =>
      hx c.wallet hc (by rw [uuidOf_commitAll hself, he])
    have hown : (db.importUser c.wallet c.fetched c.failed).owned x = db.owned x :=
      owned_importUser_of_ne hne
    exact hown ▸ ih (fun c' hc' => hws c' (List.mem_cons_of_mem _ hc')) hx

end DB

/-- A sync touches only the wallets it was asked for: every other wallet keeps its `CNodeUser` row
and the rows under it, and a `cnodeUserUUID` that no requested wallet ends with only loses rows. -/
theorem processSync_touches_only_requested_wallets
    (h : processSync cfg env ws force s = some (r, s')) :
    (∀ v ∉ ws, s'.db.rowsOf v = s.db.rowsOf v) ∧
      ∀ x, (∀ w ∈ ws, s'.db.uuidOf w ≠ some x) → (s'.db.owned x).Sublist (s.db.owned x) := by
  rcases processSync_commits h with hdb | ⟨cs, hcs, hdb⟩
  · rw [hdb]; exact ⟨fun _ _ => rfl, fun x _ => .refl _⟩
  · rw [hdb]
    refine ⟨fun v hv => ?_, fun x hx => ?_⟩
    · rw [DB.rowsOf_commitAll_of_ne fun c hc he => hv (by rw [← he]; exact hcs.wallet_mem c hc),
        DB.rowsOf_baseline]
      simp [show ws.head? ≠ some v from fun he => hv (List.mem_of_mem_head? he)]
    · exact (DB.owned_commitAll_sublist hcs.wallet_mem hx).trans DB.owned_baseline_sublist

theorem processSync_rowsOf_of_not_mem {v : Wallet} (h : processSync cfg env ws force s = some (r, s'))
    (hv : v ∉ ws) : s'.db.rowsOf v = s.db.rowsOf v := by
  rcases processSync_commits h with hdb | ⟨cs, hcs, hdb⟩ <;> rw [hdb]
  rw [DB.rowsOf_commitAll_of_ne fun c hc he => hv (by rw [← he]; exact hcs.wallet_mem c hc),
    DB.rowsOf_baseline]
  simp [show ws.head? ≠ some v from fun he => hv (List.mem_of_mem_head? he)]

def firstSyncEnv : Env where
  exportRoute _ _ := .ok
    ⟨some [⟨some "w", 1, 5, 0, 0, [⟨7, 0, "Files"⟩, ⟨7, 1, "Files"⟩],
      [⟨7, "QmA", "/a", "track", none, some 1, false⟩], [], []⟩], some ⟨some []⟩⟩
  ownEndpoint := "self"
  getCreatorNodeEndpoints _ := some ["primary"]
  saveFileForMultihashToFS _ _ _ := true
  rejects _ := false

def nodeWithW0 : NodeState :=
  .init ⟨⟨[⟨"w0", 1, 1, 0, 0, 0⟩], by decide, by decide⟩, [⟨1, 0, "Files"⟩, ⟨1, 1, "Files"⟩], [],
    [], []⟩

theorem sync_of_w_leaves_w0 :
    ∃ r s', processSync ⟨10, 3⟩ firstSyncEnv ["w"] false nodeWithW0 = some (r, s') ∧
      (∀ v ∉ ["w"], s'.db.rowsOf v = nodeWithW0.db.rowsOf v) ∧
      ∀ x, (∀ w ∈ ["w"], s'.db.uuidOf w ≠ some x) →
        (s'.db.owned x).Sublist (nodeWithW0.db.owned x) := by
  obtain ⟨⟨r, s'⟩, h⟩ := Option.isSome_iff_exists.mp
    (by decide : (processSync ⟨10, 3⟩ firstSyncEnv ["w"] false nodeWithW0).isSome)
  exact ⟨r, s', h, processSync_touches_only_requested_wallets h⟩

/-- Every wallet's rows after a sync are its rows before with its committed imports applied whole,
in order; a wallet with no committed import keeps its rows. The exception is the forced resync,
which deletes the rows of `walletPublicKeys[0]` before the export is fetched, outside any
transaction. -/
theorem processSync_imports_whole (h : processSync cfg env ws force s = some (r, s')) :
    s'.db = s.db ∨ ∃ cs, Commits cfg env ws (s.db.localMaxClockVal ws force) 0
      (exportedUsers env ws (s.db.localMaxClockVal ws force)) cs ∧ ∀ w, ∃ x,
        s'.db.rowsOf w = (cs.filter (·.wallet = w)).foldl
          (fun view c => some (DB.importView view x w c.fetched c.failed))
          (if force ∧ ws.head? = some w then none else s.db.rowsOf w) := by
  refine (processSync_commits h).imp id fun ⟨cs, hcs, hdb⟩ => ⟨cs, hcs, fun w => ?_⟩
  obtain ⟨x, hx⟩ : ∃ x, ((s.db.baseline ws force).commitAll cs).rowsOf w = _ := DB.rowsOf_commitAll
  exact ⟨x, by rw [hdb, hx, DB.rowsOf_baseline]⟩

theorem first_sync_imports_whole :
    ∃ r s', processSync ⟨10, 3⟩ firstSyncEnv ["w"] false (.init .empty) = some (r, s') ∧
      (s'.db = DB.empty ∨ ∃ cs, Commits ⟨10, 3⟩ firstSyncEnv ["w"] (-1) 0
        (exportedUsers firstSyncEnv ["w"] (-1)) cs ∧ ∀ w, ∃ x,
          s'.db.rowsOf w = (cs.filter (·.wallet = w)).foldl
            (fun view c => some (DB.importView view x w c.fetched c.failed))
            (if false ∧ ["w"].head? = some w then none else DB.empty.rowsOf w)) := by
  obtain ⟨⟨r, s'⟩, h⟩ := Option.isSome_iff_exists.mp
    (by decide : (processSync ⟨10, 3⟩ firstSyncEnv ["w"] false (.init .empty)).isSome)
  exact ⟨r, s', h, processSync_imports_whole h⟩

def nodeWithW : NodeState :=
  .init ⟨⟨[⟨"w", 1, 0, 0, 0, 0⟩], by decide, by decide⟩, [⟨1, 0, "Files"⟩], [], [], []⟩

def unreachableEnv : Env :=
  { firstSyncEnv with exportRoute := fun _ _ => .failed "timeout" }

/-- A forced resync whose export request fails returns an error and leaves `w`, whose import never
committed, with none of its rows. -/
theorem forced_resync_failure_loses_rows :
    ((processSync ⟨10, 3⟩ unreachableEnv ["w"] true nodeWithW).map fun p =>
      (p.1.isSome, p.2.db.rowsOf "w")) = some (true, none) ∧ nodeWithW.db.rowsOf "w" ≠ none := by
  decide

/-- What a run past the lock loop records in the sync history: a success for each import it
commits, in the order of the export, and then, when it returns an error, a failure for every
requested wallet. An up-to-date user records nothing. -/
theorem processSync_records_each_commit (hacq : (acquireLocks s.locks ws).1 = none)
    (h : processSync cfg env ws force s = some (r, s')) :
    ∃ cs, Commits cfg env ws (s.db.localMaxClockVal ws force) 0
        (exportedUsers env ws (s.db.localMaxClockVal ws force)) cs ∧
      s'.db = (s.db.baseline ws force).commitAll cs ∧
      s'.syncHistory = s.syncHistory ++ cs.map (fun c => (c.wallet, true)) ++
        if r.isSome then ws.map (·, false) else [] := by
  rcases processSync_records h with ⟨w, L, hL, -⟩ | ⟨cs, hcs, hdb, hhist, -⟩
  · simp [hL] at hacq
  · exact ⟨cs, hcs, hdb, hhist⟩

theorem first_sync_records_success :
    ∃ r s', (acquireLocks (NodeState.init .empty).locks ["w"]).1 = none ∧
      processSync ⟨10, 3⟩ firstSyncEnv ["w"] false (.init .empty) = some (r, s') ∧
      ∃ cs, Commits ⟨10, 3⟩ firstSyncEnv ["w"] (DB.empty.localMaxClockVal ["w"] false) 0
          (exportedUsers firstSyncEnv ["w"] (DB.empty.localMaxClockVal ["w"] false)) cs ∧
        s'.db = (DB.empty.baseline ["w"] false).commitAll cs ∧
        s'.syncHistory = [] ++ cs.map (fun c => (c.wallet, true)) ++
          if r.isSome then ["w"].map (·, false) else [] := by
  obtain ⟨⟨r, s'⟩, h⟩ := Option.isSome_iff_exists.mp
    (by decide : (processSync ⟨10, 3⟩ firstSyncEnv ["w"] false (.init .empty)).isSome)
  have hacq : (acquireLocks (NodeState.init .empty).locks ["w"]).1 = none := by decide
  exact ⟨r, s', hacq, h, processSync_records_each_commit hacq h⟩

def userWithQmX (w : Wallet) : FetchedCNodeUser :=
  ⟨some w, 1, 5, 0, 0, [⟨7, 0, "Files"⟩, ⟨7, 1, "Files"⟩],
    [⟨7, "QmX", "/x", "track", none, some 1, false⟩], [], []⟩

def sharedCidEnv : Env where
  exportRoute _ _ := .ok ⟨some [userWithQmX "a", userWithQmX "b"], some ⟨some []⟩⟩
  ownEndpoint := "self"
  getCreatorNodeEndpoints _ := some ["primary"]
  saveFileForMultihashToFS u _ _ := u != 0
  rejects _ := false

def secondTransactionRejectedEnv : Env :=
  { sharedCidEnv with
    saveFileForMultihashToFS := fun _ _ _ => true
    rejects := fun c => decide (c = .transaction 1) }

def upToDateEnv : Env :=
  { firstSyncEnv with
    exportRoute := fun _ _ => .ok ⟨some [⟨some "w", 0, 5, 0, 0, [⟨1, 0, "Files"⟩], [], [], []⟩],
      some ⟨some []⟩⟩ }

/-- A sync of `a` and `b` commits `a`, fails on `b`, and records `a` twice, as a success and then
as a failure; a sync of `w` on a node already at the exported clock records nothing. -/
theorem sync_history_not_once_per_wallet :
    ((processSync ⟨10, 3⟩ secondTransactionRejectedEnv ["a", "b"] false (.init .empty)).map
      fun p => (p.1.isSome, p.2.syncHistory)) =
        some (true, [("a", true), ("a", false), ("b", false)]) ∧
    ((processSync ⟨10, 3⟩ upToDateEnv ["w"] false nodeWithW).map fun p =>
      (p.1, p.2.syncHistory)) = some (none, []) := by
  decide

end CreatorNode

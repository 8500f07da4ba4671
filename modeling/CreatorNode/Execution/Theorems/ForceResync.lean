import CreatorNode.Execution.Theorems.FailureGate
import CreatorNode.Execution.Theorems.Locks

namespace CreatorNode

open SaveState

variable {cfg : Config} {env : Env} {ws : List Wallet} {force : Bool} {s t s' s₁ s₂ : NodeState}
  {r r₁ r₂ : Option SyncError} {lm : Int} {k : Option Wallet} {u : Nat}
  {users : List FetchedCNodeUser} {w w' : Wallet} {f : FetchedCNodeUser} {db : DB}
  {cs : List Commit} {ok : Nat → SaveCall → Bool} {rs : List String} {st : SaveState}
  {L : Finset Wallet}

theorem DB.deleteAll_commitAll (h : ∀ c ∈ cs, c.wallet = w) :
    (db.commitAll cs).deleteAllCNodeUserDataFromDB (some w) =
      db.deleteAllCNodeUserDataFromDB (some w) := by
  induction cs generalizing db with
  | nil => rfl
  | cons c cs ih =>
    rw [DB.commitAll_cons, ih fun c' hc' => h c' (.tail _ hc'), ← h c (.head _),
      DB.deleteAll_importUser]

theorem saveFiles_failed_nil (hok : ∀ j c, ok j c = true) (h : saveFiles cfg ok rs f = some st) :
    st.failed = [] := by
  obtain ⟨st₁, h₁, h₂⟩ := Option.bind_eq_some.mp h
  have hsound : FailedSound ok st :=
    saveInBatches_preserves (fun _ _ hs => hs.saveSlice _) h₂
      (saveInBatches_preserves (fun _ _ hs => hs.saveSlice _) h₁ FailedSound.empty)
  refine List.eq_nil_iff_forall_not_mem.mpr fun mh hmh => ?_
  obtain ⟨j, c, -, -, hc⟩ := (hsound mh).mp hmh
  simp [hok] at hc

theorem processSync_db_of_acquired (hL : acquireLocks s.locks ws = (none, L)) :
    (processSync cfg env ws force s).map (·.2.db) =
      (syncWallets cfg env ws force { s with locks := L }).map (·.2.db) := by
  simp only [processSync, hL, Option.map_map]
  congr 1
  funext p
  simp only [Function.comp]
  split <;> simp [NodeState.foldl_recordSyncFail]

section GatePasses

-- the gate cannot reject: the threshold is at most one, or no save fails
variable (hpass : cfg.syncRequestMaxUserFailureCountBeforeSkip ≤ 1 ∨
  ∀ u k c, env.saveFileForMultihashToFS u k c = true)
include hpass

theorem failureGate_passes {saves : SaveState}
    (h : saveFiles cfg (env.saveFileForMultihashToFS u) rs f = some saves) :
    (failureGate cfg.syncRequestMaxUserFailureCountBeforeSkip w saves.failed.length s).1 = none := by
  rw [failureGate_fst_eq_none, gateDecision]
  rcases hpass with hT | hok
  · split_ifs <;> first | omega | simp
  · simp [saveFiles_failed_nil (hok u) h]

theorem importCNodeUser_fst :
    (importCNodeUser cfg env u w f s).map (·.1) =
      match upsertCNodeUser env.rejects u w f s.db with
      | .error e => some (.error e)
      | .ok db => (saveFiles cfg (env.saveFileForMultihashToFS u) (userReplicaSet env w) f).map
          fun saves => writeRecords env.rejects u (s.db.localUUID w) f saves.failed db := by
  rcases hup : upsertCNodeUser env.rejects u w f s.db with e | db <;>
    simp only [importCNodeUser, hup, Option.map_some', Option.map_map]
  cases hs : saveFiles cfg (env.saveFileForMultihashToFS u) (userReplicaSet env w) f with
  | none => rfl
  | some saves =>
    have hnone : (failureGate cfg.syncRequestMaxUserFailureCountBeforeSkip w saves.failed.length s).1 =
        none := failureGate_passes hpass hs
    simp only [Option.map_some', Function.comp, Option.some.injEq]
    split
    · rename_i hg; rw [hg] at hnone; cases hnone
    · rename_i s₂ hg
      rw [failureGate_frame hg]

theorem importCNodeUser_congr (hdb : s.db = t.db) :
    (importCNodeUser cfg env u w f s).map (·.1) = (importCNodeUser cfg env u w f t).map (·.1) := by
  rw [importCNodeUser_fst hpass, importCNodeUser_fst hpass, hdb]

theorem syncCNodeUsers_congr (hdb : s.db = t.db) (hl : s.locks = t.locks) :
    (syncCNodeUsers cfg env ws lm k u users s).map (fun p => (p.1, p.2.db, p.2.locks)) =
      (syncCNodeUsers cfg env ws lm k u users t).map (fun p => (p.1, p.2.db, p.2.locks)) := by
  induction users generalizing u s t with
  | nil => simp [syncCNodeUsers, hdb, hl]
  | cons f rest ih =>
    simp only [syncCNodeUsers]
    rcases hc : checkFetchedCNodeUser ws lm f with e | _ | w
    · simp [hdb, hl]
    · exact ih hdb hl
    · by_cases hrej : env.rejects (.transaction u)
      · simp [hrej, hdb, hl]
      · have himp : (importCNodeUser cfg env u w f s).map (·.1) =
            (importCNodeUser cfg env u w f t).map (·.1) := importCNodeUser_congr hpass hdb
        simp only [hrej, if_false, Bool.false_eq_true]
        rcases hs : importCNodeUser cfg env u w f s with _ | ⟨_ | db, s₂⟩ <;>
          rcases ht : importCNodeUser cfg env u w f t with _ | ⟨_ | db', t₂⟩ <;>
          simp only [hs, ht, Option.map_none', Option.map_some', Option.some.injEq,
            Except.error.injEq, Except.ok.injEq, reduceCtorEq] at himp ⊢
        · subst himp
          simp [importCNodeUser_db hs, importCNodeUser_db ht, importCNodeUser_locks hs,
            importCNodeUser_locks ht, hdb, hl]
        · subst himp
          exact ih (by simp) (by simp [importCNodeUser_locks hs, importCNodeUser_locks ht, hl])

theorem syncWallets_congr (hbase : s.db.baseline ws force = t.db.baseline ws force)
    (hlm : s.db.localMaxClockVal ws force = t.db.localMaxClockVal ws force) (hl : s.locks = t.locks) :
    (syncWallets cfg env ws force s).map (fun p => (p.1, p.2.db, p.2.locks)) =
      (syncWallets cfg env ws force t).map (fun p => (p.1, p.2.db, p.2.locks)) := by
  unfold syncWallets
  simp only [hbase, hlm]
  split_ifs
  · simp [hl]
  · rcases env.exportRoute ws (t.db.localMaxClockVal ws force + 1) with e | data
    · simp [hl]
    · simp only
      split
      · exact syncCNodeUsers_congr hpass rfl hl
      · simp [hl]

theorem processSync_congr (hacq : (acquireLocks s.locks ws).1 = none)
    (hbase : s.db.baseline ws force = t.db.baseline ws force)
    (hlm : s.db.localMaxClockVal ws force = t.db.localMaxClockVal ws force) (hl : s.locks = t.locks) :
    (processSync cfg env ws force s).map (·.2.db) = (processSync cfg env ws force t).map (·.2.db) := by
  obtain ⟨L, hL⟩ : ∃ L, acquireLocks s.locks ws = (none, L) := ⟨_, Prod.ext hacq rfl⟩
  have hsw : (syncWallets cfg env ws force { s with locks := L }).map
      (fun p => (p.1, p.2.db, p.2.locks)) =
        (syncWallets cfg env ws force { t with locks := L }).map
          (fun p => (p.1, p.2.db, p.2.locks)) :=
    syncWallets_congr hpass hbase hlm rfl
  rw [processSync_db_of_acquired hL, processSync_db_of_acquired (hl ▸ hL : acquireLocks t.locks ws = _)]
  simpa [Option.map_map, Function.comp] using congrArg (Option.map (·.2.1)) hsw

end GatePasses

theorem processSync_held (hacq : acquireLocks s.locks ws = (some w', L))
    (h : processSync cfg env ws force s = some (r, s')) : s' = { s with locks := L } := by
  simp only [processSync, hacq, Option.some.injEq, Prod.mk.injEq] at h
  exact h.2.symm

/-- When the gate cannot reject (threshold at most one, or no save fails), a second forced resync
of a single wallet, straight after the first, leaves the wallet's rows as the first left them. The
model draws a created row's `cnodeUserUUID` as the least one unused, so both runs draw the same. -/
theorem forced_resync_twice_keeps_rows
    (hpass : cfg.syncRequestMaxUserFailureCountBeforeSkip ≤ 1 ∨
      ∀ u k c, env.saveFileForMultihashToFS u k c = true)
    (h₁ : processSync cfg env [w] true s = some (r₁, s₁))
    (h₂ : processSync cfg env [w] true s₁ = some (r₂, s₂)) :
    s₂.db.rowsOf w = s₁.db.rowsOf w := by
  by_cases hw : w ∈ s.locks
  · have hacq : acquireLocks s.locks [w] = (some w, s.locks) := by simp [acquireLocks, hw]
    cases processSync_held hacq h₁
    rw [processSync_held hacq h₂]
  · have hacq : (acquireLocks s.locks [w]).1 = none := by simp [acquireLocks, hw]
    have hl := processSync_restores_locks hacq h₁
    have hbase : s₁.db.baseline [w] true = s.db.baseline [w] true := by
      rcases processSync_commits h₁ with hdb | ⟨cs, hcs, hdb⟩
      · rw [hdb]
      · have hall : ∀ c ∈ cs, c.wallet = w := fun c hc =>
          List.mem_singleton.mp (hcs.wallet_mem c hc)
        simp only [hdb, DB.baseline, if_true, List.head?_cons, DB.deleteAll_commitAll hall,
          DB.deleteAll_deleteAll]
    have hdb := processSync_congr hpass (hl ▸ hacq) hbase (by simp [DB.localMaxClockVal]) hl
    simp only [h₁, h₂, Option.map_some', Option.some.injEq] at hdb
    rw [hdb]

theorem first_sync_forced_twice_keeps_rows :
    ∃ r₁ s₁ r₂ s₂, (3 ≤ 1 ∨ ∀ u k c, firstSyncEnv.saveFileForMultihashToFS u k c = true) ∧
      processSync ⟨10, 3⟩ firstSyncEnv ["w"] true (.init .empty) = some (r₁, s₁) ∧
      processSync ⟨10, 3⟩ firstSyncEnv ["w"] true s₁ = some (r₂, s₂) ∧
      s₂.db.rowsOf "w" = s₁.db.rowsOf "w" := by
  obtain ⟨⟨⟨r₁, s₁⟩, ⟨r₂, s₂⟩⟩, hb⟩ := Option.isSome_iff_exists.mp
    (by decide : ((processSync ⟨10, 3⟩ firstSyncEnv ["w"] true (.init .empty)).bind fun p =>
      (processSync ⟨10, 3⟩ firstSyncEnv ["w"] true p.2).map fun q => (p, q)).isSome)
  obtain ⟨⟨r₁', s₁'⟩, h₁, hq⟩ := Option.bind_eq_some.mp hb
  obtain ⟨⟨r₂', s₂'⟩, h₂, he⟩ := Option.map_eq_some'.mp hq
  cases he
  have hpass : 3 ≤ 1 ∨ ∀ u k c, firstSyncEnv.saveFileForMultihashToFS u k c = true :=
    .inr fun _ _ _ => rfl
  exact ⟨r₁, s₁, r₂, s₂, hpass, h₁, h₂, forced_resync_twice_keeps_rows hpass h₁ h₂⟩

def nodeWithWOnceRejected : NodeState :=
  { nodeWithW with failureCounts := fun _ => 1 }

/-- At the threshold `3`, with a save that always fails: the first forced resync deletes `w` and is
rejected at count `2`, leaving `w` with no rows; the second is let through at count `3` and commits
`w`'s rows. -/
theorem forced_resync_twice_differs_from_once :
    ((processSync ⟨10, 3⟩ failingSaveEnv ["w"] true nodeWithWOnceRejected).map fun p =>
      p.2.db.rowsOf "w") = some none ∧
    (((processSync ⟨10, 3⟩ failingSaveEnv ["w"] true nodeWithWOnceRejected).bind fun p =>
      processSync ⟨10, 3⟩ failingSaveEnv ["w"] true p.2).map fun p =>
        (p.2.db.rowsOf "w").isSome) = some true := by
  decide

end CreatorNode

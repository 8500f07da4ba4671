import CreatorNode.Execution.Theorems.Commits

namespace CreatorNode

variable {cfg : Config} {env : Env} {ws : List Wallet} {force : Bool} {s s' : NodeState}
  {r : Option SyncError} {L L' : Finset Wallet} {lm : Int} {k : Option Wallet} {u : Nat}
  {users : List FetchedCNodeUser}

theorem acquireLocks_none (h : acquireLocks L ws = (none, L')) :
    L' = L ∪ ws.toFinset ∧ ∀ w ∈ ws, w ∉ L := by
  induction ws generalizing L with
  | nil => simp only [acquireLocks, Prod.mk.injEq] at h; simp [← h.2]
  | cons w ws ih =>
    unfold acquireLocks at h
    split at h
    · cases h
    · obtain ⟨rfl, hfree⟩ := ih h
      refine ⟨by ext; simp, ?_⟩
      intro v hv
      rcases List.mem_cons.mp hv with rfl | hv
      · assumption
      · exact fun hL => hfree v hv (Finset.mem_insert_of_mem hL)

theorem acquireLocks_some {w : Wallet} (h : acquireLocks L ws = (some w, L')) :
    ∃ pre post, ws = pre ++ w :: post ∧ pre.Nodup ∧ (∀ v ∈ pre, v ∉ L) ∧
      (w ∈ L ∨ w ∈ pre) ∧ L' = L ∪ pre.toFinset := by
  induction ws generalizing L with
  | nil => cases h
  | cons v ws ih =>
    unfold acquireLocks at h
    split at h
    · cases h
      exact ⟨[], ws, rfl, List.nodup_nil, by simp, .inl ‹_›, by simp⟩
    · rename_i hv
      obtain ⟨pre, post, rfl, hnd, hfree, hw, rfl⟩ := ih h
      have hfree' : ∀ u ∈ pre, u ≠ v ∧ u ∉ L := fun u hu => by
        simpa [Finset.mem_insert, not_or] using hfree u hu
      refine ⟨v :: pre, post, rfl, List.nodup_cons.mpr ⟨fun hp => (hfree' v hp).1 rfl, hnd⟩,
        ?_, ?_, by ext; simp [or_assoc]⟩
      · simpa [hv] using fun u hu => (hfree' u hu).2
      · rcases hw with hw | hw
        · rcases Finset.mem_insert.mp hw with rfl | hw
          · exact .inr (List.mem_cons_self _ _)
          · exact .inl hw
        · exact .inr (List.mem_cons_of_mem _ hw)

theorem acquireLocks_fst_eq_none_iff :
    (acquireLocks L ws).1 = none ↔ ws.Nodup ∧ ∀ w ∈ ws, w ∉ L := by
  induction ws generalizing L with
  | nil => simp [acquireLocks]
  | cons v ws ih =>
    by_cases hv : v ∈ L
    · simp [acquireLocks, hv]
    · rw [show acquireLocks L (v :: ws) = acquireLocks (insert v L) ws by simp [acquireLocks, hv],
        ih, List.nodup_cons]
      constructor
      · rintro ⟨hnd, hfree⟩
        refine ⟨⟨fun hm => hfree v hm (Finset.mem_insert_self _ _), hnd⟩, fun u hu => ?_⟩
        rcases List.mem_cons.mp hu with rfl | hu
        · exact hv
        · exact fun hL => hfree u hu (Finset.mem_insert_of_mem hL)
      · rintro ⟨⟨hnv, hnd⟩, hfree⟩
        refine ⟨hnd, fun u hu hins => ?_⟩
        rcases Finset.mem_insert.mp hins with rfl | hL
        · exact hnv hu
        · exact hfree u (List.mem_cons_of_mem _ hu) hL

theorem releaseLocks_eq : releaseLocks L ws = L \ ws.toFinset := by
  induction ws generalizing L with
  | nil => simp [releaseLocks]
  | cons w ws ih =>
    simp only [releaseLocks, List.foldl_cons] at ih ⊢
    rw [ih]; ext; simp; tauto

theorem syncCNodeUsers_locks (h : syncCNodeUsers cfg env ws lm k u users s = some (r, s')) :
    s'.locks = s.locks ∨ ∃ w, k = some w ∧ s'.locks = s.locks.erase w := by
  induction users generalizing u s with
  | nil => simp only [syncCNodeUsers, Option.some.injEq, Prod.mk.injEq] at h; exact .inl (h.2 ▸ rfl)
  | cons f rest ih =>
    rcases syncCNodeUsers_cons_cases h with
      rfl | h | ⟨w, e, s₂, -, himport, -, rfl⟩ | ⟨w, db, s₂, -, himport, h⟩
    · exact .inl rfl
    · exact ih h
    · rw [NodeState.removeLock.eq_def, ← importCNodeUser_locks himport]
      cases k <;> simp
    · have hl := importCNodeUser_locks himport
      cases k <;> rcases ih h with h' | ⟨w, hw, h'⟩ <;>
        simp_all [NodeState.removeLock, NodeState.recordSyncSuccess]

theorem syncWallets_locks (h : syncWallets cfg env ws force s = some (r, s')) :
    s'.locks = s.locks ∨ ∃ w, ws.getLast? = some w ∧ s'.locks = s.locks.erase w := by
  rcases syncWallets_cases h with rfl | h
  · exact .inl rfl
  · have hl := syncCNodeUsers_locks h; exact hl

theorem processSync_restores_locks (hacq : (acquireLocks s.locks ws).1 = none)
    (h : processSync cfg env ws force s = some (r, s')) : s'.locks = s.locks := by
  rcases processSync_cases h with ⟨w, L, hL, -⟩ | ⟨L, s₁, hL, hsync, rfl⟩
  · simp [hL] at hacq
  · obtain ⟨rfl, hfree⟩ := acquireLocks_none hL
    have hkeep : ∀ X, s.locks ⊆ X → X ⊆ s.locks ∪ ws.toFinset → X \ ws.toFinset = s.locks := by
      intro X hX hX'
      ext v
      simp only [Finset.mem_sdiff, List.mem_toFinset]
      exact ⟨fun ⟨hv, hvw⟩ => (Finset.mem_union.mp (hX' hv)).resolve_right (by simpa using hvw),
        fun hv => ⟨hX hv, fun hvw => hfree v hvw hv⟩⟩
    simp only [releaseLocks_eq]
    rcases syncWallets_locks hsync with h₁ | ⟨w, hk, h₁⟩ <;> rw [h₁]
    · exact hkeep _ Finset.subset_union_left le_rfl
    · have hw := List.mem_of_getLast?_eq_some hk
      refine hkeep _ (fun v hv => Finset.mem_erase.mpr ⟨?_, Finset.mem_union_left _ hv⟩)
        (Finset.erase_subset _ _)
      rintro rfl
      exact hfree v hw hv

theorem processSync_keeps_locked (h : processSync cfg env ws force s = some (r, s')) :
    s.locks ⊆ s'.locks ∧ ∀ w ∈ s.locks, s'.db.rowsOf w = s.db.rowsOf w := by
  rcases processSync_cases h with ⟨w, L, hL, -, rfl⟩ | ⟨L, s₁, hL, -, -⟩
  · obtain ⟨pre, post, -, -, -, -, rfl⟩ := acquireLocks_some hL
    exact ⟨Finset.subset_union_left, fun _ _ => rfl⟩
  · have hacq : (acquireLocks s.locks ws).1 = none := by rw [hL]
    exact ⟨by rw [processSync_restores_locks hacq h], fun w hw =>
      processSync_rowsOf_of_not_mem h fun hws => (acquireLocks_none hL).2 w hws hw⟩

/-- A sync whose wallets repeat one, or include a locked one, never gets past the lock loop. It
stops at the first wallet whose lock is held, held before the call or set by the call itself for
an earlier occurrence, and returns that a sync is in progress. It changes nothing but the locks of
the wallets before that one, which stay set. -/
theorem processSync_stops_at_held_lock (hheld : ¬(ws.Nodup ∧ ∀ w ∈ ws, w ∉ s.locks)) :
    ∃ pre w post, ws = pre ++ w :: post ∧ pre.Nodup ∧ (∀ v ∈ pre, v ∉ s.locks) ∧
      (w ∈ s.locks ∨ w ∈ pre) ∧
      processSync cfg env ws force s =
        some (some (.syncInProgress w), { s with locks := s.locks ∪ pre.toFinset }) := by
  obtain ⟨w, L, hL⟩ : ∃ w L, acquireLocks s.locks ws = (some w, L) := by
    rcases h : acquireLocks s.locks ws with ⟨_ | w, L⟩
    · exact absurd (acquireLocks_fst_eq_none_iff.mp (by rw [h])) hheld
    · exact ⟨w, L, rfl⟩
  obtain ⟨pre, post, hws, hnd, hfree, hw, rfl⟩ := acquireLocks_some hL
  exact ⟨pre, w, post, hws, hnd, hfree, hw, by simp [processSync, hL]⟩

theorem repeated_wallet_sync_stops :
    ¬(["w", "w"].Nodup ∧ ∀ w ∈ ["w", "w"], w ∉ (NodeState.init .empty).locks) ∧
      ∃ pre w post, ["w", "w"] = pre ++ w :: post ∧ pre.Nodup ∧
        (∀ v ∈ pre, v ∉ (NodeState.init .empty).locks) ∧
        (w ∈ (NodeState.init .empty).locks ∨ w ∈ pre) ∧
        processSync ⟨10, 3⟩ firstSyncEnv ["w", "w"] false (.init .empty) =
          some (some (.syncInProgress w),
            { NodeState.init .empty with locks := (NodeState.init .empty).locks ∪ pre.toFinset }) :=
  ⟨by decide, processSync_stops_at_held_lock (by decide)⟩

def lockedOnB : NodeState := { NodeState.init .empty with locks := {"b"} }

/-- The lock loop sets the lock of `a`, finds the lock of `b` held and returns from outside the
`try`: the lock of `a` stays set after the call has returned. -/
theorem held_second_lock_strands_first_lock :
    ((processSync ⟨10, 3⟩ firstSyncEnv ["a", "b"] false lockedOnB).map fun p => (p.1, p.2.locks)) =
      some (some (.syncInProgress "b"), {"a", "b"}) := by
  decide

variable {s₀ : NodeState} {db : DB} {cs : List Commit}

theorem DB.KeysResolve.commitAll (h : db.KeysResolve) : (db.commitAll cs).KeysResolve := by
  induction cs generalizing db with
  | nil => exact h
  | cons c cs ih => exact ih h.importUser

theorem DB.KeysResolve.baseline (h : db.KeysResolve) : (db.baseline ws force).KeysResolve := by
  unfold DB.baseline
  split
  · exact h.deleteAll _
  · exact h

theorem processSync_keeps_keys (h : processSync cfg env ws force s = some (r, s'))
    (hk : s.db.KeysResolve) : s'.db.KeysResolve := by
  rcases processSync_commits h with hdb | ⟨cs, -, hdb⟩ <;> rw [hdb]
  exacts [hk, hk.baseline.commitAll]

/-- Over every sequence of runs from a database whose foreign keys hold, they keep holding: every
`ClockRecord`, `File`, `Track` and `AudiusUser` row carries the `cnodeUserUUID` of a `CNodeUser`
row, whatever the exports, the failures and the forced resyncs. -/
theorem Runs.keys_resolve (h : Runs cfg s₀ s) (hk : s₀.db.KeysResolve) : s.db.KeysResolve := by
  induction h with
  | refl => exact hk
  | step _ _ _ _ hrun _ ih => exact ih (processSync_keeps_keys hrun hk)

theorem first_sync_keys_resolve :
    ∃ s, Runs ⟨10, 3⟩ (.init .empty) s ∧ (NodeState.init .empty).db.KeysResolve ∧
      s.db.KeysResolve := by
  obtain ⟨⟨r, s⟩, h⟩ := Option.isSome_iff_exists.mp
    (by decide : (processSync ⟨10, 3⟩ firstSyncEnv ["w"] false (.init .empty)).isSome)
  have hrun : Runs ⟨10, 3⟩ (.init .empty) s := .step _ _ _ _ h (.refl _)
  exact ⟨s, hrun, DB.keysResolve_empty, hrun.keys_resolve DB.keysResolve_empty⟩

/-- Over every sequence of runs, a lock held at the start stays held, and the wallet's rows stay as
they were: no run releases a lock it did not set, nor writes a wallet another sync holds. -/
theorem Runs.locked_wallets_untouched (h : Runs cfg s₀ s) :
    s₀.locks ⊆ s.locks ∧ ∀ w ∈ s₀.locks, s.db.rowsOf w = s₀.db.rowsOf w := by
  induction h with
  | refl => exact ⟨subset_rfl, fun _ _ => rfl⟩
  | step _ _ _ _ hrun _ ih =>
    obtain ⟨hl, hrows⟩ := processSync_keeps_locked hrun
    exact ⟨hl.trans ih.1, fun w hw => (ih.2 w (hl hw)).trans (hrows w hw)⟩

theorem sync_beside_locked_wallet_leaves_it :
    ∃ s, Runs ⟨10, 3⟩ lockedOnB s ∧ lockedOnB.locks ⊆ s.locks ∧
      ∀ w ∈ lockedOnB.locks, s.db.rowsOf w = lockedOnB.db.rowsOf w := by
  obtain ⟨⟨r, s⟩, h⟩ := Option.isSome_iff_exists.mp
    (by decide : (processSync ⟨10, 3⟩ firstSyncEnv ["w"] false lockedOnB).isSome)
  have hrun : Runs ⟨10, 3⟩ lockedOnB s := .step _ _ _ _ h (.refl _)
  exact ⟨s, hrun, hrun.locked_wallets_untouched⟩

end CreatorNode

import CreatorNode.Execution.Theorems.Commits

namespace CreatorNode

open SaveState

/-- What the saves of one import guarantee of the `File` rows it writes: one call per track file
and per non-`dir` other file, with the file's own multihash and storage path; every row an
exported file's, skipped exactly when that file was or a save of its multihash failed; so an
unskipped row other than a directory had its own save succeed. -/
structure SavesSound (ok : Nat → SaveCall → Bool) (f : FetchedCNodeUser) (st : SaveState)
    (rows : List File) : Prop where
  onceEach : st.calls.map (fun c => (c.multihash, c.storagePath)) =
    (f.trackFiles ++ f.nonTrackFiles.filter (·.type ≠ "dir")).map
      fun file => (file.multihash, file.storagePath)
  skipped : ∀ row ∈ rows, ∃ file ∈ f.files, row.multihash = file.multihash ∧
    row.storagePath = file.storagePath ∧ row.type = file.type ∧
    (row.skipped = true ↔ file.skipped = true ∨ SaveFailed ok st row.multihash)
  ownSave : ∀ row ∈ rows, row.type ≠ "dir" → row.skipped = false →
    ∃ j c, (j, c) ∈ st.calls.enum ∧ c.multihash = row.multihash ∧
      c.storagePath = row.storagePath ∧ ok j c = true

variable {cfg : Config} {ok : Nat → SaveCall → Bool} {rs : List String} {f : FetchedCNodeUser}
  {st : SaveState} {failed : List Multihash} {x : UUID} {row : File}

theorem saveFiles_eq (hb : 0 < cfg.nodeSyncFileSaveMaxConcurrency) :
    saveFiles cfg ok rs f = some (saveSlice ok (nonTrackFileSaveCall rs)
      (saveSlice ok (trackFileSaveCall rs) ⟨[], []⟩ f.trackFiles) f.nonTrackFiles) := by
  rw [saveFiles, saveInBatches_eq hb (by omega), Option.some_bind, saveInBatches_eq hb (by omega)]
  rfl

theorem filterMap_trackFileSaveCall_keys (files : List File) :
    (files.filterMap (trackFileSaveCall rs)).map (fun c => (c.multihash, c.storagePath)) =
      files.map fun file => (file.multihash, file.storagePath) := by
  induction files with
  | nil => rfl
  | cons file files ih => simp [List.filterMap_cons, trackFileSaveCall, ih]

theorem filterMap_nonTrackFileSaveCall_keys (files : List File) :
    (files.filterMap (nonTrackFileSaveCall rs)).map (fun c => (c.multihash, c.storagePath)) =
      (files.filter (·.type ≠ "dir")).map fun file => (file.multihash, file.storagePath) := by
  induction files with
  | nil => rfl
  | cons file files ih =>
    by_cases hd : file.type = "dir"
    · have hnone : nonTrackFileSaveCall rs file = none := by simp [nonTrackFileSaveCall, hd]
      simp [List.filterMap_cons, hnone, hd, ih]
    · obtain ⟨c, hc, hmh, hpath⟩ : ∃ c, nonTrackFileSaveCall rs file = some c ∧
          c.multihash = file.multihash ∧ c.storagePath = file.storagePath := by
        unfold nonTrackFileSaveCall; split_ifs <;> exact ⟨_, rfl, rfl, rfl⟩
      simp [List.filterMap_cons, hc, hd, ih, hmh, hpath]

theorem saveFiles_calls (hb : 0 < cfg.nodeSyncFileSaveMaxConcurrency)
    (h : saveFiles cfg ok rs f = some st) :
    st.calls = f.trackFiles.filterMap (trackFileSaveCall rs) ++
      f.nonTrackFiles.filterMap (nonTrackFileSaveCall rs) := by
  rw [saveFiles_eq hb, Option.some.injEq] at h
  rw [← h, saveSlice_calls, saveSlice_calls]
  rfl

theorem saveFiles_failedSound (hb : 0 < cfg.nodeSyncFileSaveMaxConcurrency)
    (h : saveFiles cfg ok rs f = some st) : FailedSound ok st := by
  rw [saveFiles_eq hb, Option.some.injEq] at h
  exact h ▸ (FailedSound.empty.saveSlice _).saveSlice _

theorem mem_importedRows_files (h : row ∈ (importedRows x f failed).files) :
    ∃ file ∈ f.nonTrackFiles ++ f.trackFiles, row.multihash = file.multihash ∧
      row.storagePath = file.storagePath ∧ row.type = file.type ∧
      row.skipped = (failed.contains file.multihash || file.skipped) := by
  simp only [importedRows, nonTrackFileRows, trackFileRows, Row.rekey, List.map_map,
    List.mem_append, List.mem_map, Function.comp] at h
  rcases h with ⟨file, hf, rfl⟩ | ⟨file, hf, rfl⟩
  · exact ⟨file, List.mem_append_left _ hf, rfl, rfl, rfl, rfl⟩
  · exact ⟨file, List.mem_append_right _ hf, rfl, rfl, rfl, rfl⟩

theorem savesSound_of_saveFiles (hb : 0 < cfg.nodeSyncFileSaveMaxConcurrency)
    (h : saveFiles cfg ok rs f = some st) (x : UUID) :
    SavesSound ok f st (importedRows x f st.failed).files := by
  have hsound := saveFiles_failedSound hb h
  have honce : st.calls.map (fun c => (c.multihash, c.storagePath)) =
      (f.trackFiles ++ f.nonTrackFiles.filter (·.type ≠ "dir")).map
        fun file => (file.multihash, file.storagePath) := by
    rw [saveFiles_calls hb h, List.map_append, filterMap_trackFileSaveCall_keys,
      filterMap_nonTrackFileSaveCall_keys, List.map_append]
  have hrow : ∀ row ∈ (importedRows x f st.failed).files, ∃ file ∈ f.nonTrackFiles ++ f.trackFiles,
      row.multihash = file.multihash ∧ row.storagePath = file.storagePath ∧ row.type = file.type ∧
      (row.skipped = true ↔ file.skipped = true ∨ SaveFailed ok st row.multihash) := by
    intro row hr
    obtain ⟨file, hf, hmh, hpath, htype, hsk⟩ := mem_importedRows_files hr
    refine ⟨file, hf, hmh, hpath, htype, ?_⟩
    rw [hsk, hmh, ← hsound, Bool.or_eq_true, List.elem_iff, or_comm]
  refine ⟨honce, fun row hr => ?_, fun row hr hdir hsk => ?_⟩
  · obtain ⟨file, hf, hrest⟩ := hrow row hr
    exact ⟨file, List.mem_append.mp hf |>.elim (List.mem_of_mem_filter ·) (List.mem_of_mem_filter ·),
      hrest⟩
  · obtain ⟨file, hf, hmh, hpath, htype, hiff⟩ := hrow row hr
    have hcall : (file.multihash, file.storagePath) ∈
        st.calls.map fun c => (c.multihash, c.storagePath) := by
      rw [honce]
      refine List.mem_map_of_mem _ ?_
      rcases List.mem_append.mp hf with hf | hf
      · exact List.mem_append_right _ (List.mem_filter.mpr ⟨hf, by simpa [← htype] using hdir⟩)
      · exact List.mem_append_left _ hf
    obtain ⟨c, hc, hkey⟩ := List.mem_map.mp hcall
    obtain ⟨j, hj⟩ := List.mem_iff_getElem?.mp hc
    have hj : (j, c) ∈ st.calls.enum := List.mem_enum_iff_getElem?.mpr hj
    simp only [Prod.mk.injEq] at hkey
    refine ⟨j, c, hj, hkey.1.trans hmh.symm, hkey.2.trans hpath.symm, ?_⟩
    cases hok : ok j c
    · simpa [hsk] using hiff.mpr (.inr ⟨j, c, hj, hkey.1.trans hmh.symm, hok⟩)
    · rfl

section Runs

variable {env : Env} {ws : List Wallet} {force : Bool} {s s' : NodeState} {r : Option SyncError}

/-- With a positive batch size, every import a run commits is that of a user of its export, in the
export's order; it made one save per file, and the `File` rows it wrote are the exported files',
skipped exactly when the exported row was or a save of the same multihash failed during that
import. -/
theorem processSync_saves_sound (hb : 0 < cfg.nodeSyncFileSaveMaxConcurrency)
    (h : processSync cfg env ws force s = some (r, s')) :
    s'.db = s.db ∨ ∃ cs, Commits cfg env ws (s.db.localMaxClockVal ws force) 0
        (exportedUsers env ws (s.db.localMaxClockVal ws force)) cs ∧
      s'.db = (s.db.baseline ws force).commitAll cs ∧ ∀ c ∈ cs, ∃ st,
        saveFiles cfg (env.saveFileForMultihashToFS c.index) (userReplicaSet env c.wallet) c.fetched =
          some st ∧ c.failed = st.failed ∧
        ∀ x, SavesSound (env.saveFileForMultihashToFS c.index) c.fetched st
          (importedRows x c.fetched c.failed).files := by
  refine (processSync_commits h).imp id fun ⟨cs, hcs, hdb⟩ => ⟨cs, hcs, hdb, fun c hc => ?_⟩
  obtain ⟨st, hst, hfailed⟩ := (hcs.2 c hc).saves
  exact ⟨st, hst, hfailed.symm, fun x => hfailed ▸ savesSound_of_saveFiles hb hst x⟩

theorem first_sync_saves_sound :
    ∃ r s', processSync ⟨10, 3⟩ firstSyncEnv ["w"] false (.init .empty) = some (r, s') ∧
      0 < 10 ∧ (s'.db = DB.empty ∨ ∃ cs, Commits ⟨10, 3⟩ firstSyncEnv ["w"]
          (DB.empty.localMaxClockVal ["w"] false) 0
          (exportedUsers firstSyncEnv ["w"] (DB.empty.localMaxClockVal ["w"] false)) cs ∧
        s'.db = (DB.empty.baseline ["w"] false).commitAll cs ∧
        ∀ c ∈ cs, ∃ st, saveFiles ⟨10, 3⟩ (firstSyncEnv.saveFileForMultihashToFS c.index)
          (userReplicaSet firstSyncEnv c.wallet) c.fetched = some st ∧ c.failed = st.failed ∧
        ∀ x, SavesSound (firstSyncEnv.saveFileForMultihashToFS c.index) c.fetched st
          (importedRows x c.fetched c.failed).files) := by
  obtain ⟨⟨r, s'⟩, h⟩ := Option.isSome_iff_exists.mp
    (by decide : (processSync ⟨10, 3⟩ firstSyncEnv ["w"] false (.init .empty)).isSome)
  exact ⟨r, s', h, by decide, processSync_saves_sound (by decide) h⟩

/-- With the threshold at `1`, a run that syncs `a` and `b` commits both; the save of `QmX` failed
in this run, for `a`, and yet `b`'s row for `QmX` is not skipped: the failed set is kept per
exported user. -/
theorem failed_save_for_other_user_leaves_row_unskipped :
    ((processSync ⟨10, 1⟩ sharedCidEnv ["a", "b"] false (.init .empty)).map fun p =>
      (p.1, p.2.db.files.map fun file => (file.multihash, file.skipped))) =
      some (none, [("QmX", true), ("QmX", false)]) := by
  decide

/-- With a positive batch size `b`, a batched loop over `n` files runs its body `⌈n / b⌉` times,
whatever the body, and exits; the two loops of an import call `saveFileForMultihashToFS` once per
track file and once per other file that is not a directory, in order, so at most once per file. -/
theorem saveFiles_exits_saving_each_file_once (hb : 0 < cfg.nodeSyncFileSaveMaxConcurrency) :
    (∀ (files : List File) (body : SaveState → List File → SaveState) fuel st,
      (saveInBatches cfg.nodeSyncFileSaveMaxConcurrency files body fuel 0 st).isSome ↔
        (files.length + cfg.nodeSyncFileSaveMaxConcurrency - 1) /
          cfg.nodeSyncFileSaveMaxConcurrency < fuel) ∧
    ∃ st, saveFiles cfg ok rs f = some st ∧
      st.calls = f.trackFiles.filterMap (trackFileSaveCall rs) ++
        f.nonTrackFiles.filterMap (nonTrackFileSaveCall rs) :=
  ⟨fun files _ _ _ => by rw [saveInBatches_isSome_iff_ceil hb, Nat.sub_zero],
    _, saveFiles_eq hb, saveFiles_calls hb (saveFiles_eq hb)⟩

theorem user_with_track_file_saved_once :
    0 < 10 ∧ ((∀ (files : List File) (body : SaveState → List File → SaveState) fuel st,
      (saveInBatches 10 files body fuel 0 st).isSome ↔ (files.length + 10 - 1) / 10 < fuel) ∧
      ∃ st, saveFiles ⟨10, 1⟩ (fun _ _ => true) [] (userWithQmX "a") = some st ∧
        st.calls = (userWithQmX "a").trackFiles.filterMap (trackFileSaveCall []) ++
          (userWithQmX "a").nonTrackFiles.filterMap (nonTrackFileSaveCall [])) :=
  ⟨by decide, @saveFiles_exits_saving_each_file_once ⟨10, 1⟩ _ _ _ (by decide)⟩

/-- With batch size `0` the track-file loop over `a`'s one file never exits, whatever the fuel:
`i` stays at `0`. So the sync of `a` never returns. -/
theorem zero_batch_size_sync_never_returns :
    (∀ fuel st, saveInBatches 0 (userWithQmX "a").trackFiles
      (saveSlice (fun _ _ => true) (trackFileSaveCall [])) fuel 0 st = none) ∧
    processSync ⟨0, 1⟩ sharedCidEnv ["a", "b"] false (.init .empty) = none :=
  ⟨fun _ _ => saveInBatches_zero (by decide), Option.isNone_iff_eq_none.mp (by decide)⟩

end Runs

end CreatorNode

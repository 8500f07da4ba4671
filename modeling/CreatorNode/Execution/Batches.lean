import CreatorNode.Objects.Export

namespace CreatorNode

/-- Modelled from the spec: `models.File.TrackTypes` is not among the sources. The track-audio
variants among the spec's file types are `track` and `copy320`. -/
def File.TrackTypes : List String := ["track", "copy320"]

/-- Modelled from the spec: `models.File.NonTrackTypes` is not among the sources; the spec's other
file types. -/
def File.NonTrackTypes : List String := ["dir", "image", "metadata"]

def FetchedCNodeUser.trackFiles (f : FetchedCNodeUser) : List File :=
  f.files.filter (File.TrackTypes.contains ·.type)

def FetchedCNodeUser.nonTrackFiles (f : FetchedCNodeUser) : List File :=
  f.files.filter (File.NonTrackTypes.contains ·.type)

def trackFileSaveCall (userReplicaSet : List String) (trackFile : File) : Option SaveCall :=
  some ⟨trackFile.multihash, trackFile.storagePath, userReplicaSet, none, trackFile.trackBlockchainId⟩

/-- The call for a non-track file: none for a directory, the file name for a directory-style
image. -/
def nonTrackFileSaveCall (userReplicaSet : List String) (nonTrackFile : File) : Option SaveCall :=
  if nonTrackFile.type = "dir" then none
  else if nonTrackFile.type = "image" ∧ nonTrackFile.fileName ≠ none then
    some ⟨nonTrackFile.multihash, nonTrackFile.storagePath, userReplicaSet, nonTrackFile.fileName, none⟩
  else some ⟨nonTrackFile.multihash, nonTrackFile.storagePath, userReplicaSet, none, none⟩

/-- The calls made so far and `CIDsThatFailedSaveFileOp`. -/
structure SaveState where
  calls : List SaveCall
  failed : List Multihash
  deriving DecidableEq, Repr

namespace SaveState

variable {ok : Nat → SaveCall → Bool} {callOf : File → Option SaveCall} {st : SaveState}
  {files : List File} {b i fuel : Nat}

def save (ok : Nat → SaveCall → Bool) (st : SaveState) : Option SaveCall → SaveState
  | none => st
  | some c =>
    ⟨st.calls ++ [c], if ok st.calls.length c then st.failed else st.failed.insert c.multihash⟩

/-- `await Promise.all(slice.map(...))`: every file of the slice starts its call, in order. -/
def saveSlice (ok : Nat → SaveCall → Bool) (callOf : File → Option SaveCall) (st : SaveState)
    (slice : List File) : SaveState :=
  slice.foldl (fun st file => st.save ok (callOf file)) st

/-- `for (let i = 0; i < files.length; i += FileSaveMaxConcurrency)` over the slices
`files.slice(i, i + FileSaveMaxConcurrency)`. The result is `none` when the fuel runs out; with
fuel `files.length + 1` that happens exactly when the loop never exits. -/
def saveInBatches (b : Nat) (files : List File) (body : SaveState → List File → SaveState) :
    Nat → Nat → SaveState → Option SaveState
  | 0, _, _ => none
  | fuel + 1, i, st =>
    if i < files.length then saveInBatches b files body fuel (i + b) (body st ((files.drop i).take b))
    else some st

@[simp]
theorem saveSlice_nil : saveSlice ok callOf st [] = st := rfl

theorem saveSlice_append (xs ys : List File) :
    saveSlice ok callOf st (xs ++ ys) = saveSlice ok callOf (saveSlice ok callOf st xs) ys :=
  List.foldl_append _ _ _ _

theorem saveInBatches_eq (hb : 0 < b) (hfuel : files.length - i < fuel) :
    saveInBatches b files (saveSlice ok callOf) fuel i st =
      some (saveSlice ok callOf st (files.drop i)) := by
  induction fuel generalizing i st with
  | zero => omega
  | succ fuel ih =>
    unfold saveInBatches
    split
    · rw [ih (by omega), ← saveSlice_append, ← List.drop_drop, List.take_append_drop]
    · simp [List.drop_of_length_le (Nat.le_of_not_lt ‹_›)]

theorem saveInBatches_zero {body : SaveState → List File → SaveState} (hi : i < files.length) :
    saveInBatches 0 files body fuel i st = none := by
  induction fuel generalizing st with
  | zero => rfl
  | succ fuel ih => simp [saveInBatches, hi, ih]

/-- Whatever its body, the loop exits within `fuel` tests of its condition exactly when some
`k < fuel` has `i + k * b` past the end of the list. -/
theorem saveInBatches_isSome_iff {body : SaveState → List File → SaveState} :
    (saveInBatches b files body fuel i st).isSome ↔ ∃ k < fuel, files.length ≤ i + k * b := by
  induction fuel generalizing i st with
  | zero => simp [saveInBatches]
  | succ fuel ih =>
    unfold saveInBatches
    split
    · rw [ih]
      constructor
      · rintro ⟨k, hk, hle⟩
        exact ⟨k + 1, by omega, by rw [Nat.succ_mul]; omega⟩
      · rintro ⟨_ | k, hk, hle⟩
        · omega
        · exact ⟨k, by omega, by rw [Nat.succ_mul] at hle; omega⟩
    · exact ⟨fun _ => ⟨0, by omega, by omega⟩, fun _ => rfl⟩

theorem saveInBatches_isSome_iff_ceil {body : SaveState → List File → SaveState} (hb : 0 < b) :
    (saveInBatches b files body fuel i st).isSome ↔ (files.length - i + b - 1) / b < fuel := by
  rw [saveInBatches_isSome_iff]
  constructor
  · rintro ⟨k, hk, hle⟩
    have : (files.length - i + b - 1) / b < k + 1 :=
      (Nat.div_lt_iff_lt_mul hb).mpr (by rw [Nat.succ_mul]; omega)
    omega
  · intro hlt
    have := Nat.lt_mul_div_succ (files.length - i + b - 1) hb
    rw [Nat.mul_succ, Nat.mul_comm] at this
    exact ⟨_, hlt, by omega⟩

theorem saveInBatches_preserves {P : SaveState → Prop} {body : SaveState → List File → SaveState}
    (hbody : ∀ st slice, P st → P (body st slice)) {st' : SaveState}
    (h : saveInBatches b files body fuel i st = some st') (hst : P st) : P st' := by
  induction fuel generalizing i st with
  | zero => cases h
  | succ fuel ih =>
    unfold saveInBatches at h
    split at h
    · exact ih h (hbody _ _ hst)
    · cases h; exact hst

theorem saveSlice_calls :
    (saveSlice ok callOf st files).calls = st.calls ++ files.filterMap callOf := by
  induction files generalizing st with
  | nil => simp
  | cons file files ih =>
    simp only [saveSlice, List.foldl_cons] at ih ⊢
    rw [ih]
    cases h : callOf file <;> simp [save, h, List.filterMap_cons]

def SaveFailed (ok : Nat → SaveCall → Bool) (st : SaveState) (mh : Multihash) : Prop :=
  ∃ j c, (j, c) ∈ st.calls.enum ∧ c.multihash = mh ∧ ok j c = false

def FailedSound (ok : Nat → SaveCall → Bool) (st : SaveState) : Prop :=
  ∀ mh, mh ∈ st.failed ↔ SaveFailed ok st mh

theorem FailedSound.empty : FailedSound ok ⟨[], []⟩ := by
  simp [FailedSound, SaveFailed]

theorem FailedSound.save (h : FailedSound ok st) (c : Option SaveCall) :
    FailedSound ok (st.save ok c) := by
  cases c with
  | none => exact h
  | some c =>
    intro mh
    have hcalls : (∃ j c', (j, c') ∈ (st.calls ++ [c]).enum ∧ c'.multihash = mh ∧ ok j c' = false) ↔
        mh ∈ st.failed ∨ (c.multihash = mh ∧ ok st.calls.length c = false) := by
      simp only [List.enum_append, List.enumFrom_singleton, List.mem_append, List.mem_singleton,
        Prod.mk.injEq, h mh, SaveFailed]
      constructor
      · rintro ⟨j, c', hj | ⟨rfl, rfl⟩, hm, hok⟩
        · exact .inl ⟨j, c', hj, hm, hok⟩
        · exact .inr ⟨hm, hok⟩
      · rintro (⟨j, c', hj, hm, hok⟩ | ⟨hm, hok⟩)
        · exact ⟨j, c', .inl hj, hm, hok⟩
        · exact ⟨_, c, .inr ⟨rfl, rfl⟩, hm, hok⟩
    rw [SaveState.save, SaveFailed, hcalls]
    by_cases hok : ok st.calls.length c <;> simp [hok, List.mem_insert_iff, eq_comm, or_comm]

theorem FailedSound.saveSlice (h : FailedSound ok st) (files : List File) :
    FailedSound ok (saveSlice ok callOf st files) := by
  induction files generalizing st with
  | nil => exact h
  | cons file files ih => exact ih (h.save _)

end SaveState

end CreatorNode

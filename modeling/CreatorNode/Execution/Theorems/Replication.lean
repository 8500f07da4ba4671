import CreatorNode.Execution.Theorems.Commits

namespace CreatorNode

open Row

/-- A wallet's rows replicate a prefix of the primary's clock-record log `L`: no row, or a row at
clock `j ≥ -1` whose clock records are the first `j + 1` entries of `L`, under the row's
`cnodeUserUUID`. -/
def ReplicaOf (L : List ClockRecord) : Option (CNodeUser × Owned) → Prop
  | none => True
  | some (row, o) => -1 ≤ row.clock ∧ row.clock + 1 ≤ L.length ∧
      o.clockRecords = rekey (L.take (row.clock + 1).toNat) row.cnodeUserUUID

instance (L : List ClockRecord) : DecidablePred (ReplicaOf L)
  | none => isTrue trivial
  | some _ => inferInstanceAs (Decidable (_ ∧ _ ∧ _))

/-- An export entry as an honest primary with log `L` sends it for the request from clock `k`: the
entries `L[k..m]`, with reported clock `m` within the log. -/
def HonestEntry (L : List ClockRecord) (k : Int) (f : FetchedCNodeUser) : Prop :=
  f.clock + 1 ≤ L.length ∧ f.clockRecords = (L.drop k.toNat).take (f.clock + 1 - k).toNat

instance (L : List ClockRecord) (k : Int) (f : FetchedCNodeUser) : Decidable (HonestEntry L k f) :=
  inferInstanceAs (Decidable (_ ∧ _))

structure HonestExport (L : Wallet → List ClockRecord) (k : Int) (users : List FetchedCNodeUser) :
    Prop where
  nodup : (users.map (·.walletPublicKey)).Nodup
  entry : ∀ f ∈ users, ∀ w ∈ f.walletPublicKey, HonestEntry (L w) k f

def viewClock (view : Option (CNodeUser × Owned)) : Int :=
  (view.map (·.1.clock)).getD (-1)

theorem DB.clockOf_eq_viewClock (db : DB) (w : Wallet) : db.clockOf w = viewClock (db.rowsOf w) := by
  simp only [clockOf, viewClock, rowsOf, Option.map_map]
  rfl

variable {cfg : Config} {env : Env} {ws : List Wallet} {force : Bool} {s s' : NodeState}
  {r : Option SyncError} {lm : Int} {u : Nat} {users : List FetchedCNodeUser} {cs : List Commit}
  {db : DB} {view : Option (CNodeUser × Owned)} {x : UUID} {w : Wallet} {f : FetchedCNodeUser}
  {failed : List Multihash}

theorem Commits.fetched_mem (h : Commits cfg env ws lm u users cs) : ∀ c ∈ cs, c.fetched ∈ users :=
  fun _ hc => List.snd_mem_of_mem_enumFrom (h.1.subset (List.mem_map_of_mem _ hc))

theorem Commits.wallets_nodup (h : Commits cfg env ws lm u users cs)
    (hu : (users.map (·.walletPublicKey)).Nodup) : (cs.map (·.wallet)).Nodup := by
  have hsome : (cs.map (·.wallet)).map some =
      (cs.map fun c => (c.index, c.fetched)).map (·.2.walletPublicKey) := by
    simp only [List.map_map]
    exact List.map_congr_left fun c hc => ((checkFetchedCNodeUser_ok (h.2 c hc).check).1).symm
  have hsub := h.1.map (·.2.walletPublicKey)
  have henum : (users.enumFrom u).map (·.2.walletPublicKey) = users.map (·.walletPublicKey) := by
    conv_lhs => rw [show (fun x : ℕ × FetchedCNodeUser => x.2.walletPublicKey) =
      (·.walletPublicKey) ∘ Prod.snd from rfl, ← List.map_map, List.enumFrom_map_snd]
  rw [henum] at hsub
  exact List.Nodup.of_map some (hsome ▸ hsub.nodup hu)

/-- A property of each wallet's rows holds after a sequence of commits that imports each wallet at
most once, while its clock stands at `lm`, if every such import keeps it. -/
theorem DB.commitAll_preserves (P : Wallet → Option (CNodeUser × Owned) → Prop)
    (hnodup : (cs.map (·.wallet)).Nodup)
    (hstep : ∀ c ∈ cs, ∀ view x, viewClock view = lm → P c.wallet view →
      P c.wallet (some (DB.importView view x c.wallet c.fetched c.failed)))
    (hclock : ∀ c ∈ cs, db.clockOf c.wallet = lm) (hP : ∀ w, P w (db.rowsOf w)) :
    ∀ w, P w ((db.commitAll cs).rowsOf w) := by
  induction cs generalizing db with
  | nil => exact hP
  | cons c cs ih =>
    rw [List.map_cons, List.nodup_cons] at hnodup
    refine ih hnodup.2 (fun c' hc' => hstep c' (.tail _ hc')) (fun c' hc' => ?_) (fun w => ?_)
    · have hne : c'.wallet ≠ c.wallet := fun he => hnodup.1 (he ▸ List.mem_map_of_mem _ hc')
      rw [clockOf_importUser, if_neg hne]
      exact hclock c' (.tail _ hc')
    · by_cases hw : w = c.wallet
      · subst hw
        rw [rowsOf_importUser_view]
        exact hstep c (.head _) _ _ (by rw [← DB.clockOf_eq_viewClock]; exact hclock c (.head _))
          (hP _)
      · rw [rowsOf_importUser_of_ne hw]
        exact hP w

theorem ReplicaOf.viewClock_ge {L : List ClockRecord} (h : ReplicaOf L view) : -1 ≤ viewClock view := by
  rcases view with _ | ⟨row, o⟩
  · exact le_rfl
  · exact h.1

theorem localMaxClockVal_ge (h : ∀ w, ws.head? = some w → -1 ≤ viewClock (s.db.rowsOf w)) :
    -1 ≤ s.db.localMaxClockVal ws force := by
  unfold DB.localMaxClockVal
  split
  · exact le_rfl
  · cases hw : ws.head? with
    | none => exact le_rfl
    | some w =>
      have := h w hw
      rwa [← DB.clockOf_eq_viewClock] at this

/-- A property of a wallet's rows that no rows satisfy, and that every import passing the checks
keeps while the wallet stands at the clock the export is asked from, holds of every requested wallet
after a run, provided every requested wallet stands at that clock after the forced deletion and the
export names each wallet at most once. -/
theorem processSync_preserves_rows (P : Wallet → Option (CNodeUser × Owned) → Prop)
    (hnone : ∀ w, P w none) (hP : ∀ w ∈ ws, P w (s.db.rowsOf w))
    (hclock : ∀ w ∈ ws, (s.db.baseline ws force).clockOf w = s.db.localMaxClockVal ws force)
    (hnodup : ((exportedUsers env ws (s.db.localMaxClockVal ws force)).map
      (·.walletPublicKey)).Nodup)
    (hstep : ∀ f ∈ exportedUsers env ws (s.db.localMaxClockVal ws force), ∀ w view x failed,
      checkFetchedCNodeUser ws (s.db.localMaxClockVal ws force) f = .ok (some w) →
      viewClock view = s.db.localMaxClockVal ws force → P w view →
      P w (some (DB.importView view x w f failed)))
    (h : processSync cfg env ws force s = some (r, s')) : ∀ w ∈ ws, P w (s'.db.rowsOf w) := by
  rcases processSync_commits h with hdb | ⟨cs, hcs, hdb⟩
  · rw [hdb]; exact hP
  · intro w hw
    rw [hdb]
    refine DB.commitAll_preserves (fun w view => w ∈ ws → P w view) (hcs.wallets_nodup hnodup)
      (fun c hc view x hv hPv hw => hstep _ (hcs.fetched_mem c hc) _ _ _ _ (hcs.2 c hc).check hv
        (hPv hw))
      (fun c hc => hclock c.wallet (hcs.wallet_mem c hc)) (fun w hw => ?_) w hw
    rw [DB.rowsOf_baseline]
    split
    · exact hnone w
    · exact hP w hw

theorem replicaOf_importView {L : List ClockRecord} (hrep : ReplicaOf L view)
    (hclock : viewClock view = lm) (hlm : -1 ≤ lm) (hlt : lm < f.clock)
    (hf : HonestEntry L (lm + 1) f) : ReplicaOf L (some (DB.importView view x w f failed)) := by
  obtain ⟨hlen, hrec⟩ := hf
  have hsplit : L.take (f.clock + 1).toNat =
      L.take (lm + 1).toNat ++ (L.drop (lm + 1).toNat).take (f.clock + 1 - (lm + 1)).toNat := by
    rw [← List.take_add]; congr 1; omega
  cases view with
  | none =>
    simp only [viewClock, Option.map_none', Option.getD_none] at hclock
    subst hclock
    refine ⟨by dsimp only; omega, hlen, ?_⟩
    simp [importedRows, hrec]
  | some p =>
    obtain ⟨row, o⟩ := p
    obtain ⟨-, -, ho⟩ := hrep
    simp only [viewClock, Option.map_some', Option.getD_some] at hclock
    refine ⟨by simp [CNodeUser.refresh]; omega, by simpa [CNodeUser.refresh] using hlen, ?_⟩
    simp only [DB.importView, Owned.append, importedRows, ho, hclock, hrec, CNodeUser.refresh, rekey,
      hsplit, List.map_append]

/-- With an honest primary, a run keeps every requested wallet a replica of a prefix of its log,
provided every requested wallet's clock, after the forced deletion, is the clock the export is asked
from. -/
theorem processSync_keeps_replicas {L : Wallet → List ClockRecord}
    (hrep : ∀ w ∈ ws, ReplicaOf (L w) (s.db.rowsOf w))
    (hclock : ∀ w ∈ ws, (s.db.baseline ws force).clockOf w = s.db.localMaxClockVal ws force)
    (hexp : HonestExport L (s.db.localMaxClockVal ws force + 1)
      (exportedUsers env ws (s.db.localMaxClockVal ws force)))
    (h : processSync cfg env ws force s = some (r, s')) :
    ∀ w ∈ ws, ReplicaOf (L w) (s'.db.rowsOf w) := by
  have hlm : -1 ≤ s.db.localMaxClockVal ws force :=
    localMaxClockVal_ge fun w hw => (hrep w (List.mem_of_mem_head? hw)).viewClock_ge
  refine processSync_preserves_rows (fun w view => ReplicaOf (L w) view) (fun _ => trivial) hrep
    hclock hexp.nodup (fun f hf w view x failed hcheck hv hview => ?_) h
  obtain ⟨hkey, -, hlt, -⟩ := checkFetchedCNodeUser_ok hcheck
  exact replicaOf_importView hview hv hlm hlt (hexp.entry f hf w (Option.mem_def.mpr hkey))

def w0Log (_ : Wallet) : List ClockRecord :=
  [⟨7, 0, "Files"⟩, ⟨7, 1, "Files"⟩, ⟨7, 2, "Files"⟩]

def w0AdvanceEnv : Env :=
  { firstSyncEnv with
    exportRoute := fun _ _ => .ok ⟨some [⟨some "w0", 2, 5, 0, 0, [⟨7, 2, "Files"⟩], [], [], []⟩],
      some ⟨some []⟩⟩ }

theorem sync_of_w0_keeps_replicas :
    ∃ r s', (∀ w ∈ ["w0"], ReplicaOf (w0Log w) (nodeWithW0.db.rowsOf w)) ∧
      (∀ w ∈ ["w0"], (nodeWithW0.db.baseline ["w0"] false).clockOf w =
        nodeWithW0.db.localMaxClockVal ["w0"] false) ∧
      HonestExport w0Log (nodeWithW0.db.localMaxClockVal ["w0"] false + 1)
        (exportedUsers w0AdvanceEnv ["w0"] (nodeWithW0.db.localMaxClockVal ["w0"] false)) ∧
      processSync ⟨10, 3⟩ w0AdvanceEnv ["w0"] false nodeWithW0 = some (r, s') ∧
      ∀ w ∈ ["w0"], ReplicaOf (w0Log w) (s'.db.rowsOf w) := by
  obtain ⟨⟨r, s'⟩, h⟩ := Option.isSome_iff_exists.mp
    (by decide : (processSync ⟨10, 3⟩ w0AdvanceEnv ["w0"] false nodeWithW0).isSome)
  have hrep : ∀ w ∈ ["w0"], ReplicaOf (w0Log w) (nodeWithW0.db.rowsOf w) := by decide
  have hclock : ∀ w ∈ ["w0"], (nodeWithW0.db.baseline ["w0"] false).clockOf w =
      nodeWithW0.db.localMaxClockVal ["w0"] false := by decide
  have hexp : HonestExport w0Log (nodeWithW0.db.localMaxClockVal ["w0"] false + 1)
      (exportedUsers w0AdvanceEnv ["w0"] (nodeWithW0.db.localMaxClockVal ["w0"] false)) :=
    ⟨by decide, by decide⟩
  exact ⟨r, s', hrep, hclock, hexp, h, processSync_keeps_replicas hrep hclock hexp h⟩

def twoWalletLog (w : Wallet) : List ClockRecord :=
  if w = "w0" then [⟨7, 0, "Files"⟩, ⟨7, 1, "Files"⟩]
  else [⟨8, 0, "Files"⟩, ⟨8, 1, "Files"⟩, ⟨8, 2, "Files"⟩]

def twoWalletEnv : Env :=
  { firstSyncEnv with
    exportRoute := fun _ _ => .ok ⟨some [⟨some "w0", 1, 5, 0, 0, [], [], [], []⟩,
      ⟨some "w1", 2, 5, 0, 0, [⟨8, 2, "Files"⟩], [], [], []⟩], some ⟨some []⟩⟩ }

/-- Syncing `w0` and `w1` together asks the export from `w0`'s clock; `w1`, which the node lacks,
passes the contiguity check against that clock and is committed holding only its record `2`. -/
theorem second_wallet_synced_from_first_wallets_clock :
    (∀ w ∈ ["w0", "w1"], ReplicaOf (twoWalletLog w) (nodeWithW0.db.rowsOf w)) ∧
    HonestExport twoWalletLog 2 (exportedUsers twoWalletEnv ["w0", "w1"] 1) ∧
    ((processSync ⟨10, 3⟩ twoWalletEnv ["w0", "w1"] false nodeWithW0).map fun p =>
      (p.1, decide (ReplicaOf (twoWalletLog "w1") (p.2.db.rowsOf "w1")))) = some (none, false) :=
  ⟨by decide, ⟨by decide, by decide⟩, by decide⟩

/-- The wallet has no row, or its row's clock `c` is at least `-1` and its clock records carry
exactly the clocks `0, …, c`. -/
def ClocksDense : Option (CNodeUser × Owned) → Prop
  | none => True
  | some (row, o) =>
    -1 ≤ row.clock ∧ ∀ t, t ∈ o.clockRecords.map (·.clock) ↔ 0 ≤ t ∧ t ≤ row.clock

theorem forall_mem_iff_range {l : List Int} {c : Int} :
    (∀ t, t ∈ l ↔ 0 ≤ t ∧ t ≤ c) ↔
      (∀ t ∈ l, 0 ≤ t ∧ t ≤ c) ∧ ∀ i < (c + 1).toNat, (i : Int) ∈ l := by
  refine ⟨fun h => ⟨fun t ht => (h t).mp ht, fun i hi => (h i).mpr ⟨by omega, by omega⟩⟩,
    fun ⟨h₁, h₂⟩ t => ⟨h₁ t, fun ⟨h0, hc⟩ => ?_⟩⟩
  have := h₂ t.toNat (by omega)
  rwa [Int.toNat_of_nonneg h0] at this

instance : DecidablePred ClocksDense
  | none => isTrue trivial
  | some _ => decidable_of_iff _ (and_congr_right fun _ => forall_mem_iff_range.symm)

theorem ClocksDense.viewClock_ge (h : ClocksDense view) : -1 ≤ viewClock view := by
  rcases view with _ | ⟨row, o⟩
  · exact le_rfl
  · exact h.1

def CountsUp : List Int → Prop
  | a :: b :: l => b = a + 1 ∧ CountsUp (b :: l)
  | _ => True

def CountsUp.decide : (l : List Int) → Decidable (CountsUp l)
  | [] => isTrue trivial
  | [_] => isTrue trivial
  | a :: b :: l =>
    have := CountsUp.decide (b :: l)
    inferInstanceAs (Decidable (b = a + 1 ∧ CountsUp (b :: l)))

instance : DecidablePred CountsUp := CountsUp.decide

theorem CountsUp.mem_iff {l : List Int} {a z : Int} (hc : CountsUp l) (ha : l.head? = some a)
    (hz : l.getLast? = some z) : ∀ t, t ∈ l ↔ a ≤ t ∧ t ≤ z := by
  induction l generalizing a with
  | nil => cases ha
  | cons y l ih =>
    simp only [List.head?_cons, Option.some.injEq] at ha
    subst ha
    cases l with
    | nil =>
      simp only [List.getLast?_singleton, Option.some.injEq] at hz
      intro t; simp only [List.mem_singleton]; omega
    | cons y' l =>
      have ih' := ih hc.2 rfl (by rwa [List.getLast?_cons_cons] at hz)
      have hle := ((ih' y').mp (List.mem_cons_self _ _)).2
      intro t
      rw [List.mem_cons, ih' t]
      have := hc.1
      omega

/-- An exported user whose clock records count up one by one to its reported clock, and start from
`0` when the export is asked from clock `0`. -/
def FetchedCNodeUser.ClosesGap (f : FetchedCNodeUser) (localMaxClockVal : Int) : Prop :=
  CountsUp (f.clockRecords.map (·.clock)) ∧
    (f.clockRecords.map (·.clock)).getLast? = some f.clock ∧
    (localMaxClockVal = -1 → (f.clockRecords.map (·.clock)).head? = some 0)

instance (f : FetchedCNodeUser) (lm : Int) : Decidable (f.ClosesGap lm) :=
  inferInstanceAs (Decidable (_ ∧ _ ∧ _))

@[simp]
theorem clocks_rekey (l : List ClockRecord) (x : UUID) : (rekey l x).map (·.clock) = l.map (·.clock) := by
  simp only [rekey, List.map_map]
  rfl

theorem clocksDense_importView (hd : ClocksDense view) (hclock : viewClock view = lm)
    (hlm : -1 ≤ lm) (hcheck : checkFetchedCNodeUser ws lm f = .ok (some w))
    (hgap : f.ClosesGap lm) : ClocksDense (some (DB.importView view x w f failed)) := by
  obtain ⟨-, -, hlt, hfirst⟩ := checkFetchedCNodeUser_ok hcheck
  obtain ⟨hchain, hlast, hzero⟩ := hgap
  obtain ⟨r, hr⟩ : ∃ r, f.clockRecords.head? = some r := by
    cases h : f.clockRecords with
    | nil => simp [h] at hlast
    | cons r _ => exact ⟨r, rfl⟩
  have hhead : (f.clockRecords.map (·.clock)).head? = some (lm + 1) := by
    rw [List.head?_map, hr, Option.map_some', Option.some.injEq]
    by_cases h1 : lm = -1
    · have := hzero h1
      rw [List.head?_map, hr, Option.map_some', Option.some.injEq] at this
      omega
    · exact hfirst r hr h1
  have hnew := hchain.mem_iff hhead hlast
  rcases view with _ | ⟨row, o⟩
  · simp only [viewClock, Option.map_none', Option.getD_none] at hclock
    subst hclock
    refine ⟨by dsimp only; omega, fun t => ?_⟩
    simp only [DB.importView, importedRows, clocks_rekey, hnew]
    omega
  · simp only [viewClock, Option.map_some', Option.getD_some] at hclock
    obtain ⟨-, hold⟩ := hd
    refine ⟨by simp only [DB.importView, CNodeUser.refresh]; omega, fun t => ?_⟩
    simp only [DB.importView, CNodeUser.refresh, Owned.append, importedRows, List.map_append,
      List.mem_append, clocks_rekey, hold, hnew, hclock]
    omega

/-- Under the same clock condition, a run keeps the requested wallets' clock records dense when
each exported user's records count up one by one to its reported clock, from `0` on a request from
clock `0`, and the export names each wallet at most once. The contiguity check itself compares only
the first record with the local clock, and none on a request from clock `0`. -/
theorem processSync_keeps_clocks_dense
    (hdense : ∀ w ∈ ws, ClocksDense (s.db.rowsOf w))
    (hclock : ∀ w ∈ ws, (s.db.baseline ws force).clockOf w = s.db.localMaxClockVal ws force)
    (hgap : ∀ f ∈ exportedUsers env ws (s.db.localMaxClockVal ws force),
      s.db.localMaxClockVal ws force < f.clock → f.ClosesGap (s.db.localMaxClockVal ws force))
    (hnodup : ((exportedUsers env ws (s.db.localMaxClockVal ws force)).map
      (·.walletPublicKey)).Nodup)
    (h : processSync cfg env ws force s = some (r, s')) :
    ∀ w ∈ ws, ClocksDense (s'.db.rowsOf w) := by
  have hlm : -1 ≤ s.db.localMaxClockVal ws force :=
    localMaxClockVal_ge fun w hw => (hdense w (List.mem_of_mem_head? hw)).viewClock_ge
  exact processSync_preserves_rows (fun _ view => ClocksDense view) (fun _ => trivial) hdense
    hclock hnodup
    (fun f hf _ _ _ _ hcheck hv hd => clocksDense_importView hd hv hlm hcheck
      (hgap f hf (checkFetchedCNodeUser_ok hcheck).2.2.1)) h

theorem sync_of_w0_keeps_clocks_dense :
    ∃ r s', (∀ w ∈ ["w0"], ClocksDense (nodeWithW0.db.rowsOf w)) ∧
      (∀ w ∈ ["w0"], (nodeWithW0.db.baseline ["w0"] false).clockOf w =
        nodeWithW0.db.localMaxClockVal ["w0"] false) ∧
      (∀ f ∈ exportedUsers w0AdvanceEnv ["w0"] (nodeWithW0.db.localMaxClockVal ["w0"] false),
        nodeWithW0.db.localMaxClockVal ["w0"] false < f.clock →
          f.ClosesGap (nodeWithW0.db.localMaxClockVal ["w0"] false)) ∧
      ((exportedUsers w0AdvanceEnv ["w0"] (nodeWithW0.db.localMaxClockVal ["w0"] false)).map
        (·.walletPublicKey)).Nodup ∧
      processSync ⟨10, 3⟩ w0AdvanceEnv ["w0"] false nodeWithW0 = some (r, s') ∧
      ∀ w ∈ ["w0"], ClocksDense (s'.db.rowsOf w) := by
  obtain ⟨⟨r, s'⟩, h⟩ := Option.isSome_iff_exists.mp
    (by decide : (processSync ⟨10, 3⟩ w0AdvanceEnv ["w0"] false nodeWithW0).isSome)
  have hdense : ∀ w ∈ ["w0"], ClocksDense (nodeWithW0.db.rowsOf w) := by decide
  have hclock : ∀ w ∈ ["w0"], (nodeWithW0.db.baseline ["w0"] false).clockOf w =
      nodeWithW0.db.localMaxClockVal ["w0"] false := by decide
  have hgap : ∀ f ∈ exportedUsers w0AdvanceEnv ["w0"] (nodeWithW0.db.localMaxClockVal ["w0"] false),
      nodeWithW0.db.localMaxClockVal ["w0"] false < f.clock →
        f.ClosesGap (nodeWithW0.db.localMaxClockVal ["w0"] false) := by decide
  have hnodup : ((exportedUsers w0AdvanceEnv ["w0"]
      (nodeWithW0.db.localMaxClockVal ["w0"] false)).map (·.walletPublicKey)).Nodup := by decide
  exact ⟨r, s', hdense, hclock, hgap, hnodup, h,
    processSync_keeps_clocks_dense hdense hclock hgap hnodup h⟩

def noRecordsEnv : Env :=
  { firstSyncEnv with
    exportRoute := fun _ _ => .ok ⟨some [⟨some "w", 5, 5, 0, 0, [], [], [], []⟩], some ⟨some []⟩⟩ }

/-- On a first sync the contiguity check is skipped: `w` is committed at clock `5` with no clock
record. -/
theorem first_sync_commits_clock_without_records :
    ClocksDense (DB.empty.rowsOf "w") ∧
    ((processSync ⟨10, 3⟩ noRecordsEnv ["w"] false (.init .empty)).map fun p =>
      (p.1, p.2.db.clockOf "w", p.2.db.clockRecordsOf "w", decide (ClocksDense (p.2.db.rowsOf "w")))) =
      some (none, 5, [], false) :=
  ⟨trivial, by decide⟩

end CreatorNode

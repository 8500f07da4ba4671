import CreatorNode.Execution.Theorems.Saves

namespace CreatorNode

variable {maxCount n : Nat} {w v : Wallet} {e : GateEvent} {log : List (Wallet × GateEvent)}
  {s s' : NodeState}

/-- The rejections for failed saves of `w` since its count was last reset, read off the gate log:
a rejection of `w` adds one, any other decision for `w` resets. -/
def rejectionsSinceReset (w : Wallet) (log : List (Wallet × GateEvent)) : Nat :=
  log.foldl (fun k d => if d.1 = w then (if d.2 = .rejected then k + 1 else 0) else k) 0

theorem rejectionsSinceReset_append_singleton :
    rejectionsSinceReset w (log ++ [(v, e)]) =
      if v = w then (if e = .rejected then rejectionsSinceReset w log + 1 else 0)
      else rejectionsSinceReset w log := by
  simp [rejectionsSinceReset, List.foldl_append]

/-- Every decision of the gate on failed saves, against the rejections of the same wallet since its
last reset before it: a rejection exactly when fewer than `maxCount - 1` of them stand, and a skip
only after exactly `maxCount - 1`. -/
def GateLogSound (maxCount : Nat) (log : List (Wallet × GateEvent)) : Prop :=
  ∀ pre w e post, log = pre ++ (w, e) :: post → e ≠ .clean →
    (e = .rejected ↔ rejectionsSinceReset w pre < maxCount - 1) ∧
      (e = .skipping → rejectionsSinceReset w pre = maxCount - 1)

theorem GateLogSound.append_singleton (h : GateLogSound maxCount log)
    (he : e ≠ .clean → (e = .rejected ↔ rejectionsSinceReset w log < maxCount - 1) ∧
      (e = .skipping → rejectionsSinceReset w log = maxCount - 1)) :
    GateLogSound maxCount (log ++ [(w, e)]) := by
  intro pre v d post heq hd
  rcases List.eq_nil_or_concat post with rfl | ⟨post, z, rfl⟩
  · obtain ⟨rfl, hx⟩ := List.append_inj' heq rfl
    cases hx
    exact he hd
  · rw [List.concat_eq_append, ← List.cons_append, ← List.append_assoc] at heq
    exact h pre v d post (List.append_inj' heq rfl).1 hd

structure GateInv (maxCount : Nat) (s : NodeState) : Prop where
  count_eq : ∀ w, s.failureCounts w = rejectionsSinceReset w s.gateLog
  count_le : ∀ w, s.failureCounts w ≤ maxCount - 1
  log_sound : GateLogSound maxCount s.gateLog

theorem GateInv.init (db : DB) : GateInv maxCount (.init db) :=
  ⟨fun _ => rfl, fun _ => Nat.zero_le _, fun pre _ _ _ h => by cases pre <;> cases h⟩

theorem failureGate_count_le (hs : s.failureCounts v ≤ maxCount - 1) :
    (failureGate maxCount w n s).2.failureCounts v ≤ maxCount - 1 := by
  rw [failureGate_snd]
  by_cases hv : v = w
  · subst hv
    simp only [Function.update_same]
    split_ifs with hr
    · unfold gateDecision at hr; split_ifs at hr; omega
    · omega
  · simpa [Function.update_noteq hv] using hs

theorem GateInv.failureGate (h : GateInv maxCount s) :
    GateInv maxCount (failureGate maxCount w n s).2 := by
  have hc := h.count_eq w
  have hle := h.count_le w
  rw [failureGate_snd]
  refine ⟨fun v => ?_, fun v => ?_, h.log_sound.append_singleton fun hne => ?_⟩
  · by_cases hv : v = w
    · subst hv
      simp only [Function.update_same, rejectionsSinceReset_append_singleton, if_true, ← hc]
    · simp [Function.update_noteq hv, rejectionsSinceReset_append_singleton, Ne.symm hv,
        h.count_eq v]
  · by_cases hv : v = w
    · subst hv
      simp only [Function.update_same]
      split_ifs with hr
      · unfold gateDecision at hr; split_ifs at hr; omega
      · omega
    · simpa [Function.update_noteq hv] using h.count_le v
  · rw [← hc]
    unfold gateDecision at hne ⊢
    split_ifs <;> simp_all <;> omega

variable {cfg : Config} {env : Env} {ws : List Wallet} {force : Bool} {lm : Int}
  {k : Option Wallet} {u : Nat} {users : List FetchedCNodeUser} {r : Option SyncError}

section Preserves

variable {P : NodeState → Prop}
  (hframe : ∀ s t, t.failureCounts = s.failureCounts → t.gateLog = s.gateLog → P s → P t)
  (hgate : ∀ w n s, P s → P (failureGate cfg.syncRequestMaxUserFailureCountBeforeSkip w n s).2)
include hgate

theorem importCNodeUser_preserves_gate {w : Wallet} {f : FetchedCNodeUser}
    {ri : Except SyncError DB} (h : importCNodeUser cfg env u w f s = some (ri, s')) (hs : P s) :
    P s' := by
  rcases importCNodeUser_gate h with rfl | ⟨n, rfl⟩
  exacts [hs, hgate _ _ _ hs]

include hframe

theorem syncCNodeUsers_preserves_gate (h : syncCNodeUsers cfg env ws lm k u users s = some (r, s'))
    (hs : P s) : P s' := by
  induction users generalizing u s with
  | nil => simp only [syncCNodeUsers, Option.some.injEq, Prod.mk.injEq] at h; exact h.2 ▸ hs
  | cons f rest ih =>
    rcases syncCNodeUsers_cons_cases h with
      rfl | h | ⟨w, e, s₂, -, himport, -, rfl⟩ | ⟨w, db, s₂, -, himport, h⟩
    · exact hs
    · exact ih h hs
    · exact hframe s₂ _ (by simp) (by simp) (importCNodeUser_preserves_gate hgate himport hs)
    · exact ih h
        (hframe s₂ _ (by simp) (by simp) (importCNodeUser_preserves_gate hgate himport hs))

/-- Every run keeps any property of the failure counts and the gate log that the gate keeps. -/
theorem processSync_preserves_gate (h : processSync cfg env ws force s = some (r, s'))
    (hs : P s) : P s' := by
  rcases processSync_cases h with ⟨w, L, -, -, rfl⟩ | ⟨L, s₁, -, hsync, rfl⟩
  · exact hframe s _ rfl rfl hs
  · have hmid : P s₁ := by
      rcases syncWallets_cases hsync with rfl | hsync
      · exact hframe s _ rfl rfl hs
      · exact syncCNodeUsers_preserves_gate hframe hgate hsync (hframe s _ rfl rfl hs)
    exact hframe s₁ _ rfl rfl hmid

theorem Runs.preserves_gate {s₀ : NodeState} (h : Runs cfg s₀ s') (hs : P s₀) : P s' := by
  induction h with
  | refl => exact hs
  | step env ws force r hrun _ ih => exact ih (processSync_preserves_gate hframe hgate hrun hs)

end Preserves

def failingSaveEnv : Env :=
  { firstSyncEnv with saveFileForMultihashToFS := fun _ _ _ => false }

/-- Every wallet's failure count stays below the threshold over every sequence of runs that starts
below it: the gate raises a count only while it stays below, and resets it otherwise. -/
theorem runs_failure_counts_below_threshold {s₀ : NodeState} (h : Runs cfg s₀ s)
    (h₀ : ∀ w, s₀.failureCounts w ≤ cfg.syncRequestMaxUserFailureCountBeforeSkip - 1) :
    ∀ w, s.failureCounts w ≤ cfg.syncRequestMaxUserFailureCountBeforeSkip - 1 :=
  h.preserves_gate
    (fun (s t : NodeState) (hc : t.failureCounts = s.failureCounts) _
      (hs : ∀ w, s.failureCounts w ≤ cfg.syncRequestMaxUserFailureCountBeforeSkip - 1) w =>
        hc ▸ hs w)
    (fun _ _ _ hs v => failureGate_count_le (hs v)) h₀

theorem two_failed_syncs_keep_count_below_threshold :
    ∃ s, Runs ⟨10, 2⟩ (.init .empty) s ∧ (∀ w, (NodeState.init .empty).failureCounts w ≤ 2 - 1) ∧
      ∀ w, s.failureCounts w ≤ 2 - 1 := by
  obtain ⟨⟨⟨r₁, s₁⟩, ⟨r₂, s₂⟩⟩, hb⟩ := Option.isSome_iff_exists.mp
    (by decide : ((processSync ⟨10, 2⟩ failingSaveEnv ["w"] false (.init .empty)).bind fun p =>
      (processSync ⟨10, 2⟩ failingSaveEnv ["w"] false p.2).map fun q => (p, q)).isSome)
  obtain ⟨⟨r₁', s₁'⟩, h₁, hq⟩ := Option.bind_eq_some.mp hb
  obtain ⟨⟨r₂', s₂'⟩, h₂, he⟩ := Option.map_eq_some'.mp hq
  cases he
  have hrun : Runs ⟨10, 2⟩ (.init .empty) s₂ := .step _ _ _ _ h₁ (.step _ _ _ _ h₂ (.refl _))
  have h₀ : ∀ w, (NodeState.init .empty).failureCounts w ≤ 2 - 1 := fun _ => Nat.zero_le _
  exact ⟨s₂, hrun, h₀, runs_failure_counts_below_threshold hrun h₀⟩

end CreatorNode

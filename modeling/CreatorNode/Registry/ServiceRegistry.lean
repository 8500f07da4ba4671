import Mathlib.Data.List.Basic

namespace CreatorNode

/-- A `while (!isInitialized)` loop over the outcomes of its attempts, in order: the value of the
first attempt that succeeds and its number (the loop's `++attempt`), `none` while none has. -/
def retryLoop (success : β → Option α) : List β → Nat → Option (α × Nat)
  | [], _ => none
  | b :: rest, attempt =>
    match success b with
    | some a => some (a, attempt + 1)
    | none => retryLoop success rest (attempt + 1)

/-- `_recoverNodeL1Identity`: the answers of `getServiceProviderIdFromEndpoint(endpoint)`, `.error`
for one that threw; an attempt succeeds on a nonzero spID, which the loop sets as `spID`. -/
def recoverNodeL1Identity (answers : List (Except String Int)) : Option (Int × Nat) :=
  retryLoop (fun r => match r with
    | .ok spID => if spID ≠ 0 then some spID else none
    | .error _ => none) answers 0

/-- `_initSnapbackSM`: the outcomes of `snapbackSM.init()`; an attempt succeeds when it does not
throw. -/
def initSnapbackSM (inits : List (Except String Unit)) : Option (Unit × Nat) :=
  retryLoop (fun r => match r with
    | .ok () => some ()
    | .error _ => none) inits 0

/-- `_registerNodeOnL2URSM`: first the outcomes of `initUserReplicaSetManagerClient(false)`, with
whether `UserReplicaSetManagerClient` was then set, until it is; then the outcomes of
`URSMRegistrationManager.run()` until one does not throw. -/
def registerNodeOnL2URSM (clientInits : List (Except String Bool))
    (runs : List (Except String Unit)) : Option (Unit × Nat) := do
  let _ ← retryLoop (fun r => match r with
    | .ok true => some ()
    | _ => none) clientInits 0
  retryLoop (fun r => match r with
    | .ok () => some ()
    | .error _ => none) runs 0

variable {success : β → Option α} {tape : List β} {n m : Nat} {a : α}

theorem retryLoop_eq_some :
    retryLoop success tape n = some (a, m) ↔
      ∃ pre b post, tape = pre ++ b :: post ∧ (∀ x ∈ pre, success x = none) ∧
        success b = some a ∧ m = n + pre.length + 1 := by
  induction tape generalizing n with
  | nil => simp [retryLoop]
  | cons b rest ih =>
    simp only [retryLoop]
    split
    · rename_i a' hb
      constructor
      · rintro ⟨⟨⟩⟩
        exact ⟨[], b, rest, rfl, by simp, hb, rfl⟩
      · rintro ⟨_ | ⟨c, pre⟩, b', post, heq, hpre, hb', rfl⟩
        · obtain ⟨rfl, rfl⟩ := List.cons_eq_cons.mp heq
          rw [hb] at hb'
          cases hb'
          rfl
        · obtain ⟨rfl, -⟩ := List.cons_eq_cons.mp heq
          simp [hpre b (List.mem_cons_self _ _)] at hb
    · rename_i hb
      rw [ih]
      constructor
      · rintro ⟨pre, b', post, rfl, hpre, hb', rfl⟩
        refine ⟨b :: pre, b', post, rfl, ?_, hb', by simp; omega⟩
        simpa [hb] using hpre
      · rintro ⟨_ | ⟨c, pre⟩, b', post, heq, hpre, hb', rfl⟩
        · obtain ⟨rfl, rfl⟩ := List.cons_eq_cons.mp heq
          simp [hb] at hb'
        · obtain ⟨rfl, rfl⟩ := List.cons_eq_cons.mp heq
          exact ⟨pre, b', post, rfl, fun x hx => hpre x (List.mem_cons_of_mem _ hx), hb',
            by simp; omega⟩

theorem retryLoop_eq_none : retryLoop success tape n = none ↔ ∀ x ∈ tape, success x = none := by
  induction tape generalizing n with
  | nil => simp [retryLoop]
  | cons b rest ih =>
    simp only [retryLoop, List.mem_cons, forall_eq_or_imp]
    split <;> simp_all

/-- `_recoverNodeL1Identity` polls on through errors and `0` answers. It stops at the first answer
that is a nonzero spID, sets `spID` to it and logs the attempt it came on; while no answer is a
nonzero spID it keeps polling and sets nothing, so the node never takes `0` for its spID. -/
theorem recoverNodeL1Identity_spec {answers : List (Except String Int)} {spID : Int}
    {attempt : Nat} :
    (recoverNodeL1Identity answers = some (spID, attempt) ↔
      ∃ pre post, answers = pre ++ .ok spID :: post ∧ spID ≠ 0 ∧
        (∀ r ∈ pre, ∀ v, r = .ok v → v = 0) ∧ attempt = pre.length + 1) ∧
    (recoverNodeL1Identity answers = none ↔ ∀ r ∈ answers, ∀ v, r = .ok v → v = 0) := by
  have hfail : ∀ r : Except String Int, (match r with
      | .ok spID => if spID ≠ 0 then some spID else none
      | .error _ => none) = none ↔ ∀ v, r = .ok v → v = 0 := by
    rintro (_ | v) <;> simp
  refine ⟨?_, by simp only [recoverNodeL1Identity, retryLoop_eq_none, hfail]⟩
  simp only [recoverNodeL1Identity, retryLoop_eq_some, hfail, Nat.zero_add]
  constructor
  · rintro ⟨pre, (_ | v), post, rfl, hpre, hb, rfl⟩
    · cases hb
    · by_cases hv : v = 0
      · simp [hv] at hb
      · obtain rfl : v = spID := by simpa [hv] using hb
        exact ⟨pre, post, rfl, hv, hpre, rfl⟩
  · rintro ⟨pre, post, rfl, hv, hpre, rfl⟩
    exact ⟨pre, _, post, rfl, hpre, by simp [hv], rfl⟩

end CreatorNode
